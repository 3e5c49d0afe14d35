import CxlFirmware.Crc32
import CxlFirmware.Hex
import CxlFirmware.Mailbox.FirmwareInfo

/-!
# State of an emulated device

What an emulated device keeps between two runs: the images in its slots, the
running and the staged slot, the last operating-system image, and whether it
reports itself busy.  Of an image only its revision, size and checksum are kept.
-/

namespace CxlFirmware.Emulator

/-- An image in a slot. -/
structure SlotImage where
  revision : String
  /-- The count of bytes. -/
  size : UInt64
  /-- The checksum of the bytes. -/
  crc32 : UInt32
  deriving DecidableEq, Repr

/-- The record of a received image, whose revision is named after its checksum. -/
def SlotImage.ofData (data : Bytes) : SlotImage :=
  let crc32 := Crc32.checksum data
  { revision := "emu-" ++ Hex.word crc32, size := UInt64.ofNat data.length, crc32 }

/-- The lasting state of an emulated device. -/
structure State where
  /-- The images in the slots, from slot one on. -/
  slots : List (Option SlotImage)
  /-- The running slot. -/
  activeSlot : UInt8
  /-- The slot to run after the next reset, zero for none. -/
  stagedSlot : UInt8
  /-- The last operating-system image. -/
  osImage : Option SlotImage
  /-- Whether the device reports itself busy. -/
  busy : Bool
  deriving DecidableEq, Repr

namespace State

/-- The state of a new device: four slots, the first of which is filled and runs. -/
def default : State where
  slots := [some ⟨"emu-1.0.0", 0, 0⟩, none, none, none]
  activeSlot := 1
  stagedSlot := 0
  osImage := none
  busy := false

/-- The count of slots that the device reports. -/
def slotCount (state : State) : UInt8 :=
  UInt8.ofNat (min state.slots.length FirmwareInfo.maxSlots)

/-- The image in a slot, counted from one. -/
def slot? (state : State) (slot : UInt8) : Option SlotImage :=
  match slot.toNat with
  | 0 => none
  | index + 1 => state.slots[index]?.join

/-- Whether a transfer may write a slot: the device has it, and it does not run. -/
def accepts (state : State) (slot : UInt8) : Bool :=
  decide (1 ≤ slot) && decide (slot ≤ state.slotCount) && slot != state.activeSlot

/-- The state with another image in a slot. -/
def setSlot (state : State) (slot : UInt8) (image : SlotImage) : State :=
  { state with slots := state.slots.set (slot.toNat - 1) (some image) }

/-- The state with another operating-system image. -/
def setOsImage (state : State) (image : SlotImage) : State :=
  { state with osImage := some image }

end State

end CxlFirmware.Emulator
