import CxlFirmware.Error
import CxlFirmware.Text.Blank
import CxlFirmware.Text.Utf8

/-!
# Firmware information

The reply to the query for slots and revisions, 80 bytes long: the count of slots,
the running and the staged slot in three bits each, a flag for activation without a
reset, and from byte 16 on one field of 16 bytes for the revision of each of four
slots.  A revision ends at the first zero byte of its field, is read as UTF-8 with
ill-formed parts replaced, and is taken without blank characters at its ends; an
empty one means an empty slot.
-/

namespace CxlFirmware

/-- The slots of a device and what they hold. -/
structure FirmwareInfo where
  slotsSupported : UInt8
  /-- The running slot, counted from one. -/
  activeSlot : UInt8
  /-- The slot to run after the next reset, zero for none. -/
  stagedSlot : UInt8
  /-- Whether a slot can be activated without a reset. -/
  onlineActivation : Bool
  /-- The revision in each slot, `none` for an empty slot. -/
  revisions : List (Option String)
  deriving DecidableEq

namespace FirmwareInfo

/-- The length of a reply. -/
def length : Nat := 80

/-- The position of the first revision field. -/
def revisionStart : Nat := 16

/-- The length of a revision field. -/
def revisionLength : Nat := 16

/-- The count of revision fields. -/
def maxSlots : Nat := 4

/-- The revision in a field. -/
def readRevision (field : Bytes) : Option String :=
  match Text.trim (Utf8.decodeLossy (field.takeWhile (· != 0))) with
  | [] => none
  | cs => some (String.ofList cs)

/-- The field of a revision: its first bytes, and zeros up to the field's length. -/
def writeRevision (revision : Option String) : Bytes :=
  let bytes := (Utf8.encode (revision.getD "")).take revisionLength
  bytes ++ List.replicate (revisionLength - bytes.length) 0

/-- The content of a reply that is long enough. -/
def decode (payload : Bytes) : Except Error FirmwareInfo :=
  match payload with
  | slots :: selected :: flags :: _ =>
    if payload.length < length then tooShort payload
    else .ok {
      slotsSupported := slots
      activeSlot := UInt8.ofNat (selected.toNat % 8)
      stagedSlot := UInt8.ofNat (selected.toNat / 8 % 8)
      onlineActivation := flags.toNat % 2 == 1
      revisions := (List.range (min slots.toNat maxSlots)).map fun i =>
        readRevision ((payload.drop (revisionStart + i * revisionLength)).take revisionLength) }
  | _ => tooShort payload
where
  /-- The error of a reply that ends early. -/
  tooShort (payload : Bytes) : Except Error FirmwareInfo :=
    .error (.protocol ("FW info reply too short: " ++ Nat.repr payload.length
      ++ " bytes, expected " ++ Nat.repr length))

/-- The reply that describes the slots. -/
def encode (info : FirmwareInfo) : Bytes :=
  let fields := (info.revisions.take maxSlots).flatMap writeRevision
  [info.slotsSupported,
    UInt8.ofNat (info.activeSlot.toNat % 8 + 8 * (info.stagedSlot.toNat % 8)),
    UInt8.ofNat info.onlineActivation.toNat]
    ++ List.replicate (revisionStart - 3) 0
    ++ fields ++ List.replicate (maxSlots * revisionLength - fields.length) 0

/-- The revision in a slot, counted from one. -/
def revision (info : FirmwareInfo) (slot : UInt8) : Option String :=
  match slot.toNat with
  | 0 => none
  | index + 1 => info.revisions[index]?.join

end FirmwareInfo

end CxlFirmware
