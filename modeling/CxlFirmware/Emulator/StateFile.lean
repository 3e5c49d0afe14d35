import CxlFirmware.Emulator.State
import CxlFirmware.Json.Reader
import CxlFirmware.Json.Record
import CxlFirmware.Json.Writer

/-!
# State files

The state of an emulated device as a text of JSON.  `State.write` gives the text of a
state.  `State.read?` takes any text with the same fields, where those of the state
may be missing and then have their value in a new device, and those of an image may
not.
-/

namespace CxlFirmware.Emulator

namespace SlotImage

/-- The names of the fields of an image. -/
def names : List String := ["revision", "size", "crc32"]

/-- An image in JSON. -/
def toJson (image : SlotImage) : Json :=
  .ofMembers [
    ("revision", .ofText image.revision),
    ("size", .natural image.size.toNat),
    ("crc32", .natural image.crc32.toNat)]

/-- The image that a value of JSON describes. -/
def ofJson? (value : Json) : Option SlotImage := do
  match ← value.fields? names with
  | [revision, size, crc32] =>
    return {
      revision := ← Json.required Json.text? revision
      size := UInt64.ofNat (← Json.required (Json.naturalBelow? UInt64.size) size)
      crc32 := UInt32.ofNat (← Json.required (Json.naturalBelow? UInt32.size) crc32) }
  | _ => none

end SlotImage

/-- What a slot holds, in JSON. -/
def slotToJson : Option SlotImage → Json
  | none => .null
  | some image => image.toJson

namespace State

/-- The names of the fields of a state. -/
def names : List String := ["slots", "active_slot", "staged_slot", "os_image", "busy"]

/-- A state in JSON. -/
def toJson (state : State) : Json :=
  .ofMembers [
    ("slots", .array (state.slots.map slotToJson)),
    ("active_slot", .natural state.activeSlot.toNat),
    ("staged_slot", .natural state.stagedSlot.toNat),
    ("os_image", slotToJson state.osImage),
    ("busy", .bool state.busy)]

/-- The number of a slot in JSON. -/
def slotNumber? (value : Json) : Option UInt8 :=
  (value.naturalBelow? UInt8.size).map UInt8.ofNat

/-- The state that a value of JSON describes. -/
def ofJson? (value : Json) : Option State := do
  match ← value.fields? names with
  | [slots, activeSlot, stagedSlot, osImage, busy] =>
    let image := Json.nullable? SlotImage.ofJson?
    return {
      slots := ← Json.optional default.slots (Json.list? image) slots
      activeSlot := ← Json.optional default.activeSlot slotNumber? activeSlot
      stagedSlot := ← Json.optional default.stagedSlot slotNumber? stagedSlot
      osImage := ← Json.optional default.osImage image osImage
      busy := ← Json.optional default.busy Json.bool? busy }
  | _ => none

/-- The text of a state. -/
def write (state : State) : String :=
  state.toJson.pretty

/-- The state that a text describes. -/
def read? (text : String) : Option State :=
  (Json.read? text).bind ofJson?

end State

end CxlFirmware.Emulator
