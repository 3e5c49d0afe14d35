import CxlFirmware.Console.Session
import CxlFirmware.Json.Writer

/-!
# Inspecting a device

The jobs that print what the slots hold and how the last background operation went, as
lines of text or as one value of JSON.  They leave the state of the device alone.
-/

namespace CxlFirmware.Console.Inspect

/-- The JSON of a value that may be absent. -/
def nullable {α : Type} (write : α → Json) : Option α → Json
  | none => .null
  | some a => write a

/-- The JSON of a byte. -/
def byteJson (n : UInt8) : Json :=
  .natural n.toNat

/-! ## Slots -/

/-- The numbers of the slots. -/
def slotsOf (info : FirmwareInfo) : List UInt8 :=
  (List.range info.slotsSupported.toNat).map fun n => UInt8.ofNat (n + 1)

/-- A slot in JSON. -/
def slotJson (info : FirmwareInfo) (slot : UInt8) : Json :=
  .ofMembers [
    ("active", .bool (slot == info.activeSlot)),
    ("revision", nullable .ofText (info.revision slot)),
    ("slot", byteJson slot),
    ("staged", .bool (slot == info.stagedSlot))]

/-- The staged slot, if there is one. -/
def stagedSlot? (info : FirmwareInfo) : Option UInt8 :=
  if info.stagedSlot = 0 then none else some info.stagedSlot

/-- The slots of a device in JSON. -/
def infoJson (device : String) (info : FirmwareInfo) : Json :=
  .ofMembers [
    ("active_slot", byteJson info.activeSlot),
    ("device", .ofText device),
    ("online_activation", .bool info.onlineActivation),
    ("slots", .array ((slotsOf info).map (slotJson info))),
    ("slots_supported", byteJson info.slotsSupported),
    ("staged_slot", nullable byteJson (stagedSlot? info))]

/-- The message about a slot. -/
def slotLine (info : FirmwareInfo) (slot : UInt8) : Message :=
  .slotLine slot (info.revision slot) (slot == info.activeSlot) (slot == info.stagedSlot)

/-- The program that prints the slots as text. -/
def printSlots (setup : Setup) (info : FirmwareInfo) : List UInt8 → Program Unit
  | [] => return ()
  | slot :: rest => do
    Program.printLine ("  " ++ (slotLine info slot).text setup.language)
    printSlots setup info rest

/-- The program that prints the slots of a device as text. -/
def printInfo (setup : Setup) (info : FirmwareInfo) : Program Unit := do
  setup.print (.deviceName setup.deviceName)
  setup.print (.slotsSupported info.slotsSupported)
  setup.print (.activeSlot info.activeSlot)
  setup.print (.stagedSlot (stagedSlot? info))
  setup.print (.onlineActivation info.onlineActivation)
  Program.printLine ""
  printSlots setup info (slotsOf info)

/-- The job that prints the slots of a device. -/
def runInfo (setup : Setup) (json : Bool) : Fallible Unit := do
  let session ← Session.start setup
  let (result, _) ← session.claimed session.device.firmwareInfo
  let info ← orFail .queryFailed result
  if json then Program.printLine (infoJson setup.deviceName info).pretty
  else printInfo setup info

/-! ## Background operations -/

/-- A command as it is named in a text. -/
def commandLabel (code : UInt16) : String :=
  match Opcode.ofCode? code with
  | some opcode => opcode.text
  | none => Hex.code code

/-- A background status in JSON. -/
def statusJson (device : String) (report : BackgroundStatus) : Json :=
  .ofMembers [
    ("command", nullable (fun opcode => .ofText opcode.name) (Opcode.ofCode? report.opcode)),
    ("device", .ofText device),
    ("in_progress", .bool report.inProgress),
    ("opcode", .natural report.opcode.toNat),
    ("percent", byteJson report.percent),
    ("return_code", .natural report.returnCode.toNat),
    ("status", .ofText report.status.text),
    ("vendor_status", .natural report.vendorStatus.toNat)]

/-- The program that prints a background status as text. -/
def printStatus (setup : Setup) (report : BackgroundStatus) : Program Unit := do
  setup.print (.deviceName setup.deviceName)
  setup.print (if report.inProgress then .running report.percent else .idle)
  setup.print (.lastCommand (commandLabel report.opcode))
  setup.print (.result report.status.text report.returnCode)
  if report.vendorStatus = 0 then return ()
  else setup.print (.vendorStatus (Hex.code report.vendorStatus))

/-- The job that prints the status of the last background operation.  It only asks, so
it does not claim the device. -/
def runStatus (setup : Setup) (hbo json : Bool) : Fallible Unit := do
  let session ← Session.start setup
  let (result, _) ← session.carryOut
    (Poll.queryStatus session.device.transport (if hbo then .hbo else .spec))
  let report ← orFail .queryFailed result
  if json then Program.printLine (statusJson setup.deviceName report).pretty
  else printStatus setup report

end CxlFirmware.Console.Inspect
