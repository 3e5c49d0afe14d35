import CxlFirmware.Mailbox.FirmwareInfo
import CxlFirmware.Poll
import CxlFirmware.Text.Quoted

/-!
# Devices

A device is a mailbox with a number, a name and a gate that tells whether the
device is in the middle of a command.  Work on a device starts with a claim, which
a busy device refuses, and ends with a release.
-/

namespace CxlFirmware

/-- What tells whether a device is in the middle of a command. -/
inductive Gate where
  /-- The device is never busy. -/
  | idle
  /-- A flag says so, unless it cannot be read. -/
  | flag (active unreadable : Bool)
  /-- Something else says so, or fails. -/
  | other (reading : Except Error Bool)

namespace Gate

/-- Whether the device is in the middle of a command. -/
def isActive : Gate → Except Error Bool
  | idle => .ok false
  | flag _ true => .error (.protocol "gate unreadable")
  | flag active false => .ok active
  | other reading => reading

/-- The gate after its flag was set. -/
def setActive : Gate → Bool → Gate
  | flag _ unreadable, active => flag active unreadable
  | gate, _ => gate

/-- The gate after its flag was made unreadable or readable. -/
def setUnreadable : Gate → Bool → Gate
  | flag active _, unreadable => flag active unreadable
  | gate, _ => gate

/-- The gate after what is neither idle nor a flag has changed its reading. -/
def setReading : Gate → Except Error Bool → Gate
  | other _, reading => other reading
  | gate, _ => gate

end Gate

/-- A memory device behind a mailbox. -/
structure Device (σ : Type) where
  id : UInt32
  name : String
  transport : Transport σ
  gate : Gate

namespace Device

variable {σ α : Type}

/-- Where the log records of claims come from. -/
def origin : String := "cxlfw::device"

/-- The text that describes a device. -/
def describe (device : Device σ) : String :=
  "Device \x7b id: " ++ Nat.repr device.id.toNat ++ ", name: " ++ Text.quote device.name
    ++ ", .. \x7d"

/-- The text that describes a claim on a device. -/
def describeClaim (device : Device σ) : String :=
  "DeviceGuard \x7b device: " ++ device.describe ++ " \x7d"

/-- The workflow that claims an idle device. -/
def claim (device : Device σ) : Workflow σ (Except Error Unit) :=
  match device.gate.isActive with
  | .error error => pure (.error error)
  | .ok true => pure (.error (.deviceBusy device.name))
  | .ok false => do
    Workflow.log .debug origin
      (device.name ++ ": claimed (id " ++ Nat.repr device.id.toNat ++ ")")
    return .ok ()

/-- The workflow that gives a claimed device free. -/
def release (device : Device σ) : Workflow σ Unit :=
  Workflow.log .debug origin (device.name ++ ": released")

/-- Work under a claim of its own. -/
def claimed (device : Device σ) (work : Workflow σ (Except Error α)) :
    Workflow σ (Except Error α) := do
  match ← device.claim with
  | .error error => return .error error
  | .ok () =>
    let result ← work
    device.release
    return result

/-- Where the log records about slots come from. -/
def firmwareOrigin : String := "cxlfw::firmware"

/-- The workflow that reads the slots and their revisions. -/
def firmwareInfo (device : Device σ) : Workflow σ (Except Error FirmwareInfo) := do
  match ← Mailbox.submit device.transport .getFwInfo [] with
  | .error error => return .error error
  | .ok payload =>
    match FirmwareInfo.decode payload with
    | .error error => return .error error
    | .ok info =>
      Workflow.log .debug firmwareOrigin (device.name ++ ": "
        ++ Nat.repr info.slotsSupported.toNat ++ " slot(s), active "
        ++ Nat.repr info.activeSlot.toNat ++ ", staged " ++ Nat.repr info.stagedSlot.toNat)
      return .ok info

end Device

end CxlFirmware
