import CxlFirmware.Poll

/-!
# Activation

A slot is activated by one command, repeated while the device is busy and then
confirmed by polling.  Both phases have the same budget, each for itself.  An
activation cannot be taken back, so nothing is aborted.
-/

namespace CxlFirmware.Activation

variable {σ : Type}

/-- Where the log records of this module come from. -/
def origin : String := "cxlfw::firmware::activate"

/-- When an activated slot runs. -/
inductive Action where
  /-- At once. -/
  | online
  /-- After the next cold reset. -/
  | onNextReset
  deriving DecidableEq, Repr

namespace Action

/-- The byte of an action. -/
def code : Action → UInt8
  | online => 0
  | onNextReset => 1

/-- The action of a byte. -/
def ofCode? (code : UInt8) : Option Action :=
  match code.toNat with
  | 0 => some online
  | 1 => some onNextReset
  | _ => none

/-- The name of an action. -/
def text : Action → String
  | online => "online"
  | onNextReset => "on-reset"

/-- The action that a name or a number denotes. -/
def parse (s : String) : Except Error Action :=
  if s = "online" ∨ s = "0" then .ok online
  else if s = "on-reset" ∨ s = "reset" ∨ s = "1" then .ok onNextReset
  else .error (.config
    ("unknown activation action '" ++ s ++ "' (expected online or on-reset)"))

end Action

/-- A family of activation commands. -/
inductive Kind where
  /-- The command of the CXL specification. -/
  | specDefined
  /-- The vendor command. -/
  | vendorBackground
  deriving DecidableEq, Repr

namespace Kind

/-- The activation command of a family. -/
def opcode : Kind → Opcode
  | specDefined => .activateFw
  | vendorBackground => .hboActivateFw

/-- The query that confirms the activation. -/
def statusQuery : Kind → StatusQuery
  | specDefined => .spec
  | vendorBackground => .hbo

end Kind

/-- What to activate. -/
structure Request where
  kind : Kind
  action : Action
  slot : UInt8
  deriving DecidableEq

/-- The payload of an activation command. -/
def encode (action slot : UInt8) : Bytes :=
  [action, slot]

/-- The budget of each phase where none is chosen. -/
def defaultPolicy : RetryPolicy := ⟨300, .ofSeconds 1, none⟩

/-- The workflow that activates a slot. -/
def run (transport : Transport σ) (device : String) (policy : RetryPolicy) (request : Request) :
    Workflow σ (Except Error BackgroundStatus) := do
  match policy.validate with
  | .error error => return .error error
  | .ok () =>
    Workflow.log .info origin (device ++ ": activating slot " ++ Nat.repr request.slot.toNat
      ++ " (" ++ request.action.text ++ ") via " ++ request.kind.opcode.text)
    let payload := encode request.action.code request.slot
    match ← Retry.withRetry transport.clock policy
        (Mailbox.submit transport request.kind.opcode payload) with
    | .error error => return .error error
    | .ok _ =>
      match ← Poll.untilDone transport request.kind.statusQuery policy with
      | .error error => return .error error
      | .ok report =>
        Workflow.log .info origin (device ++ ": slot " ++ Nat.repr request.slot.toNat
          ++ " activated (" ++ request.action.text ++ ")")
        return .ok report

end CxlFirmware.Activation
