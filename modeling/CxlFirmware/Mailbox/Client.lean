import CxlFirmware.Error
import CxlFirmware.Workflow

/-!
# Single commands

One command sent once, with the return code turned into a reply or an error.
Nothing is repeated, delayed or checked here.
-/

namespace CxlFirmware.Mailbox

variable {σ : Type}

/-- Where the log records of this module come from. -/
def origin : String := "cxlfw::mailbox"

/-- The reply or the error that comes back for a command. -/
def verdict (opcode : Opcode) : Receipt → Except Error Bytes
  | .error source => .error (.transport opcode source)
  | .ok response =>
    let status := Status.ofCode response.status
    if status.isSuccess then .ok response.payload else .error (.device opcode status)

/-- The workflow that sends one command and returns its reply. -/
def submit (transport : Transport σ) (opcode : Opcode) (payload : Bytes) :
    Workflow σ (Except Error Bytes) := do
  Workflow.log .trace origin (transport.name ++ ": submit " ++ opcode.text ++ " with "
    ++ Nat.repr payload.length ++ " payload bytes")
  let receipt ← Workflow.exchange transport ⟨opcode.code, payload⟩
  match receipt with
  | .error _ => pure ()
  | .ok response =>
    Workflow.log .trace origin (transport.name ++ ": " ++ opcode.text ++ " -> "
      ++ (Status.ofCode response.status).text)
  return verdict opcode receipt

end CxlFirmware.Mailbox
