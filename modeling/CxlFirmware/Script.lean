import CxlFirmware.Workflow

/-!
# Scripted mailboxes

A mailbox that gives the answers of a list one after another, whatever it is sent,
and another answer ever after.
-/

namespace CxlFirmware

/-- The answers that are still to come. -/
structure Script where
  answers : List Receipt
  /-- The answer once the list has come to its end. -/
  fallback : Receipt

namespace Script

/-- The reaction to any command. -/
def react (script : Script) : Exchange Script :=
  match script.answers with
  | [] => ⟨.ok script.fallback, [], script⟩
  | answer :: rest => ⟨.ok answer, [], { script with answers := rest }⟩

/-- The mailbox with a name. -/
def transport (name : String) : Transport Script where
  name
  submit _ script := script.react

theorem records_submit (name : String) (command : Command) (script : Script) :
  ((transport name).submit command script).records = []
  := by
  change script.react.records = []
  rw [react]
  cases script.answers with
  | nil => rfl
  | cons answer rest => rfl

end Script

end CxlFirmware
