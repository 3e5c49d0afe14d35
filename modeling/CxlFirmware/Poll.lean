import CxlFirmware.Mailbox.BackgroundStatus
import CxlFirmware.Mailbox.Client
import CxlFirmware.Retry

/-!
# Polling

A long command runs on in the background.  `untilDone` asks for its status until
the device reports that it no longer runs.
-/

namespace CxlFirmware.Poll

variable {σ : Type}

/-- Where the log records of this module come from. -/
def origin : String := "cxlfw::poll"

/-- A report of a running operation. -/
structure Sighting where
  opcode : UInt16
  percent : UInt8

/-- The workflow that asks for the status once. -/
def queryStatus (transport : Transport σ) (query : StatusQuery) :
    Workflow σ (Except Error BackgroundStatus) := do
  match ← Mailbox.submit transport query.opcode [] with
  | .error error => return .error error
  | .ok payload => return query.decode payload

/-- One poll.  It is pending while the query is put off or the operation runs, and
passes on the latest report of the running operation. -/
def attempt (transport : Transport σ) (query : StatusQuery) (policy : RetryPolicy)
    (number : Nat) (previous : Option (Option Sighting)) :
    Workflow σ (Attempt BackgroundStatus (Option Sighting)) := do
  match ← queryStatus transport query with
  | .error error =>
    if error.isRetryable then
      Workflow.log .trace origin (transport.name ++ ": status query deferred: " ++ error.message)
      return .pending previous.join
    else return .failed error
  | .ok report =>
    if report.inProgress then
      Workflow.log .trace origin (transport.name ++ ": background " ++ Hex.code report.opcode
        ++ " at " ++ Nat.repr report.percent.toNat ++ "% (poll " ++ Nat.repr number ++ "/"
        ++ Nat.repr policy.maxAttempts.toNat ++ ")")
      return .pending (some ⟨report.opcode, report.percent⟩)
    else if report.status.isSuccess then
      Workflow.log .debug origin (transport.name ++ ": background operation done after "
        ++ Nat.repr number ++ " poll(s)")
      return .done report
    else return .failed (.backgroundFailed report.opcode report.status)

/-- The error of polls that gave up. -/
def failure (query : StatusQuery) (policy : RetryPolicy) : GaveUp (Option Sighting) → Error
  | .exhausted attempts none => .pollExhausted query.opcode.code attempts 0
  | .exhausted attempts (some seen) => .pollExhausted seen.opcode attempts seen.percent
  | .deadline attempts _ =>
    .deadlineExceeded ("polling " ++ query.opcode.text) (policy.deadline.getD .zero) attempts
  | .failed error => error

/-- The workflow that polls until the operation has ended. -/
def untilDone (transport : Transport σ) (query : StatusQuery) (policy : RetryPolicy) :
    Workflow σ (Except Error BackgroundStatus) := do
  match ← Retry.run transport.clock policy (attempt transport query policy) with
  | .ok report => return .ok report
  | .error reason => return .error (failure query policy reason)

end CxlFirmware.Poll
