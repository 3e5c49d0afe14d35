import CxlFirmware.Error
import CxlFirmware.Workflow

/-!
# Bounded retries

An operation is attempted until it is done, fails for good, or uses up a budget of
attempts, with a fixed delay between attempts.  A deadline ends the loop early when
the next attempt would come after it.
-/

namespace CxlFirmware

/-- The budget of a loop of attempts. -/
structure RetryPolicy where
  /-- The count of attempts, with the first. -/
  maxAttempts : UInt32
  /-- The delay between two attempts. -/
  delay : Duration
  /-- The time that all attempts together may take, if it is limited. -/
  deadline : Option Duration
  deriving DecidableEq

namespace RetryPolicy

/-- The longest time that the loop can spend on delays. -/
def budget (policy : RetryPolicy) : Except Fault Duration :=
  match policy.delay.scale? (policy.maxAttempts.toNat - 1) with
  | some total => .ok total
  | none => .error .durationProduct

/-- The check that there is an attempt at all. -/
def validate (policy : RetryPolicy) : Except Error Unit :=
  if policy.maxAttempts = 0 then .error (.config "retry attempts must be at least 1")
  else .ok ()

/-- Whether another delay would end after the deadline. -/
def overdue (policy : RetryPolicy) (elapsed : Duration) : Except Fault Bool :=
  match policy.deadline with
  | none => .ok false
  | some limit =>
    match elapsed.add? policy.delay with
    | none => .error .durationSum
    | some total => .ok (decide (limit.nanos < total.nanos))

end RetryPolicy

/-- The result of one attempt. -/
inductive Attempt (α π : Type) where
  /-- The operation is done. -/
  | done (value : α)
  /-- The operation is not done yet; what was seen of it. -/
  | pending (seen : π)
  /-- The operation failed for good. -/
  | failed (error : Error)

/-- Why a loop ended without a value. -/
inductive GaveUp (π : Type) where
  /-- The last attempt was pending as well. -/
  | exhausted (attempts : Nat) (last : π)
  /-- The next attempt would have come after the deadline. -/
  | deadline (attempts : Nat) (last : π)
  /-- An attempt failed for good. -/
  | failed (error : Error)

namespace Retry

variable {σ α π : Type}

/-- Where the log records of this module come from. -/
def origin : String := "cxlfw::retry"

/-- Attempt number `number`, and at most `left` more.  An attempt is told its number
and what the one before it saw; `elapsed` is the time at which each of them ends. -/
def loop (policy : RetryPolicy) (elapsed : Nat → Duration)
    (attempt : Nat → Option π → Workflow σ (Attempt α π)) :
    (left number : Nat) → (previous : Option π) → Workflow σ (Except (GaveUp π) α)
  | left, number, previous => do
    match ← attempt number previous with
    | .done value => return .ok value
    | .failed error => return .error (.failed error)
    | .pending seen =>
      match left with
      | 0 => return .error (.exhausted number seen)
      | left + 1 =>
        match policy.overdue (elapsed number) with
        | .error fault => Workflow.halt fault
        | .ok true => return .error (.deadline number seen)
        | .ok false =>
          Workflow.sleep policy.delay
          loop policy elapsed attempt left (number + 1) (some seen)

/-- The loop of attempts under a policy, by a clock. -/
def run (clock : Clock σ) (policy : RetryPolicy)
    (attempt : Nat → Option π → Workflow σ (Attempt α π)) :
    Workflow σ (Except (GaveUp π) α) :=
  match policy.validate with
  | .error error => pure (.error (.failed error))
  | .ok () => Workflow.inspect (clock policy.delay) fun elapsed =>
    loop policy elapsed attempt (policy.maxAttempts.toNat - 1) 1 none

/-- One attempt of a mailbox operation: pending while the device answers with a
retryable code. -/
def attemptOnce (policy : RetryPolicy) (operation : Workflow σ (Except Error α))
    (number : Nat) : Workflow σ (Attempt α (Opcode × Status)) := do
  match ← operation with
  | .ok value => return .done value
  | .error (.device opcode status) =>
    if status.isRetryable then
      Workflow.log .debug origin (opcode.text ++ ": " ++ status.text ++ " (attempt "
        ++ Nat.repr number ++ "/" ++ Nat.repr policy.maxAttempts.toNat ++ "), retrying in "
        ++ policy.delay.text)
      return .pending (opcode, status)
    else return .failed (.device opcode status)
  | .error error => return .failed error

/-- The mailbox operation, repeated while the device answers with a retryable code. -/
def withRetry (clock : Clock σ) (policy : RetryPolicy)
    (operation : Workflow σ (Except Error α)) : Workflow σ (Except Error α) := do
  match ← run clock policy (fun number _ => attemptOnce policy operation number) with
  | .ok value => return .ok value
  | .error (.exhausted attempts (opcode, last)) =>
    Workflow.log .warn origin (opcode.text ++ ": giving up after " ++ Nat.repr attempts
      ++ " attempts, device still reports " ++ last.text)
    return .error (.retriesExhausted opcode attempts last)
  | .error (.deadline attempts (opcode, _)) =>
    return .error (.deadlineExceeded opcode.text (policy.deadline.getD .zero) attempts)
  | .error (.failed error) => return .error error

end Retry

end CxlFirmware
