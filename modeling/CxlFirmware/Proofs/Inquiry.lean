import CxlFirmware.Poll
import CxlFirmware.Proofs.Path

/-!
# Inquiries

An inquiry sends one command again and again under a retry policy, until the answer is
judged to be final.  Both the submission of a command under a retry budget and the polling
of the background status are inquiries, once their log records are left out.
-/

namespace CxlFirmware

variable {σ α π : Type}

namespace Retry

/-! ## Loops without log records -/

/-- A loop of attempts is quiet when its attempts are. -/
theorem quiet_loop (policy : RetryPolicy) (elapsed : Nat → Duration)
    (attempt : Nat → Option π → Workflow σ (Attempt α π)) (left number : Nat)
    (previous : Option π) :
  (loop policy elapsed attempt left number previous).quiet
    = loop policy elapsed (fun number previous => (attempt number previous).quiet) left number
      previous
  := by
  induction left generalizing number previous with
  | zero =>
      unfold loop
      rw [Workflow.quiet_bind]
      congr 1
      funext outcome
      cases outcome with
      | done value => rfl
      | failed error => rfl
      | pending seen => rfl
  | succ left ih =>
      unfold loop
      rw [Workflow.quiet_bind]
      congr 1
      funext outcome
      cases outcome with
      | done value => rfl
      | failed error => rfl
      | pending seen =>
          cases h : policy.overdue (elapsed number) with
          | error fault => simp
          | ok overdue =>
              cases overdue with
              | true => simp
              | false => simp [ih]

theorem quiet_run (clock : Clock σ) (policy : RetryPolicy)
    (attempt : Nat → Option π → Workflow σ (Attempt α π)) :
  (run clock policy attempt).quiet
    = run clock policy (fun number previous => (attempt number previous).quiet)
  := by
  unfold run
  cases policy.validate with
  | error error => rfl
  | ok _ => simp only [Workflow.quiet_inspect, quiet_loop]

/-! ## Inquiries -/

/-- The attempts that send one command each and judge what comes back, in view of what the
attempt before has seen. -/
def asking (transport : Transport σ) (command : Command)
    (judge : Option π → Receipt → Attempt α π) : Nat → Option π → Workflow σ (Attempt α π) :=
  fun _ previous => do return judge previous (← Workflow.ask transport command)

/-- The workflow that sends a command until what comes back is judged to be final. -/
def inquiry (policy : RetryPolicy) (transport : Transport σ) (command : Command)
    (judge : Option π → Receipt → Attempt α π) (failure : GaveUp π → Error) :
    Workflow σ (Except Error α) := do
  return (← run transport.clock policy (asking transport command judge)).mapError failure

section

variable {transport : Transport σ} {command : Command} {allowed : Command → Prop}

theorem follows_asking (judge : Option π → Receipt → Attempt α π) (h : allowed command)
    (number : Nat) (previous : Option π) :
  (asking transport command judge number previous).Follows transport allowed
  := by
  apply Workflow.Follows.bind (.ask h)
  intro answer
  apply Workflow.Follows.pure

theorem follows_loop (policy : RetryPolicy) (elapsed : Nat → Duration)
    (judge : Option π → Receipt → Attempt α π) (h : allowed command) (left number : Nat)
    (previous : Option π) :
  (loop policy elapsed (asking transport command judge) left number previous).Follows transport
    allowed
  := by
  induction left generalizing number previous with
  | zero =>
      rw [loop]
      apply Workflow.Follows.bind
      · apply follows_asking judge h
      · intro outcome
        cases outcome with
        | done value => apply Workflow.Follows.pure
        | failed error => apply Workflow.Follows.pure
        | pending seen => apply Workflow.Follows.pure
  | succ left ih =>
      rw [loop]
      apply Workflow.Follows.bind
      · apply follows_asking judge h
      · intro outcome
        cases outcome with
        | done value => apply Workflow.Follows.pure
        | failed error => apply Workflow.Follows.pure
        | pending seen =>
            cases policy.overdue (elapsed number) with
            | error fault => apply Workflow.Follows.halt
            | ok overdue =>
                cases overdue with
                | true => apply Workflow.Follows.pure
                | false =>
                    apply Workflow.Follows.bind (.sleep policy.delay)
                    intro _
                    apply ih

/-- An inquiry sends nothing but its command. -/
theorem follows_inquiry (policy : RetryPolicy) (judge : Option π → Receipt → Attempt α π)
    (failure : GaveUp π → Error) (h : allowed command) :
  (inquiry policy transport command judge failure).Follows transport allowed
  := by
  apply Workflow.Follows.bind
  · rw [run]
    cases policy.validate with
    | error error => apply Workflow.Follows.pure
    | ok _ =>
        apply Workflow.Follows.inspect
        intro elapsed
        apply follows_loop policy elapsed judge h
  · intro result
    apply Workflow.Follows.pure

end

/-! ## Inquiries of two mailboxes -/

section

variable {τ : Type} {transport₁ : Transport σ} {transport₂ : Transport τ} {command : Command}

theorem mirrors_asking (judge : Option π → Receipt → Attempt α π) (number : Nat)
    (previous : Option π) :
  Workflow.Mirrors transport₂ (asking transport₁ command judge number previous)
    (asking transport₂ command judge number previous)
  := by
  apply Workflow.Mirrors.bind (.ask command)
  intro answer
  apply Workflow.Mirrors.pure

theorem mirrors_loop (policy : RetryPolicy) (elapsed : Nat → Duration)
    (judge : Option π → Receipt → Attempt α π) (left number : Nat) (previous : Option π) :
  Workflow.Mirrors transport₂
    (loop policy elapsed (asking transport₁ command judge) left number previous)
    (loop policy elapsed (asking transport₂ command judge) left number previous)
  := by
  induction left generalizing number previous with
  | zero =>
      unfold loop
      apply Workflow.Mirrors.bind
      · apply mirrors_asking judge
      · intro outcome
        cases outcome with
        | done value => apply Workflow.Mirrors.pure
        | failed error => apply Workflow.Mirrors.pure
        | pending seen => apply Workflow.Mirrors.pure
  | succ left ih =>
      unfold loop
      apply Workflow.Mirrors.bind
      · apply mirrors_asking judge
      · intro outcome
        cases outcome with
        | done value => apply Workflow.Mirrors.pure
        | failed error => apply Workflow.Mirrors.pure
        | pending seen =>
            cases policy.overdue (elapsed number) with
            | error fault => apply Workflow.Mirrors.halt
            | ok overdue =>
                cases overdue with
                | true => apply Workflow.Mirrors.pure
                | false =>
                    apply Workflow.Mirrors.bind (.sleep policy.delay)
                    intro _
                    apply ih

/-- An inquiry depends on its mailbox through the answers and the clock alone. -/
theorem mirrors_inquiry (hclock : transport₁.InStep transport₂) (policy : RetryPolicy)
    (judge : Option π → Receipt → Attempt α π) (failure : GaveUp π → Error) :
  Workflow.Mirrors transport₂ (inquiry policy transport₁ command judge failure)
    (inquiry policy transport₂ command judge failure)
  := by
  apply Workflow.Mirrors.bind
  · unfold run
    cases policy.validate with
    | error error => apply Workflow.Mirrors.pure
    | ok _ =>
        apply Workflow.Mirrors.inspect (hclock policy.delay)
        intro elapsed
        apply mirrors_loop
  · intro result
    apply Workflow.Mirrors.pure

end

/-! ## Submissions under a retry budget -/

/-- What an attempt makes of a result: a retryable code is not final. -/
def judge : Except Error α → Attempt α (Opcode × Status)
  | .ok value => .done value
  | .error (.device opcode status) =>
    if status.isRetryable then .pending (opcode, status) else .failed (.device opcode status)
  | .error error => .failed error

/-- The error of submissions that gave up. -/
def failure (policy : RetryPolicy) : GaveUp (Opcode × Status) → Error
  | .exhausted attempts (opcode, last) => .retriesExhausted opcode attempts last
  | .deadline attempts (opcode, _) =>
    .deadlineExceeded opcode.text (policy.deadline.getD .zero) attempts
  | .failed error => error

theorem quiet_attemptOnce (policy : RetryPolicy) (operation : Workflow σ (Except Error α))
    (number : Nat) :
  (attemptOnce policy operation number).quiet = do return judge (← operation.quiet)
  := by
  rw [attemptOnce]
  rw [Workflow.quiet_bind]
  congr 1
  funext result
  rcases result with error | value
  · cases error with
    | device opcode status =>
        cases h : status.isRetryable with
        | false => simp [judge, h]
        | true => simp [judge, h]
    | _ => rfl
  · rfl

/-- Repeating an operation is, without log records, a loop that judges its results. -/
theorem quiet_withRetry (clock : Clock σ) (policy : RetryPolicy)
    (operation : Workflow σ (Except Error α)) :
  (withRetry clock policy operation).quiet = do
    return (← run clock policy fun _ _ => do return judge (← operation.quiet)).mapError
      (failure policy)
  := by
  rw [withRetry]
  rw [Workflow.quiet_bind, quiet_run]
  simp only [quiet_attemptOnce]
  congr 1
  funext result
  rcases result with reason | value
  · cases reason with
    | exhausted attempts last =>
        simp only [Workflow.quiet_bind, Workflow.quiet_log, Workflow.quiet_pure, pure_bind]
        rfl
    | deadline attempts last => rfl
    | failed error => rfl
  · rfl

end Retry

namespace Mailbox

theorem quiet_submit (transport : Transport σ) (opcode : Opcode) (payload : Bytes) :
  (submit transport opcode payload).quiet = do
    return verdict opcode (← Workflow.ask transport ⟨opcode.code, payload⟩)
  := by
  rw [submit]
  simp only [Workflow.quiet_bind, Workflow.quiet_log, Workflow.quiet_exchange, pure_bind]
  congr 1
  funext answer
  cases answer with
  | error source => rfl
  | ok response => simp

/-- Submitting a command under a retry budget is an inquiry. -/
theorem quiet_submit_withRetry (policy : RetryPolicy) (transport : Transport σ)
    (opcode : Opcode) (payload : Bytes) :
  (Retry.withRetry transport.clock policy (submit transport opcode payload)).quiet
    = Retry.inquiry policy transport ⟨opcode.code, payload⟩
        (fun _ receipt => Retry.judge (verdict opcode receipt)) (Retry.failure policy)
  := by
  rw [Retry.quiet_withRetry, quiet_submit]
  simp only [bind_assoc, pure_bind]
  rfl

end Mailbox

/-! ## Polling -/

/-- The report or the error that comes back for a status query. -/
def StatusQuery.verdict (query : StatusQuery) (receipt : Receipt) :
    Except Error BackgroundStatus :=
  (Mailbox.verdict query.opcode receipt).bind query.decode

namespace Poll

/-- What a poll makes of the result of a query: neither a retryable code nor the report of
a running operation is final. -/
def judge (previous : Option (Option Sighting)) :
    Except Error BackgroundStatus → Attempt BackgroundStatus (Option Sighting)
  | .error error => if error.isRetryable then .pending previous.join else .failed error
  | .ok report =>
    if report.inProgress then .pending (some ⟨report.opcode, report.percent⟩)
    else if report.status.isSuccess then .done report
    else .failed (.backgroundFailed report.opcode report.status)

theorem quiet_queryStatus (transport : Transport σ) (query : StatusQuery) :
  (queryStatus transport query).quiet = do
    return query.verdict (← Workflow.ask transport ⟨query.opcode.code, []⟩)
  := by
  rw [queryStatus]
  rw [Workflow.quiet_bind, Mailbox.quiet_submit]
  simp only [bind_assoc, pure_bind]
  congr 1
  funext answer
  rw [StatusQuery.verdict]
  cases Mailbox.verdict query.opcode answer with
  | error error => rfl
  | ok payload => rfl

theorem quiet_attempt (transport : Transport σ) (query : StatusQuery) (policy : RetryPolicy)
    (number : Nat) (previous : Option (Option Sighting)) :
  (attempt transport query policy number previous).quiet = do
    return judge previous
      (query.verdict (← Workflow.ask transport ⟨query.opcode.code, []⟩))
  := by
  rw [attempt]
  rw [Workflow.quiet_bind, quiet_queryStatus]
  simp only [bind_assoc, pure_bind]
  congr 1
  funext answer
  cases query.verdict answer with
  | error error =>
      cases h : error.isRetryable with
      | false => simp [judge, h]
      | true => simp [judge, h]
  | ok report =>
      cases hprogress : report.inProgress with
      | true => simp [judge, hprogress]
      | false =>
          cases hstatus : report.status.isSuccess with
          | false => simp [judge, hprogress, hstatus]
          | true => simp [judge, hprogress, hstatus]

/-- Polling until the operation has ended is an inquiry. -/
theorem quiet_untilDone (transport : Transport σ) (query : StatusQuery) (policy : RetryPolicy) :
  (untilDone transport query policy).quiet
    = Retry.inquiry policy transport ⟨query.opcode.code, []⟩
        (fun previous receipt => judge previous (query.verdict receipt)) (failure query policy)
  := by
  rw [untilDone]
  rw [Workflow.quiet_bind, Retry.quiet_run]
  simp only [quiet_attempt]
  unfold Retry.inquiry Retry.asking
  congr 1
  funext result
  cases result with
  | error reason => rfl
  | ok report => rfl

end Poll

/-! ## The paths and the mirrors of both -/

namespace Mailbox

variable {transport : Transport σ} {allowed : Command → Prop}

theorem follows_submit (opcode : Opcode) (payload : Bytes) (h : allowed ⟨opcode.code, payload⟩) :
  (submit transport opcode payload).Follows transport allowed
  := by
  apply Workflow.Follows.of_quiet
  rw [quiet_submit]
  apply Workflow.Follows.bind (.ask h)
  intro answer
  apply Workflow.Follows.pure

theorem follows_submit_withRetry (policy : RetryPolicy) (opcode : Opcode) (payload : Bytes)
    (h : allowed ⟨opcode.code, payload⟩) :
  (Retry.withRetry transport.clock policy (submit transport opcode payload)).Follows transport
    allowed
  := by
  apply Workflow.Follows.of_quiet
  rw [quiet_submit_withRetry]
  apply Retry.follows_inquiry _ _ _ h

/-- A submission under a retry budget depends on its mailbox through the answers and the clock
alone. -/
theorem mirrors_submit_withRetry {τ : Type} {transport₁ : Transport σ} {transport₂ : Transport τ}
    (hclock : transport₁.InStep transport₂) (policy : RetryPolicy) (opcode : Opcode)
    (payload : Bytes) :
  Workflow.Mirrors transport₂
    (Retry.withRetry transport₁.clock policy (submit transport₁ opcode payload))
    (Retry.withRetry transport₂.clock policy (submit transport₂ opcode payload))
  := by
  apply Workflow.Mirrors.of_quiet
  rw [quiet_submit_withRetry, quiet_submit_withRetry]
  apply Retry.mirrors_inquiry hclock

end Mailbox

namespace Poll

variable {transport : Transport σ} {allowed : Command → Prop}

theorem follows_queryStatus (query : StatusQuery) (h : allowed ⟨query.opcode.code, []⟩) :
  (queryStatus transport query).Follows transport allowed
  := by
  apply Workflow.Follows.of_quiet
  rw [quiet_queryStatus]
  apply Workflow.Follows.bind (.ask h)
  intro answer
  apply Workflow.Follows.pure

theorem follows_untilDone (query : StatusQuery) (policy : RetryPolicy)
    (h : allowed ⟨query.opcode.code, []⟩) :
  (untilDone transport query policy).Follows transport allowed
  := by
  apply Workflow.Follows.of_quiet
  rw [quiet_untilDone]
  apply Retry.follows_inquiry _ _ _ h

/-- Polling depends on its mailbox through the answers and the clock alone. -/
theorem mirrors_untilDone {τ : Type} {transport₁ : Transport σ} {transport₂ : Transport τ}
    (hclock : transport₁.InStep transport₂) (query : StatusQuery) (policy : RetryPolicy) :
  Workflow.Mirrors transport₂ (untilDone transport₁ query policy)
    (untilDone transport₂ query policy)
  := by
  apply Workflow.Mirrors.of_quiet
  rw [quiet_untilDone, quiet_untilDone]
  apply Retry.mirrors_inquiry hclock

end Poll

end CxlFirmware
