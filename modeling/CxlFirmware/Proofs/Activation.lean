import CxlFirmware.Activation
import CxlFirmware.Proofs.Judgement

/-!
# Errors of work on a device

An error of an activation whose budget is valid `IsOperational`: it is neither an invalid
setting nor a refused claim.  So are the errors of single commands and of polls.
-/

namespace CxlFirmware

variable {σ α β π : Type}

/-- The error is neither an invalid setting nor a refused claim. -/
def Error.IsOperational : Error → Prop
  | .config _ => False
  | .deviceBusy _ => False
  | _ => True

/-- Whatever the mailbox, a value that the workflow comes to has the property. -/
def Workflow.Results (x : Workflow σ α) (holds : α → Prop) : Prop :=
  ∀ m a, (x m).result = .ok a → holds a

/-- An error that a workflow comes to is operational. -/
def Workflow.FailsOperational (x : Workflow σ (Except Error α)) : Prop :=
  x.Results fun result => ∀ error, result = .error error → error.IsOperational

namespace Workflow.Results

variable {holds : α → Prop} {holds' : β → Prop}

protected theorem pure {a : α} (h : holds a) :
  (pure a : Workflow σ α).Results holds
  := by
  rintro m _ ⟨⟩
  exact h

theorem any (x : Workflow σ α) :
  x.Results fun _ => True
  := fun _ _ _ => trivial

protected theorem bind {x : Workflow σ α} {f : α → Workflow σ β} (hx : x.Results holds)
    (hf : ∀ a, holds a → (f a).Results holds') :
  (x >>= f).Results holds'
  := by
  intro m b hb
  cases h : (x m).result with
  | error fault =>
      rw [bind_of_fault h] at hb
      cases hb
  | ok a =>
      rw [bind_of_ok h] at hb
      exact hf a (hx m a h) _ b hb

end Workflow.Results

namespace Workflow.FailsOperational

theorem ok (a : α) :
  (pure (.ok a) : Workflow σ (Except Error α)).FailsOperational
  := .pure (by simp)

theorem error {error : Error} (h : error.IsOperational) :
  (pure (.error error) : Workflow σ (Except Error α)).FailsOperational
  := by
  refine Results.pure ?_
  rintro _ ⟨⟩
  exact h

end Workflow.FailsOperational

open Workflow (Results FailsOperational)

/-! ## Loops of attempts -/

namespace Retry

/-- A loop fails for good with what one of its attempts failed with. -/
theorem results_loop (policy : RetryPolicy) (elapsed : Nat → Duration)
    {attempt : Nat → Option π → Workflow σ (Attempt α π)} {holds : Error → Prop}
    (hattempt : ∀ number previous, (attempt number previous).Results fun outcome =>
      ∀ error, outcome = .failed error → holds error) (left number : Nat) (previous : Option π) :
  (loop policy elapsed attempt left number previous).Results fun result =>
    ∀ error, result = .error (.failed error) → holds error
  := by
  induction left generalizing number previous with
  | zero =>
      rw [loop]
      refine Results.bind (hattempt number previous) fun outcome houtcome => ?_
      cases outcome with
      | done value => exact .pure (by simp)
      | failed error =>
          refine Results.pure ?_
          rintro _ ⟨⟩
          exact houtcome error rfl
      | pending seen => exact .pure (by simp)
  | succ left ih =>
      rw [loop]
      refine Results.bind (hattempt number previous) fun outcome houtcome => ?_
      cases outcome with
      | done value => exact .pure (by simp)
      | failed error =>
          refine Results.pure ?_
          rintro _ ⟨⟩
          exact houtcome error rfl
      | pending seen =>
          cases policy.overdue (elapsed number) with
          | error fault => exact fun _ _ h => by cases h
          | ok late =>
              cases late with
              | true => exact .pure (by simp)
              | false => exact .bind (.any _) fun _ _ => ih (number + 1) (some seen)

theorem results_run (clock : Clock σ) {policy : RetryPolicy}
    (hvalid : policy.validate = .ok ())
    {attempt : Nat → Option π → Workflow σ (Attempt α π)} {holds : Error → Prop}
    (hattempt : ∀ number previous, (attempt number previous).Results fun outcome =>
      ∀ error, outcome = .failed error → holds error) :
  (run clock policy attempt).Results fun result =>
    ∀ error, result = .error (.failed error) → holds error
  := by
  rw [run, hvalid]
  intro m
  exact results_loop policy (clock policy.delay m) hattempt _ _ _ m

/-- A repeated operation whose errors are operational has operational errors. -/
theorem withRetry_operational (clock : Clock σ) {policy : RetryPolicy}
    (hvalid : policy.validate = .ok ()) {operation : Workflow σ (Except Error α)}
    (hoperation : operation.FailsOperational) :
  (withRetry clock policy operation).FailsOperational
  := by
  have hattempt : ∀ number, (attemptOnce policy operation number).Results fun outcome =>
      ∀ error, outcome = .failed error → error.IsOperational := by
    intro number
    rw [attemptOnce]
    refine Results.bind hoperation fun result hresult => ?_
    cases result with
    | ok value => exact .pure (by simp)
    | error error =>
        have hfailed : (pure (.failed error) : Workflow σ (Attempt α (Opcode × Status))).Results
            fun outcome => ∀ error, outcome = .failed error → error.IsOperational := by
          refine Results.pure ?_
          rintro _ ⟨⟩
          exact hresult error rfl
        cases error with
        | device opcode status =>
            by_cases hretry : status.isRetryable = true
            · simp only [hretry, if_true]
              exact .bind (.any _) fun _ _ => .pure (by simp)
            · simp only [hretry]
              exact hfailed
        | _ => exact hfailed
  rw [withRetry]
  refine Results.bind (results_run clock hvalid fun number _ => hattempt number) ?_
  intro result hresult
  cases result with
  | ok value => exact FailsOperational.ok value
  | error reason =>
      cases reason with
      | exhausted attempts last => exact .bind (.any _) fun _ _ => FailsOperational.error trivial
      | deadline attempts last => exact FailsOperational.error trivial
      | failed error => exact FailsOperational.error (hresult error rfl)

end Retry

/-! ## Commands and polls -/

theorem Mailbox.submit_operational (transport : Transport σ) (opcode : Opcode) (payload : Bytes) :
  (submit transport opcode payload).FailsOperational
  := by
  rw [submit]
  refine Results.bind (.any _) fun _ _ => .bind (.any _) fun answer _ => ?_
  have hverdict : (pure (verdict opcode answer) : Workflow σ (Except Error Bytes)).FailsOperational
      := by
    rw [verdict.eq_def]
    cases answer with
    | error source => exact FailsOperational.error trivial
    | ok response =>
        simp only
        split
        · exact FailsOperational.ok _
        · exact FailsOperational.error trivial
  cases answer with
  | error source => exact hverdict
  | ok response => exact .bind (.any _) fun _ _ => hverdict

namespace Poll

theorem queryStatus_operational (transport : Transport σ) (query : StatusQuery) :
  (queryStatus transport query).FailsOperational
  := by
  rw [queryStatus]
  refine Results.bind (Mailbox.submit_operational transport query.opcode []) ?_
  intro result hresult
  cases result with
  | error error => exact FailsOperational.error (hresult error rfl)
  | ok payload =>
      refine Results.pure fun error herror => ?_
      cases query with
      | spec =>
          simp only [StatusQuery.decode, BackgroundStatus.decodeSpec] at herror
          split at herror
          · cases herror
          · cases herror
            trivial
      | hbo =>
          simp only [StatusQuery.decode, BackgroundStatus.decodeHbo] at herror
          split at herror
          · cases herror
            trivial
          · cases herror

theorem untilDone_operational {policy : RetryPolicy} (hvalid : policy.validate = .ok ())
    (transport : Transport σ) (query : StatusQuery) :
  (untilDone transport query policy).FailsOperational
  := by
  have hattempt : ∀ number previous, (attempt transport query policy number previous).Results
      fun outcome => ∀ error, outcome = .failed error → error.IsOperational := by
    intro number previous
    rw [attempt]
    refine Results.bind (queryStatus_operational transport query) fun result hresult => ?_
    cases result with
    | error error =>
        by_cases hretry : error.isRetryable = true
        · simp only [hretry, if_true]
          exact .bind (.any _) fun _ _ => .pure (by simp)
        · simp only [hretry]
          refine Results.pure ?_
          rintro _ ⟨⟩
          exact hresult error rfl
    | ok report =>
        by_cases hprogress : report.inProgress = true
        · simp only [hprogress, if_true]
          exact .bind (.any _) fun _ _ => .pure (by simp)
        by_cases hsuccess : report.status.isSuccess = true
        · simp only [hprogress, hsuccess, if_true]
          exact .bind (.any _) fun _ _ => .pure (by simp)
        · simp only [hprogress, hsuccess]
          refine Results.pure ?_
          rintro _ ⟨⟩
          trivial
  rw [untilDone]
  refine Results.bind (Retry.results_run transport.clock hvalid hattempt) fun result hresult => ?_
  cases result with
  | ok report => exact FailsOperational.ok report
  | error reason =>
      cases reason with
      | exhausted attempts last =>
          cases last with
          | none => exact FailsOperational.error trivial
          | some seen => exact FailsOperational.error trivial
      | deadline attempts last => exact FailsOperational.error trivial
      | failed error => exact FailsOperational.error (hresult error rfl)

end Poll

/-! ## Activations -/

namespace Activation

/-- An activation under a valid budget fails with an operational error, if it fails. -/
theorem run_operational {policy : RetryPolicy} (hvalid : policy.validate = .ok ())
    (transport : Transport σ) (device : String) (request : Request) :
  (run transport device policy request).FailsOperational
  := by
  have hsubmit : (Retry.withRetry transport.clock policy (Mailbox.submit transport
      request.kind.opcode (encode request.action.code request.slot))).FailsOperational :=
    Retry.withRetry_operational transport.clock hvalid (Mailbox.submit_operational _ _ _)
  rw [run, hvalid]
  refine Results.bind (.any _) fun _ _ => .bind hsubmit fun result hresult => ?_
  cases result with
  | error error => exact FailsOperational.error (hresult error rfl)
  | ok reply =>
      refine Results.bind (Poll.untilDone_operational hvalid transport _) fun result hresult => ?_
      cases result with
      | error error => exact FailsOperational.error (hresult error rfl)
      | ok report => exact .bind (.any _) fun _ _ => FailsOperational.ok report

/-- The error of an activation is one of the settings where they allow no attempt, and operational
otherwise. -/
theorem run_fails (transport : Transport σ) (device : String) (policy : RetryPolicy)
    (request : Request) {m : σ} {result : Except Error BackgroundStatus}
    (hresult : (run transport device policy request m).result = .ok result) :
  (policy.maxAttempts = 0 → ∃ text, result = .error (.config text))
    ∧ (policy.maxAttempts ≠ 0 → ∀ error, result = .error error → error.IsOperational)
  := by
  constructor
  · intro hzero
    obtain ⟨text, hinvalid⟩ : ∃ text, policy.validate = .error (.config text) := by
      rw [RetryPolicy.validate, if_pos hzero]
      exact ⟨_, rfl⟩
    rw [run, hinvalid] at hresult
    cases hresult
    exact ⟨text, rfl⟩
  · intro hmax
    have hvalid : policy.validate = .ok () := by
      rw [RetryPolicy.validate, if_neg hmax]
    exact run_operational hvalid transport device request m result hresult

end Activation

end CxlFirmware
