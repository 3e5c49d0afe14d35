import CxlFirmware.Proofs.Exhaustion
import CxlFirmware.Proofs.Transfer.Cause
import CxlFirmware.Proofs.Transfer.Groups

/-!
# Exhaustion and refusal in transfers

A failed transfer has the error of the loop at which its step failed, and tells of the replies
of that loop as the error alone does; the abort behind it makes no difference.
-/

namespace CxlFirmware.Transfer

variable {σ : Type} {transport : Transport σ} {device : String} {config : Config} {image : Image}
  {plan : Plan} {step : Step} {source error : Error} {m m' : σ} {trace : List Submission}
  {delays : List Duration}

/-- A step that stops has the error of the loop that failed. -/
theorem endsPhases_of_stops (hvalid : config.validate = .ok ())
    (h : StepStops transport config step m (.ok source) trace delays m') :
  source.EndsPhases (config.command step) config.stepRetry.maxAttempts.toNat
    config.kind.statusQuery trace
  := by
  obtain ⟨-, hretry, hpoll⟩ := config.validate_eq_ok hvalid
  cases h with
  | submit h =>
      obtain ⟨hresult, rfl, -, -⟩ := h
      exact .submitting (Mailbox.submit_ends hretry hresult)
  | confirm h h' =>
      obtain ⟨hsent, -⟩ := submitStep_repeated hvalid h
      obtain ⟨hresult, rfl, -, -⟩ := h'
      refine .confirming (hsent.mono ?_) (Poll.untilDone_ends hpoll hresult)
      intro last hlast
      exact hlast.mpr ⟨_, rfl⟩

/-- The submissions of a transfer that fails: those of the steps that are done, those of the
step that fails, of which the error tells, and those of an abort. -/
theorem submissions_of_failed (hvalid : config.validate = .ok ())
    (hplan : config.plan image = .ok plan)
    (h : (run transport device config image m).result = .ok (.error error)) :
  ∃ groups step trace aborts source abortError, plan.steps[groups.length]? = some step
    ∧ List.Forall₂ config.Group (plan.steps.take groups.length) groups
    ∧ config.AbortLoop aborts
    ∧ (run transport device config image m).submissions = groups.flatten ++ (trace ++ aborts)
    ∧ source.EndsPhases (config.command step) config.stepRetry.maxAttempts.toNat
      config.kind.statusQuery trace
    ∧ error = .transferFailed groups.length step.action source abortError
  := by
  obtain ⟨before, step, after, trace, delays, m₁, source, trace', delays', m₂, outcome, aborts,
    delays'', m', hsteps, hsent, hstop, habort, rfl, hrun⟩ := abort_of_failed hvalid hplan h
  obtain ⟨groups, rfl, hgroups⟩ := groups_of_sent hvalid hsent
  have hlength := hgroups.length_eq
  have hplace : plan.steps[groups.length]? = some step := by
    rw [hsteps, ← hlength]
    simp
  have htake : plan.steps.take groups.length = before := by
    rw [hsteps, ← hlength, List.take_left' rfl]
  obtain ⟨hindex, -, -⟩ := config.plan_step hplan hplace
  refine ⟨groups, step, trace', aborts, source, errorText outcome, hplace, ?_,
    abortLoop_of_gives hvalid (reserved_of_gives habort) habort, hrun.submissions_eq,
    endsPhases_of_stops hvalid hstop, ?_⟩
  · rw [htake]
    exact hgroups
  · rw [hindex]

/-- Under valid policies, the error of a repeated command and that of a repeated status query tell
of the replies of their loop.  The error of an activation tells of those of the phase that failed,
and so does the cause in the error of a transfer of those at which its step failed, whatever comes
of the abort.  None of these errors asks for the command to be sent again.  Behind transfers that
failed for one another, the innermost cause decides whether an error is exhausted, and which code
it carries. -/
theorem errors_tell_of_replies (transport : Transport σ) (m : σ) :
  (∀ (policy : RetryPolicy) (opcode : Opcode) (payload : Bytes) (error : Error),
      policy.validate = .ok () →
      (Retry.withRetry transport.clock policy
        (Mailbox.submit transport opcode payload) m).result = .ok (.error error) →
      error.EndsCommand ⟨opcode.code, payload⟩ policy.maxAttempts.toNat
        (Retry.withRetry transport.clock policy
          (Mailbox.submit transport opcode payload) m).submissions)
    ∧ (∀ (policy : RetryPolicy) (query : StatusQuery) (error : Error),
      policy.validate = .ok () →
      (Poll.untilDone transport query policy m).result = .ok (.error error) →
      error.EndsPolls query (Poll.untilDone transport query policy m).submissions)
    ∧ (∀ (device : String) (policy : RetryPolicy) (request : Activation.Request) (error : Error),
      policy.validate = .ok () →
      (Activation.run transport device policy request m).result = .ok (.error error) →
      error.isRetryable = false
        ∧ error.EndsPhases request.command policy.maxAttempts.toNat request.kind.statusQuery
          (Activation.run transport device policy request m).submissions)
    ∧ (∀ (device : String) (config : Config) (image : Image) (plan : Plan) (error : Error),
      config.validate = .ok () → config.plan image = .ok plan →
      (run transport device config image m).result = .ok (.error error) →
      ∃ groups step trace aborts source abortError, plan.steps[groups.length]? = some step
        ∧ List.Forall₂ config.Group (plan.steps.take groups.length) groups
        ∧ config.AbortLoop aborts
        ∧ (run transport device config image m).submissions = groups.flatten ++ (trace ++ aborts)
        ∧ source.EndsPhases (config.command step) config.stepRetry.maxAttempts.toNat
          config.kind.statusQuery trace
        ∧ error = .transferFailed groups.length step.action source abortError
        ∧ error.isRetryable = false ∧ source.isRetryable = false
        ∧ error.isExhausted = source.isExhausted ∧ error.deviceStatus = source.deviceStatus)
    ∧ ∀ error : Error, (∀ step action source abortError,
        error.innermost ≠ .transferFailed step action source abortError)
      ∧ error.isExhausted = error.innermost.isExhausted
      ∧ error.deviceStatus = error.innermost.deviceStatus
  := by
  refine ⟨?_, ?_, ?_, ?_, ?_⟩
  · intro policy opcode payload error hvalid h
    exact Mailbox.submit_ends hvalid h
  · intro policy query error hvalid h
    exact Poll.untilDone_ends hvalid h
  · intro device policy request error hvalid h
    have hends := Activation.run_endsPhases hvalid h
    exact ⟨hends.not_retryable, hends⟩
  · intro device config image plan error hvalid hplan h
    obtain ⟨groups, step, trace, aborts, source, abortError, hstep, hgroups, haborts, hsubmissions,
      hends, rfl⟩ := submissions_of_failed hvalid hplan h
    exact ⟨groups, step, trace, aborts, source, abortError, hstep, hgroups, haborts, hsubmissions,
      hends, rfl, rfl, hends.not_retryable, rfl, rfl⟩
  · intro error
    rw [error.isExhausted_innermost, error.deviceStatus_innermost]
    exact ⟨error.innermost_ne_transferFailed, rfl, rfl⟩

/-- The answers of a device that takes a block, works on it for a while, and fails since it is busy
then, and that refuses everything behind that. -/
def overworked : Script where
  answers := [.ok ⟨6, []⟩, .ok ⟨0, []⟩, .ok ⟨0, [0x51, 0, 0x01, 0x02, 0, 0, 0, 0]⟩,
    .ok ⟨0, [0xC8, 0, 0x01, 0x02, 6, 0, 0, 0]⟩]
  fallback := .ok ⟨5, []⟩

/-- The code of a busy device does not make this a failure to be retried or an exhausted budget. -/
theorem errors_tell_of_replies_overworked :
  let run := run (Script.transport "mem0") "mem0" (.new .specDefined 2)
    ⟨[0xaa, 0xbb], none, nofun⟩ overworked
  ∃ error, run.result = .ok (.error error) ∧ error.isRetryable = false
    ∧ error.isExhausted = false ∧ error.deviceStatus = some .busy
    ∧ ∃ trace aborts, run.submissions = trace ++ aborts
      ∧ (Config.new .specDefined 2).AbortLoop aborts
      ∧ Error.EndsPhases ((Config.new .specDefined 2).command ⟨0, .end, 0, [0xaa, 0xbb]⟩) 50 .spec
        (.backgroundFailed 0x0201 .busy) trace
  := by
  intro run
  have hfailed : (failure? run.result).map (fun failure => failure.2.2.1)
      = some (.backgroundFailed 0x0201 .busy) := by
    decide +kernel
  obtain ⟨⟨i, action, cause, abortError⟩, hfailure, rfl⟩ := Option.map_eq_some_iff.mp hfailed
  have hresult := failure?_eq_some.mp hfailure
  have hplan : (Config.new .specDefined 2).plan ⟨[0xaa, 0xbb], none, nofun⟩
      = .ok ⟨[⟨0, .end, 0, [0xaa, 0xbb]⟩], 2⟩ := rfl
  obtain ⟨-, -, -, htransfer, -⟩ := errors_tell_of_replies (Script.transport "mem0") overworked
  obtain ⟨groups, step, trace, aborts, source, abortError', hstep, -, haborts, hsubmissions, hends,
    herror, hretryable, -, hexhausted, hstatus⟩ := htransfer "mem0" _ _ _ _ rfl hplan hresult
  cases herror
  cases groups with
  | nil =>
      cases hstep
      exact ⟨_, hresult, hretryable, hexhausted, hstatus, trace, aborts, hsubmissions, haborts,
        hends⟩
  | cons group groups => cases hstep

end CxlFirmware.Transfer
