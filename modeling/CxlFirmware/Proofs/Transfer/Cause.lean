import CxlFirmware.Proofs.Transfer.Failure

/-!
# Causes of failure

Which of the two loops of a step makes a transfer fail.  A step is `Unsubmitted` when its
submission fails, and `Unconfirmed` when its submission succeeds and the polls fail.  A failed
transfer has done the steps before, has failed at one of its steps in one of these ways, and
has then been aborted.
-/

namespace CxlFirmware

variable {σ : Type}

/-- A loop of polls gave up before the operation had ended. -/
def Error.IsTimeout (error : Error) : Prop :=
  (∃ opcode attempts percent, error = .pollExhausted opcode attempts percent)
    ∨ ∃ what limit attempts, error = .deadlineExceeded what limit attempts

/-- Polls without a report of success gave up, or had an answer that is neither pending nor a
report of success, and no fault. -/
theorem Poll.timeout_or_failed {query : StatusQuery} {policy : RetryPolicy}
    {transport : Transport σ} {m : σ} (hvalid : policy.validate = .ok ()) {error : Error}
    (h : (untilDone transport query policy m).result = .ok (.error error)) :
  error.IsTimeout ∨ ∃ s ∈ (untilDone transport query policy m).submissions,
    (∃ receipt, s.answer = .ok receipt) ∧ ¬ query.IsPending s.answer
      ∧ ¬ query.IsConfirmed s.answer
  := by
  rw [← Workflow.result_quiet, quiet_untilDone] at h
  rw [← Workflow.submissions_quiet, quiet_untilDone]
  obtain ⟨waited, last, reason, hsubmissions, -, hafter, rfl⟩ :=
    Retry.inquiry_gave_up (judges query) hvalid h
  cases hafter with
  | @failed previous error hfailed =>
      right
      rw [hsubmissions]
      refine ⟨⟨_, last⟩, List.mem_map_of_mem List.mem_append_cons_self, ?_, ?_, ?_⟩
      · cases last with
        | error fault => cases hfailed
        | ok receipt => exact ⟨receipt, rfl⟩
      · rw [← (judges query).pending_iff previous, hfailed]
        nofun
      · rw [← (judges query).done_iff previous, hfailed]
        nofun
  | @exhausted previous seen attempts =>
      cases seen with
      | none => exact .inl (.inl ⟨_, _, _, rfl⟩)
      | some seen => exact .inl (.inl ⟨_, _, _, rfl⟩)
  | deadline => exact .inl (.inr ⟨_, _, _, rfl⟩)

namespace Transfer

/-! ## How a step fails -/

/-- The steps of the plan before `step` are done, which leads from `m` to `m'`. -/
def Reached (transport : Transport σ) (config : Config) (plan : Plan) (step : Step)
    (m m' : σ) : Prop :=
  ∃ before after trace delays, plan.steps = before ++ step :: after
    ∧ Sent transport config before m trace delays m'

/-- The submission of a step fails. -/
def Unsubmitted (transport : Transport σ) (config : Config) (step : Step) (source : Error)
    (m m' : σ) : Prop :=
  ∃ trace delays, (submitStep transport config step).Gives m (.ok (.error source)) trace delays m'

/-- The submission of a step succeeds, and the polls for it fail. -/
def Unconfirmed (transport : Transport σ) (config : Config) (step : Step) (source : Error)
    (m m' : σ) : Prop :=
  ∃ reply trace delays m₁ trace' delays',
    (submitStep transport config step).Gives m (.ok (.ok reply)) trace delays m₁
    ∧ (confirmStep transport config).Gives m₁ (.ok (.error source)) trace' delays' m'

/-- The abort that follows on a failure, with the text of its own failure, if it failed. -/
def Abandoned (transport : Transport σ) (config : Config) (abortError : Option String)
    (m m' : σ) : Prop :=
  ∃ outcome trace delays, (submitAbort transport config).Gives m (.ok outcome) trace delays m'
    ∧ errorText outcome = abortError

section

variable {transport : Transport σ} {config : Config} {step : Step} {source : Error}
  {trace : List Submission} {delays : List Duration} {m m' : σ}

theorem StepStops.cause (h : StepStops transport config step m (.ok source) trace delays m') :
  Unsubmitted transport config step source m m' ∨ Unconfirmed transport config step source m m'
  := by
  cases h with
  | submit h => exact .inl ⟨_, _, h⟩
  | confirm h h' => exact .inr ⟨_, _, _, _, _, _, h, h'⟩

/-! ## Where the loops of a step lead -/

theorem yields_of_submitStep {result : Except Fault (Except Error Bytes)}
    (h : (submitStep transport config step).Gives m result trace delays m') :
  transport.Yields m trace m'
  := by
  have hfollows : (submitStep transport config step).Follows transport fun _ => True :=
    Mailbox.follows_submit_withRetry _ _ _ trivial
  exact hfollows.yields h

theorem yields_of_confirmStep {result : Except Fault (Except Error BackgroundStatus)}
    (h : (confirmStep transport config).Gives m result trace delays m') :
  transport.Yields m trace m'
  := by
  have hfollows : (confirmStep transport config).Follows transport fun _ => True :=
    Poll.follows_untilDone _ _ trivial
  exact hfollows.yields h

theorem yields_of_submitAbort {result : Except Fault (Except Error Bytes)}
    (h : (submitAbort transport config).Gives m result trace delays m') :
  transport.Yields m trace m'
  := by
  have hfollows : (submitAbort transport config).Follows transport fun _ => True :=
    follows_submitAbort trivial
  exact hfollows.yields h

theorem yields_of_sent {steps : List Step}
    (h : Sent transport config steps m trace delays m') :
  transport.Yields m trace m'
  := by
  induction h with
  | nil m => exact .nil m
  | cons hdone _ ih =>
      obtain ⟨h, h'⟩ := hdone
      exact ((yields_of_submitStep h).append (yields_of_confirmStep h')).append ih

/-- A step is submitted: it is put off for a while, and then taken with success. -/
def Submitted (transport : Transport σ) (config : Config) (step : Step) (m m' : σ) : Prop :=
  ∃ (waited : List Answer) (taken : Answer),
    transport.Yields m ((waited ++ [taken]).map (.mk (config.command step))) m'
    ∧ (∀ answer ∈ waited, ¬ answer.IsSuccess) ∧ taken.IsSuccess

theorem submitted_of_gives (hvalid : config.validate = .ok ()) {reply : Bytes}
    (h : (submitStep transport config step).Gives m (.ok (.ok reply)) trace delays m') :
  Submitted transport config step m m'
  := by
  obtain ⟨⟨waited, taken, rfl, -, hwaits, htaken⟩, -⟩ := submitStep_repeated hvalid h
  refine ⟨waited, taken, yields_of_submitStep h, ?_, htaken.mpr ⟨reply, rfl⟩⟩
  intro answer hanswer
  exact (Mailbox.judges config.kind.opcode).exclusive answer (hwaits answer hanswer)

/-- The answers to a step that is not submitted are none of success. -/
theorem Unsubmitted.yields (hvalid : config.validate = .ok ())
    (h : Unsubmitted transport config step source m m') :
  ∃ answers : List Answer, transport.Yields m (answers.map (.mk (config.command step))) m'
    ∧ ∀ answer ∈ answers, ¬ answer.IsSuccess
  := by
  obtain ⟨trace, delays, h⟩ := h
  obtain ⟨⟨waited, last, rfl, -, hwaits, hlast⟩, -⟩ := submitStep_repeated hvalid h
  refine ⟨waited ++ [last], yields_of_submitStep h, ?_⟩
  intro answer hanswer
  rcases List.mem_append.mp hanswer with hanswer | hanswer
  · exact (Mailbox.judges config.kind.opcode).exclusive answer (hwaits answer hanswer)
  · obtain rfl := List.mem_singleton.mp hanswer
    rw [hlast]
    simp

/-- A step that is done is submitted, and the last poll for it reports success. -/
theorem StepDone.yields (hvalid : config.validate = .ok ())
    (h : StepDone transport config step m trace delays m') :
  ∃ (m₁ : σ) (polls : List Answer) (last : Answer), Submitted transport config step m m₁
    ∧ transport.Yields m₁ ((polls ++ [last]).map (.mk config.statusCommand)) m'
    ∧ config.kind.statusQuery.IsConfirmed last
  := by
  obtain ⟨h, h'⟩ := h
  obtain ⟨⟨polls, last, rfl, -, -, hlast⟩, -⟩ := confirmStep_repeated hvalid h'
  exact ⟨_, polls, last, submitted_of_gives hvalid h, yields_of_confirmStep h',
    hlast.mpr ⟨_, rfl⟩⟩

/-- A step that is not confirmed is submitted, and no poll for it reports success: the polls
give up, or one of them is neither pending nor a report of success. -/
theorem Unconfirmed.yields (hvalid : config.validate = .ok ())
    (h : Unconfirmed transport config step source m m') :
  ∃ (m₁ : σ) (polls : List Answer) (last : Answer), Submitted transport config step m m₁
    ∧ transport.Yields m₁ ((polls ++ [last]).map (.mk config.statusCommand)) m'
    ∧ (∀ answer ∈ polls ++ [last], ¬ config.kind.statusQuery.IsConfirmed answer)
    ∧ (source.IsTimeout ∨ ∃ answer ∈ polls ++ [last], (∃ receipt, answer = .ok receipt)
      ∧ ¬ config.kind.statusQuery.IsPending answer ∧ ¬ config.kind.statusQuery.IsConfirmed answer)
  := by
  obtain ⟨reply, _, _, m₁, trace, delays, h, h'⟩ := h
  obtain ⟨-, -, hpoll⟩ := config.validate_eq_ok hvalid
  have hgaveUp := Poll.timeout_or_failed hpoll h'.result_eq
  have htrace := h'.submissions_eq
  obtain ⟨⟨polls, last, rfl, -, hpending, hlast⟩, -⟩ := confirmStep_repeated hvalid h'
  refine ⟨m₁, polls, last, submitted_of_gives hvalid h, yields_of_confirmStep h', ?_, ?_⟩
  · intro answer hanswer
    rcases List.mem_append.mp hanswer with hanswer | hanswer
    · intro hconfirmed
      exact (Poll.judges config.kind.statusQuery).exclusive answer (hpending answer hanswer)
        hconfirmed
    · obtain rfl := List.mem_singleton.mp hanswer
      rw [hlast]
      simp
  · apply hgaveUp.imp_right
    rintro ⟨s, hs, hother⟩
    rw [show (Poll.untilDone transport config.kind.statusQuery config.poll m₁).submissions = _
      from htrace] at hs
    obtain ⟨answer, hanswer, rfl⟩ := List.mem_map.mp hs
    exact ⟨answer, hanswer, hother⟩

/-- An abort is repeated, and has no error exactly when its last answer is one of success. -/
theorem Abandoned.yields (hvalid : config.validate = .ok ()) {abortError : Option String}
    (h : Abandoned transport config abortError m m') :
  ∃ (waited : List Answer) (last : Answer),
    transport.Yields m ((waited ++ [last]).map (.mk config.abortCommand)) m'
    ∧ (abortError = none ↔ last.IsSuccess)
  := by
  obtain ⟨outcome, trace, delays, h, rfl⟩ := h
  obtain ⟨⟨waited, last, rfl, -, -, hlast⟩, -⟩ :=
    submitAbort_repeated hvalid (reserved_of_gives h) h
  refine ⟨waited, last, yields_of_submitAbort h, ?_⟩
  rw [hlast]
  cases outcome with
  | error error => simp [errorText]
  | ok reply => simp [errorText]

end

/-! ## What the checks refuse -/

theorem config_of_validateBlockSize {blockSize : Nat} {error : Error}
    (h : validateBlockSize blockSize = .error error) :
  ∃ text, error = .config text
  := by
  rw [validateBlockSize] at h
  split at h
  · cases h
    exact ⟨_, rfl⟩
  · cases h

theorem config_of_retryValidate {policy : RetryPolicy} {error : Error}
    (h : policy.validate = .error error) :
  ∃ text, error = .config text
  := by
  rw [RetryPolicy.validate] at h
  split at h
  · cases h
    exact ⟨_, rfl⟩
  · cases h

/-- Parameters that do not pass the check are refused as a setting. -/
theorem config_of_validate {config : Config} {error : Error}
    (h : config.validate = .error error) :
  ∃ text, error = .config text
  := by
  rw [Config.validate] at h
  cases hsize : validateBlockSize config.blockSize with
  | error error' =>
      rw [hsize] at h
      cases h
      exact config_of_validateBlockSize hsize
  | ok _ =>
      rw [hsize] at h
      cases hretry : config.stepRetry.validate with
      | error error' =>
          rw [hretry] at h
          cases h
          exact config_of_retryValidate hretry
      | ok _ =>
          rw [hretry] at h
          exact config_of_retryValidate h

theorem config_of_number {blockSize last index : Nat} {blocks : List Bytes} {error : Error}
    (h : Plan.number blockSize last index blocks = .error error) :
  ∃ text, error = .config text
  := by
  induction blocks generalizing index with
  | nil => cases h
  | cons block rest ih =>
      rw [Plan.number, offsetOf] at h
      split at h
      · rename_i herror
        split at herror
        · cases herror
        · cases herror
          cases h
          exact ⟨_, rfl⟩
      · cases hrest : Plan.number blockSize last (index + 1) rest with
        | error error' =>
            simp only [hrest] at h
            cases h
            exact ih hrest
        | ok steps =>
            simp only [hrest] at h
            cases h

/-- An image without a plan of the whole of it is refused as a setting. -/
theorem config_of_whole {image : Image} {blockSize : Nat} {error : Error}
    (h : Plan.whole image blockSize = .error error) :
  ∃ text, error = .config text
  := by
  rw [Plan.whole] at h
  cases hsize : validateBlockSize blockSize with
  | error error' =>
      rw [hsize] at h
      cases h
      exact config_of_validateBlockSize hsize
  | ok _ =>
      rw [hsize] at h
      dsimp only at h
      split at h
      · rename_i hnumber
        cases h
        exact config_of_number hnumber
      · cases h

/-- An image without a plan is refused as a setting. -/
theorem config_of_plan {config : Config} {image : Image} {error : Error}
    (h : config.plan image = .error error) :
  ∃ text, error = .config text
  := by
  rw [Config.plan] at h
  split at h
  · rw [Plan.mock] at h
    cases hsize : validateBlockSize config.blockSize with
    | error error' =>
        rw [hsize] at h
        cases h
        exact config_of_validateBlockSize hsize
    | ok _ =>
        rw [hsize] at h
        cases h
  · exact config_of_whole h

/-! ## How a transfer fails -/

/-- The step, the action, the cause and the error of the abort that a failed transfer names. -/
def failure? : Except Fault (Except Error Outcome) → Option (Nat × Action × Error × Option String)
  | .ok (.error (.transferFailed step action source abortError)) =>
    some (step, action, source, abortError)
  | _ => none

theorem failure?_eq_some {result : Except Fault (Except Error Outcome)} {i : Nat}
    {action : Action} {source : Error} {abortError : Option String} :
  failure? result = some (i, action, source, abortError)
    ↔ result = .ok (.error (.transferFailed i action source abortError))
  := by
  rcases result with fault | error | outcome
  · simp [failure?]
  · cases error with
    | transferFailed i' action' source' abortError' => simp [failure?]
    | _ => simp [failure?]
  · simp [failure?]

/-- A transfer whose steps are all done does not fail. -/
theorem not_failed_of_sent {transport : Transport σ} (device : String) {config : Config}
    {image : Image} {plan : Plan} {m m' : σ} {trace : List Submission} {delays : List Duration}
    (hvalid : config.validate = .ok ()) (hplan : config.plan image = .ok plan)
    (hsent : Sent transport config plan.steps m trace delays m') {error : Error} :
  (run transport device config image m).result ≠ .ok (.error error)
  := by
  intro h
  cases hmock : config.mock with
  | false =>
      have hrun := run_of_sent device hvalid hplan hmock hsent
      cases hrun.result_eq.symm.trans h
  | true =>
      have habort := Workflow.Gives.self (submitAbort transport config) m'
      cases hresult : (submitAbort transport config m').result with
      | error fault =>
          rw [hresult] at habort
          have hrun := run_of_mock_fault device hvalid hplan hmock hsent habort
          cases hrun.result_eq.symm.trans h
      | ok outcome =>
          rw [hresult] at habort
          have hrun := run_of_mock device hvalid hplan hmock hsent habort
          cases hrun.result_eq.symm.trans h

/-- A transfer with a plan that fails has a first step that stops with an error, and the abort
behind it comes to an end. -/
theorem abort_of_failed {transport : Transport σ} {device : String} {config : Config}
    {image : Image} {plan : Plan} {m : σ} {error : Error} (hvalid : config.validate = .ok ())
    (hplan : config.plan image = .ok plan)
    (h : (run transport device config image m).result = .ok (.error error)) :
  ∃ before step after trace delays m₁ source trace' delays' m₂ outcome aborts delays'' m',
    plan.steps = before ++ step :: after
      ∧ Sent transport config before m trace delays m₁
      ∧ StepStops transport config step m₁ (.ok source) trace' delays' m₂
      ∧ (submitAbort transport config).Gives m₂ (.ok outcome) aborts delays'' m'
      ∧ error = .transferFailed step.index step.action source (errorText outcome)
      ∧ (run transport device config image).Gives m (.ok (.error error))
        (trace ++ (trace' ++ aborts)) (delays ++ (delays' ++ delays'')) m'
  := by
  rcases sent_or_stops transport config plan.steps m with ⟨trace, delays, m₁, hsent⟩
    | ⟨before, step, after, trace, delays, m₁, stop, trace', delays', m₂, hsteps, hsent, hstop⟩
  · exact absurd h (not_failed_of_sent device hvalid hplan hsent)
  · cases stop with
    | error fault =>
        have hrun := run_of_fault device hvalid hplan hsteps hsent hstop
        cases hrun.result_eq.symm.trans h
    | ok source =>
        have habort := Workflow.Gives.self (submitAbort transport config) m₂
        cases hresult : (submitAbort transport config m₂).result with
        | error fault =>
            rw [hresult] at habort
            have hrun := run_of_abort_fault device hvalid hplan hsteps hsent hstop habort
            cases hrun.result_eq.symm.trans h
        | ok outcome =>
            rw [hresult] at habort
            have hrun := run_of_fails device hvalid hplan hsteps hsent hstop habort
            cases hrun.result_eq.symm.trans h
            exact ⟨before, step, after, trace, delays, m₁, source, trace', delays', m₂, outcome,
              _, _, _, hsteps, hsent, hstop, habort, rfl, hrun⟩

/-- A transfer that fails has parameters or an image that do not pass the checks, and then
nothing is sent; or one of its steps fails, and it is aborted. -/
theorem failed_cases {transport : Transport σ} {device : String} {config : Config}
    {image : Image} {m : σ} {error : Error}
    (h : (run transport device config image m).result = .ok (.error error)) :
  (run transport device config image m).mailbox = m ∧ (∃ text, error = .config text)
    ∨ ∃ plan step m₁ m₂ source abortError, config.validate = .ok ()
      ∧ config.plan image = .ok plan ∧ Reached transport config plan step m m₁
      ∧ (Unsubmitted transport config step source m₁ m₂
        ∨ Unconfirmed transport config step source m₁ m₂)
      ∧ Abandoned transport config abortError m₂ (run transport device config image m).mailbox
      ∧ error = .transferFailed step.index step.action source abortError
  := by
  cases hvalid : config.validate with
  | error error' =>
      left
      rw [run, hvalid] at h ⊢
      cases h
      exact ⟨rfl, config_of_validate hvalid⟩
  | ok _ =>
      cases hplan : config.plan image with
      | error error' =>
          left
          rw [run, hvalid] at h ⊢
          simp only [hplan] at h ⊢
          cases h
          exact ⟨rfl, config_of_plan hplan⟩
      | ok plan =>
          right
          obtain ⟨before, step, after, trace, delays, m₁, source, trace', delays', m₂, outcome,
            aborts, delays'', m', hsteps, hsent, hstop, habort, rfl, hrun⟩ :=
            abort_of_failed hvalid hplan h
          rw [hrun.mailbox_eq]
          exact ⟨plan, step, m₁, m₂, source, errorText outcome, rfl, rfl,
            ⟨before, after, trace, delays, hsteps, hsent⟩, hstop.cause,
            ⟨outcome, _, _, habort, rfl⟩, rfl⟩

end Transfer

end CxlFirmware
