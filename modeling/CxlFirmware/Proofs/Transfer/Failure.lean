import CxlFirmware.Proofs.Attempts
import CxlFirmware.Proofs.Transfer.Groups

/-!
# Failed transfers

`FirstFailure` says which step of a transfer fails first, why, and after which submissions.
The transfer then ends with one repeated abort, and its error tells of that step and of the
error of its loop; the abort is told apart from it.  Where another mailbox gives the same
answers up to the failure, by the same clock, the same step fails there for the same reason.  A
transfer ends the program only where an answer does, or where there is no payload for an abort.
-/

namespace CxlFirmware

namespace Transfer

variable {σ τ : Type}

/-! ## The first failure -/

/-- Number `i` is the first step of the plan that fails, for the reason `source`; until then
the transfer submits `trace` and leads to the mailbox `m'`. -/
def FirstFailure (transport : Transport σ) (config : Config) (plan : Plan) (m : σ) (i : Nat)
    (step : Step) (source : Error) (trace : List Submission) (m' : σ) : Prop :=
  ∃ before after trace₁ delays₁ m₁ trace₂ delays₂,
    plan.steps = before ++ step :: after ∧ before.length = i
      ∧ Sent transport config before m trace₁ delays₁ m₁
      ∧ StepStops transport config step m₁ (.ok source) trace₂ delays₂ m'
      ∧ trace = trace₁ ++ trace₂

/-- All steps of the plan are done; the transfer submits `trace` and leads to the
mailbox `m'`. -/
def NoFailure (transport : Transport σ) (config : Config) (plan : Plan) (m : σ)
    (trace : List Submission) (m' : σ) : Prop :=
  ∃ delays, Sent transport config plan.steps m trace delays m'

section

variable {transport : Transport σ} {transport' : Transport τ} {config : Config} {step : Step}
  {steps : List Step} {m m' : σ} {n n' : τ} {trace : List Submission} {delays : List Duration}
  (hclock : transport.InStep transport')
include hclock

/-- A step is done by another mailbox that gives the same answers. -/
theorem StepDone.mirror (h : StepDone transport config step m trace delays m')
    (hpath : transport'.Yields n trace n') :
  StepDone transport' config step n trace delays n'
  := by
  obtain ⟨h, h'⟩ := h
  obtain ⟨n₁, hpath₁, hpath₂⟩ := hpath.split
  constructor
  · exact Mailbox.mirrors_submit_withRetry hclock _ _ _ _ _ _ _ _ h _ _ hpath₁
  · exact Poll.mirrors_untilDone hclock _ _ _ _ _ _ _ h' _ _ hpath₂

/-- A step stops for the same reason where another mailbox gives the same answers. -/
theorem StepStops.mirror {stop : Except Fault Error}
    (h : StepStops transport config step m stop trace delays m')
    (hpath : transport'.Yields n trace n') :
  StepStops transport' config step n stop trace delays n'
  := by
  cases h with
  | submit h =>
      apply StepStops.submit
      exact Mailbox.mirrors_submit_withRetry hclock _ _ _ _ _ _ _ _ h _ _ hpath
  | confirm h h' =>
      obtain ⟨n₁, hpath₁, hpath₂⟩ := hpath.split
      apply StepStops.confirm
      · exact Mailbox.mirrors_submit_withRetry hclock _ _ _ _ _ _ _ _ h _ _ hpath₁
      · exact Poll.mirrors_untilDone hclock _ _ _ _ _ _ _ h' _ _ hpath₂

/-- Steps are done by another mailbox that gives the same answers. -/
theorem Sent.mirror (h : Sent transport config steps m trace delays m')
    (hpath : transport'.Yields n trace n') :
  Sent transport' config steps n trace delays n'
  := by
  induction h generalizing n with
  | nil m =>
      cases hpath
      exact .nil _
  | cons hdone hsent ih =>
      obtain ⟨n₁, hpath₁, hpath₂⟩ := hpath.split
      exact .cons (hdone.mirror hclock hpath₁) (ih hpath₂)

variable {plan : Plan} {i : Nat} {source : Error}

/-- The first failure is the same where another mailbox gives the same answers up to it. -/
theorem FirstFailure.mirror (h : FirstFailure transport config plan m i step source trace m')
    (hpath : transport'.Yields n trace n') :
  FirstFailure transport' config plan n i step source trace n'
  := by
  obtain ⟨before, after, trace₁, delays₁, m₁, trace₂, delays₂, hsteps, hindex, hsent, hstop,
    rfl⟩ := h
  obtain ⟨n₁, hpath₁, hpath₂⟩ := hpath.split
  exact ⟨before, after, trace₁, delays₁, n₁, trace₂, delays₂, hsteps, hindex,
    hsent.mirror hclock hpath₁, hstop.mirror hclock hpath₂, rfl⟩

end

/-! ## How a transfer ends the program -/

section

variable {transport : Transport σ} {config : Config} (hvalid : config.validate = .ok ())
  (hretry : transport.Times config.stepRetry)
include hvalid hretry

theorem submitAbort_relays (hreserved : reserve config = .ok ()) :
  (submitAbort transport config).Relays
  := by
  obtain ⟨-, hvalidRetry, -⟩ := config.validate_eq_ok hvalid
  rw [submitAbort_of_reserved hreserved]
  exact Mailbox.submit_relays _ _ hvalidRetry hretry

theorem abort_relays (device : String) (hreserved : reserve config = .ok ()) :
  (abort transport device config).Relays
  := by
  apply Workflow.Relays.of_quiet
  rw [quiet_abort]
  apply Workflow.Relays.bind
  · exact (submitAbort_relays hvalid hretry hreserved).quiet
  · intro outcome
    apply Workflow.Relays.pure

variable (hpoll : transport.Times config.poll)
include hpoll

theorem sendStep_relays (device : String) (step : Step) :
  (sendStep transport device config step).Relays
  := by
  obtain ⟨-, hvalidRetry, hvalidPoll⟩ := config.validate_eq_ok hvalid
  apply Workflow.Relays.of_quiet
  rw [quiet_sendStep]
  apply Workflow.Relays.bind
  · exact (Mailbox.submit_relays _ _ hvalidRetry hretry).quiet
  · intro outcome
    cases outcome with
    | error error => apply Workflow.Relays.pure
    | ok reply =>
        apply Workflow.Relays.bind
        · exact (Poll.untilDone_relays _ hvalidPoll hpoll).quiet
        · intro outcome
          cases outcome with
          | error error => apply Workflow.Relays.pure
          | ok report => apply Workflow.Relays.pure

theorem sendSteps_relays (device : String) (plan : Plan) (hreserved : reserve config = .ok ())
    (steps : List Step) (cursor : Cursor) :
  (sendSteps transport device config plan steps cursor).Relays
  := by
  induction steps generalizing cursor with
  | nil => apply Workflow.Relays.pure
  | cons step rest ih =>
      apply Workflow.Relays.of_quiet
      rw [quiet_sendSteps]
      apply Workflow.Relays.bind
      · exact (sendStep_relays hvalid hretry hpoll device step).quiet
      · intro outcome
        cases outcome with
        | error source =>
            apply Workflow.Relays.bind
            · exact (abort_relays hvalid hretry device hreserved).quiet
            · intro aborted
              apply Workflow.Relays.pure
        | ok _ => exact (ih _).quiet

/-- A transfer that can be told each time whether it is late ends the program only where an answer
does, if there can be a payload for an abort. -/
theorem run_relays {image : Image} {plan : Plan} (hplan : config.plan image = .ok plan)
    (hreserved : reserve config = .ok ()) (device : String) :
  (run transport device config image).Relays
  := by
  apply Workflow.Relays.of_quiet
  rw [quiet_run hvalid hplan]
  apply Workflow.Relays.bind
  · exact (sendSteps_relays hvalid hretry hpoll device plan hreserved _ _).quiet
  · intro outcome
    cases outcome with
    | error error => apply Workflow.Relays.pure
    | ok bytes =>
        cases config.mock with
        | false => apply Workflow.Relays.pure
        | true =>
            apply Workflow.Relays.bind
            · exact (abort_relays hvalid hretry device hreserved).quiet
            · intro aborted
              apply Workflow.Relays.pure

end

/-! ## Every transfer fails first at one step, or at none -/

section

variable {transport : Transport σ} {config : Config} {image : Image} {plan : Plan} {step : Step}
  {steps : List Step} {i : Nat} {source : Error} {m m' : σ} {trace : List Submission}
  {delays : List Duration}

/-- A transfer that does not end the program has a step that fails first, or none. -/
theorem noFailure_or_firstFailure (device : String) (hvalid : config.validate = .ok ())
    (hplan : config.plan image = .ok plan)
    (hends : ∃ result, (run transport device config image m).result = .ok result) :
  (∃ trace m', NoFailure transport config plan m trace m')
    ∨ ∃ i step source trace m', FirstFailure transport config plan m i step source trace m'
  := by
  rcases sent_or_stops transport config plan.steps m with ⟨trace, delays, m', hsent⟩
    | ⟨before, step, after, trace, delays, m₁, stop, trace', delays', m', hsteps, hsent, hstop⟩
  · exact .inl ⟨trace, m', delays, hsent⟩
  · cases stop with
    | ok source =>
        exact .inr ⟨before.length, step, source, _, m', before, after, trace, delays, m₁, trace',
          delays', hsteps, rfl, hsent, hstop, rfl⟩
    | error fault =>
        obtain ⟨result, hresult⟩ := hends
        have hrun := run_of_fault device hvalid hplan hsteps hsent hstop
        cases hrun.result_eq.symm.trans hresult

/-- From the mailbox `m`, the loop of an abort comes to `outcome` and has the trace `aborts`:
the command of the abort, repeated while the answers are retryable, where there is no error
exactly when the last answer is one of success. -/
def Aborts (transport : Transport σ) (config : Config) (m : σ) (outcome : Except Error Bytes)
    (aborts : List Submission) : Prop :=
  (∃ delays m', (submitAbort transport config).Gives m (.ok outcome) aborts delays m')
    ∧ Repeated config.stepRetry.maxAttempts.toNat config.abortCommand Answer.IsRetryable
      (fun last => errorText outcome = none ↔ last.IsSuccess) aborts

theorem aborts_of_gives_ok (hvalid : config.validate = .ok ()) {outcome : Except Error Bytes}
    {aborts : List Submission}
    (h : (submitAbort transport config).Gives m (.ok outcome) aborts delays m') :
  Aborts transport config m outcome aborts
  := by
  obtain ⟨hrepeated, -⟩ := submitAbort_repeated hvalid (reserved_of_gives h) h
  refine ⟨⟨_, _, h⟩, ?_⟩
  apply hrepeated.mono
  intro last hlast
  rw [hlast]
  cases outcome with
  | error error => simp [errorText]
  | ok reply => simp [errorText]

/-! ## What is submitted up to the first failure -/

/-- The groups of steps have no commands but those of the steps and the status query. -/
theorem command_of_groups {groups : List (List Submission)}
    (hgroups : List.Forall₂ config.Group steps groups) {s : Submission}
    (hs : s ∈ groups.flatten) :
  s.command = config.statusCommand ∨ ∃ step ∈ steps, s.command = config.command step
  := by
  induction hgroups with
  | nil => cases hs
  | @cons step group steps groups hgroup hgroups ih =>
      rw [List.flatten_cons] at hs
      rcases List.mem_append.mp hs with hs | hs
      · obtain ⟨sent, confirmed, rfl, hsent, hconfirmed⟩ := hgroup
        rcases List.mem_append.mp hs with hs | hs
        · exact .inr ⟨step, List.mem_cons_self, hsent.mem_command hs⟩
        · exact .inl (hconfirmed.mem_command hs)
      · rcases ih hs with hstatus | ⟨step', hstep', hcommand⟩
        · exact .inl hstatus
        · exact .inr ⟨step', List.mem_cons_of_mem _ hstep', hcommand⟩

theorem command_of_cutOff (hcut : config.CutOff step trace) {s : Submission} (hs : s ∈ trace) :
  s.command = config.statusCommand ∨ s.command = config.command step
  := by
  cases hcut with
  | sent h => exact .inr (h.mem_command hs)
  | confirmed h h' =>
      rcases List.mem_append.mp hs with hs | hs
      · exact .inr (h.mem_command hs)
      · exact .inl (h'.mem_command hs)

/-- Up to the first failure, there are no commands but the status query and those of the
steps up to the one that fails. -/
theorem FirstFailure.command (hvalid : config.validate = .ok ())
    (h : FirstFailure transport config plan m i step source trace m') {s : Submission}
    (hs : s ∈ trace) :
  s.command = config.statusCommand
    ∨ ∃ step ∈ plan.steps.take (i + 1), s.command = config.command step
  := by
  obtain ⟨before, after, trace₁, delays₁, m₁, trace₂, delays₂, hsteps, rfl, hsent, hstop,
    rfl⟩ := h
  have htake : plan.steps.take (before.length + 1) = before ++ [step] := by
    rw [hsteps, List.append_cons]
    apply List.take_left'
    simp
  rw [htake]
  obtain ⟨groups, rfl, hgroups⟩ := groups_of_sent hvalid hsent
  rcases List.mem_append.mp hs with hs | hs
  · rcases command_of_groups hgroups hs with hstatus | ⟨step', hstep', hcommand⟩
    · exact .inl hstatus
    · exact .inr ⟨step', List.mem_append_left _ hstep', hcommand⟩
  · rcases command_of_cutOff (cutOff_of_stops hvalid hstop) hs with hstatus | hcommand
    · exact .inl hstatus
    · exact .inr ⟨step, List.mem_append_right _ List.mem_cons_self, hcommand⟩

theorem NoFailure.command (hvalid : config.validate = .ok ())
    (h : NoFailure transport config plan m trace m') {s : Submission} (hs : s ∈ trace) :
  s.command = config.statusCommand ∨ ∃ step ∈ plan.steps, s.command = config.command step
  := by
  obtain ⟨delays, hsent⟩ := h
  obtain ⟨groups, rfl, hgroups⟩ := groups_of_sent hvalid hsent
  exact command_of_groups hgroups hs

end

/-! ## How a transfer fails -/

section

variable {transport : Transport σ} {config : Config} {image : Image} {plan : Plan} {step : Step}
  {i : Nat} {source : Error} {m m' : σ} {trace : List Submission}

/-- A transfer that does not end the program ends at its first failure, with one repeated
abort. -/
theorem run_of_firstFailure (device : String) (hvalid : config.validate = .ok ())
    (hplan : config.plan image = .ok plan)
    (h : FirstFailure transport config plan m i step source trace m')
    (hends : ∃ result, (run transport device config image m).result = .ok result) :
  ∃ outcome aborts, Aborts transport config m' outcome aborts
    ∧ (run transport device config image m).result
      = .ok (.error (.transferFailed i step.action source (errorText outcome)))
    ∧ (run transport device config image m).submissions = trace ++ aborts
  := by
  obtain ⟨before, after, trace₁, delays₁, m₁, trace₂, delays₂, hsteps, rfl, hsent, hstop,
    rfl⟩ := h
  have habort := Workflow.Gives.self (submitAbort transport config) m'
  cases houtcome : (submitAbort transport config m').result with
  | error fault =>
      rw [houtcome] at habort
      obtain ⟨result, hresult⟩ := hends
      have hrun := run_of_abort_fault device hvalid hplan hsteps hsent hstop habort
      cases hrun.result_eq.symm.trans hresult
  | ok outcome =>
      rw [houtcome] at habort
      have hrun := run_of_fails device hvalid hplan hsteps hsent hstop habort
      have hstep : plan.steps[before.length]? = some step := by
        rw [hsteps]
        simp
      rw [(config.plan_step hplan hstep).1, ← List.append_assoc] at hrun
      exact ⟨outcome, _, aborts_of_gives_ok hvalid habort, hrun.result_eq, hrun.submissions_eq⟩

/-- A transfer without a failed step is complete, or it is a mock transfer and aborted, or it ends
the program. -/
theorem run_of_noFailure (device : String) (hvalid : config.validate = .ok ())
    (hplan : config.plan image = .ok plan)
    (h : NoFailure transport config plan m trace m') :
  (config.mock = false →
      (run transport device config image m).result
        = .ok (.ok (.completed plan.steps.length image.size))
      ∧ (run transport device config image m).submissions = trace)
    ∧ (config.mock = true →
      (∃ result, (run transport device config image m).result = .ok result) →
      ∃ outcome aborts, Aborts transport config m' outcome aborts
        ∧ (run transport device config image m).result
          = .ok (.ok (.mockAborted (errorText outcome)))
        ∧ (run transport device config image m).submissions = trace ++ aborts)
  := by
  obtain ⟨delays, hsent⟩ := h
  constructor
  · intro hmock
    have hrun := run_of_sent device hvalid hplan hmock hsent
    rw [config.plan_byteCount hplan hmock] at hrun
    exact ⟨hrun.result_eq, hrun.submissions_eq⟩
  · intro hmock hends
    have habort := Workflow.Gives.self (submitAbort transport config) m'
    cases houtcome : (submitAbort transport config m').result with
    | error fault =>
        rw [houtcome] at habort
        obtain ⟨result, hresult⟩ := hends
        have hrun := run_of_mock_fault device hvalid hplan hmock hsent habort
        cases hrun.result_eq.symm.trans hresult
    | ok outcome =>
        rw [houtcome] at habort
        have hrun := run_of_mock device hvalid hplan hmock hsent habort
        exact ⟨outcome, _, aborts_of_gives_ok hvalid habort, hrun.result_eq, hrun.submissions_eq⟩

/-- If a transfer fails, one of its steps did. -/
theorem run_fails (device : String) (hvalid : config.validate = .ok ())
    (hplan : config.plan image = .ok plan) {error : Error}
    (h : (run transport device config image m).result = .ok (.error error)) :
  ∃ i action source abortError, error = .transferFailed i action source abortError
  := by
  have hends : ∃ result, (run transport device config image m).result = .ok result := ⟨_, h⟩
  rcases noFailure_or_firstFailure device hvalid hplan hends with ⟨trace, m', hnone⟩
    | ⟨i, step, source, trace, m', hfirst⟩
  · obtain ⟨hwhole, hmocked⟩ := run_of_noFailure device hvalid hplan hnone
    cases hmock : config.mock with
    | false => cases (hwhole hmock).1.symm.trans h
    | true =>
        obtain ⟨outcome, aborts, -, hresult, -⟩ := hmocked hmock hends
        cases hresult.symm.trans h
  · obtain ⟨outcome, aborts, -, hresult, -⟩ := run_of_firstFailure device hvalid hplan hfirst hends
    cases hresult.symm.trans h
    exact ⟨i, step.action, source, errorText outcome, rfl⟩

end

/-- A transfer whose loops can tell each time whether they are late, and for whose abort there can
be a payload, ends the program only where an answer does.  If something comes back for each command,
it either has a step that fails first, or none.  In the first case its error names that step and
has the error of its loop as the source, no later step is submitted, and it ends with one repeated
abort, whose own error, if any, is told in the last field; with another mailbox that gives the same
answers up to the failure by the same clock, the error has the same step, action and source.  In
the second case it is complete without an abort, or it is a mock transfer with one. -/
theorem run_fails_with_first_failure (transport : Transport σ) (device : String)
    {config : Config} {image : Image} {plan : Plan} (hvalid : config.validate = .ok ())
    (hplan : config.plan image = .ok plan) (hreserved : reserve config = .ok ())
    (hretry : transport.Times config.stepRetry) (hpoll : transport.Times config.poll) (m : σ) :
  (∀ fault, (run transport device config image m).result = .error fault →
      ∃ s ∈ (run transport device config image m).submissions, s.answer = .error fault)
    ∧ ((run transport device config image m).Answered →
      (∃ trace m', NoFailure transport config plan m trace m')
        ∨ ∃ i step source trace m', FirstFailure transport config plan m i step source trace m')
    ∧ (∀ i step source trace m', FirstFailure transport config plan m i step source trace m' →
      (∀ s ∈ trace, s.command = config.statusCommand
        ∨ ∃ step ∈ plan.steps.take (i + 1), s.command = config.command step)
      ∧ ((run transport device config image m).Answered →
        ∃ outcome aborts, Aborts transport config m' outcome aborts
          ∧ (run transport device config image m).result
            = .ok (.error (.transferFailed i step.action source (errorText outcome)))
          ∧ (run transport device config image m).submissions = trace ++ aborts)
      ∧ ∀ (τ : Type) (transport' : Transport τ) (n n' : τ), transport.InStep transport' →
        transport'.Yields n trace n' → (run transport' device config image n).Answered →
        ∃ abortError aborts, (run transport' device config image n).result
            = .ok (.error (.transferFailed i step.action source abortError))
          ∧ (run transport' device config image n).submissions = trace ++ aborts)
    ∧ ∀ trace m', NoFailure transport config plan m trace m' →
      (config.mock = false →
        (run transport device config image m).result
          = .ok (.ok (.completed plan.steps.length image.size))
        ∧ (run transport device config image m).submissions = trace
        ∧ ∀ s ∈ trace, s.command ≠ config.abortCommand)
      ∧ (config.mock = true → (run transport device config image m).Answered →
        ∃ outcome aborts, Aborts transport config m' outcome aborts
          ∧ (run transport device config image m).result
            = .ok (.ok (.mockAborted (errorText outcome)))
          ∧ (run transport device config image m).submissions = trace ++ aborts)
  := by
  have hrelays := run_relays hvalid hretry hpoll hplan hreserved device
  constructor
  · exact hrelays m
  constructor
  · intro hanswered
    exact noFailure_or_firstFailure device hvalid hplan (hrelays.result hanswered)
  constructor
  · intro i step source trace m' h
    constructor
    · intro s hs
      exact h.command hvalid hs
    constructor
    · intro hanswered
      exact run_of_firstFailure device hvalid hplan h (hrelays.result hanswered)
    · intro τ transport' n n' hclock hpath hanswered
      have hrelays' := run_relays hvalid (hretry.inStep m hclock) (hpoll.inStep m hclock) hplan
        hreserved device
      obtain ⟨outcome, aborts, -, hresult, hsubmissions⟩ :=
        run_of_firstFailure device hvalid hplan (h.mirror hclock hpath) (hrelays'.result hanswered)
      exact ⟨errorText outcome, aborts, hresult, hsubmissions⟩
  · intro trace m' h
    obtain ⟨hwhole, hmocked⟩ := run_of_noFailure device hvalid hplan h
    constructor
    · intro hmock
      obtain ⟨hresult, hsubmissions⟩ := hwhole hmock
      refine ⟨hresult, hsubmissions, ?_⟩
      intro s hs
      rcases h.command hvalid hs with hstatus | ⟨step, hstep, hcommand⟩
      · rw [hstatus]
        exact (config.opcode_ne_statusCommand _).symm
      · rw [hcommand]
        obtain ⟨i, hi⟩ := List.mem_iff_getElem?.mp hstep
        exact config.command_ne_abortCommand hplan hi
    · intro hmock hanswered
      exact hmocked hmock (hrelays.result hanswered)

/-- The answers of a device that refuses a block and then takes the abort. -/
def averse : Script where
  answers := [.ok ⟨Status.internalError.code, []⟩]
  fallback := .ok ⟨Status.success.code, []⟩

theorem run_fails_with_first_failure_averse :
  let run := run (Script.transport "mem0") "mem0" (.new .specDefined 2)
    ⟨[0xaa, 0xbb], none, nofun⟩ averse
  ∃ i step source trace m' outcome aborts,
    FirstFailure (Script.transport "mem0") (.new .specDefined 2)
      ⟨[⟨0, .end, 0, [0xaa, 0xbb]⟩], 2⟩ averse i step source trace m'
    ∧ Aborts (Script.transport "mem0") (.new .specDefined 2) m' outcome aborts
    ∧ run.result = .ok (.error (.transferFailed i step.action source (errorText outcome)))
    ∧ run.submissions = trace ++ aborts
  := by
  intro run
  have hother : completed? run.result = none := by
    decide +kernel
  have hvalid : (Config.new .specDefined 2).validate = .ok () := rfl
  have hplan : (Config.new .specDefined 2).plan ⟨[0xaa, 0xbb], none, nofun⟩
      = .ok ⟨[⟨0, .end, 0, [0xaa, 0xbb]⟩], 2⟩ := rfl
  have htimes : (Script.transport "mem0").Times (Config.new .specDefined 2).stepRetry :=
    Transport.times_of_none _ rfl
  have htimes' : (Script.transport "mem0").Times (Config.new .specDefined 2).poll :=
    Transport.times_of_none _ rfl
  have hanswered : run.Answered := (follows_run _ _ _ _).answered_of_script averse
  obtain ⟨-, hcases, hfails, hwhole⟩ := run_fails_with_first_failure (Script.transport "mem0")
    "mem0" hvalid hplan rfl htimes htimes' averse
  rcases hcases hanswered with ⟨trace, m', h⟩ | ⟨i, step, source, trace, m', h⟩
  · obtain ⟨hresult, -⟩ := (hwhole trace m' h).1 rfl
    rw [hresult] at hother
    cases hother
  · obtain ⟨-, hends, -⟩ := hfails i step source trace m' h
    obtain ⟨outcome, aborts, haborts, hresult, hsubmissions⟩ := hends hanswered
    exact ⟨i, step, source, trace, m', outcome, aborts, h, haborts, hresult, hsubmissions⟩

end Transfer

end CxlFirmware
