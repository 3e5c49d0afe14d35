import Mathlib.Data.List.Forall2
import CxlFirmware.Proofs.Transfer.Course
import CxlFirmware.Script

/-!
# The trace of a transfer

`Config.Group` is the trace of a step that the device has taken: the command of the step,
repeated until it succeeds, and then the status query, repeated until the device reports
success.  The trace of a transfer is made of the groups of the first steps, and after them
of a group that is cut off, if any, and of a repeated abort, if any.
-/

namespace CxlFirmware.Transfer

variable {σ : Type}

/-! ## Groups -/

/-- The trace of a step that is taken and confirmed. -/
def Config.Group (config : Config) (step : Step) (trace : List Submission) : Prop :=
  ∃ sent confirmed, trace = sent ++ confirmed
    ∧ Repeated config.stepRetry.maxAttempts.toNat (config.command step) Answer.IsRetryable
        Answer.IsSuccess sent
    ∧ Repeated config.poll.maxAttempts.toNat config.statusCommand
        config.kind.statusQuery.IsPending config.kind.statusQuery.IsConfirmed confirmed

/-- The trace of a step that is not taken, or not confirmed. -/
inductive Config.CutOff (config : Config) (step : Step) : List Submission → Prop
  | sent {sent : List Submission}
      (h : Repeated config.stepRetry.maxAttempts.toNat (config.command step) Answer.IsRetryable
        (fun last => ¬ last.IsSuccess) sent) :
      CutOff config step sent
  | confirmed {sent confirmed : List Submission}
      (h : Repeated config.stepRetry.maxAttempts.toNat (config.command step) Answer.IsRetryable
        Answer.IsSuccess sent)
      (h' : Repeated config.poll.maxAttempts.toNat config.statusCommand
        config.kind.statusQuery.IsPending
        (fun last => ¬ config.kind.statusQuery.IsConfirmed last) confirmed) :
      CutOff config step (sent ++ confirmed)

/-- The trace of an abort, successful or not. -/
def Config.AbortLoop (config : Config) (trace : List Submission) : Prop :=
  Repeated config.stepRetry.maxAttempts.toNat config.abortCommand Answer.IsRetryable
    (fun _ => True) trace

/-! ## The traces of the loops -/

section

variable {transport : Transport σ} {config : Config} {step : Step} {m m' : σ}
  {trace : List Submission} {delays : List Duration}

/-- The submission of a step repeats its command, with a delay between two attempts, and
gives a reply exactly when the last answer is one of success. -/
theorem submitStep_repeated (hvalid : config.validate = .ok ())
    {result : Except Fault (Except Error Bytes)}
    (h : (submitStep transport config step).Gives m result trace delays m') :
  Repeated config.stepRetry.maxAttempts.toNat (config.command step) Answer.IsRetryable
      (fun last => last.IsSuccess ↔ ∃ reply, result = .ok (.ok reply)) trace
    ∧ delays = List.replicate (trace.length - 1) config.stepRetry.delay
  := by
  obtain ⟨rfl, rfl, rfl, rfl⟩ := h
  obtain ⟨-, hretry, -⟩ := config.validate_eq_ok hvalid
  obtain ⟨hrepeated, hsleeps⟩ := Mailbox.submit_repeats config.kind.opcode
    (TransferRequest.payload step.action config.slot step.offset step.data) hretry transport m
  exact ⟨hrepeated, hsleeps⟩

/-- Polling for a step repeats the status query, and gives a report exactly when the last
answer reports success. -/
theorem confirmStep_repeated (hvalid : config.validate = .ok ())
    {result : Except Fault (Except Error BackgroundStatus)}
    (h : (confirmStep transport config).Gives m result trace delays m') :
  Repeated config.poll.maxAttempts.toNat config.statusCommand config.kind.statusQuery.IsPending
      (fun last => config.kind.statusQuery.IsConfirmed last ↔ ∃ report, result = .ok (.ok report))
      trace
    ∧ delays = List.replicate (trace.length - 1) config.poll.delay
  := by
  obtain ⟨rfl, rfl, rfl, rfl⟩ := h
  obtain ⟨-, -, hpoll⟩ := config.validate_eq_ok hvalid
  obtain ⟨hrepeated, hsleeps⟩ := Poll.untilDone_repeats config.kind.statusQuery hpoll transport m
  exact ⟨hrepeated, hsleeps⟩

/-- The submission of an abort repeats its command, and gives a reply exactly when the last
answer is one of success. -/
theorem submitAbort_repeated (hvalid : config.validate = .ok ())
    (hreserved : reserve config = .ok ()) {result : Except Fault (Except Error Bytes)}
    (h : (submitAbort transport config).Gives m result trace delays m') :
  Repeated config.stepRetry.maxAttempts.toNat config.abortCommand Answer.IsRetryable
      (fun last => last.IsSuccess ↔ ∃ reply, result = .ok (.ok reply)) trace
    ∧ delays = List.replicate (trace.length - 1) config.stepRetry.delay
  := by
  obtain ⟨rfl, rfl, rfl, rfl⟩ := h
  obtain ⟨-, hretry, -⟩ := config.validate_eq_ok hvalid
  obtain ⟨hrepeated, hsleeps⟩ := Mailbox.submit_repeats config.kind.opcode (abortPayload config)
    hretry transport m
  rw [submitAbort_of_reserved hreserved]
  exact ⟨hrepeated, hsleeps⟩

/-- There is a payload for an abort that comes to an end. -/
theorem reserved_of_gives {outcome : Except Error Bytes}
    (h : (submitAbort transport config).Gives m (.ok outcome) trace delays m') :
  reserve config = .ok ()
  := by
  rcases reserved_or_not config with hreserved | hunreserved
  · exact hreserved
  · rw [submitAbort_of_unreserved hunreserved] at h
    cases h.result_eq

theorem abortLoop_of_gives (hvalid : config.validate = .ok ()) (hreserved : reserve config = .ok ())
    {result : Except Fault (Except Error Bytes)}
    (h : (submitAbort transport config).Gives m result trace delays m') :
  config.AbortLoop trace
  := (submitAbort_repeated hvalid hreserved h).1.mono fun _ _ => trivial

/-- The submission of an abort is one loop, or nothing where there can be no payload. -/
theorem aborts_of_gives (hvalid : config.validate = .ok ())
    {result : Except Fault (Except Error Bytes)}
    (h : (submitAbort transport config).Gives m result trace delays m') :
  trace = [] ∨ config.AbortLoop trace
  := by
  rcases reserved_or_not config with hreserved | hunreserved
  · exact .inr (abortLoop_of_gives hvalid hreserved h)
  · rw [submitAbort_of_unreserved hunreserved] at h
    exact .inl h.submissions_eq.symm

/-- The trace of a step that is done is a group. -/
theorem group_of_done (hvalid : config.validate = .ok ())
    (h : StepDone transport config step m trace delays m') :
  config.Group step trace
  := by
  obtain ⟨h, h'⟩ := h
  obtain ⟨hsent, -⟩ := submitStep_repeated hvalid h
  obtain ⟨hconfirmed, -⟩ := confirmStep_repeated hvalid h'
  refine ⟨_, _, rfl, hsent.mono ?_, hconfirmed.mono ?_⟩
  · intro last hlast
    exact hlast.mpr ⟨_, rfl⟩
  · intro last hlast
    exact hlast.mpr ⟨_, rfl⟩

/-- The trace of a step that stops is a group that is cut off. -/
theorem cutOff_of_stops (hvalid : config.validate = .ok ()) {stop : Except Fault Error}
    (h : StepStops transport config step m stop trace delays m') :
  config.CutOff step trace
  := by
  have hvalue : ∀ (α : Type) (value : α), stop.map Except.error ≠ .ok (.ok value) := by
    intro α value hvalue
    cases stop with
    | error fault => cases hvalue
    | ok source => cases hvalue
  cases h with
  | submit h =>
      obtain ⟨hsent, -⟩ := submitStep_repeated hvalid h
      apply Config.CutOff.sent (hsent.mono _)
      rintro last hlast hsuccess
      obtain ⟨reply, hreply⟩ := hlast.mp hsuccess
      exact hvalue _ reply hreply
  | confirm h h' =>
      obtain ⟨hsent, -⟩ := submitStep_repeated hvalid h
      obtain ⟨hconfirmed, -⟩ := confirmStep_repeated hvalid h'
      apply Config.CutOff.confirmed (hsent.mono _) (hconfirmed.mono _)
      · intro last hlast
        exact hlast.mpr ⟨_, rfl⟩
      · intro last hlast hsuccess
        obtain ⟨report, hreport⟩ := hlast.mp hsuccess
        exact hvalue _ report hreport

/-- The trace of steps that are done is made of their groups. -/
theorem groups_of_sent (hvalid : config.validate = .ok ()) {steps : List Step}
    (h : Sent transport config steps m trace delays m') :
  ∃ groups, trace = groups.flatten ∧ List.Forall₂ config.Group steps groups
  := by
  induction h with
  | nil m => exact ⟨[], rfl, .nil⟩
  | cons hdone hsent ih =>
      obtain ⟨groups, rfl, hgroups⟩ := ih
      exact ⟨_ :: groups, rfl, .cons (group_of_done hvalid hdone) hgroups⟩

end

/-! ## The trace of a transfer -/

/-- The trace of a transfer that is not complete: one step is cut off, or the transfer is a
mock transfer and aborted. -/
inductive Config.Interrupted (config : Config) (plan : Plan) : List Submission → Prop
  | mock {groups : List (List Submission)} {aborts : List Submission} (hmock : config.mock = true)
      (hgroups : List.Forall₂ config.Group plan.steps groups)
      (haborts : aborts = [] ∨ config.AbortLoop aborts) :
      Interrupted config plan (groups.flatten ++ aborts)
  | stopped {before after : List Step} {step : Step} {groups : List (List Submission)}
      {cut aborts : List Submission} (hsteps : plan.steps = before ++ step :: after)
      (hgroups : List.Forall₂ config.Group before groups) (hcut : config.CutOff step cut)
      (haborts : aborts = [] ∨ config.AbortLoop aborts) :
      Interrupted config plan (groups.flatten ++ (cut ++ aborts))

section

variable {transport : Transport σ} {config : Config} {image : Image} {plan : Plan}

section

variable {m m₁ m' : σ} {trace trace' : List Submission} {delays delays' : List Duration}
  (device : String) (hvalid : config.validate = .ok ()) (hplan : config.plan image = .ok plan)
include hvalid hplan

/-- A mock transfer whose steps are all done goes on with an abort or ends the program. -/
theorem submissions_of_mock (hmock : config.mock = true)
    (hsent : Sent transport config plan.steps m trace delays m') :
  (∀ blocks bytes,
      (run transport device config image m).result ≠ .ok (.ok (.completed blocks bytes)))
    ∧ ∃ aborts, (run transport device config image m).submissions = trace ++ aborts
      ∧ (aborts = [] ∨ config.AbortLoop aborts)
  := by
  have habort := Workflow.Gives.self (submitAbort transport config) m'
  have haborts := aborts_of_gives hvalid habort
  cases hresult : (submitAbort transport config m').result with
  | error fault =>
      rw [hresult] at habort
      have hrun := run_of_mock_fault device hvalid hplan hmock hsent habort
      rw [hrun.result_eq, hrun.submissions_eq]
      exact ⟨nofun, _, rfl, haborts⟩
  | ok outcome =>
      rw [hresult] at habort
      have hrun := run_of_mock device hvalid hplan hmock hsent habort
      rw [hrun.result_eq, hrun.submissions_eq]
      exact ⟨nofun, _, rfl, haborts⟩

/-- A transfer with a step that stops goes on with an abort or ends the program. -/
theorem submissions_of_stops {before after : List Step} {step : Step} {stop : Except Fault Error}
    (hsteps : plan.steps = before ++ step :: after)
    (hsent : Sent transport config before m trace delays m₁)
    (hstop : StepStops transport config step m₁ stop trace' delays' m') :
  (∀ blocks bytes,
      (run transport device config image m).result ≠ .ok (.ok (.completed blocks bytes)))
    ∧ ∃ aborts, (run transport device config image m).submissions = trace ++ (trace' ++ aborts)
      ∧ (aborts = [] ∨ config.AbortLoop aborts)
  := by
  cases stop with
  | error fault =>
      have hrun := run_of_fault device hvalid hplan hsteps hsent hstop
      rw [hrun.result_eq, hrun.submissions_eq]
      exact ⟨nofun, [], by rw [List.append_nil], .inl rfl⟩
  | ok source =>
      have habort := Workflow.Gives.self (submitAbort transport config) m'
      have haborts := aborts_of_gives hvalid habort
      cases hresult : (submitAbort transport config m').result with
      | error fault =>
          rw [hresult] at habort
          have hrun := run_of_abort_fault device hvalid hplan hsteps hsent hstop habort
          rw [hrun.result_eq, hrun.submissions_eq]
          exact ⟨nofun, _, rfl, haborts⟩
      | ok outcome =>
          rw [hresult] at habort
          have hrun := run_of_fails device hvalid hplan hsteps hsent hstop habort
          rw [hrun.result_eq, hrun.submissions_eq]
          exact ⟨nofun, _, rfl, haborts⟩

/-- A transfer is complete, with the groups of all steps, or interrupted. -/
theorem completed_or_interrupted (transport : Transport σ) (m : σ) :
  (config.mock = false
      ∧ (run transport device config image m).result
        = .ok (.ok (.completed plan.steps.length image.size))
      ∧ ∃ groups, (run transport device config image m).submissions = groups.flatten
        ∧ List.Forall₂ config.Group plan.steps groups)
    ∨ (∀ blocks bytes,
        (run transport device config image m).result ≠ .ok (.ok (.completed blocks bytes)))
      ∧ config.Interrupted plan (run transport device config image m).submissions
  := by
  rcases sent_or_stops transport config plan.steps m with ⟨trace, delays, m', hsent⟩
    | ⟨before, step, after, trace, delays, m₁, stop, trace', delays', m', hsteps, hsent, hstop⟩
  · cases hmock : config.mock with
    | false =>
        left
        have hrun := run_of_sent device hvalid hplan hmock hsent
        rw [config.plan_byteCount hplan hmock] at hrun
        obtain ⟨groups, rfl, hgroups⟩ := groups_of_sent hvalid hsent
        exact ⟨rfl, hrun.result_eq, groups, hrun.submissions_eq, hgroups⟩
    | true =>
        right
        obtain ⟨hother, aborts, hsubmissions, haborts⟩ :=
          submissions_of_mock device hvalid hplan hmock hsent
        obtain ⟨groups, rfl, hgroups⟩ := groups_of_sent hvalid hsent
        rw [hsubmissions]
        exact ⟨hother, .mock hmock hgroups haborts⟩
  · right
    obtain ⟨hother, aborts, hsubmissions, haborts⟩ :=
      submissions_of_stops device hvalid hplan hsteps hsent hstop
    obtain ⟨groups, rfl, hgroups⟩ := groups_of_sent hvalid hsent
    rw [hsubmissions]
    exact ⟨hother, .stopped hsteps hgroups (cutOff_of_stops hvalid hstop) haborts⟩

end

/-- A complete transfer leads its mailbox along the groups of all steps of its plan. -/
theorem groups_of_completed {transport : Transport σ} {device : String} {config : Config}
    {image : Image} {m : σ} {blocks bytes : Nat}
    (h : (run transport device config image m).result = .ok (.ok (.completed blocks bytes))) :
  config.mock = false ∧ ∃ plan groups, config.plan image = .ok plan
    ∧ List.Forall₂ config.Group plan.steps groups
    ∧ transport.Yields m groups.flatten (run transport device config image m).mailbox
  := by
  obtain ⟨hvalid, plan, hplan⟩ := valid_of_completed h
  rcases completed_or_interrupted device hvalid hplan transport m with
    ⟨hmock, -, groups, hsubmissions, hgroups⟩ | ⟨hother, -⟩
  · obtain ⟨hpath, -⟩ := follows_run transport device config image m
    rw [hsubmissions] at hpath
    exact ⟨hmock, plan, groups, hplan, hgroups, hpath⟩
  · exact absurd h (hother blocks bytes)

/-! ## Which command comes when -/

variable {steps : List Step} {groups : List (List Submission)}
  {trace before after : List Submission} {s : Submission}

/-- A transfer command is not a status query. -/
theorem Config.opcode_ne_statusCommand (config : Config) (payload : Bytes) :
  ⟨config.kind.opcode.code, payload⟩ ≠ config.statusCommand
  := by
  have hopcode : ∀ kind : Kind, kind.opcode.code ≠ kind.statusQuery.opcode.code := by
    intro kind
    cases kind with
    | specDefined => decide
    | vendorBackground => decide
    | osImage => decide
  intro h
  exact hopcode config.kind (congrArg Command.opcode h)

/-- The submissions of a transfer before one of a step: the groups of the steps before it,
and submissions of the step itself that have to be repeated. -/
def Config.Prepared (config : Config) (steps : List Step) (step : Step)
    (trace : List Submission) : Prop :=
  ∃ groups resent, trace = groups.flatten ++ resent ∧ List.Forall₂ config.Group steps groups
    ∧ ∀ s ∈ resent, s.command = config.command step ∧ s.answer.IsRetryable

/-- What is submitted among the groups of some steps is one of the steps, behind the groups
of those before it, or a status query. -/
theorem prepared_of_groups (hgroups : List.Forall₂ config.Group steps groups)
    (hs : groups.flatten = before ++ s :: after) (hstatus : s.command ≠ config.statusCommand) :
  ∃ i step, steps[i]? = some step ∧ s.command = config.command step
    ∧ config.Prepared (steps.take i) step before
  := by
  induction hgroups generalizing before with
  | nil => simp at hs
  | @cons step group steps groups hgroup hgroups ih =>
      obtain ⟨sent, confirmed, rfl, hsent, hconfirmed⟩ := hgroup
      rw [List.flatten_cons, List.append_assoc] at hs
      rcases in_first_or_second hs with ⟨after', hsent'⟩ | ⟨before', rfl, hrest⟩
      · obtain ⟨hcommand, hresent⟩ := hsent.before hsent'
        exact ⟨0, step, rfl, hcommand, [], before, rfl, .nil, hresent⟩
      · rcases in_first_or_second hrest with ⟨after', hconfirmed'⟩ | ⟨before', rfl, hlater⟩
        · exact absurd (hconfirmed.before hconfirmed').1 hstatus
        · obtain ⟨i, step', hstep', hcommand, groups', resent, rfl, hgroups', hresent⟩ :=
            ih hlater
          use i + 1, step', hstep', hcommand, (sent ++ confirmed) :: groups', resent
          constructor
          · simp
          · exact ⟨.cons ⟨sent, confirmed, rfl, hsent, hconfirmed⟩ hgroups', hresent⟩

/-- An interrupted transfer leaves the groups of the first steps, then at most one group that
is cut off, and then at most one repeated abort. -/
theorem groups_of_interrupted (h : config.Interrupted plan trace) :
  ∃ groups cut aborts, trace = groups.flatten ++ (cut ++ aborts)
    ∧ List.Forall₂ config.Group (plan.steps.take groups.length) groups
    ∧ (cut = [] ∨ ∃ step, plan.steps[groups.length]? = some step ∧ config.CutOff step cut)
    ∧ (aborts = [] ∨ config.AbortLoop aborts)
  := by
  cases h with
  | @mock groups aborts hmock hgroups haborts =>
      use groups, [], aborts
      rw [← hgroups.length_eq, List.take_length]
      exact ⟨rfl, hgroups, .inl rfl, haborts⟩
  | @stopped before after step groups cut aborts hsteps hgroups hcut haborts =>
      use groups, cut, aborts
      rw [hsteps, ← hgroups.length_eq, List.take_left' rfl]
      exact ⟨rfl, hgroups, .inr ⟨step, by simp, hcut⟩, haborts⟩

/-- What is submitted in a group that is cut off is the step, behind the groups of those
before it, or a status query. -/
theorem prepared_of_cutOff {step : Step} {cut : List Submission}
    (hgroups : List.Forall₂ config.Group steps groups) (hcut : config.CutOff step cut)
    (hs : cut = before ++ s :: after) (hstatus : s.command ≠ config.statusCommand) :
  s.command = config.command step ∧ config.Prepared steps step (groups.flatten ++ before)
  := by
  cases hcut with
  | sent h =>
      obtain ⟨hcommand, hresent⟩ := h.before hs
      exact ⟨hcommand, groups, before, rfl, hgroups, hresent⟩
  | confirmed h h' =>
      rcases in_first_or_second hs with ⟨after', hfirst⟩ | ⟨_, -, hsecond⟩
      · obtain ⟨hcommand, hresent⟩ := h.before hfirst
        exact ⟨hcommand, groups, before, rfl, hgroups, hresent⟩
      · exact absurd (h'.before hsecond).1 hstatus

/-- What is submitted in an interrupted transfer is one of the steps, behind the groups of
those before it, or a status query or an abort. -/
theorem prepared_of_interrupted (h : config.Interrupted plan trace)
    (hs : trace = before ++ s :: after) (hstatus : s.command ≠ config.statusCommand)
    (habort : s.command ≠ config.abortCommand) :
  ∃ i step, plan.steps[i]? = some step ∧ s.command = config.command step
    ∧ config.Prepared (plan.steps.take i) step before
  := by
  cases h with
  | mock hmock hgroups haborts =>
      rcases in_first_or_second hs with ⟨after', hfirst⟩ | ⟨before', -, hsecond⟩
      · exact prepared_of_groups hgroups hfirst hstatus
      · rcases haborts with rfl | haborts
        · simp at hsecond
        · exact absurd (haborts.before hsecond).1 habort
  | @stopped earlier later step groups cut aborts hsteps hgroups hcut haborts =>
      rcases in_first_or_second hs with ⟨after', hfirst⟩ | ⟨before', rfl, hrest⟩
      · obtain ⟨i, step', hstep', hcommand, hprepared⟩ := prepared_of_groups hgroups hfirst hstatus
        have hlength : i < earlier.length := (List.getElem?_eq_some_iff.mp hstep').1
        use i, step'
        rw [hsteps, List.getElem?_append_left hlength,
          List.take_append_of_le_length (Nat.le_of_lt hlength)]
        exact ⟨hstep', hcommand, hprepared⟩
      · rcases in_first_or_second hrest with ⟨after', hcut'⟩ | ⟨before'', -, habort'⟩
        · use earlier.length, step
          rw [hsteps, List.take_left' rfl]
          constructor
          · simp
          · exact prepared_of_cutOff hgroups hcut hcut' hstatus
        · rcases haborts with rfl | haborts
          · simp at habort'
          · exact absurd (haborts.before habort').1 habort

/-- The commands of two steps of a plan differ. -/
theorem Config.command_injective (hvalid : config.validate = .ok ())
    (hplan : config.plan image = .ok plan) {i j : Nat} {step step' : Step}
    (hi : plan.steps[i]? = some step) (hj : plan.steps[j]? = some step')
    (h : config.command step = config.command step') :
  i = j
  := by
  have hrequest := TransferRequest.encode_injective (congrArg Command.payload h)
  obtain ⟨hsize, -, -⟩ := config.validate_eq_ok hvalid
  exact config.plan_offset_injective hsize hplan hi hj
    (congrArg TransferRequest.offset hrequest)

/-- The command of a step of a plan is not an abort. -/
theorem Config.command_ne_abortCommand (hplan : config.plan image = .ok plan) {i : Nat}
    {step : Step} (hi : plan.steps[i]? = some step) :
  config.command step ≠ config.abortCommand
  := by
  intro h
  have hrequest := TransferRequest.encode_injective (congrArg Command.payload h)
  have haction := congrArg Action.ofCode? (congrArg TransferRequest.action hrequest)
  rw [Action.ofCode?_code, Action.ofCode?_code] at haction
  exact (config.plan_step hplan hi).2.2 (Option.some.inj haction)

/-! ## How a trace ends -/

/-- The groups of steps end with a report of success. -/
theorem getLast?_groups (hgroups : List.Forall₂ config.Group steps groups) (hsteps : steps ≠ []) :
  ∃ last, groups.flatten.getLast? = some ⟨config.statusCommand, last⟩
    ∧ config.kind.statusQuery.IsConfirmed last
  := by
  induction hgroups with
  | nil => exact absurd rfl hsteps
  | @cons step group steps groups hgroup hgroups ih =>
      rw [List.flatten_cons, List.getLast?_append]
      cases hgroups with
      | nil =>
          obtain ⟨sent, confirmed, rfl, -, hconfirmed⟩ := hgroup
          obtain ⟨last, hlast, hreport⟩ := hconfirmed.getLast?
          use last
          rw [List.getLast?_append, hlast]
          exact ⟨rfl, hreport⟩
      | cons hgroup' hgroups' =>
          obtain ⟨last, hlast, hreport⟩ := ih (List.cons_ne_nil _ _)
          use last
          rw [hlast]
          exact ⟨rfl, hreport⟩

/-- A transfer that is interrupted, and no mock transfer, does not end with a report of success. -/
theorem getLast?_interrupted (h : config.Interrupted plan trace) (hmock : config.mock = false) :
  ∃ s, trace.getLast? = some s
    ∧ ¬ (s.command = config.statusCommand ∧ config.kind.statusQuery.IsConfirmed s.answer)
  := by
  have haborted : ∀ {first aborts : List Submission}, config.AbortLoop aborts →
      ∃ s, (first ++ aborts).getLast? = some s
        ∧ ¬ (s.command = config.statusCommand ∧ config.kind.statusQuery.IsConfirmed s.answer) := by
    intro first aborts haborts
    obtain ⟨last, hlast, -⟩ := haborts.getLast?
    use ⟨config.abortCommand, last⟩
    rw [List.getLast?_append, hlast]
    exact ⟨rfl, fun h => config.opcode_ne_statusCommand _ h.1⟩
  cases h with
  | mock hmock' hgroups haborts => cases hmock'.symm.trans hmock
  | @stopped _ _ step _ _ _ hsteps hgroups hcut haborts =>
      rcases haborts with rfl | haborts
      · rw [List.append_nil]
        cases hcut with
        | sent h =>
            obtain ⟨last, hlast, -⟩ := h.getLast?
            use ⟨config.command step, last⟩
            rw [List.getLast?_append, hlast]
            exact ⟨rfl, fun h => config.opcode_ne_statusCommand _ h.1⟩
        | confirmed h h' =>
            obtain ⟨last, hlast, hreport⟩ := h'.getLast?
            use ⟨config.statusCommand, last⟩
            rw [List.getLast?_append, List.getLast?_append, hlast]
            exact ⟨rfl, fun h => hreport h.2⟩
      · rw [← List.append_assoc]
        exact haborted haborts

end

/-- The submissions of a transfer are the groups of its first steps, in order, then at most
one group that is cut off, and then at most one repeated abort.  Before a step is submitted,
the device has reported success for each of the steps before it.  The transfer is complete
exactly when it is no mock transfer and its submissions are the groups of all steps. -/
theorem run_submissions (transport : Transport σ) (device : String) {config : Config}
    {image : Image} {plan : Plan} (hvalid : config.validate = .ok ())
    (hplan : config.plan image = .ok plan) (m : σ) :
  (∃ groups cut aborts,
      (run transport device config image m).submissions = groups.flatten ++ (cut ++ aborts)
      ∧ List.Forall₂ config.Group (plan.steps.take groups.length) groups
      ∧ (cut = [] ∨ ∃ step, plan.steps[groups.length]? = some step ∧ config.CutOff step cut)
      ∧ (aborts = [] ∨ config.AbortLoop aborts))
    ∧ (∀ before s after i step,
        (run transport device config image m).submissions = before ++ s :: after →
        plan.steps[i]? = some step → s.command = config.command step →
        config.Prepared (plan.steps.take i) step before)
    ∧ ∀ blocks bytes,
      (run transport device config image m).result = .ok (.ok (.completed blocks bytes))
        ↔ blocks = plan.steps.length ∧ bytes = image.size ∧ config.mock = false
          ∧ ∃ groups, (run transport device config image m).submissions = groups.flatten
            ∧ List.Forall₂ config.Group plan.steps groups
  := by
  have hcases := completed_or_interrupted device hvalid hplan transport m
  constructor
  · rcases hcases with ⟨-, -, groups, hsubmissions, hgroups⟩ | ⟨-, hinterrupted⟩
    · use groups, [], []
      rw [hsubmissions, ← hgroups.length_eq, List.take_length]
      exact ⟨by simp, hgroups, .inl rfl, .inl rfl⟩
    · exact groups_of_interrupted hinterrupted
  constructor
  · intro before s after i step hs hstep hcommand
    have hstatus : s.command ≠ config.statusCommand := by
      rw [hcommand]
      apply config.opcode_ne_statusCommand
    have habort : s.command ≠ config.abortCommand := by
      rw [hcommand]
      exact config.command_ne_abortCommand hplan hstep
    have hprepared : ∃ j step', plan.steps[j]? = some step' ∧ s.command = config.command step'
        ∧ config.Prepared (plan.steps.take j) step' before := by
      rcases hcases with ⟨-, -, groups, hsubmissions, hgroups⟩ | ⟨-, hinterrupted⟩
      · rw [hsubmissions] at hs
        exact prepared_of_groups hgroups hs hstatus
      · exact prepared_of_interrupted hinterrupted hs hstatus habort
    obtain ⟨j, step', hstep', hcommand', hprepared⟩ := hprepared
    rw [hcommand] at hcommand'
    obtain rfl := config.command_injective hvalid hplan hstep hstep' hcommand'
    obtain rfl := Option.some.inj (hstep.symm.trans hstep')
    exact hprepared
  · intro blocks bytes
    constructor
    · intro hresult
      rcases hcases with ⟨hmock, hcompleted, hgroups⟩ | ⟨hother, -⟩
      · rw [hcompleted] at hresult
        cases hresult
        exact ⟨rfl, rfl, hmock, hgroups⟩
      · exact absurd hresult (hother blocks bytes)
    · rintro ⟨rfl, rfl, hmock, groups, hsubmissions, hgroups⟩
      rcases hcases with ⟨-, hcompleted, -⟩ | ⟨-, hinterrupted⟩
      · exact hcompleted
      · obtain ⟨last, hlast, hreport⟩ := getLast?_groups hgroups (config.plan_ne_nil hplan)
        obtain ⟨s, hs, hother⟩ := getLast?_interrupted hinterrupted hmock
        rw [hsubmissions, hlast] at hs
        cases hs
        exact absurd ⟨rfl, hreport⟩ hother

/-- The answers of a device that puts a block off once, and then takes and processes it. -/
def reluctant : Script where
  answers := [.ok ⟨Status.busy.code, []⟩, .ok ⟨Status.success.code, []⟩]
  fallback := .ok ⟨Status.success.code, StatusQuery.spec.encode
    ⟨false, 100, Opcode.transferFw.code, Status.success.code, 0⟩⟩

theorem run_submissions_reluctant :
  let run := run (Script.transport "mem0") "mem0" (.new .specDefined 2)
    ⟨[0xaa, 0xbb], none, nofun⟩ reluctant
  completed? run.result = some (1, 2) ∧ run.submissions.length = 3
    ∧ ∃ groups, run.submissions = groups.flatten
      ∧ List.Forall₂ (Config.Group (.new .specDefined 2)) [⟨0, .end, 0, [0xaa, 0xbb]⟩] groups
  := by
  intro run
  have hcompleted : completed? run.result = some (1, 2) := by
    decide +kernel
  have hlength : run.submissions.length = 3 := by
    decide +kernel
  have hvalid : (Config.new .specDefined 2).validate = .ok () := rfl
  have hplan : (Config.new .specDefined 2).plan ⟨[0xaa, 0xbb], none, nofun⟩
      = .ok ⟨[⟨0, .end, 0, [0xaa, 0xbb]⟩], 2⟩ := rfl
  obtain ⟨-, -, hiff⟩ := run_submissions (Script.transport "mem0") "mem0" hvalid hplan reluctant
  obtain ⟨-, -, -, hgroups⟩ := (hiff 1 2).mp (completed?_eq_some.mp hcompleted)
  exact ⟨hcompleted, hlength, hgroups⟩

end CxlFirmware.Transfer
