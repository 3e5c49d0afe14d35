import CxlFirmware.Proofs.Judgement
import CxlFirmware.Proofs.Transfer.Carriage
import CxlFirmware.Transfer.Sequence

/-!
# The course of a transfer, step by step

A step of a transfer is a loop of submissions and then a loop of polls, and an abort is a
loop of submissions.  `StepDone` says that both loops of a step give a value, `StepStops` that
one of them does not, and `Sent` that steps are done one after another.  A transfer goes on
behind steps that are done, and ends with the first one that is not.
-/

namespace CxlFirmware.Transfer

variable {σ : Type}

/-! ## The loops of a transfer -/

/-- The command that carries a step. -/
def Config.command (config : Config) (step : Step) : Command :=
  ⟨config.kind.opcode.code, TransferRequest.payload step.action config.slot step.offset step.data⟩

/-- The command that asks whether a step is processed. -/
def Config.statusCommand (config : Config) : Command :=
  ⟨config.kind.statusQuery.opcode.code, []⟩

/-- The command that drops the transfer. -/
def Config.abortCommand (config : Config) : Command :=
  ⟨config.kind.opcode.code, abortPayload config⟩

/-- The loop that submits a step. -/
def submitStep (transport : Transport σ) (config : Config) (step : Step) :
    Workflow σ (Except Error Bytes) :=
  Retry.withRetry transport.clock config.stepRetry (Mailbox.submit transport config.kind.opcode
    (TransferRequest.payload step.action config.slot step.offset step.data))

/-- The loop that polls until a step is processed. -/
def confirmStep (transport : Transport σ) (config : Config) :
    Workflow σ (Except Error BackgroundStatus) :=
  Poll.untilDone transport config.kind.statusQuery config.poll

/-- The loop that submits an abort, if there can be a payload. -/
def submitAbort (transport : Transport σ) (config : Config) : Workflow σ (Except Error Bytes) :=
  match reserve config with
  | .error fault => Workflow.halt fault
  | .ok () =>
    Retry.withRetry transport.clock config.stepRetry
      (Mailbox.submit transport config.kind.opcode (abortPayload config))

theorem submitAbort_of_reserved {config : Config} (hreserved : reserve config = .ok ())
    (transport : Transport σ) :
  submitAbort transport config = Retry.withRetry transport.clock config.stepRetry
    (Mailbox.submit transport config.kind.opcode (abortPayload config))
  := by
  rw [submitAbort, hreserved]

/-- Without a payload, nothing is submitted. -/
theorem submitAbort_of_unreserved {config : Config} {fault : Fault}
    (hunreserved : reserve config = .error fault) (transport : Transport σ) :
  submitAbort transport config = Workflow.halt fault
  := by
  rw [submitAbort, hunreserved]

theorem reserved_or_not (config : Config) :
  reserve config = .ok () ∨ reserve config = .error .capacity
  := by
  rw [reserve]
  split
  · exact .inr rfl
  · exact .inl rfl

/-- Valid parameters have a valid block size and valid policies. -/
theorem Config.validate_eq_ok {config : Config} (hvalid : config.validate = .ok ()) :
  validateBlockSize config.blockSize = .ok () ∧ config.stepRetry.validate = .ok ()
    ∧ config.poll.validate = .ok ()
  := by
  rw [Config.validate] at hvalid
  cases hsize : validateBlockSize config.blockSize with
  | error error =>
      rw [hsize] at hvalid
      cases hvalid
  | ok _ =>
      rw [hsize] at hvalid
      cases hretry : config.stepRetry.validate with
      | error error =>
          rw [hretry] at hvalid
          cases hvalid
      | ok _ =>
          rw [hretry] at hvalid
          exact ⟨rfl, rfl, hvalid⟩

/-! ## One step -/

section

variable {transport : Transport σ} {device : String} {config : Config} {step : Step}
  {m m₁ m' : σ} {trace trace' : List Submission} {delays delays' : List Duration}

theorem quiet_sendStep (transport : Transport σ) (device : String) (config : Config)
    (step : Step) :
  (sendStep transport device config step).quiet = do
    match ← (submitStep transport config step).quiet with
    | .error error => return .error error
    | .ok _ =>
      match ← (confirmStep transport config).quiet with
      | .error error => return .error error
      | .ok _ => return .ok ()
  := by
  rw [sendStep]
  simp only [Workflow.quiet_bind, Workflow.quiet_log, pure_bind]
  apply bind_congr
  intro outcome
  cases outcome with
  | error error => rfl
  | ok reply =>
      rw [Workflow.quiet_bind]
      apply bind_congr
      intro outcome
      cases outcome with
      | error error => rfl
      | ok report => rfl

/-- Both loops of a step give a value. -/
inductive StepDone (transport : Transport σ) (config : Config) (step : Step) (m : σ) :
    List Submission → List Duration → σ → Prop
  | mk {reply : Bytes} {report : BackgroundStatus} {trace trace' : List Submission}
      {delays delays' : List Duration} {m₁ m' : σ}
      (h : (submitStep transport config step).Gives m (.ok (.ok reply)) trace delays m₁)
      (h' : (confirmStep transport config).Gives m₁ (.ok (.ok report)) trace' delays' m') :
      StepDone transport config step m (trace ++ trace') (delays ++ delays') m'

/-- One of the two loops of a step fails, for the reason `.ok source`, or ends the program. -/
inductive StepStops (transport : Transport σ) (config : Config) (step : Step) (m : σ)
    (stop : Except Fault Error) : List Submission → List Duration → σ → Prop
  | submit {trace : List Submission} {delays : List Duration} {m' : σ}
      (h : (submitStep transport config step).Gives m (stop.map .error) trace delays m') :
      StepStops transport config step m stop trace delays m'
  | confirm {reply : Bytes} {trace trace' : List Submission} {delays delays' : List Duration}
      {m₁ m' : σ}
      (h : (submitStep transport config step).Gives m (.ok (.ok reply)) trace delays m₁)
      (h' : (confirmStep transport config).Gives m₁ (stop.map .error) trace' delays' m') :
      StepStops transport config step m stop (trace ++ trace') (delays ++ delays') m'

theorem sendStep_of_done (device : String) (h : StepDone transport config step m trace delays m') :
  (sendStep transport device config step).Gives m (.ok (.ok ())) trace delays m'
  := by
  rw [← Workflow.Gives.quiet_iff, quiet_sendStep]
  obtain ⟨h, h'⟩ := h
  rw [← Workflow.Gives.quiet_iff] at h h'
  apply h.bind
  apply h'.bind_pure
  rfl

/-- A step fails when one of its loops fails, and for the same reason. -/
theorem sendStep_of_stops (device : String) {stop : Except Fault Error}
    (h : StepStops transport config step m stop trace delays m') :
  (sendStep transport device config step).Gives m (stop.map .error) trace delays m'
  := by
  rw [← Workflow.Gives.quiet_iff, quiet_sendStep]
  cases h with
  | submit h =>
      rw [← Workflow.Gives.quiet_iff] at h
      cases stop with
      | error fault => exact h.bind_fault _
      | ok source =>
          apply h.bind_pure
          rfl
  | confirm h h' =>
      rw [← Workflow.Gives.quiet_iff] at h h'
      apply h.bind
      cases stop with
      | error fault => exact h'.bind_fault _
      | ok source =>
          apply h'.bind_pure
          rfl

/-- Every step is done, or one of its loops stops it. -/
theorem stepDone_or_stepStops (transport : Transport σ) (config : Config) (step : Step) (m : σ) :
  (∃ trace delays m', StepDone transport config step m trace delays m')
    ∨ ∃ stop trace delays m', StepStops transport config step m stop trace delays m'
  := by
  have hsubmit := Workflow.Gives.self (submitStep transport config step) m
  have hconfirm := Workflow.Gives.self (confirmStep transport config)
    (submitStep transport config step m).mailbox
  rcases hresult : (submitStep transport config step m).result with fault | error | reply
  · rw [hresult] at hsubmit
    exact .inr ⟨.error fault, _, _, _, .submit hsubmit⟩
  · rw [hresult] at hsubmit
    exact .inr ⟨.ok error, _, _, _, .submit hsubmit⟩
  · rw [hresult] at hsubmit
    rcases hresult' : (confirmStep transport config
        (submitStep transport config step m).mailbox).result with fault | error | report
    · rw [hresult'] at hconfirm
      exact .inr ⟨.error fault, _, _, _, .confirm hsubmit hconfirm⟩
    · rw [hresult'] at hconfirm
      exact .inr ⟨.ok error, _, _, _, .confirm hsubmit hconfirm⟩
    · rw [hresult'] at hconfirm
      exact .inl ⟨_, _, _, hsubmit, hconfirm⟩

/-! ## An abort -/

theorem quiet_abort (transport : Transport σ) (device : String) (config : Config) :
  (abort transport device config).quiet = do
    return (← (submitAbort transport config).quiet).map fun _ => ()
  := by
  rw [abort, submitAbort]
  simp only [Workflow.quiet_bind, Workflow.quiet_log, pure_bind]
  cases reserve config with
  | error fault => rfl
  | ok _ =>
      simp only [Workflow.quiet_bind]
      apply bind_congr
      intro outcome
      cases outcome with
      | error error => simp [Except.map]
      | ok reply => simp [Except.map]

/-- The text of the error of a loop, if it failed. -/
def errorText {α : Type} : Except Error α → Option String
  | .ok _ => none
  | .error error => some error.message

/-- An abort ends as its loop does. -/
theorem abort_of_gives (device : String) {outcome : Except Error Bytes}
    (h : (submitAbort transport config).Gives m (.ok outcome) trace delays m') :
  ∃ aborted, (abort transport device config).Gives m (.ok aborted) trace delays m'
    ∧ failureText aborted = errorText outcome
  := by
  use outcome.map fun _ => ()
  constructor
  · rw [← Workflow.Gives.quiet_iff] at h ⊢
    rw [quiet_abort]
    apply h.bind_pure
    rfl
  · cases outcome with
    | error error => rfl
    | ok reply => rfl

theorem abort_of_fault (device : String) {fault : Fault}
    (h : (submitAbort transport config).Gives m (.error fault) trace delays m') :
  (abort transport device config).Gives m (.error fault) trace delays m'
  := by
  rw [← Workflow.Gives.quiet_iff] at h ⊢
  rw [quiet_abort]
  exact h.bind_fault _

end

/-! ## All steps -/

/-- The steps are done, one after another. -/
inductive Sent (transport : Transport σ) (config : Config) :
    List Step → σ → List Submission → List Duration → σ → Prop
  | nil (m : σ) : Sent transport config [] m [] [] m
  | cons {step : Step} {rest : List Step} {m m₁ m' : σ} {trace trace' : List Submission}
      {delays delays' : List Duration}
      (h : StepDone transport config step m trace delays m₁)
      (h' : Sent transport config rest m₁ trace' delays' m') :
      Sent transport config (step :: rest) m (trace ++ trace') (delays ++ delays') m'

/-- The cursor after a step. -/
def Cursor.next (plan : Plan) (step : Step) (cursor : Cursor) : Cursor :=
  let report : Progress := {
    step := step.index + 1
    totalSteps := plan.steps.length
    action := step.action
    bytesSent := cursor.bytesSent + step.data.length
    totalBytes := plan.totalBytes }
  ⟨.during step.action, report.bytesSent, max cursor.lastDecile (report.percent / 10)⟩

section

variable {transport : Transport σ} {device : String} {config : Config} {plan : Plan}
  {step : Step} {before after : List Step} {cursor : Cursor}
  {m m₁ m₂ m' : σ} {trace trace' trace'' : List Submission}
  {delays delays' delays'' : List Duration}

theorem quiet_logState (name : String) (before after : State) :
  (logState name before after : Workflow σ Unit).quiet = pure ()
  := by
  rw [logState]
  split
  · rfl
  · apply Workflow.quiet_log

theorem quiet_logDecile (name : String) (before after : Nat) :
  (logDecile name before after : Workflow σ Unit).quiet = pure ()
  := by
  rw [logDecile]
  split
  · apply Workflow.quiet_log
  · rfl

theorem quiet_sendSteps (transport : Transport σ) (device : String) (config : Config)
    (plan : Plan) (step : Step) (rest : List Step) (cursor : Cursor) :
  (sendSteps transport device config plan (step :: rest) cursor).quiet = (do
    match ← (sendStep transport device config step).quiet with
    | .error source =>
      let aborted ← (abort transport device config).quiet
      return .error (.transferFailed step.index step.action source (failureText aborted))
    | .ok () => (sendSteps transport device config plan rest (cursor.next plan step)).quiet)
  := by
  rw [sendSteps]
  simp only [Workflow.quiet_bind, quiet_logState, pure_bind]
  apply bind_congr
  intro outcome
  cases outcome with
  | error source => simp
  | ok _ =>
      simp only [Workflow.quiet_bind, Workflow.quiet_progress, quiet_logDecile, pure_bind]
      rfl

/-- A transfer goes on behind steps that are done. -/
theorem sendSteps_of_sent (device : String) (plan : Plan) (after : List Step) (cursor : Cursor)
    {result : Except Fault (Except Error Nat)}
    (hsent : Sent transport config before m trace delays m₁)
    (h : (sendSteps transport device config plan after
      (before.foldl (fun cursor step => cursor.next plan step) cursor)).Gives m₁ result trace'
        delays' m') :
  (sendSteps transport device config plan (before ++ after) cursor).Gives m result
    (trace ++ trace') (delays ++ delays') m'
  := by
  induction hsent generalizing cursor with
  | nil m => exact h
  | cons hdone hsent ih =>
      rw [List.append_assoc, List.append_assoc, List.cons_append, ← Workflow.Gives.quiet_iff,
        quiet_sendSteps]
      have hstep := sendStep_of_done device hdone
      have hrest := ih _ h
      rw [← Workflow.Gives.quiet_iff] at hstep hrest
      apply hstep.bind
      exact hrest

/-- A transfer ends at a step that fails, after an abort. -/
theorem sendSteps_of_fails (device : String) (plan : Plan) (after : List Step) (cursor : Cursor)
    {source : Error} {outcome : Except Error Bytes}
    (hstop : StepStops transport config step m (.ok source) trace delays m₁)
    (habort : (submitAbort transport config).Gives m₁ (.ok outcome) trace' delays' m') :
  (sendSteps transport device config plan (step :: after) cursor).Gives m
    (.ok (.error (.transferFailed step.index step.action source (errorText outcome))))
    (trace ++ trace') (delays ++ delays') m'
  := by
  rw [← Workflow.Gives.quiet_iff, quiet_sendSteps]
  have hstep := sendStep_of_stops device hstop
  obtain ⟨aborted, habort, htext⟩ := abort_of_gives device habort
  rw [← Workflow.Gives.quiet_iff] at hstep habort
  apply hstep.bind
  apply habort.bind_pure
  rw [htext]

/-- A transfer ends at a step that ends the program. -/
theorem sendSteps_of_fault (device : String) (plan : Plan) (after : List Step) (cursor : Cursor)
    {fault : Fault}
    (hstop : StepStops transport config step m (.error fault) trace delays m') :
  (sendSteps transport device config plan (step :: after) cursor).Gives m (.error fault)
    trace delays m'
  := by
  rw [← Workflow.Gives.quiet_iff, quiet_sendSteps]
  have hstep := sendStep_of_stops device hstop
  rw [← Workflow.Gives.quiet_iff] at hstep
  exact hstep.bind_fault _

theorem sendSteps_of_abort_fault (device : String) (plan : Plan) (after : List Step)
    (cursor : Cursor) {source : Error} {fault : Fault}
    (hstop : StepStops transport config step m (.ok source) trace delays m₁)
    (habort : (submitAbort transport config).Gives m₁ (.error fault) trace' delays' m') :
  (sendSteps transport device config plan (step :: after) cursor).Gives m (.error fault)
    (trace ++ trace') (delays ++ delays') m'
  := by
  rw [← Workflow.Gives.quiet_iff, quiet_sendSteps]
  have hstep := sendStep_of_stops device hstop
  have habort := abort_of_fault device habort
  rw [← Workflow.Gives.quiet_iff] at hstep habort
  apply hstep.bind
  exact habort.bind_fault _

/-- Either all steps are done, or there is a first one that stops. -/
theorem sent_or_stops (transport : Transport σ) (config : Config) (steps : List Step) (m : σ) :
  (∃ trace delays m', Sent transport config steps m trace delays m')
    ∨ ∃ before step after trace delays m₁ stop trace' delays' m', steps = before ++ step :: after
      ∧ Sent transport config before m trace delays m₁
      ∧ StepStops transport config step m₁ stop trace' delays' m'
  := by
  induction steps generalizing m with
  | nil => exact .inl ⟨[], [], m, .nil m⟩
  | cons step rest ih =>
      rcases stepDone_or_stepStops transport config step m with
        ⟨trace, delays, m₁, hdone⟩ | ⟨stop, trace, delays, m', hstop⟩
      · rcases ih m₁ with ⟨trace', delays', m', hsent⟩
          | ⟨before, stopped, after, trace', delays', m₂, stop, trace'', delays'', m',
              rfl, hsent, hstop⟩
        · exact .inl ⟨_, _, m', .cons hdone hsent⟩
        · exact .inr ⟨step :: before, stopped, after, _, _, m₂, stop, trace'', delays'', m', rfl,
            .cons hdone hsent, hstop⟩
      · exact .inr ⟨[], step, rest, [], [], m, stop, trace, delays, m', rfl, .nil m, hstop⟩

theorem bytesSent_foldl (plan : Plan) (steps : List Step) (cursor : Cursor) :
  (steps.foldl (fun cursor step => cursor.next plan step) cursor).bytesSent
    = cursor.bytesSent + byteCount steps
  := by
  induction steps generalizing cursor with
  | nil => rfl
  | cons step rest ih =>
      rw [List.foldl_cons, ih, byteCount, ← Nat.add_assoc]
      rfl

theorem sendSteps_of_all (device : String) (plan : Plan) {steps : List Step}
    (hsent : Sent transport config steps m trace delays m') :
  (sendSteps transport device config plan steps .start).Gives m (.ok (.ok (byteCount steps)))
    trace delays m'
  := by
  have hend := Workflow.Gives.pure (Except.ok (steps.foldl
    (fun cursor step => cursor.next plan step) Cursor.start).bytesSent : Except Error Nat) m'
  have hall := sendSteps_of_sent device plan [] .start hsent hend
  rw [List.append_nil, List.append_nil, List.append_nil, bytesSent_foldl, Cursor.start,
    Nat.zero_add] at hall
  exact hall

/-! ## The whole transfer -/

section

variable (device) {image : Image} (hvalid : config.validate = .ok ())
  (hplan : config.plan image = .ok plan)
include hvalid hplan

theorem quiet_run (transport : Transport σ) (device : String) :
  (run transport device config image).quiet = do
    match ← (sendSteps transport device config plan plan.steps .start).quiet with
    | .error error => return .error error
    | .ok bytes =>
      if config.mock then
        let aborted ← (abort transport device config).quiet
        return .ok (.mockAborted (failureText aborted))
      else return .ok (.completed plan.steps.length bytes)
  := by
  rw [run]
  simp only [hvalid, hplan, Workflow.quiet_bind, Workflow.quiet_log, pure_bind]
  apply bind_congr
  intro outcome
  cases outcome with
  | error error => rfl
  | ok bytes =>
      cases config.mock with
      | true => simp
      | false => simp

/-- A transfer whose steps are all done is complete. -/
theorem run_of_sent (hmock : config.mock = false)
    (hsent : Sent transport config plan.steps m trace delays m') :
  (run transport device config image).Gives m
    (.ok (.ok (.completed plan.steps.length (byteCount plan.steps)))) trace delays m'
  := by
  have hall := sendSteps_of_all device plan hsent
  rw [← Workflow.Gives.quiet_iff] at hall ⊢
  rw [quiet_run hvalid hplan]
  apply hall.bind_pure
  simp [hmock]

/-- A mock transfer whose steps are all done is aborted. -/
theorem run_of_mock (hmock : config.mock = true)
    (hsent : Sent transport config plan.steps m trace delays m₁) {outcome : Except Error Bytes}
    (habort : (submitAbort transport config).Gives m₁ (.ok outcome) trace' delays' m') :
  (run transport device config image).Gives m (.ok (.ok (.mockAborted (errorText outcome))))
    (trace ++ trace') (delays ++ delays') m'
  := by
  have hall := sendSteps_of_all device plan hsent
  obtain ⟨aborted, habort, htext⟩ := abort_of_gives device habort
  rw [← Workflow.Gives.quiet_iff] at hall habort ⊢
  rw [quiet_run hvalid hplan]
  apply hall.bind
  simp only [hmock, if_true]
  apply habort.bind_pure
  rw [htext]

theorem run_of_mock_fault (hmock : config.mock = true)
    (hsent : Sent transport config plan.steps m trace delays m₁) {fault : Fault}
    (habort : (submitAbort transport config).Gives m₁ (.error fault) trace' delays' m') :
  (run transport device config image).Gives m (.error fault) (trace ++ trace')
    (delays ++ delays') m'
  := by
  have hall := sendSteps_of_all device plan hsent
  have habort := abort_of_fault device habort
  rw [← Workflow.Gives.quiet_iff] at hall habort ⊢
  rw [quiet_run hvalid hplan]
  apply hall.bind
  simp only [hmock, if_true]
  exact habort.bind_fault _

section

variable (hsteps : plan.steps = before ++ step :: after)
  (hsent : Sent transport config before m trace delays m₁)
include hsteps hsent

/-- A transfer with a step that fails is aborted, and its error tells of the step. -/
theorem run_of_fails {source : Error} {outcome : Except Error Bytes}
    (hstop : StepStops transport config step m₁ (.ok source) trace' delays' m₂)
    (habort : (submitAbort transport config).Gives m₂ (.ok outcome) trace'' delays'' m') :
  (run transport device config image).Gives m
    (.ok (.error (.transferFailed step.index step.action source (errorText outcome))))
    (trace ++ (trace' ++ trace'')) (delays ++ (delays' ++ delays'')) m'
  := by
  have hall := sendSteps_of_sent device plan (step :: after) .start hsent
    (sendSteps_of_fails device plan after _ hstop habort)
  rw [← hsteps] at hall
  rw [← Workflow.Gives.quiet_iff] at hall ⊢
  rw [quiet_run hvalid hplan]
  apply hall.bind_pure
  rfl

/-- A transfer with a step that ends the program is not aborted. -/
theorem run_of_fault {fault : Fault}
    (hstop : StepStops transport config step m₁ (.error fault) trace' delays' m') :
  (run transport device config image).Gives m (.error fault) (trace ++ trace')
    (delays ++ delays') m'
  := by
  have hall := sendSteps_of_sent device plan (step :: after) .start hsent
    (sendSteps_of_fault device plan after _ hstop)
  rw [← hsteps] at hall
  rw [← Workflow.Gives.quiet_iff] at hall ⊢
  rw [quiet_run hvalid hplan]
  exact hall.bind_fault _

theorem run_of_abort_fault {source : Error} {fault : Fault}
    (hstop : StepStops transport config step m₁ (.ok source) trace' delays' m₂)
    (habort : (submitAbort transport config).Gives m₂ (.error fault) trace'' delays'' m') :
  (run transport device config image).Gives m (.error fault)
    (trace ++ (trace' ++ trace'')) (delays ++ (delays' ++ delays'')) m'
  := by
  have hall := sendSteps_of_sent device plan (step :: after) .start hsent
    (sendSteps_of_abort_fault device plan after _ hstop habort)
  rw [← hsteps] at hall
  rw [← Workflow.Gives.quiet_iff] at hall ⊢
  rw [quiet_run hvalid hplan]
  exact hall.bind_fault _

end

end

end

/-- The counts of blocks and bytes that a complete transfer returns. -/
def completed? : Except Fault (Except Error Outcome) → Option (Nat × Nat)
  | .ok (.ok (.completed blocks bytes)) => some (blocks, bytes)
  | _ => none

theorem completed?_eq_some {result : Except Fault (Except Error Outcome)} {blocks bytes : Nat} :
  completed? result = some (blocks, bytes) ↔ result = .ok (.ok (.completed blocks bytes))
  := by
  rcases result with fault | error | outcome
  · simp [completed?]
  · simp [completed?]
  · cases outcome with
    | completed blocks bytes => simp [completed?]
    | mockAborted abortError => simp [completed?]

/-- A transfer that is complete has valid parameters and a plan. -/
theorem valid_of_completed {transport : Transport σ} {device : String} {config : Config}
    {image : Image} {m : σ} {blocks bytes : Nat}
    (h : (run transport device config image m).result = .ok (.ok (.completed blocks bytes))) :
  config.validate = .ok () ∧ ∃ plan, config.plan image = .ok plan
  := by
  cases hvalid : config.validate with
  | error error =>
      rw [run, hvalid] at h
      cases h
  | ok _ =>
      cases hplan : config.plan image with
      | error error =>
          rw [run, hvalid] at h
          simp only [hplan] at h
          cases h
      | ok plan => exact ⟨rfl, plan, rfl⟩

/-! ## The commands of a transfer -/

/-- A transfer may send the command: the status query, the abort, or a step of its plan. -/
def Config.Sends (config : Config) (image : Image) (command : Command) : Prop :=
  command = config.statusCommand ∨ command = config.abortCommand
    ∨ ∃ plan step, config.plan image = .ok plan ∧ step ∈ plan.steps
      ∧ command = config.command step

section

variable {transport : Transport σ} {config : Config} {allowed : Command → Prop}

theorem follows_sendStep (device : String) {step : Step} (hstep : allowed (config.command step))
    (hstatus : allowed config.statusCommand) :
  (sendStep transport device config step).Follows transport allowed
  := by
  apply Workflow.Follows.of_quiet
  rw [quiet_sendStep]
  apply Workflow.Follows.bind
  · apply Workflow.Follows.quiet
    apply Mailbox.follows_submit_withRetry _ _ _ hstep
  · intro outcome
    cases outcome with
    | error error => apply Workflow.Follows.pure
    | ok reply =>
        apply Workflow.Follows.bind
        · apply Workflow.Follows.quiet
          apply Poll.follows_untilDone _ _ hstatus
        · intro outcome
          cases outcome with
          | error error => apply Workflow.Follows.pure
          | ok report => apply Workflow.Follows.pure

theorem follows_submitAbort (habort : allowed config.abortCommand) :
  (submitAbort transport config).Follows transport allowed
  := by
  rw [submitAbort]
  cases reserve config with
  | error fault => apply Workflow.Follows.halt
  | ok _ => apply Mailbox.follows_submit_withRetry _ _ _ habort

theorem follows_abort (device : String) (habort : allowed config.abortCommand) :
  (abort transport device config).Follows transport allowed
  := by
  apply Workflow.Follows.of_quiet
  rw [quiet_abort]
  apply Workflow.Follows.bind
  · apply Workflow.Follows.quiet
    apply follows_submitAbort habort
  · intro outcome
    apply Workflow.Follows.pure

theorem follows_sendSteps (device : String) (plan : Plan) {steps : List Step}
    (hsteps : ∀ step ∈ steps, allowed (config.command step))
    (hstatus : allowed config.statusCommand) (habort : allowed config.abortCommand)
    (cursor : Cursor) :
  (sendSteps transport device config plan steps cursor).Follows transport allowed
  := by
  induction steps generalizing cursor with
  | nil => apply Workflow.Follows.pure
  | cons step rest ih =>
      obtain ⟨hstep, hrest⟩ := List.forall_mem_cons.mp hsteps
      apply Workflow.Follows.of_quiet
      rw [quiet_sendSteps]
      apply Workflow.Follows.bind
      · apply Workflow.Follows.quiet
        apply follows_sendStep device hstep hstatus
      · intro outcome
        cases outcome with
        | error source =>
            apply Workflow.Follows.bind
            · apply Workflow.Follows.quiet
              apply follows_abort device habort
            · intro aborted
              apply Workflow.Follows.pure
        | ok _ =>
            apply Workflow.Follows.quiet
            apply ih hrest

/-- A transfer sends nothing but the status query, the abort and the steps of its plan. -/
theorem follows_run (transport : Transport σ) (device : String) (config : Config) (image : Image) :
  (run transport device config image).Follows transport (config.Sends image)
  := by
  cases hvalid : config.validate with
  | error error =>
      rw [run, hvalid]
      apply Workflow.Follows.pure
  | ok _ =>
      cases hplan : config.plan image with
      | error error =>
          rw [run, hvalid]
          simp only [hplan]
          apply Workflow.Follows.pure
      | ok plan =>
          apply Workflow.Follows.of_quiet
          rw [quiet_run hvalid hplan]
          apply Workflow.Follows.bind
          · apply Workflow.Follows.quiet
            apply follows_sendSteps
            · intro step hstep
              exact .inr (.inr ⟨plan, step, hplan, hstep, rfl⟩)
            · exact .inl rfl
            · exact .inr (.inl rfl)
          · intro outcome
            cases outcome with
            | error error => apply Workflow.Follows.pure
            | ok bytes =>
                cases hmock : config.mock with
                | false => apply Workflow.Follows.pure
                | true =>
                    apply Workflow.Follows.bind
                    · apply Workflow.Follows.quiet
                      apply follows_abort
                      exact .inr (.inl rfl)
                    · intro aborted
                      apply Workflow.Follows.pure

end

end CxlFirmware.Transfer
