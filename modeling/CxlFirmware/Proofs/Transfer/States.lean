import CxlFirmware.Proofs.Transfer.Blocks
import CxlFirmware.Proofs.Transfer.Milestones

/-!
# The states that a transfer logs

A transfer logs each change of its state once, in front of the submissions of the step that
makes it, and an abort in front of the submissions of the abort.  Which changes there are
depends on the count of steps alone; a transfer that is cut off logs those of the steps that it
begins.  Behind the submissions of an abort comes one record, which says whether it succeeded.
Only a fault in the abort, which ends the program, leaves that record out.
-/

namespace CxlFirmware

variable {σ α β : Type}

namespace Transfer

/-! ## Records of states -/

/-- The record of a change from one state to another. -/
def changed (device : String) (before after : State) : LogRecord :=
  ⟨.debug, origin, device ++ ": transfer " ++ before.text ++ " -> " ++ after.text⟩

/-- The record of an abort that begins. -/
def aborting (device : String) : LogRecord :=
  ⟨.debug, origin, device ++ ": transfer " ++ State.aborting.text⟩

/-- The record of an abort that succeeded. -/
def aborted (device : String) : LogRecord :=
  ⟨.info, origin, device ++ ": transfer " ++ State.aborted.text⟩

/-- The record of an abort that failed. -/
def abortFailed (device : String) (error : Error) : LogRecord :=
  ⟨.warn, origin, device ++ ": abort failed, device may need a fresh transfer: " ++ error.message⟩

/-- A record tells of the state of a transfer: a record for debugging about the transfer, or one
of the end of an abort. -/
def TellsState (device : String) (record : LogRecord) : Prop :=
  record = aborted device
    ∨ record.origin = origin
      ∧ (record.level = .debug ∧ (device ++ ": transfer ").toList <+: record.message.toList
        ∨ record.level = .warn ∧ (device ++ ": abort failed").toList <+: record.message.toList)

instance (device : String) : DecidablePred (TellsState device) :=
  fun record => inferInstanceAs (Decidable (record = aborted device ∨ _))

theorem TellsState.origin_eq {device : String} {record : LogRecord} (h : TellsState device record) :
  record.origin = origin
  := by
  rcases h with rfl | ⟨horigin, -⟩
  · rfl
  · exact horigin

theorem tellsState_changed (device : String) (before after : State) :
  TellsState device (changed device before after)
  := by
  right
  refine ⟨rfl, .inl ⟨rfl, ?_⟩⟩
  simp only [changed, String.toList_append, List.append_assoc, List.prefix_append_right_inj,
    List.prefix_append]

theorem tellsState_aborting (device : String) :
  TellsState device (aborting device)
  := by
  right
  refine ⟨rfl, .inl ⟨rfl, ?_⟩⟩
  simp only [aborting, String.toList_append, List.prefix_append]

theorem tellsState_abortFailed (device : String) (error : Error) :
  TellsState device (abortFailed device error)
  := by
  right
  refine ⟨rfl, .inr ⟨rfl, ?_⟩⟩
  have hwords : ": abort failed".toList
      <+: ": abort failed, device may need a fresh transfer: ".toList := by
    decide
  simp only [abortFailed, String.toList_append, List.append_assoc, List.prefix_append_right_inj]
  exact List.prefix_append_of_prefix hwords

/-- Neither text begins with the other. -/
def Apart (text text' : String) : Prop :=
  ¬ text.toList <+: text'.toList ∧ ¬ text'.toList <+: text.toList

instance (text text' : String) : Decidable (Apart text text') :=
  inferInstanceAs (Decidable (_ ∧ _))

theorem not_prefix_of_apart {device start words message : String} (hapart : Apart start words)
    (hstart : (device ++ start).toList <+: message.toList) :
  ¬ (device ++ words).toList <+: message.toList
  := by
  intro hwords
  rw [String.toList_append] at hstart hwords
  rcases List.prefix_or_prefix_of_prefix hstart hwords with h | h
  · exact hapart.1 ((List.prefix_append_right_inj _).mp h)
  · exact hapart.2 ((List.prefix_append_right_inj _).mp h)

/-- A message that begins with other words tells of no state. -/
theorem not_tellsState {device start message : String} {level : LogLevel}
    (hapart : (level = .debug → Apart start ": transfer ")
      ∧ (level = .info → Apart start ": transfer Aborted")
      ∧ (level = .warn → Apart start ": abort failed"))
    (hstart : (device ++ start).toList <+: message.toList) :
  ¬ TellsState device ⟨level, origin, message⟩
  := by
  obtain ⟨hdebug, hinfo, hwarn⟩ := hapart
  rintro (haborted | ⟨-, ⟨hlevel, hwords⟩ | ⟨hlevel, hwords⟩⟩)
  · obtain ⟨hlevel, -, rfl⟩ := LogRecord.mk.inj haborted
    apply not_prefix_of_apart (hinfo hlevel) hstart
    rw [String.append_assoc]
    apply List.prefix_rfl
  · exact not_prefix_of_apart (hdebug hlevel) hstart hwords
  · exact not_prefix_of_apart (hwarn hlevel) hstart hwords

/-- Nor does a milestone. -/
theorem not_tellsState_milestone (device : String) (percent : Nat) :
  ¬ TellsState device (milestone device percent)
  := by
  have hother : ¬ (aborted device).IsMilestone :=
    LogRecord.not_isMilestone_append (by decide) (by decide)
  rintro (haborted | ⟨-, ⟨hlevel, -⟩ | ⟨hlevel, -⟩⟩)
  · rw [← haborted] at hother
    exact hother (isMilestone_milestone device percent)
  · cases hlevel
  · cases hlevel

end Transfer

open Transfer (TellsState)

/-! ## What a run keeps track of -/

/-- Whether an event is a submission or a record of the state of a transfer. -/
def Event.tracks (device : String) : Event → Bool
  | exchanged _ _ => true
  | logged record => TellsState device record
  | slept _ | progressed _ => false

/-- The submissions and the records of states of a run. -/
def Run.tracked (device : String) (run : Run σ α) : List Event :=
  run.events.filter (Event.tracks device)

/-- The records of states of a run. -/
def Run.stateRecords (device : String) (run : Run σ α) : List LogRecord :=
  (run.events.filterMap Event.record?).filter (TellsState device)

/-- The mailbox itself writes no record like those of a transfer. -/
def Transport.Reserved (transport : Transport σ) : Prop :=
  ∀ command m, ∀ record ∈ (transport.submit command m).records, record.origin ≠ Transfer.origin

theorem Script.reserved (name : String) :
  (Script.transport name).Reserved
  := by
  intro command script
  rw [records_submit]
  nofun

theorem Transport.Reserved.covers {transport : Transport σ} (hreserved : transport.Reserved)
    (device : String) :
  transport.Covers fun record => ¬ TellsState device record
  := by
  constructor
  · intro command m record hrecord htells
    exact hreserved command m record hrecord htells.origin_eq
  · intro record hroutine htells
    have horigin := htells.origin_eq
    rcases hroutine.origin with h | h | h
    all_goals
      rw [h] at horigin
      exact absurd horigin (by decide)

theorem Run.stateRecords_eq (device : String) (run : Run σ α) :
  run.stateRecords device = (run.tracked device).filterMap Event.record?
  := by
  rw [stateRecords, tracked]
  induction run.events with
  | nil => rfl
  | cons event events ih =>
      cases event with
      | exchanged command answer => exact ih
      | slept duration => exact ih
      | progressed report => exact ih
      | logged record =>
          change (record :: events.filterMap Event.record?).filter _ = _
          by_cases h : TellsState device record
          · rw [List.filter_cons_of_pos (by simpa using h),
              List.filter_cons_of_pos (by simpa [Event.tracks] using h), ih]
            rfl
          · rw [List.filter_cons_of_neg (by simpa using h),
              List.filter_cons_of_neg (by simpa [Event.tracks] using h), ih]

theorem Run.submissions_eq_tracked (device : String) (run : Run σ α) :
  run.submissions = (run.tracked device).filterMap Event.submission?
  := by
  symm
  apply Event.filterMap_filter
  intro event h
  cases event with
  | exchanged command answer => cases h
  | progressed report => rfl
  | slept duration => rfl
  | logged record => rfl

namespace Workflow

variable {device : String}

/-- A workflow that logs no states has its submissions tracked. -/
theorem Writes.tracked {x : Workflow σ α} (hx : x.Writes fun record => ¬ TellsState device record)
    (m : σ) :
  (x m).tracked device = (x m).submissions.map Submission.event
  := by
  apply hx.filter_events
  · exact fun _ _ => rfl
  · exact fun _ => rfl
  · intro record h
    simpa [Event.tracks] using h

theorem tracked_bind_of_ok {x : Workflow σ α} {m : σ} {a : α} (h : (x m).result = .ok a)
    (f : α → Workflow σ β) :
  ((x >>= f) m).tracked device = (x m).tracked device ++ (f a (x m).mailbox).tracked device
  := by
  rw [bind_of_ok h]
  apply List.filter_append

theorem tracked_bind_of_fault {x : Workflow σ α} {m : σ} {fault : Fault}
    (h : (x m).result = .error fault) (f : α → Workflow σ β) :
  ((x >>= f) m).tracked device = (x m).tracked device
  := by
  rw [bind_of_fault h]
  rfl

theorem tracked_log_bind {level : LogLevel} {origin message : String}
    (h : ¬ TellsState device ⟨level, origin, message⟩) (f : Unit → Workflow σ β) (m : σ) :
  ((log level origin message >>= f) m).tracked device = (f () m).tracked device
  := List.filter_cons_of_neg (by simpa [Event.tracks] using h)

theorem tracked_state_bind {level : LogLevel} {origin message : String}
    (h : TellsState device ⟨level, origin, message⟩) (f : Unit → Workflow σ β) (m : σ) :
  ((log level origin message >>= f) m).tracked device
    = .logged ⟨level, origin, message⟩ :: (f () m).tracked device
  := List.filter_cons_of_pos (by simpa [Event.tracks] using h)

theorem tracked_bind_pure (x : Workflow σ α) (f : α → β) (m : σ) :
  ((x >>= fun a => pure (f a)) m).tracked device = (x m).tracked device
  := by
  cases h : (x m).result with
  | error fault => rw [tracked_bind_of_fault h]
  | ok a =>
      rw [tracked_bind_of_ok h]
      apply List.append_nil

theorem tracked_progress_bind (report : Transfer.Progress) (f : Unit → Workflow σ β) (m : σ) :
  ((emit (.progressed report) >>= f) m).tracked device = (f () m).tracked device
  := rfl

end Workflow

namespace Transfer

open Workflow (Writes)

variable {transport : Transport σ} {device : String} {config : Config} {image : Image}
  {plan : Plan} {step : Step} {before after : List Step} {cursor : Cursor} {m m₁ m' : σ}
  {trace trace' : List Submission} {delays delays' : List Duration}

/-! ## Changes of state -/

/-- A change of state, and the position of the step that makes it. -/
structure Change where
  step : Nat
  before : State
  after : State
  deriving DecidableEq

/-- The record of a change. -/
def Change.record (device : String) (change : Change) : LogRecord :=
  changed device change.before change.after

namespace Config

/-- The changes of state of a transfer in `count` steps. -/
def changes (config : Config) (count : Nat) : List Change :=
  if config.mock then [⟨0, .idle, .initiating⟩]
  else match count with
    | 0 => []
    | 1 => [⟨0, .idle, .ending⟩]
    | 2 => [⟨0, .idle, .initiating⟩, ⟨1, .initiating, .ending⟩]
    | count + 3 =>
      [⟨0, .idle, .initiating⟩, ⟨1, .initiating, .continuing⟩, ⟨count + 2, .continuing, .ending⟩]

/-- The action of the step at a position. -/
def actionAt (config : Config) (count i : Nat) : Action :=
  if config.mock then .initiate else Plan.actionAt (count - 1) i

/-- The state of a transfer in front of the step at a position. -/
def stateAt (config : Config) (count : Nat) : (i : Nat) → State
  | 0 => .idle
  | i + 1 => .during (config.actionAt count i)

theorem getElem?_actions {count i : Nat} (hi : i < count) :
  (Plan.actions count)[i]? = some (Plan.actionAt (count - 1) i)
  := by
  match count, i with
  | 1, 0 => rfl
  | count + 2, 0 => rfl
  | count + 2, i + 1 =>
      rw [Plan.actions, List.getElem?_cons_succ, Plan.actionAt]
      by_cases hlast : i = count
      · subst hlast
        simp
      · have hlt : i < count := by omega
        simp [List.getElem?_append, hlt, hlast]

theorem plan_action (hplan : config.plan image = .ok plan) {i : Nat}
    (hstep : plan.steps[i]? = some step) :
  step.action = config.actionAt plan.steps.length i
  := by
  rcases config.plan_cases hplan with ⟨hmock, hcarries⟩ | ⟨hmock, hsteps⟩
  · obtain ⟨hi, -⟩ := List.getElem?_eq_some_iff.mp hstep
    have haction := getElem?_actions hi
    rw [← hcarries.map_action, List.getElem?_map, hstep] at haction
    rw [actionAt, hmock]
    exact Option.some.inj haction
  · rw [actionAt, hmock]
    rw [hsteps] at hstep
    cases i with
    | zero =>
        cases hstep
        rfl
    | succ i => cases hstep

/-- A step makes the change that leads from the state in front of it to its own, if these
differ, and no other. -/
theorem filter_changes (hplan : config.plan image = .ok plan) {i : Nat}
    (hstep : plan.steps[i]? = some step) :
  (config.changes plan.steps.length).filter (·.step = i)
    = if .during step.action = config.stateAt plan.steps.length i then []
      else [⟨i, config.stateAt plan.steps.length i, .during step.action⟩]
  := by
  obtain ⟨hi, -⟩ := List.getElem?_eq_some_iff.mp hstep
  rw [plan_action hplan hstep]
  rcases config.plan_cases hplan with ⟨hmock, -⟩ | ⟨hmock, hsteps⟩
  · generalize plan.steps.length = count at hi ⊢
    match count, i with
    | 1, 0 | 2, 0 | 2, 1 | _ + 3, 0 | _ + 3, 1 =>
        simp [changes, actionAt, stateAt, Plan.actionAt, State.during, hmock]
    | count + 3, i + 2 =>
        by_cases hlast : count = i
        · simp [changes, actionAt, stateAt, Plan.actionAt, State.during, hmock, hlast]
        · have hlast' : ¬ i = count := fun h => hlast h.symm
          have hmiddle : ¬ i = count + 1 := by omega
          simp [changes, actionAt, stateAt, Plan.actionAt, State.during, hmock, hlast, hlast',
            hmiddle]
  · rw [hsteps] at hi
    obtain rfl := Nat.lt_one_iff.mp hi
    simp [changes, actionAt, stateAt, State.during, hmock]

/-- Each step makes one change at most, and later steps make later changes. -/
theorem pairwise_changes (config : Config) (count : Nat) :
  (config.changes count).Pairwise (·.step < ·.step)
  := by
  unfold changes
  split
  · simp
  · split
    · simp
    · simp
    · simp
    · simp

end Config

theorem filter_lt_succ {changes : List Change} (h : changes.Pairwise (·.step < ·.step))
    (begun : Nat) :
  changes.filter (·.step < begun + 1)
    = changes.filter (·.step < begun) ++ changes.filter (·.step = begun)
  := by
  induction h with
  | nil => rfl
  | @cons change rest hlater _ ih =>
      rw [List.filter_cons, List.filter_cons, List.filter_cons, ih]
      rcases Nat.lt_trichotomy change.step begun with hlt | rfl | hgt
      · simp [hlt, hlt.ne, Nat.lt_succ_of_lt hlt]
      · have hnone : rest.filter (·.step < change.step) = [] := by
          apply List.filter_eq_nil_iff.mpr
          intro later hmem
          simpa using (hlater later hmem).le
        simp [hnone]
      · simp [hgt.ne', Nat.not_lt_of_gt hgt, Nat.not_lt.mpr hgt]

namespace Config

/-- The changes of the first steps are those of each of them, one after another. -/
theorem filter_changes_lt (config : Config) (count begun : Nat) :
  (config.changes count).filter (·.step < begun)
    = (List.range begun).flatMap fun i => (config.changes count).filter (·.step = i)
  := by
  induction begun with
  | zero => simp
  | succ begun ih =>
      rw [filter_lt_succ (config.pairwise_changes count), ih, List.range_succ,
        List.flatMap_append, List.flatMap_singleton]

/-- What a step tells of its state and submits: its change, if it makes one, and then its
submissions. -/
def stage (device : String) (config : Config) (count : Nat) :
    List Submission × Nat → List Event
  | (trace, i) =>
    (((config.changes count).filter (·.step = i)).map (Change.record device)).map .logged
      ++ trace.map Submission.event

end Config

/-! ## Steps -/

/-- What is told of a change from one state to another, if these differ. -/
def announcement (device : String) (before after : State) : List Event :=
  if after = before then [] else [.logged (changed device before after)]

theorem tracked_logState (device : String) (before after : State) (f : Unit → Workflow σ α)
    (m : σ) :
  ((logState device before after >>= f) m).tracked device
    = announcement device before after ++ (f () m).tracked device
  := by
  rw [logState, announcement]
  split
  · rfl
  · apply Workflow.tracked_state_bind
    apply tellsState_changed

theorem tracked_logDecile (device : String) (before after : Nat) (f : Unit → Workflow σ α)
    (m : σ) :
  ((logDecile device before after >>= f) m).tracked device = (f () m).tracked device
  := by
  rw [logDecile]
  split
  · apply Workflow.tracked_log_bind
    apply not_tellsState_milestone
  · rfl

/-- A step logs no states. -/
theorem writes_step (hreserved : transport.Reserved) (device : String) (config : Config)
    (step : Step) :
  (sendStep transport device config step).Writes fun record => ¬ TellsState device record
  := by
  apply writes_sendStep (hreserved.covers device)
  refine not_tellsState (by decide) (?_ : (device ++ ": step ").toList <+: _)
  simp only [String.toList_append, List.append_assoc, List.prefix_append_right_inj,
    List.prefix_append]

/-- A step that is done tells of its change of state, then comes what it submits, and then what
the steps behind it tell and submit. -/
theorem tracked_of_done (hreserved : transport.Reserved) (device : String) (plan : Plan)
    (after : List Step) (cursor : Cursor)
    (hdone : StepDone transport config step m trace delays m') :
  (sendSteps transport device config plan (step :: after) cursor m).tracked device
    = announcement device cursor.state (.during step.action) ++ (trace.map Submission.event
      ++ (sendSteps transport device config plan after (cursor.next plan step) m').tracked device)
  := by
  obtain ⟨hresult, hsubmissions, -, rfl⟩ := sendStep_of_done device hdone
  rw [sendSteps, tracked_logState, Workflow.tracked_bind_of_ok hresult,
    (writes_step hreserved device config step).tracked, hsubmissions]
  apply congrArg (announcement device cursor.state (.during step.action) ++ ·)
  apply congrArg (trace.map Submission.event ++ ·)
  apply (Workflow.tracked_progress_bind _ _ _).trans
  apply tracked_logDecile

/-! ## Aborts -/

/-- The course of an abort: what its loop submits, and what the loop comes to. -/
structure Withdrawal where
  submissions : List Submission
  outcome : Except Fault (Except Error Bytes)

namespace Withdrawal

/-- The record of the end of an abort.  There is none where the abort ends the program. -/
def verdict (device : String) (withdrawal : Withdrawal) : List LogRecord :=
  match withdrawal.outcome with
  | .ok (.ok _) => [aborted device]
  | .ok (.error error) => [abortFailed device error]
  | .error _ => []

/-- The records of the beginning and the end of an abort. -/
def records (device : String) (withdrawal : Withdrawal) : List LogRecord :=
  aborting device :: withdrawal.verdict device

/-- The records of an abort around its submissions. -/
def events (device : String) (withdrawal : Withdrawal) : List Event :=
  .logged (aborting device) :: (withdrawal.submissions.map Submission.event
    ++ (withdrawal.verdict device).map .logged)

/-- The abort is sent as the parameters say, if there can be a payload for it.  Its loop succeeds
exactly when the last answer is one of success, and it comes to an end if it can be told each time
whether it is late and something comes back for each of its commands.  Without a payload, nothing
is sent, and the program ends. -/
structure Follows (transport : Transport σ) (config : Config) (withdrawal : Withdrawal) : Prop where
  repeated : reserve config = .ok () →
    Repeated config.stepRetry.maxAttempts.toNat config.abortCommand Answer.IsRetryable
      (fun last => last.IsSuccess ↔ ∃ reply, withdrawal.outcome = .ok (.ok reply))
      withdrawal.submissions
  ends : reserve config = .ok () → transport.Times config.stepRetry →
    (∀ s ∈ withdrawal.submissions, ∃ receipt, s.answer = .ok receipt) →
    ∃ result, withdrawal.outcome = .ok result
  unsent : ∀ fault, reserve config = .error fault →
    withdrawal.submissions = [] ∧ withdrawal.outcome = .error fault

end Withdrawal

/-- The course of the abort that a transfer runs. -/
def withdrawal (transport : Transport σ) (config : Config) (m : σ) : Withdrawal :=
  ⟨(submitAbort transport config m).submissions, (submitAbort transport config m).result⟩

theorem follows_withdrawal (hvalid : config.validate = .ok ()) (transport : Transport σ) (m : σ) :
  (withdrawal transport config m).Follows transport config
  := by
  constructor
  · intro hpayload
    exact (submitAbort_repeated hvalid hpayload (Workflow.Gives.self _ m)).1
  · intro hpayload htimes hanswered
    exact (submitAbort_relays hvalid htimes hpayload).result hanswered
  · intro fault hpayload
    rw [withdrawal, submitAbort_of_unreserved hpayload]
    exact ⟨rfl, rfl⟩

/-- An abort tells that it begins, then comes what it submits, and then it tells how it
ended. -/
theorem tracked_abort (hreserved : transport.Reserved) (device : String) (config : Config)
    (m : σ) :
  (abort transport device config m).tracked device
    = (withdrawal transport config m).events device
  := by
  have hloop : (Retry.withRetry transport.clock config.stepRetry (Mailbox.submit transport
      config.kind.opcode (abortPayload config))).Writes fun record => ¬ TellsState device record :=
    Retry.writes_withRetry (hreserved.covers device) _ _
      (Mailbox.writes_submit (hreserved.covers device) _ _)
  rw [Withdrawal.events, Withdrawal.verdict, withdrawal, submitAbort, abort,
    Workflow.tracked_state_bind (tellsState_aborting device)]
  apply congrArg (Event.logged (aborting device) :: ·)
  cases reserve config with
  | error fault => rfl
  | ok _ =>
      dsimp only
      generalize Retry.withRetry transport.clock config.stepRetry _ = loop at hloop ⊢
      cases hresult : (loop m).result with
      | error fault =>
          rw [Workflow.tracked_bind_of_fault hresult, hloop.tracked]
          exact (List.append_nil _).symm
      | ok outcome =>
          rw [Workflow.tracked_bind_of_ok hresult, hloop.tracked]
          apply congrArg ((loop m).submissions.map Submission.event ++ ·)
          cases outcome with
          | error error =>
              exact Workflow.tracked_state_bind (tellsState_abortFailed device error) _ _
          | ok reply => exact Workflow.tracked_state_bind (.inl rfl) _ _

/-- Steps do not all succeed where the first of them stops. -/
theorem sendSteps_ne_ok (device : String) (plan : Plan) (after : List Step) (cursor : Cursor)
    {stop : Except Fault Error} (hstop : StepStops transport config step m stop trace delays m')
    (bytes : Nat) :
  (sendSteps transport device config plan (step :: after) cursor m).result ≠ .ok (.ok bytes)
  := by
  cases stop with
  | error fault =>
      rw [(sendSteps_of_fault device plan after cursor hstop).result_eq]
      nofun
  | ok source =>
      have habort := Workflow.Gives.self (submitAbort transport config) m'
      cases hresult : (submitAbort transport config m').result with
      | error fault =>
          rw [hresult] at habort
          rw [(sendSteps_of_abort_fault device plan after cursor hstop habort).result_eq]
          nofun
      | ok outcome =>
          rw [hresult] at habort
          rw [(sendSteps_of_fails device plan after cursor hstop habort).result_eq]
          nofun

/-- A step that stops tells of its change of state, then comes what it submits, and then the
abort, unless the step ended the program.  No step follows. -/
theorem tracked_of_stops (hreserved : transport.Reserved) (hvalid : config.validate = .ok ())
    (device : String) (plan : Plan) (after : List Step) (cursor : Cursor)
    {stop : Except Fault Error} (hstop : StepStops transport config step m stop trace delays m') :
  ∃ ending : Option Withdrawal, (∀ abort ∈ ending, abort.Follows transport config)
    ∧ (sendSteps transport device config plan (step :: after) cursor m).tracked device
      = announcement device cursor.state (.during step.action) ++ (trace.map Submission.event
        ++ ending.toList.flatMap (Withdrawal.events device))
  := by
  obtain ⟨hresult, hsubmissions, -, hmailbox⟩ := sendStep_of_stops device hstop
  have hstep := (writes_step hreserved device config step).tracked m
  rw [hsubmissions] at hstep
  cases stop with
  | error fault =>
      refine ⟨none, nofun, ?_⟩
      rw [sendSteps, tracked_logState, Workflow.tracked_bind_of_fault hresult, hstep]
      simp
  | ok source =>
      refine ⟨some (withdrawal transport config m'), ?_, ?_⟩
      · rintro _ ⟨⟩
        exact follows_withdrawal hvalid transport m'
      · rw [sendSteps, tracked_logState, Workflow.tracked_bind_of_ok hresult, hstep, hmailbox,
          Option.toList_some, List.flatMap_singleton]
        apply congrArg (announcement device cursor.state (.during step.action) ++ ·)
        apply congrArg (trace.map Submission.event ++ ·)
        refine (Workflow.tracked_log_bind ?_ _ _).trans ?_
        · refine not_tellsState (by decide) (?_ : (device ++ ": step ").toList <+: _)
          simp only [String.toList_append, List.append_assoc, List.prefix_append_right_inj,
            List.prefix_append]
        · rw [Workflow.tracked_bind_pure]
          exact tracked_abort hreserved device config m'

section

variable (hreserved : transport.Reserved) (hvalid : config.validate = .ok ())
  (hplan : config.plan image = .ok plan)
include hreserved hvalid hplan

omit hreserved hvalid in
/-- What a step tells in the state in front of it is the change that it makes. -/
theorem announcement_eq (device : String) {i : Nat} (hstep : plan.steps[i]? = some step) :
  announcement device (config.stateAt plan.steps.length i) (.during step.action)
    = (((config.changes plan.steps.length).filter (·.step = i)).map (Change.record device)).map
      .logged
  := by
  rw [config.filter_changes hplan hstep, announcement]
  split
  · rfl
  · rfl

/-- Steps that are done tell of their changes, each in front of what it submits, and then the
steps behind them tell of theirs. -/
theorem tracked_of_sent (device : String) (after : List Step) {count : Nat}
    (hsteps : ∀ i step, before[i]? = some step → plan.steps[count + i]? = some step)
    (hstate : cursor.state = config.stateAt plan.steps.length count)
    (hsent : Sent transport config before m trace delays m') :
  ∃ groups, List.Forall₂ config.Group before groups
    ∧ (before.foldl (fun cursor step => cursor.next plan step) cursor).state
      = config.stateAt plan.steps.length (count + before.length)
    ∧ (sendSteps transport device config plan (before ++ after) cursor m).tracked device
      = (groups.zipIdx count).flatMap (config.stage device plan.steps.length)
        ++ (sendSteps transport device config plan after
          (before.foldl (fun cursor step => cursor.next plan step) cursor) m').tracked device
  := by
  induction hsent generalizing count cursor with
  | nil m => exact ⟨[], .nil, hstate, rfl⟩
  | @cons step rest m m₁ m' trace trace' delays delays' hdone hsent ih =>
      have hstep : plan.steps[count]? = some step := hsteps 0 step rfl
      have hrest : ∀ i step, rest[i]? = some step → plan.steps[count + 1 + i]? = some step := by
        intro i step h
        rw [Nat.add_assoc, Nat.add_comm 1 i]
        exact hsteps (i + 1) step h
      have hnext : (cursor.next plan step).state
          = config.stateAt plan.steps.length (count + 1) :=
        congrArg State.during (config.plan_action hplan hstep)
      obtain ⟨groups, hgroups, hlast, htracked⟩ := ih hrest hnext
      refine ⟨trace :: groups, .cons (group_of_done hvalid hdone) hgroups, ?_, ?_⟩
      · rw [List.foldl_cons, hlast, List.length_cons, Nat.add_assoc, Nat.add_comm 1]
      · rw [List.cons_append, tracked_of_done hreserved device plan _ cursor hdone, htracked,
          hstate, announcement_eq hplan device hstep, List.zipIdx_cons, List.flatMap_cons,
          Config.stage, List.append_assoc, List.append_assoc]
        rfl

/-- A transfer tells what its steps tell.  A mock transfer whose steps all succeed goes on with
an abort. -/
theorem tracked_run (device : String) (m : σ) :
  ∃ ending : Option Withdrawal, (∀ abort ∈ ending, abort.Follows transport config)
    ∧ ((∀ bytes, (sendSteps transport device config plan plan.steps .start m).result
        ≠ .ok (.ok bytes)) → ending = none)
    ∧ (run transport device config image m).tracked device
      = (sendSteps transport device config plan plan.steps .start m).tracked device
        ++ ending.toList.flatMap (Withdrawal.events device)
  := by
  have hnever : ∀ abort ∈ (none : Option Withdrawal), abort.Follows transport config := by
    intro abort habort
    exact absurd habort (Option.not_mem_none abort)
  rw [run]
  simp only [hvalid, hplan]
  rw [Workflow.tracked_log_bind]
  · rcases hresult : (sendSteps transport device config plan plan.steps .start m).result with
      fault | error | bytes
    · refine ⟨none, hnever, fun _ => rfl, ?_⟩
      rw [Workflow.tracked_bind_of_fault hresult]
      exact (List.append_nil _).symm
    · refine ⟨none, hnever, fun _ => rfl, ?_⟩
      rw [Workflow.tracked_bind_of_ok hresult]
      rfl
    · rw [Workflow.tracked_bind_of_ok hresult]
      cases config.mock with
      | false =>
          refine ⟨none, hnever, fun _ => rfl, ?_⟩
          apply congrArg ((sendSteps transport device config plan plan.steps .start m).tracked
            device ++ ·)
          apply Workflow.tracked_log_bind
          refine not_tellsState (by decide)
            (?_ : (device ++ ": transfer complete, slot ").toList <+: _)
          simp only [String.toList_append, List.append_assoc, List.prefix_append_right_inj,
            List.prefix_append]
      | true =>
          generalize (sendSteps transport device config plan plan.steps .start m).mailbox = m'
          refine ⟨some (withdrawal transport config m'), ?_, ?_, ?_⟩
          · rintro _ ⟨⟩
            exact follows_withdrawal hvalid transport m'
          · exact fun hfailed => absurd rfl (hfailed bytes)
          · apply congrArg ((sendSteps transport device config plan plan.steps .start m).tracked
              device ++ ·)
            refine (Workflow.tracked_log_bind ?_ _ _).trans ?_
            · exact not_tellsState (by decide) List.prefix_rfl
            · rw [Workflow.tracked_bind_pure, tracked_abort hreserved, Option.toList_some,
                List.flatMap_singleton]
  · refine not_tellsState (by decide) (?_ : (device ++ ": transferring ").toList <+: _)
    simp only [String.toList_append, List.append_assoc, List.prefix_append_right_inj,
      List.prefix_append]

end

/-! ## What a transfer logs of its states -/

/-- The submissions for each step that a transfer begins: every step is taken and confirmed but
possibly the last one. -/
inductive Config.Begun (config : Config) (plan : Plan) : List (List Submission) → Prop
  | all {groups : List (List Submission)} (hgroups : List.Forall₂ config.Group plan.steps groups) :
      Begun config plan groups
  | stopped {before after : List Step} {step : Step} {groups : List (List Submission)}
      {cut : List Submission} (hsteps : plan.steps = before ++ step :: after)
      (hgroups : List.Forall₂ config.Group before groups) (hcut : config.CutOff step cut) :
      Begun config plan (groups ++ [cut])

/-- The commands of the steps that are begun are none of an abort. -/
theorem Config.Begun.command_ne (hplan : config.plan image = .ok plan)
    {traces : List (List Submission)} (h : config.Begun plan traces) {s : Submission}
    (hs : s ∈ traces.flatten) :
  s.command ≠ config.abortCommand
  := by
  have hcommand : s.command = config.statusCommand
      ∨ ∃ step ∈ plan.steps, s.command = config.command step := by
    cases h with
    | all hgroups => exact command_of_groups hgroups hs
    | @stopped before after step groups cut hsteps hgroups hcut =>
        rw [List.flatten_append, List.flatten_singleton] at hs
        rw [hsteps]
        rcases List.mem_append.mp hs with hs | hs
        · apply (command_of_groups hgroups hs).imp_right
          rintro ⟨earlier, hearlier, hcommand⟩
          exact ⟨earlier, List.mem_append_left _ hearlier, hcommand⟩
        · apply (command_of_cutOff hcut hs).imp_right
          intro hcommand
          exact ⟨step, List.mem_append_right _ List.mem_cons_self, hcommand⟩
  rcases hcommand with hstatus | ⟨step, hstep, hcommand⟩
  · rw [hstatus]
    exact (config.opcode_ne_statusCommand _).symm
  · rw [hcommand]
    obtain ⟨i, hi⟩ := List.mem_iff_getElem?.mp hstep
    exact config.command_ne_abortCommand hplan hi

/-- What is tracked of a transfer: for each step that it begins, the change of state and then
what is submitted, and then the abort, if there is one. -/
theorem tracked_transfer (hreserved : transport.Reserved) (hvalid : config.validate = .ok ())
    (hplan : config.plan image = .ok plan) (device : String) (m : σ) :
  ∃ (traces : List (List Submission)) (ending : Option Withdrawal),
    config.Begun plan traces ∧ (∀ abort ∈ ending, abort.Follows transport config)
    ∧ (run transport device config image m).tracked device
      = traces.zipIdx.flatMap (config.stage device plan.steps.length)
        ++ ending.toList.flatMap (Withdrawal.events device)
  := by
  have hstart : Cursor.start.state = config.stateAt plan.steps.length 0 := rfl
  obtain ⟨ending, hending, hnone, hrun⟩ := tracked_run hreserved hvalid hplan device m
  rcases sent_or_stops transport config plan.steps m with ⟨trace, delays, m', hsent⟩
    | ⟨before, step, after, trace, delays, m₁, stop, trace', delays', m', hsteps, hsent, hstop⟩
  · have hplace : ∀ i step, plan.steps[i]? = some step → plan.steps[0 + i]? = some step := by
      intro i step h
      rw [Nat.zero_add]
      exact h
    obtain ⟨groups, hgroups, -, htracked⟩ :=
      tracked_of_sent hreserved hvalid hplan device [] hplace hstart hsent
    rw [List.append_nil] at htracked
    refine ⟨groups, ending, .all hgroups, hending, ?_⟩
    rw [hrun, htracked.trans (List.append_nil _)]
  · have hplace : ∀ i step, before[i]? = some step → plan.steps[0 + i]? = some step := by
      intro i earlier h
      rw [Nat.zero_add, hsteps, List.getElem?_append_left (List.getElem?_eq_some_iff.mp h).1]
      exact h
    have hstep : plan.steps[before.length]? = some step := by
      rw [hsteps]
      simp
    obtain ⟨groups, hgroups, hstate, htracked⟩ :=
      tracked_of_sent hreserved hvalid hplan device (step :: after) hplace hstart hsent
    obtain ⟨ending', hending', hstopped⟩ :=
      tracked_of_stops hreserved hvalid device plan after _ hstop
    have hall := (sendSteps_of_sent device plan (step :: after) .start hsent
      (Workflow.Gives.self _ m₁)).result_eq
    rw [← hsteps] at hall htracked
    rw [hnone fun bytes => hall ▸ sendSteps_ne_ok device plan after _ hstop bytes] at hrun
    refine ⟨groups ++ [trace'], ending', .stopped hsteps hgroups (cutOff_of_stops hvalid hstop),
      hending', ?_⟩
    rw [hrun, htracked, hstopped, hstate, Nat.zero_add, announcement_eq hplan device hstep,
      List.zipIdx_append, List.flatMap_append, hgroups.length_eq]
    simp [Config.stage]

/-! ## The records and the submissions -/

theorem records_event (submissions : List Submission) :
  (submissions.map Submission.event).filterMap Event.record? = []
  := by
  rw [List.filterMap_map]
  apply List.filterMap_eq_nil_iff.mpr
  exact fun _ _ => rfl

theorem records_logged (records : List LogRecord) :
  (records.map Event.logged).filterMap Event.record? = records
  := by
  rw [List.filterMap_map]
  apply List.filterMap_some

theorem submissions_logged (records : List LogRecord) :
  (records.map Event.logged).filterMap Event.submission? = []
  := by
  rw [List.filterMap_map]
  apply List.filterMap_eq_nil_iff.mpr
  exact fun _ _ => rfl

theorem Withdrawal.records_events (device : String) (withdrawal : Withdrawal) :
  (withdrawal.events device).filterMap Event.record? = withdrawal.records device
  := by
  change aborting device :: _ = _
  rw [List.filterMap_append, records_event, records_logged, List.nil_append]
  rfl

theorem Withdrawal.submissions_events (device : String) (withdrawal : Withdrawal) :
  (withdrawal.events device).filterMap Event.submission? = withdrawal.submissions
  := by
  rw [events, List.filterMap_cons_none rfl, List.filterMap_append, Submission.submissions_event,
    submissions_logged, List.append_nil]

namespace Config

/-- The records of the changes are those that the steps which are begun make. -/
theorem records_stages (device : String) (config : Config) (count : Nat)
    (traces : List (List Submission)) :
  (traces.zipIdx.flatMap (config.stage device count)).filterMap Event.record?
    = ((config.changes count).filter (·.step < traces.length)).map (Change.record device)
  := by
  have hstage : ∀ entry : List Submission × Nat,
      (config.stage device count entry).filterMap Event.record?
        = ((config.changes count).filter (·.step = entry.2)).map (Change.record device) := by
    rintro ⟨trace, i⟩
    rw [stage, List.filterMap_append, records_event, records_logged, List.append_nil]
  simp only [List.filterMap_flatMap, hstage]
  rw [config.filter_changes_lt, List.map_flatMap, List.range_eq_range',
    ← List.zipIdx_map_snd, List.flatMap_map]

theorem submissions_stages (device : String) (config : Config) (count : Nat)
    (traces : List (List Submission)) :
  (traces.zipIdx.flatMap (config.stage device count)).filterMap Event.submission?
    = traces.flatten
  := by
  have hstage : ∀ entry : List Submission × Nat,
      (config.stage device count entry).filterMap Event.submission? = entry.1 := by
    rintro ⟨trace, i⟩
    rw [stage, List.filterMap_append, Submission.submissions_event, submissions_logged,
      List.nil_append]
  simp only [List.filterMap_flatMap, hstage]
  rw [List.flatMap_def, List.zipIdx_map_fst]

end Config

/-- The record of a change is none of an abort. -/
theorem changed_ne_aborting (device : String) (before after : State) :
  changed device before after ≠ aborting device
  := by
  intro h
  have hmessage := congrArg String.toList (LogRecord.mk.inj h).2.2
  simp only [String.toList_append, List.append_assoc, List.append_cancel_left_eq] at hmessage
  cases before <;> cases after <;> simp [State.text] at hmessage

theorem aborting_not_mem_changes (device : String) (changes : List Change) :
  aborting device ∉ changes.map (Change.record device)
  := by
  intro h
  obtain ⟨change, -, hrecord⟩ := List.mem_map.mp h
  exact changed_ne_aborting device change.before change.after hrecord

/-- A transfer logs its changes of state and its abort, and no other states.  The changes are
those of its count of steps, cut off behind the last step that is begun, and each of them comes
in front of what its step submits.  An abort is logged exactly when one is submitted, behind all
changes and in front of its submissions.  Behind these comes one record: that the abort is done,
if its loop succeeded, or that it failed.  Only an abort that ends the program leaves that record
out: where there can be no payload for it, where a delay is too long to be added to another time
and a deadline is set, or where the mailbox ends the program. -/
theorem run_logs_states (hreserved : transport.Reserved) (hvalid : config.validate = .ok ())
    (hplan : config.plan image = .ok plan) (device : String) (m : σ) :
  let run := run transport device config image m
  ∃ (traces : List (List Submission)) (ending : Option Withdrawal),
    config.Begun plan traces ∧ (∀ abort ∈ ending, abort.Follows transport config)
    ∧ run.tracked device
      = traces.zipIdx.flatMap (config.stage device plan.steps.length)
        ++ ending.toList.flatMap (Withdrawal.events device)
    ∧ run.stateRecords device
      = ((config.changes plan.steps.length).filter (·.step < traces.length)).map
          (Change.record device)
        ++ ending.toList.flatMap (Withdrawal.records device)
    ∧ run.submissions = traces.flatten ++ ending.toList.flatMap Withdrawal.submissions
    ∧ (aborting device ∈ run.stateRecords device ↔ ending.isSome = true)
    ∧ (reserve config = .ok () → (aborting device ∈ run.stateRecords device
      ↔ ∃ s ∈ run.submissions, s.command = config.abortCommand))
  := by
  intro run
  obtain ⟨traces, ending, hbegun, hending, htracked⟩ :=
    tracked_transfer hreserved hvalid hplan device m
  have hrecords : run.stateRecords device
      = ((config.changes plan.steps.length).filter (·.step < traces.length)).map
          (Change.record device)
        ++ ending.toList.flatMap (Withdrawal.records device) := by
    rw [run.stateRecords_eq, htracked, List.filterMap_append, config.records_stages,
      List.filterMap_flatMap]
    simp only [Withdrawal.records_events]
  have hsubmissions : run.submissions
      = traces.flatten ++ ending.toList.flatMap Withdrawal.submissions := by
    rw [run.submissions_eq_tracked device, htracked, List.filterMap_append,
      config.submissions_stages, List.filterMap_flatMap]
    simp only [Withdrawal.submissions_events]
  have hlogged : aborting device ∈ run.stateRecords device ↔ ending.isSome = true := by
    rw [hrecords]
    cases ending with
    | none =>
        rw [Option.toList_none, List.flatMap_nil, List.append_nil]
        exact iff_of_false (aborting_not_mem_changes device _) Bool.false_ne_true
    | some abort =>
        rw [Option.toList_some, List.flatMap_singleton]
        exact iff_of_true (List.mem_append_right _ List.mem_cons_self) rfl
  refine ⟨traces, ending, hbegun, hending, htracked, hrecords, hsubmissions, hlogged, ?_⟩
  intro hpayload
  rw [hlogged, hsubmissions]
  cases ending with
  | none =>
      rw [Option.toList_none, List.flatMap_nil, List.append_nil]
      apply iff_of_false Bool.false_ne_true
      rintro ⟨s, hs, hcommand⟩
      exact hbegun.command_ne hplan hs hcommand
  | some abort =>
      obtain ⟨last, hlast, -⟩ := ((hending abort rfl).repeated hpayload).getLast?
      rw [Option.toList_some, List.flatMap_singleton]
      apply iff_of_true rfl
      exact ⟨_, List.mem_append_right _ (List.mem_of_getLast? hlast), rfl⟩

/-- The answers of a device that processes the first block, refuses the second one, and then
takes the abort. -/
def picky : Script where
  answers := [.ok ⟨Status.success.code, []⟩,
    .ok ⟨Status.success.code, StatusQuery.spec.encode
      ⟨false, 100, Opcode.transferFw.code, Status.success.code, 0⟩⟩,
    .ok ⟨Status.internalError.code, []⟩]
  fallback := .ok ⟨Status.success.code, []⟩

theorem run_logs_states_picky :
  let run := run (Script.transport "mem0") "mem0" (.new .specDefined 2) shortEnded picky
  run.stateRecords "mem0"
      = [changed "mem0" .idle .initiating, changed "mem0" .initiating .continuing,
        aborting "mem0", aborted "mem0"]
    ∧ ∃ plan traces, ∃ abort : Withdrawal, (Config.new .specDefined 2).plan shortEnded = .ok plan
      ∧ (Config.new .specDefined 2).Begun plan traces
      ∧ abort.Follows (Script.transport "mem0") (.new .specDefined 2)
      ∧ run.submissions = traces.flatten ++ abort.submissions
  := by
  intro run
  have hrecords : run.stateRecords "mem0"
      = [changed "mem0" .idle .initiating, changed "mem0" .initiating .continuing,
        aborting "mem0", aborted "mem0"] := by
    decide +kernel
  have hvalid : (Config.new .specDefined 2).validate = .ok () := rfl
  have hfits : (shortEnded.size ⌈/⌉ (Config.new .specDefined 2).blockSize - 1)
      * (Config.new .specDefined 2).blockSize / TransferRequest.unit < UInt32.size := by
    decide +kernel
  obtain ⟨plan, hwhole⟩ := whole_of_fits (by decide) (by decide) hfits
  have hmock : ¬ (Config.new .specDefined 2).mock = true := Bool.false_ne_true
  have hplan : (Config.new .specDefined 2).plan shortEnded = .ok plan := by
    rw [Config.plan, if_neg hmock, hwhole]
  obtain ⟨traces, ending, hbegun, hending, -, hall, hsubmissions, -⟩ :=
    run_logs_states (Script.reserved "mem0") hvalid hplan "mem0" picky
  refine ⟨hrecords, plan, traces, ?_⟩
  cases ending with
  | none =>
      have hnone := aborting_not_mem_changes "mem0"
        (((Config.new .specDefined 2).changes plan.steps.length).filter (·.step < traces.length))
      rw [Option.toList_none, List.flatMap_nil, List.append_nil] at hall
      rw [← hall, show Run.stateRecords "mem0" _ = _ from hrecords] at hnone
      exact absurd (by decide) hnone
  | some abort =>
      rw [Option.toList_some, List.flatMap_singleton] at hsubmissions
      exact ⟨abort, hplan, hbegun, hending abort rfl, hsubmissions⟩

/-- Parameters with a deadline, and with a delay that cannot be added to another time. -/
def Config.endless : Config :=
  { new .specDefined 2 with stepRetry := ⟨2, .longest, some .zero⟩ }

/-- A device refuses a block and puts the abort off.  The program ends in the loop of the abort,
and nothing is logged of its end. -/
theorem abort_left_open :
  let run := run (Script.transport "mem0") "mem0" .endless ⟨[0xaa, 0xbb], none, nofun⟩
    ⟨[.ok ⟨Status.internalError.code, []⟩], .ok ⟨Status.busy.code, []⟩⟩
  Config.endless.validate = .ok ()
    ∧ Config.endless.plan ⟨[0xaa, 0xbb], none, nofun⟩
      = .ok ⟨[⟨0, .end, 0, [0xaa, 0xbb]⟩], 2⟩
    ∧ (∃ s ∈ run.submissions, s.command = Config.endless.abortCommand)
    ∧ aborting "mem0" ∈ run.stateRecords "mem0"
    ∧ aborted "mem0" ∉ run.stateRecords "mem0"
    ∧ ∀ error, abortFailed "mem0" error ∉ run.stateRecords "mem0"
  := by
  intro run
  have hrecords : run.stateRecords "mem0"
      = [changed "mem0" .idle .ending, aborting "mem0"] := by
    decide +kernel
  have hcommands : Config.endless.abortCommand ∈ run.submissions.map Submission.command := by
    decide +kernel
  refine ⟨rfl, rfl, List.mem_map.mp hcommands, ?_, ?_, ?_⟩
  · rw [hrecords]
    exact List.mem_cons_of_mem _ List.mem_cons_self
  · rw [hrecords]
    decide
  · intro error hmem
    have hlevel : ∀ record ∈ run.stateRecords "mem0", record.level = .debug := by
      rw [hrecords]
      decide
    cases hlevel _ hmem

end Transfer

end CxlFirmware
