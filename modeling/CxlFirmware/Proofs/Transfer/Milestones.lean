import Mathlib.Data.List.Infix
import CxlFirmware.Proofs.Transfer.Progress
import CxlFirmware.Script

/-!
# The milestones of a transfer

A transfer logs a milestone, as a record for information, when it has come to a further tenth
of its image.  What a run tells is its submissions, reports and milestones in their order.  A
step that is done tells its submissions, its report, and a milestone where the report comes to
a further tenth; a step that stops and an abort tell their submissions alone.
-/

namespace CxlFirmware

variable {σ α β : Type}

/-! ## What a run tells -/

/-- A record for information that tells how much is transferred. -/
def LogRecord.IsMilestone (record : LogRecord) : Prop :=
  record.level = .info ∧ "% transferred".toList <:+ record.message.toList

instance : DecidablePred LogRecord.IsMilestone :=
  fun record => inferInstanceAs (Decidable (record.level = .info ∧ _))

/-- A message that ends with other words is no milestone. -/
theorem LogRecord.not_isMilestone_append {level : LogLevel} {origin start words : String}
    (hwords : ¬ "% transferred".toList <:+ words.toList)
    (hwords' : ¬ words.toList <:+ "% transferred".toList) :
  ¬ IsMilestone ⟨level, origin, start ++ words⟩
  := by
  rintro ⟨-, hsuffix⟩
  rw [String.toList_append] at hsuffix
  rcases List.suffix_or_suffix_of_suffix hsuffix (List.suffix_append _ _) with h | h
  · exact hwords h
  · exact hwords' h

/-- A record of another level is no milestone. -/
theorem LogRecord.not_isMilestone_of_level {level : LogLevel} {origin message : String}
    (hlevel : level ≠ .info) :
  ¬ IsMilestone ⟨level, origin, message⟩
  := fun h => hlevel h.1

/-- Whether an event is the record of a milestone. -/
def Event.isMilestone : Event → Bool
  | logged record => record.IsMilestone
  | _ => false

/-- Whether an event is a submission, a progress report or a milestone. -/
def Event.tells : Event → Bool
  | exchanged _ _ | progressed _ => true
  | slept _ => false
  | logged record => record.IsMilestone

theorem Event.not_tells_logged {record : LogRecord} (h : ¬ record.IsMilestone) :
  ¬ (logged record).tells = true
  := by
  rw [tells, decide_eq_true_iff]
  exact h

/-- The event of a submission. -/
def Submission.event (submission : Submission) : Event :=
  .exchanged submission.command submission.answer

theorem Submission.submissions_event (submissions : List Submission) :
  (submissions.map event).filterMap Event.submission? = submissions
  := by
  rw [List.filterMap_map]
  apply List.filterMap_some

/-- The submissions, reports and milestones of a run. -/
def Run.told (run : Run σ α) : List Event :=
  run.events.filter Event.tells

/-- The mailbox itself logs no milestones. -/
def Transport.Modest (transport : Transport σ) : Prop :=
  ∀ command m, ∀ record ∈ (transport.submit command m).records, ¬ record.IsMilestone

theorem Script.modest (name : String) :
  (Script.transport name).Modest
  := by
  intro command script
  rw [records_submit]
  nofun

theorem Transport.Modest.covers {transport : Transport σ} (hmodest : transport.Modest) :
  transport.Covers fun record => ¬ record.IsMilestone
  := ⟨hmodest, fun _ hroutine => LogRecord.not_isMilestone_of_level hroutine.level⟩

theorem Run.submissions_eq_told (run : Run σ α) :
  run.submissions = run.told.filterMap Event.submission?
  := by
  symm
  apply Event.filterMap_filter
  intro event h
  cases event with
  | exchanged command answer => cases h
  | progressed report => cases h
  | slept duration => rfl
  | logged record => rfl

theorem Run.milestones_eq_told (run : Run σ α) :
  run.events.filter Event.isMilestone = run.told.filter Event.isMilestone
  := by
  rw [told, List.filter_filter]
  apply List.filter_congr
  intro event _
  cases event with
  | exchanged command answer => rfl
  | progressed report => rfl
  | slept duration => rfl
  | logged record => exact (Bool.and_self _).symm

theorem Run.reports_eq_told (run : Run σ α) :
  run.reports = run.told.filterMap Event.report?
  := by
  symm
  apply Event.filterMap_filter
  intro event h
  cases event with
  | exchanged command answer => cases h
  | progressed report => cases h
  | slept duration => rfl
  | logged record => rfl

namespace Workflow

/-- The events of a workflow are its submissions, where delays and what it logs are left out. -/
theorem Writes.filter_events {kind : LogRecord → Prop} {x : Workflow σ α} (hx : x.Writes kind)
    {keep : Event → Bool} (hexchanged : ∀ command answer, keep (.exchanged command answer) = true)
    (hslept : ∀ duration, keep (.slept duration) = false)
    (hlogged : ∀ record, kind record → ¬ keep (.logged record) = true) (m : σ) :
  (x m).events.filter keep = (x m).submissions.map Submission.event
  := by
  have hevents := hx m
  rw [Run.submissions]
  generalize (x m).events = events at hevents ⊢
  induction events with
  | nil => rfl
  | cons event events ih =>
      obtain ⟨hevent, hrest⟩ := List.forall_mem_cons.mp hevents
      have hrest := ih hrest
      cases event with
      | exchanged command answer =>
          rw [List.filter_cons_of_pos (hexchanged command answer), hrest]
          rfl
      | slept duration =>
          rw [List.filter_cons_of_neg (by rw [hslept]; exact Bool.false_ne_true), hrest]
          rfl
      | logged record =>
          rw [List.filter_cons_of_neg (hlogged record hevent), hrest]
          rfl
      | progressed report => exact absurd hevent id

/-- A run of a workflow that logs no milestones tells its submissions. -/
theorem Writes.told {x : Workflow σ α} (hx : x.Writes fun record => ¬ record.IsMilestone) (m : σ) :
  (x m).told = (x m).submissions.map Submission.event
  := by
  apply hx.filter_events
  · exact fun _ _ => rfl
  · exact fun _ => rfl
  · exact fun _ => Event.not_tells_logged

theorem told_bind_of_ok {x : Workflow σ α} {m : σ} {a : α} (h : (x m).result = .ok a)
    (f : α → Workflow σ β) :
  ((x >>= f) m).told = (x m).told ++ (f a (x m).mailbox).told
  := by
  rw [bind_of_ok h]
  apply List.filter_append

/-- Behind a workflow, only submissions are told where no milestones are logged. -/
theorem Writes.told_bind (x : Workflow σ α) {f : α → Workflow σ β}
    (hf : ∀ a, (f a).Writes fun record => ¬ record.IsMilestone) (m : σ) :
  ∃ rest : List Submission, ((x >>= f) m).told = (x m).told ++ rest.map Submission.event
  := by
  cases h : (x m).result with
  | error fault =>
      use []
      rw [bind_of_fault h]
      exact (List.append_nil _).symm
  | ok a =>
      use (f a (x m).mailbox).submissions
      rw [told_bind_of_ok h, (hf a).told]

theorem told_log_bind {level : LogLevel} {origin message : String}
    (h : ¬ LogRecord.IsMilestone ⟨level, origin, message⟩) (f : Unit → Workflow σ β) (m : σ) :
  ((log level origin message >>= f) m).told = (f () m).told
  := List.filter_cons_of_neg (Event.not_tells_logged h)

theorem told_progress_bind (report : Transfer.Progress) (f : Unit → Workflow σ β) (m : σ) :
  ((emit (.progressed report) >>= f) m).told = .progressed report :: (f () m).told
  := rfl

end Workflow

namespace Transfer

open Workflow (Writes)

variable {transport : Transport σ} {device : String} {config : Config} {image : Image}
  {plan : Plan} {step : Step} {before after : List Step} {cursor : Cursor} {m m₁ m' : σ}
  {trace trace' : List Submission} {delays delays' : List Duration}

/-! ## What a step tells -/

/-- The record of a milestone. -/
def milestone (device : String) (percent : Nat) : LogRecord :=
  ⟨.info, origin, device ++ ": " ++ Nat.repr percent ++ "% transferred"⟩

theorem isMilestone_milestone (device : String) (percent : Nat) :
  (milestone device percent).IsMilestone
  := by
  constructor
  · rfl
  · rw [milestone, String.toList_append]
    apply List.suffix_append

/-- The milestone behind a report, if there is one. -/
def Cursor.milestones (device : String) (plan : Plan) (step : Step) (cursor : Cursor) :
    List Event :=
  let decile := (cursor.report plan step).percent / 10
  if cursor.lastDecile < decile then [.logged (milestone device (decile * 10))] else []

section

variable (hmodest : transport.Modest)
include hmodest

theorem modest_sendStep (device : String) (config : Config) (step : Step) :
  (sendStep transport device config step).Writes fun record => ¬ record.IsMilestone
  := writes_sendStep hmodest.covers device config step
    (LogRecord.not_isMilestone_of_level (by decide))

theorem modest_abort (device : String) (config : Config) :
  (abort transport device config).Writes fun record => ¬ record.IsMilestone
  := writes_abort hmodest.covers device config (LogRecord.not_isMilestone_of_level (by decide))
    (LogRecord.not_isMilestone_append (by decide) (by decide))
    fun _ => LogRecord.not_isMilestone_of_level (by decide)

end

theorem told_logState (name : String) (before after : State) (f : Unit → Workflow σ α) (m : σ) :
  ((logState name before after >>= f) m).told = (f () m).told
  := by
  rw [logState]
  split
  · rfl
  · apply Workflow.told_log_bind
    apply LogRecord.not_isMilestone_of_level
    decide

/-- A workflow that logs the milestone behind a report tells that milestone. -/
theorem told_logDecile_bind (device : String) (plan : Plan) (step : Step) (cursor : Cursor)
    (f : Unit → Workflow σ α) (m : σ) :
  ((logDecile device cursor.lastDecile ((cursor.report plan step).percent / 10) >>= f) m).told
    = cursor.milestones device plan step ++ (f () m).told
  := by
  rw [logDecile, Cursor.milestones]
  split
  · apply List.filter_cons_of_pos
    rw [Event.tells, decide_eq_true_iff]
    apply isMilestone_milestone
  · rfl

/-- A step that is done tells its submissions, its report and the milestone behind it, and then
the steps behind it tell theirs. -/
theorem told_of_done (hmodest : transport.Modest) (device : String) (plan : Plan)
    (after : List Step) (cursor : Cursor)
    (hdone : StepDone transport config step m trace delays m') :
  (sendSteps transport device config plan (step :: after) cursor m).told
    = trace.map Submission.event
      ++ .progressed (cursor.report plan step) :: (cursor.milestones device plan step
        ++ (sendSteps transport device config plan after (cursor.next plan step) m').told)
  := by
  obtain ⟨hresult, hsubmissions, -, rfl⟩ := sendStep_of_done device hdone
  rw [sendSteps, told_logState, Workflow.told_bind_of_ok hresult,
    (modest_sendStep hmodest device config step).told, hsubmissions]
  apply congrArg (trace.map Submission.event ++ ·)
  apply (Workflow.told_progress_bind (cursor.report plan step) _ _).trans
  apply congrArg (Event.progressed (cursor.report plan step) :: ·)
  apply told_logDecile_bind

/-- A step that stops tells its submissions, and those of an abort may follow. -/
theorem told_of_stops (hmodest : transport.Modest) (device : String) (plan : Plan)
    (after : List Step) (cursor : Cursor) {stop : Except Fault Error}
    (hstop : StepStops transport config step m stop trace delays m') :
  ∃ rest : List Submission,
    (sendSteps transport device config plan (step :: after) cursor m).told
      = rest.map Submission.event
  := by
  have hresult := (sendStep_of_stops device hstop).result_eq
  have hstep := (modest_sendStep hmodest device config step).told m
  rw [sendSteps, told_logState]
  cases stop with
  | error fault =>
      rw [Workflow.bind_of_fault hresult]
      exact ⟨_, hstep⟩
  | ok source =>
      rw [Workflow.told_bind_of_ok hresult, hstep]
      refine ⟨_, (congrArg (_ ++ ·) (Writes.told ?_ _)).trans List.map_append.symm⟩
      apply Writes.bind (Writes.log (LogRecord.not_isMilestone_of_level (by decide)))
      intro _
      apply Writes.bind (modest_abort hmodest device config)
      intro aborted
      apply Writes.pure

/-! ## What a transfer tells -/

section

variable (hvalid : config.validate = .ok ()) (hplan : config.plan image = .ok plan)
include hvalid hplan

/-- A transfer tells what its steps tell, and the submissions of an abort may follow. -/
theorem told_run (hmodest : transport.Modest) (device : String) (m : σ) :
  ∃ rest : List Submission,
    (run transport device config image m).told
      = (sendSteps transport device config plan plan.steps .start m).told
        ++ rest.map Submission.event
  := by
  have hopening : ∀ start : String, ¬ LogRecord.IsMilestone ⟨.info, origin,
      start ++ config.kind.opcode.text ++ if config.mock then " (mock)" else ""⟩ := by
    intro start
    cases config.mock with
    | true => apply LogRecord.not_isMilestone_append (by decide) (by decide)
    | false =>
        change ¬ LogRecord.IsMilestone ⟨.info, origin, start ++ config.kind.opcode.text ++ ""⟩
        rw [String.append_empty]
        cases config.kind with
        | specDefined => apply LogRecord.not_isMilestone_append (by decide) (by decide)
        | vendorBackground => apply LogRecord.not_isMilestone_append (by decide) (by decide)
        | osImage => apply LogRecord.not_isMilestone_append (by decide) (by decide)
  rw [run]
  simp only [hvalid, hplan]
  rw [Workflow.told_log_bind (hopening _)]
  apply Writes.told_bind
  intro outcome
  cases outcome with
  | error error => apply Writes.pure
  | ok bytes =>
      dsimp only
      split
      · apply Writes.bind (Writes.log (LogRecord.not_isMilestone_append (by decide) (by decide)))
        intro _
        apply Writes.bind (modest_abort hmodest device config)
        intro aborted
        apply Writes.pure
      · apply Writes.bind (Writes.log (LogRecord.not_isMilestone_append (by decide) (by decide)))
        intro _
        apply Writes.pure

end

end Transfer

end CxlFirmware
