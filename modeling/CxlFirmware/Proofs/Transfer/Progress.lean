import CxlFirmware.Proofs.Reports
import CxlFirmware.Proofs.Transfer.Course

/-!
# The progress of a transfer

A transfer reports its progress once for each step that is done, in the order of the steps,
and never otherwise: neither for a step that stops nor for an abort.
-/

namespace CxlFirmware.Transfer

open Workflow (Writes Unreported)

variable {σ : Type} {transport : Transport σ} {device : String} {config : Config} {image : Image}
  {plan : Plan} {step : Step} {before after : List Step} {cursor : Cursor} {m m₁ m' : σ}
  {trace trace' : List Submission} {delays delays' : List Duration}

/-! ## Steps and aborts -/

section

variable {kind : LogRecord → Prop} (hcovers : transport.Covers kind)
include hcovers

/-- A step writes a record of itself, and what its loops write. -/
theorem writes_sendStep (device : String) (config : Config) (step : Step)
    (hstep : kind ⟨.debug, origin, device ++ ": step " ++ Nat.repr step.index ++ " "
      ++ step.action.text ++ " offset " ++ Nat.repr step.offset.toNat ++ " ("
      ++ Nat.repr step.data.length ++ " bytes)"⟩) :
  (sendStep transport device config step).Writes kind
  := by
  rw [sendStep]
  apply Writes.bind (Writes.log hstep)
  intro _
  apply Writes.bind
  · apply Retry.writes_withRetry hcovers _ _ (Mailbox.writes_submit hcovers _ _)
  · intro outcome
    cases outcome with
    | error error => apply Writes.pure
    | ok reply =>
        apply Writes.bind (Poll.writes_untilDone hcovers _ _)
        intro outcome
        cases outcome with
        | error error => apply Writes.pure
        | ok report => apply Writes.pure

/-- An abort writes how it begins and ends, and what its loop writes. -/
theorem writes_abort (device : String) (config : Config)
    (haborting : kind ⟨.debug, origin, device ++ ": transfer " ++ State.aborting.text⟩)
    (haborted : kind ⟨.info, origin, device ++ ": transfer " ++ State.aborted.text⟩)
    (hfailed : ∀ text, kind ⟨.warn, origin,
      device ++ ": abort failed, device may need a fresh transfer: " ++ text⟩) :
  (abort transport device config).Writes kind
  := by
  rw [abort]
  apply Writes.bind (Writes.log haborting)
  intro _
  cases reserve config with
  | error fault => apply Writes.halt
  | ok _ =>
      apply Writes.bind
      · apply Retry.writes_withRetry hcovers _ _ (Mailbox.writes_submit hcovers _ _)
      · intro outcome
        cases outcome with
        | error error =>
            apply Writes.bind (Writes.log (hfailed _))
            intro _
            apply Writes.pure
        | ok reply =>
            apply Writes.bind (Writes.log haborted)
            intro _
            apply Writes.pure

end

/-- A step reports nothing of its own. -/
theorem reports_sendStep (transport : Transport σ) (device : String) (config : Config)
    (step : Step) (m : σ) :
  (sendStep transport device config step m).reports = []
  := (writes_sendStep transport.covers_all device config step trivial).reports m

/-- Nor does an abort. -/
theorem unreported_abort (transport : Transport σ) (device : String) (config : Config) :
  (abort transport device config).Unreported
  := writes_abort transport.covers_all device config trivial trivial fun _ => trivial

/-! ## The reports of steps -/

/-- The report after a step. -/
def Cursor.report (plan : Plan) (step : Step) (cursor : Cursor) : Progress where
  step := step.index + 1
  totalSteps := plan.steps.length
  action := step.action
  bytesSent := cursor.bytesSent + step.data.length
  totalBytes := plan.totalBytes

/-- The reports after steps that are done one after another. -/
def reportsOf (plan : Plan) : List Step → Cursor → List Progress
  | [], _ => []
  | step :: rest, cursor => cursor.report plan step :: reportsOf plan rest (cursor.next plan step)

/-- What is behind a change of state that is only logged is reported as before. -/
theorem reports_logState (name : String) (before after : State) {α : Type}
    (f : Unit → Workflow σ α) (m : σ) :
  ((logState name before after >>= f) m).reports = (f () m).reports
  := by
  rw [logState]
  split
  · rfl
  · rfl

theorem reports_logDecile (name : String) (before after : Nat) {α : Type}
    (f : Unit → Workflow σ α) (m : σ) :
  ((logDecile name before after >>= f) m).reports = (f () m).reports
  := by
  rw [logDecile]
  split
  · rfl
  · rfl

/-- A step that is done is reported, and then the steps behind it are. -/
theorem reports_of_done (device : String) (plan : Plan) (after : List Step) (cursor : Cursor)
    (hdone : StepDone transport config step m trace delays m') :
  (sendSteps transport device config plan (step :: after) cursor m).reports
    = cursor.report plan step
      :: (sendSteps transport device config plan after (cursor.next plan step) m').reports
  := by
  obtain ⟨hresult, -, -, rfl⟩ := sendStep_of_done device hdone
  rw [sendSteps, reports_logState, Workflow.reports_bind_of_ok hresult,
    reports_sendStep transport device config step m, List.nil_append]
  apply (Workflow.reports_progress_bind (cursor.report plan step) _ _).trans
  apply congrArg (cursor.report plan step :: ·)
  apply reports_logDecile

/-- Steps that are done are reported, and then the steps behind them are. -/
theorem reports_of_sent (device : String) (plan : Plan) (after : List Step) (cursor : Cursor)
    (hsent : Sent transport config before m trace delays m') :
  (sendSteps transport device config plan (before ++ after) cursor m).reports
    = reportsOf plan before cursor
      ++ (sendSteps transport device config plan after
        (before.foldl (fun cursor step => cursor.next plan step) cursor) m').reports
  := by
  induction hsent generalizing cursor with
  | nil m => rfl
  | cons hdone hsent ih =>
      rw [List.cons_append, reports_of_done device plan _ cursor hdone, ih]
      rfl

/-- A step that stops is not reported, nor is anything behind it. -/
theorem reports_of_stops (device : String) (plan : Plan) (after : List Step) (cursor : Cursor)
    {stop : Except Fault Error}
    (hstop : StepStops transport config step m stop trace delays m') :
  (sendSteps transport device config plan (step :: after) cursor m).reports = []
  := by
  have hresult := (sendStep_of_stops device hstop).result_eq
  rw [sendSteps, reports_logState]
  cases stop with
  | error fault =>
      rw [Workflow.reports_bind_of_fault hresult]
      apply reports_sendStep
  | ok source =>
      rw [Workflow.reports_bind_of_ok hresult, reports_sendStep transport device config step m,
        List.nil_append]
      apply (Workflow.reports_log_bind _ _ _ _ _).trans
      apply (Unreported.reports_bind _ (fun aborted => Writes.pure _) _).trans
      apply (unreported_abort transport device config).reports

/-! ## The reports of a transfer -/

section

variable (hvalid : config.validate = .ok ()) (hplan : config.plan image = .ok plan)
include hvalid hplan

/-- A transfer reports what its steps report. -/
theorem reports_run (transport : Transport σ) (device : String) (m : σ) :
  (run transport device config image m).reports
    = (sendSteps transport device config plan plan.steps .start m).reports
  := by
  rw [run]
  simp only [hvalid, hplan]
  rw [Workflow.reports_log_bind]
  apply Unreported.reports_bind
  intro outcome
  cases outcome with
  | error error => apply Writes.pure
  | ok bytes =>
      dsimp only
      split
      · apply Writes.bind (Writes.log trivial)
        intro _
        apply Writes.bind (unreported_abort transport device config)
        intro aborted
        apply Writes.pure
      · apply Writes.bind (Writes.log trivial)
        intro _
        apply Writes.pure

/-- A transfer whose steps are all done reports each of them. -/
theorem reports_run_of_sent (device : String)
    (hsent : Sent transport config plan.steps m trace delays m') :
  (run transport device config image m).reports = reportsOf plan plan.steps .start
  := by
  have hall := reports_of_sent device plan [] .start hsent
  rw [List.append_nil] at hall
  rw [reports_run hvalid hplan, hall]
  apply List.append_nil

/-- A transfer with a step that stops reports the steps before it. -/
theorem reports_run_of_stops (device : String) {stop : Except Fault Error}
    (hsteps : plan.steps = before ++ step :: after)
    (hsent : Sent transport config before m trace delays m₁)
    (hstop : StepStops transport config step m₁ stop trace' delays' m') :
  (run transport device config image m).reports = reportsOf plan before .start
  := by
  rw [reports_run hvalid hplan, hsteps, reports_of_sent _ _ _ _ hsent,
    reports_of_stops _ _ _ _ hstop]
  apply List.append_nil

end

end CxlFirmware.Transfer
