import CxlFirmware.Poll
import CxlFirmware.Proofs.Traffic

/-!
# Reports and records

What a workflow reports of its progress and what it logs, apart from what it exchanges with its
mailbox.  A workflow that `Writes` records of a kind reports nothing and logs nothing else,
whatever the mailbox.  So do the submission of a command under a retry budget and the polling of
the background status, for every kind that `Covers` the records of the mailbox and the routine
records of such loops.
-/

namespace CxlFirmware

variable {σ α β π : Type}

/-- The progress report of an event, if it is one. -/
def Event.report? : Event → Option Transfer.Progress
  | progressed report => some report
  | _ => none

/-- The progress reports of a run. -/
def Run.reports (run : Run σ α) : List Transfer.Progress :=
  run.events.filterMap Event.report?

/-- The log record of an event, if it is one. -/
def Event.record? : Event → Option LogRecord
  | logged record => some record
  | _ => none

namespace Workflow

/-! ## Runs in sequence -/

theorem reports_bind_of_ok {x : Workflow σ α} {m : σ} {a : α} (h : (x m).result = .ok a)
    (f : α → Workflow σ β) :
  ((x >>= f) m).reports = (x m).reports ++ (f a (x m).mailbox).reports
  := by
  rw [bind_of_ok h]
  apply List.filterMap_append

theorem reports_bind_of_fault {x : Workflow σ α} {m : σ} {fault : Fault}
    (h : (x m).result = .error fault) (f : α → Workflow σ β) :
  ((x >>= f) m).reports = (x m).reports
  := by
  rw [bind_of_fault h]
  rfl

theorem reports_log_bind (level : LogLevel) (origin message : String) (f : Unit → Workflow σ β)
    (m : σ) :
  ((log level origin message >>= f) m).reports = (f () m).reports
  := rfl

theorem reports_progress_bind (report : Transfer.Progress) (f : Unit → Workflow σ β) (m : σ) :
  ((emit (.progressed report) >>= f) m).reports = report :: (f () m).reports
  := rfl

end Workflow

/-! ## Events of a kind -/

namespace Workflow

/-- Every event of the workflow is of the kind, whatever the mailbox. -/
def Emits (kind : Event → Prop) (x : Workflow σ α) : Prop :=
  ∀ m, ∀ event ∈ (x m).events, kind event

namespace Emits

variable {kind kind' : Event → Prop} {x : Workflow σ α}

protected theorem pure (a : α) :
  (pure a : Workflow σ α).Emits kind
  := fun _ => nofun

theorem halt (fault : Fault) :
  (halt fault : Workflow σ α).Emits kind
  := fun _ => nofun

theorem emit {event : Event} (h : kind event) :
  (emit event : Workflow σ Unit).Emits kind
  := by
  intro m event hevent
  obtain rfl := List.mem_singleton.mp hevent
  exact h

protected theorem bind {f : α → Workflow σ β} (hx : x.Emits kind) (hf : ∀ a, (f a).Emits kind) :
  (x >>= f).Emits kind
  := by
  intro m event hevent
  cases h : (x m).result with
  | error fault =>
      rw [bind_of_fault h] at hevent
      exact hx m event hevent
  | ok a =>
      rw [bind_of_ok h] at hevent
      rcases List.mem_append.mp hevent with hevent | hevent
      · exact hx m event hevent
      · exact hf a _ event hevent

theorem mono (hx : x.Emits kind) (h : ∀ event, kind event → kind' event) :
  x.Emits kind'
  := fun m event hevent => h event (hx m event hevent)

end Emits

end Workflow

/-! ## Events without reports -/

/-- The event is no progress report and, if it is a log record, one of the kind. -/
def Event.IsOf (kind : LogRecord → Prop) : Event → Prop
  | exchanged _ _ | slept _ => True
  | logged record => kind record
  | progressed _ => False

namespace Workflow

variable {kind : LogRecord → Prop} {x : Workflow σ α}

/-- The workflow reports nothing and logs only records of the kind, whatever the mailbox. -/
def Writes (kind : LogRecord → Prop) (x : Workflow σ α) : Prop :=
  x.Emits (Event.IsOf kind)

namespace Writes

protected theorem pure (a : α) :
  (pure a : Workflow σ α).Writes kind
  := Emits.pure a

theorem halt (fault : Fault) :
  (halt fault : Workflow σ α).Writes kind
  := Emits.halt fault

theorem inspect {read : σ → β} {next : β → Workflow σ α} (h : ∀ b, (next b).Writes kind) :
  (inspect read next).Writes kind
  := fun m => h (read m) m

theorem sleep (duration : Duration) :
  (sleep duration : Workflow σ Unit).Writes kind
  := Emits.emit trivial

theorem log {level : LogLevel} {origin message : String} (h : kind ⟨level, origin, message⟩) :
  (log level origin message : Workflow σ Unit).Writes kind
  := Emits.emit h

theorem exchange {transport : Transport σ}
    (h : ∀ command m, ∀ record ∈ (transport.submit command m).records, kind record)
    (command : Command) :
  (exchange transport command).Writes kind
  := by
  intro m event hevent
  rcases List.mem_cons.mp hevent with rfl | hevent
  · exact trivial
  · obtain ⟨record, hrecord, rfl⟩ := List.mem_map.mp hevent
    exact h command m record hrecord

protected theorem bind {f : α → Workflow σ β} (hx : x.Writes kind) (hf : ∀ a, (f a).Writes kind) :
  (x >>= f).Writes kind
  := Emits.bind hx hf

/-- Such a workflow reports nothing. -/
theorem reports (hx : x.Writes kind) (m : σ) :
  (x m).reports = []
  := by
  apply List.filterMap_eq_nil_iff.mpr
  intro event hevent
  cases event with
  | progressed report => exact absurd (hx m _ hevent) id
  | _ => rfl

end Writes

/-- The workflow reports nothing, whatever it logs. -/
abbrev Unreported (x : Workflow σ α) : Prop :=
  x.Writes fun _ => True

/-- What reports nothing may come behind a workflow. -/
theorem Unreported.reports_bind (x : Workflow σ α) {f : α → Workflow σ β}
    (hf : ∀ a, (f a).Unreported) (m : σ) :
  ((x >>= f) m).reports = (x m).reports
  := by
  cases h : (x m).result with
  | error fault => rw [reports_bind_of_fault h]
  | ok a => rw [reports_bind_of_ok h, (hf a).reports, List.append_nil]

end Workflow

open Workflow (Writes)

/-! ## Loops of attempts -/

/-- A record of the submission or the repetition of commands: below the level of information, and
from one of these parts of the program. -/
structure LogRecord.IsRoutine (record : LogRecord) : Prop where
  level : record.level ≠ .info
  origin : record.origin = Mailbox.origin ∨ record.origin = Retry.origin
    ∨ record.origin = Poll.origin

/-- The kind has the records that the mailbox writes, and the routine ones. -/
structure Transport.Covers (transport : Transport σ) (kind : LogRecord → Prop) : Prop where
  records : ∀ command m, ∀ record ∈ (transport.submit command m).records, kind record
  routine : ∀ record : LogRecord, record.IsRoutine → kind record

theorem Transport.Covers.writes_log {transport : Transport σ} {kind : LogRecord → Prop}
    (hcovers : transport.Covers kind) {level : LogLevel} {origin message : String}
    (hlevel : level ≠ .info)
    (horigin : origin = Mailbox.origin ∨ origin = Retry.origin ∨ origin = Poll.origin) :
  (Workflow.log level origin message : Workflow σ Unit).Writes kind
  := Writes.log (hcovers.routine ⟨level, origin, message⟩ ⟨hlevel, horigin⟩)

theorem Transport.covers_all (transport : Transport σ) :
  transport.Covers fun _ => True
  := ⟨fun _ _ _ _ => trivial, fun _ _ => trivial⟩

theorem Workflow.reports_exchange (transport : Transport σ) (command : Command) (m : σ) :
  (exchange transport command m).reports = []
  := (Writes.exchange transport.covers_all.records command).reports m

section

variable {transport : Transport σ} {kind : LogRecord → Prop} (hcovers : transport.Covers kind)
include hcovers

namespace Retry

variable {policy : RetryPolicy} {attempt : Nat → Option π → Workflow σ (Attempt α π)}

omit hcovers in
/-- A loop of attempts writes what its attempts write. -/
theorem writes_loop (elapsed : Nat → Duration)
    (hattempt : ∀ number previous, (attempt number previous).Writes kind) (left number : Nat)
    (previous : Option π) :
  (loop policy elapsed attempt left number previous).Writes kind
  := by
  induction left generalizing number previous with
  | zero =>
      unfold loop
      apply Writes.bind (hattempt number previous)
      intro outcome
      cases outcome with
      | done value => apply Writes.pure
      | failed error => apply Writes.pure
      | pending seen => apply Writes.pure
  | succ left ih =>
      unfold loop
      apply Writes.bind (hattempt number previous)
      intro outcome
      cases outcome with
      | done value => apply Writes.pure
      | failed error => apply Writes.pure
      | pending seen =>
          rcases policy.overdue (elapsed number) with fault | _ | _
          · apply Writes.halt
          · apply Writes.bind (Writes.sleep policy.delay)
            intro _
            apply ih
          · apply Writes.pure

omit hcovers in
theorem writes_run (clock : Clock σ) (policy : RetryPolicy)
    (hattempt : ∀ number previous, (attempt number previous).Writes kind) :
  (run clock policy attempt).Writes kind
  := by
  unfold run
  cases policy.validate with
  | error error => apply Writes.pure
  | ok _ => apply Writes.inspect fun elapsed => writes_loop elapsed hattempt _ _ _

theorem writes_attemptOnce {operation : Workflow σ (Except Error α)}
    (h : operation.Writes kind) (number : Nat) :
  (attemptOnce policy operation number).Writes kind
  := by
  unfold attemptOnce
  apply h.bind
  intro outcome
  split
  · apply Writes.pure
  · split
    · refine Writes.bind (hcovers.writes_log (by decide) (.inr (.inl rfl))) fun _ => ?_
      apply Writes.pure
    · apply Writes.pure
  · apply Writes.pure

theorem writes_withRetry (clock : Clock σ) (policy : RetryPolicy)
    {operation : Workflow σ (Except Error α)} (h : operation.Writes kind) :
  (withRetry clock policy operation).Writes kind
  := by
  unfold withRetry
  apply Writes.bind (writes_run clock policy fun number _ => writes_attemptOnce hcovers h number)
  intro outcome
  split
  · apply Writes.pure
  · refine Writes.bind (hcovers.writes_log (by decide) (.inr (.inl rfl))) fun _ => ?_
    apply Writes.pure
  · apply Writes.pure
  · apply Writes.pure

end Retry

/-! ## Commands and polls -/

theorem Mailbox.writes_submit (opcode : Opcode) (payload : Bytes) :
  (submit transport opcode payload).Writes kind
  := by
  unfold submit
  refine Writes.bind (hcovers.writes_log (by decide) (.inl rfl)) fun _ => ?_
  apply Writes.bind (Writes.exchange hcovers.records _)
  intro answer
  cases answer with
  | error source => apply Writes.pure
  | ok response =>
      refine Writes.bind (hcovers.writes_log (by decide) (.inl rfl)) fun _ => ?_
      apply Writes.pure

namespace Poll

theorem writes_queryStatus (query : StatusQuery) :
  (queryStatus transport query).Writes kind
  := by
  unfold queryStatus
  apply Writes.bind (Mailbox.writes_submit hcovers _ _)
  intro outcome
  cases outcome with
  | error error => apply Writes.pure
  | ok payload => apply Writes.pure

theorem writes_attempt (query : StatusQuery) (policy : RetryPolicy) (number : Nat)
    (previous : Option (Option Sighting)) :
  (attempt transport query policy number previous).Writes kind
  := by
  unfold attempt
  apply Writes.bind (writes_queryStatus hcovers query)
  intro outcome
  cases outcome with
  | error error =>
      dsimp only
      split
      · refine Writes.bind (hcovers.writes_log (by decide) (.inr (.inr rfl))) fun _ => ?_
        apply Writes.pure
      · apply Writes.pure
  | ok report =>
      dsimp only
      split
      · refine Writes.bind (hcovers.writes_log (by decide) (.inr (.inr rfl))) fun _ => ?_
        apply Writes.pure
      · split
        · refine Writes.bind (hcovers.writes_log (by decide) (.inr (.inr rfl))) fun _ => ?_
          apply Writes.pure
        · apply Writes.pure

theorem writes_untilDone (query : StatusQuery) (policy : RetryPolicy) :
  (untilDone transport query policy).Writes kind
  := by
  unfold untilDone
  apply Writes.bind (Retry.writes_run transport.clock policy (writes_attempt hcovers query policy))
  intro outcome
  cases outcome with
  | error reason => apply Writes.pure
  | ok report => apply Writes.pure

end Poll

end

end CxlFirmware
