import Mathlib.Tactic.Use
import CxlFirmware.Workflow

/-!
# Traffic

What a workflow exchanges with its mailbox, apart from what it logs and reports.

* `Workflow.quiet x` is `x` without its log records and progress reports.  It commutes
  with the operations of the monad, so a workflow may be studied without them.
* `Run.submissions` and `Run.sleeps` are the commands of a run with their answers, and
  its delays.
* `Workflow.Relays` says that a workflow ends the program only where an answer does.
* `Workflow.Gives` says what a run of a workflow comes to, apart from its log records and
  progress reports: its result, its submissions, its delays and the mailbox afterwards.
-/

namespace CxlFirmware

variable {σ α β : Type}

/-- A command with the answer to it. -/
structure Submission where
  command : Command
  answer : Answer

/-- A fault of what is made of a result is one of the result. -/
theorem Fault.map_eq_error {result : Except Fault α} {f : α → β} {fault : Fault} :
  result.map f = .error fault ↔ result = .error fault
  := by
  cases result with
  | error fault' => rw [Except.map, Except.error.injEq, Except.error.injEq]
  | ok a => simp [Except.map]

namespace Event

/-- The submission of an event, if it is one. -/
def submission? : Event → Option Submission
  | exchanged command answer => some ⟨command, answer⟩
  | _ => none

/-- The delay of an event, if it is one. -/
def delay? : Event → Option Duration
  | slept duration => some duration
  | _ => none

/-- Whether an event is a submission or a delay. -/
def isTraffic : Event → Bool
  | exchanged .. | slept _ => true
  | logged _ | progressed _ => false

/-- What is read off events of a kind alone can be read off them. -/
theorem filterMap_filter {keep : Event → Bool} {read : Event → Option α}
    (h : ∀ event, keep event = false → read event = none) (events : List Event) :
  (events.filter keep).filterMap read = events.filterMap read
  := by
  rw [List.filterMap_filter]
  congr 1
  funext event
  cases hevent : keep event with
  | false => simp [h event hevent]
  | true => simp

end Event

namespace Run

/-- The commands of a run with their answers. -/
def submissions (run : Run σ α) : List Submission :=
  run.events.filterMap Event.submission?

/-- The delays of a run. -/
def sleeps (run : Run σ α) : List Duration :=
  run.events.filterMap Event.delay?

/-- Something comes back for each command of the run. -/
def Answered (run : Run σ α) : Prop :=
  ∀ s ∈ run.submissions, ∃ receipt, s.answer = .ok receipt

theorem answered_iff {run : Run σ α} :
  run.Answered ↔ ∀ s ∈ run.submissions, s.answer.isOk = true
  := by
  have hanswer : ∀ answer : Answer, (∃ receipt, answer = .ok receipt) ↔ answer.isOk = true := by
    intro answer
    cases answer with
    | error fault => simp [Except.isOk, Except.toBool]
    | ok receipt => simp [Except.isOk, Except.toBool]
  exact forall₂_congr fun s _ => hanswer s.answer

instance (run : Run σ α) : Decidable run.Answered :=
  decidable_of_iff _ answered_iff.symm

end Run

/-! ## Runs of workflows in sequence -/

namespace Workflow

/-- A run of `x` that gives a value goes on with the run of what follows. -/
theorem bind_of_ok {x : Workflow σ α} {m : σ} {a : α} (h : (x m).result = .ok a)
    (f : α → Workflow σ β) :
  (x >>= f) m = ⟨(f a (x m).mailbox).result, (f a (x m).mailbox).mailbox,
    (x m).events ++ (f a (x m).mailbox).events⟩
  := by
  change Workflow.bind x f m = _
  rw [Workflow.bind]
  generalize x m = run at h
  obtain ⟨result, mailbox, events⟩ := run
  obtain rfl := h
  rfl

/-- A run of `x` that ends the program leaves out what follows. -/
theorem bind_of_fault {x : Workflow σ α} {m : σ} {fault : Fault}
    (h : (x m).result = .error fault) (f : α → Workflow σ β) :
  (x >>= f) m = ⟨.error fault, (x m).mailbox, (x m).events⟩
  := by
  change Workflow.bind x f m = _
  rw [Workflow.bind]
  generalize x m = run at h
  obtain ⟨result, mailbox, events⟩ := run
  obtain rfl := h
  rfl

/-- Runs that give a value follow one another. -/
theorem bind_run {x : Workflow σ α} {f : α → Workflow σ β} {a : α} {b : β} {m m₁ m' : σ}
    {events events' : List Event} (hx : x m = ⟨.ok a, m₁, events⟩)
    (hf : f a m₁ = ⟨.ok b, m', events'⟩) :
  (x >>= f) m = ⟨.ok b, m', events ++ events'⟩
  := by
  have hresult : (x m).result = .ok a := by
    rw [hx]
  rw [bind_of_ok hresult, hx, hf]

/-- Only these give a value together. -/
theorem of_bind_run {x : Workflow σ α} {f : α → Workflow σ β} {b : β} {m m' : σ}
    {events : List Event} (h : (x >>= f) m = ⟨.ok b, m', events⟩) :
  ∃ a m₁ events₁ events₂, x m = ⟨.ok a, m₁, events₁⟩ ∧ f a m₁ = ⟨.ok b, m', events₂⟩
    ∧ events = events₁ ++ events₂
  := by
  cases hresult : (x m).result with
  | error fault =>
      rw [bind_of_fault hresult] at h
      cases h
  | ok a =>
      rw [bind_of_ok hresult] at h
      obtain ⟨hresult', hmailbox, hevents⟩ := Run.mk.inj h
      use a, (x m).mailbox, (x m).events, (f a (x m).mailbox).events
      rw [← hresult, ← hresult', ← hmailbox, ← hevents]
      exact ⟨rfl, rfl, rfl⟩

/-! ## Events of a kind -/

/-- The workflow that keeps no events but those of a kind. -/
def restrict (keep : Event → Bool) (x : Workflow σ α) : Workflow σ α :=
  fun m => ⟨(x m).result, (x m).mailbox, (x m).events.filter keep⟩

@[simp]
theorem restrict_bind (keep : Event → Bool) (x : Workflow σ α) (f : α → Workflow σ β) :
  (x >>= f).restrict keep = x.restrict keep >>= fun a => (f a).restrict keep
  := by
  funext m
  cases h : (x m).result with
  | error fault =>
    rw [bind_of_fault (x := x.restrict keep) h]
    simp only [restrict, bind_of_fault h]
  | ok a =>
    rw [bind_of_ok (x := x.restrict keep) h]
    simp only [restrict, bind_of_ok h, List.filter_append]

theorem restrict_emit (keep : Event → Bool) (event : Event) :
  (emit event : Workflow σ Unit).restrict keep = if keep event then emit event else pure ()
  := by
  funext m
  cases h : keep event with
  | false => simp [restrict, emit, h]
  | true => simp [restrict, emit, h]

/-! ## Quiet workflows -/

/-- The workflow that sends one command and logs nothing. -/
def ask (transport : Transport σ) (command : Command) : Workflow σ Receipt :=
  fun m => ⟨(transport.submit command m).answer, (transport.submit command m).mailbox,
    [.exchanged command (transport.submit command m).answer]⟩

/-- The workflow that logs and reports nothing. -/
def quiet (x : Workflow σ α) : Workflow σ α :=
  x.restrict Event.isTraffic

@[simp]
theorem quiet_pure (a : α) :
  (pure a : Workflow σ α).quiet = pure a
  := rfl

@[simp]
theorem quiet_halt (fault : Fault) :
  (halt fault : Workflow σ α).quiet = halt fault
  := rfl

@[simp]
theorem quiet_inspect (read : σ → β) (next : β → Workflow σ α) :
  (inspect read next).quiet = inspect read fun b => (next b).quiet
  := rfl

@[simp]
theorem quiet_bind (x : Workflow σ α) (f : α → Workflow σ β) :
  (x >>= f).quiet = x.quiet >>= fun a => (f a).quiet
  := restrict_bind Event.isTraffic x f

@[simp]
theorem quiet_map (f : α → β) (x : Workflow σ α) :
  (f <$> x).quiet = f <$> x.quiet
  := by
  rw [map_eq_pure_bind, map_eq_pure_bind, quiet_bind]
  rfl

@[simp]
theorem quiet_log (level : LogLevel) (origin message : String) :
  (log level origin message : Workflow σ Unit).quiet = pure ()
  := restrict_emit Event.isTraffic (.logged ⟨level, origin, message⟩)

@[simp]
theorem quiet_sleep (duration : Duration) :
  (sleep duration : Workflow σ Unit).quiet = sleep duration
  := restrict_emit Event.isTraffic (.slept duration)

@[simp]
theorem quiet_progress (report : Transfer.Progress) :
  (emit (.progressed report) : Workflow σ Unit).quiet = pure ()
  := restrict_emit Event.isTraffic (.progressed report)

@[simp]
theorem quiet_exchange (transport : Transport σ) (command : Command) :
  (exchange transport command).quiet = ask transport command
  := by
  funext m
  have hrecords : ∀ records : List LogRecord,
      (records.map Event.logged).filter Event.isTraffic = [] := by
    intro records
    induction records with
    | nil => rfl
    | cons record records ih => exact ih
  simp only [quiet, restrict, exchange, ask, List.filter_cons, hrecords]
  rfl

@[simp]
theorem result_quiet (x : Workflow σ α) (m : σ) :
  (x.quiet m).result = (x m).result
  := rfl

@[simp]
theorem mailbox_quiet (x : Workflow σ α) (m : σ) :
  (x.quiet m).mailbox = (x m).mailbox
  := rfl

/-- A quiet workflow submits what the workflow submits. -/
@[simp]
theorem submissions_quiet (x : Workflow σ α) (m : σ) :
  (x.quiet m).submissions = (x m).submissions
  := by
  apply Event.filterMap_filter
  intro event h
  cases event with
  | exchanged command answer => cases h
  | slept duration => cases h
  | logged record => rfl
  | progressed report => rfl

/-- A quiet workflow waits as the workflow waits. -/
@[simp]
theorem sleeps_quiet (x : Workflow σ α) (m : σ) :
  (x.quiet m).sleeps = (x m).sleeps
  := by
  apply Event.filterMap_filter
  intro event h
  cases event with
  | exchanged command answer => cases h
  | slept duration => cases h
  | logged record => rfl
  | progressed report => rfl

/-! ## Where faults come from -/

/-- The workflow ends the program only with the fault of an answer. -/
def Relays (x : Workflow σ α) : Prop :=
  ∀ m fault, (x m).result = .error fault → ∃ s ∈ (x m).submissions, s.answer = .error fault

namespace Relays

/-- Where something comes back for each command, so does a result. -/
theorem result {x : Workflow σ α} (h : x.Relays) {m : σ} (hanswered : (x m).Answered) :
  ∃ a, (x m).result = .ok a
  := by
  cases hresult : (x m).result with
  | ok a => exact ⟨a, rfl⟩
  | error fault =>
      obtain ⟨s, hs, hfault⟩ := h m fault hresult
      obtain ⟨receipt, hreceipt⟩ := hanswered s hs
      cases hfault.symm.trans hreceipt

theorem of_quiet {x : Workflow σ α} (h : x.quiet.Relays) :
  x.Relays
  := by
  intro m fault hfault
  rw [← submissions_quiet]
  exact h m fault hfault

theorem quiet {x : Workflow σ α} (h : x.Relays) :
  x.quiet.Relays
  := by
  intro m fault hfault
  rw [submissions_quiet]
  exact h m fault hfault

protected theorem pure (a : α) :
  (pure a : Workflow σ α).Relays
  := nofun

protected theorem bind {x : Workflow σ α} {f : α → Workflow σ β} (hx : x.Relays)
    (hf : ∀ a, (f a).Relays) :
  (x >>= f).Relays
  := by
  intro m fault hfault
  cases h : (x m).result with
  | error fault' =>
      rw [bind_of_fault h] at hfault ⊢
      cases hfault
      exact hx m fault h
  | ok a =>
      rw [bind_of_ok h] at hfault ⊢
      obtain ⟨s, hs, hanswer⟩ := hf a _ fault hfault
      refine ⟨s, ?_, hanswer⟩
      rw [Run.submissions, List.filterMap_append]
      exact List.mem_append_right _ hs

end Relays

/-! ## What a run comes to -/

/-- The run of `x` from the mailbox `m` has the given result, submissions and delays, and
leaves the mailbox `m'` behind. -/
structure Gives (x : Workflow σ α) (m : σ) (result : Except Fault α) (trace : List Submission)
    (delays : List Duration) (m' : σ) : Prop where
  result_eq : (x m).result = result
  submissions_eq : (x m).submissions = trace
  sleeps_eq : (x m).sleeps = delays
  mailbox_eq : (x m).mailbox = m'

namespace Gives

variable {x : Workflow σ α} {m m₁ m' : σ} {result : Except Fault α}
  {trace trace' : List Submission} {delays delays' : List Duration}

/-- Every run comes to something. -/
theorem self (x : Workflow σ α) (m : σ) :
  x.Gives m (x m).result (x m).submissions (x m).sleeps (x m).mailbox
  := ⟨rfl, rfl, rfl, rfl⟩

/-- Log records and progress reports make no difference. -/
theorem quiet_iff :
  x.quiet.Gives m result trace delays m' ↔ x.Gives m result trace delays m'
  := by
  constructor
  · rintro ⟨hresult, hsubmissions, hsleeps, hmailbox⟩
    rw [submissions_quiet] at hsubmissions
    rw [sleeps_quiet] at hsleeps
    exact ⟨hresult, hsubmissions, hsleeps, hmailbox⟩
  · rintro ⟨hresult, hsubmissions, hsleeps, hmailbox⟩
    rw [← submissions_quiet] at hsubmissions
    rw [← sleeps_quiet] at hsleeps
    exact ⟨hresult, hsubmissions, hsleeps, hmailbox⟩

protected theorem pure (a : α) (m : σ) :
  (pure a : Workflow σ α).Gives m (.ok a) [] [] m
  := ⟨rfl, rfl, rfl, rfl⟩

/-- What comes after a value goes on from the mailbox that it leaves. -/
protected theorem bind {f : α → Workflow σ β} {a : α} {result : Except Fault β}
    (h : x.Gives m (.ok a) trace delays m₁) (h' : (f a).Gives m₁ result trace' delays' m') :
  (x >>= f).Gives m result (trace ++ trace') (delays ++ delays') m'
  := by
  obtain ⟨hresult, rfl, rfl, rfl⟩ := h
  obtain ⟨rfl, rfl, rfl, rfl⟩ := h'
  constructor
  · rw [bind_of_ok hresult]
  · rw [bind_of_ok hresult]
    apply List.filterMap_append
  · rw [bind_of_ok hresult]
    apply List.filterMap_append
  · rw [bind_of_ok hresult]

/-- What only returns a value adds nothing. -/
theorem bind_pure {f : α → Workflow σ β} {a : α} {b : β} (h : x.Gives m (.ok a) trace delays m')
    (hf : f a = pure b) :
  (x >>= f).Gives m (.ok b) trace delays m'
  := by
  have hpure := Gives.pure b m'
  rw [← hf] at hpure
  have hbind := h.bind hpure
  rw [List.append_nil, List.append_nil] at hbind
  exact hbind

/-- Nothing comes after the end of the program. -/
theorem bind_fault {fault : Fault} (h : x.Gives m (.error fault) trace delays m')
    (f : α → Workflow σ β) :
  (x >>= f).Gives m (.error fault) trace delays m'
  := by
  obtain ⟨hresult, rfl, rfl, rfl⟩ := h
  constructor
  · rw [bind_of_fault hresult]
  · rw [bind_of_fault hresult]
    rfl
  · rw [bind_of_fault hresult]
    rfl
  · rw [bind_of_fault hresult]

/-- A run of `x >>= f` is a run of `x` that ends the program, or one that gives a value and
then the run of `f` at it. -/
theorem of_bind {f : α → Workflow σ β} {result : Except Fault β}
    (h : (x >>= f).Gives m result trace delays m') :
  (∃ fault, result = .error fault ∧ x.Gives m (.error fault) trace delays m')
    ∨ ∃ a trace₁ delays₁ m₁ trace₂ delays₂, x.Gives m (.ok a) trace₁ delays₁ m₁
      ∧ (f a).Gives m₁ result trace₂ delays₂ m'
      ∧ trace = trace₁ ++ trace₂ ∧ delays = delays₁ ++ delays₂
  := by
  have hself := self x m
  cases hx : (x m).result with
  | error fault =>
      left
      rw [hx] at hself
      have hbind := hself.bind_fault f
      obtain ⟨rfl, rfl, rfl, rfl⟩ := h
      use fault, hbind.result_eq
      rw [hbind.submissions_eq, hbind.sleeps_eq, hbind.mailbox_eq]
      exact hself
  | ok a =>
      right
      rw [hx] at hself
      have hbind := hself.bind (self (f a) (x m).mailbox)
      obtain ⟨rfl, rfl, rfl, rfl⟩ := h
      rw [hbind.result_eq, hbind.submissions_eq, hbind.sleeps_eq, hbind.mailbox_eq]
      exact ⟨a, _, _, _, _, _, hself, self (f a) (x m).mailbox, rfl, rfl⟩

end Gives

end Workflow

end CxlFirmware
