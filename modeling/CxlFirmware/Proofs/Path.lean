import Mathlib.Tactic.Use
import CxlFirmware.Proofs.Deadline
import CxlFirmware.Proofs.Traffic
import CxlFirmware.Script

/-!
# Paths of a mailbox

`transport.Yields m trace m'` says that the mailbox `m` gives the answers of `trace` to its
commands, one after another, and is `m'` afterwards.  A workflow that `Follows` a transport
with some commands leaves such a path behind: its submissions are of those commands and lead
from its first mailbox to its last.  What a path preserves, such a workflow preserves.

Two workflows with different mailboxes `Mirror` each other when one does as the other wherever
its mailbox gives the same answers.  Loops do so by clocks that go `InStep`.
-/

namespace CxlFirmware

variable {σ τ α β : Type}

namespace Transport

/-- From the mailbox `m`, the commands of the trace are given the answers of the trace and
lead to the mailbox at the end. -/
inductive Yields (transport : Transport σ) : σ → List Submission → σ → Prop
  | nil (m : σ) : Yields transport m [] m
  | cons {m m' : σ} {rest : List Submission} (command : Command)
      (h : Yields transport (transport.submit command m).mailbox rest m') :
      Yields transport m (⟨command, (transport.submit command m).answer⟩ :: rest) m'

namespace Yields

variable {transport : Transport σ} {m m₁ m' : σ} {trace trace' : List Submission}

/-- One command is a path of one submission. -/
theorem single (m : σ) (command : Command) :
  transport.Yields m [⟨command, (transport.submit command m).answer⟩]
    (transport.submit command m).mailbox
  := .cons command (.nil _)

/-- A reaction comes before the rest of a path. -/
theorem cons_of {command : Command} {answer : Answer} {records : List LogRecord}
    (hsubmit : transport.submit command m = ⟨answer, records, m₁⟩)
    (h : transport.Yields m₁ trace m') :
  transport.Yields m (⟨command, answer⟩ :: trace) m'
  := by
  have hcons : transport.Yields (transport.submit command m).mailbox trace m' →
      transport.Yields m (⟨command, (transport.submit command m).answer⟩ :: trace) m' :=
    .cons command
  rw [hsubmit] at hcons
  apply hcons h

theorem append (h : transport.Yields m trace m₁) (h' : transport.Yields m₁ trace' m') :
  transport.Yields m (trace ++ trace') m'
  := by
  induction h with
  | nil m => exact h'
  | cons command h ih => exact .cons command (ih h')

/-- A command may be sent once more at the end of a path. -/
theorem concat {command : Command} {answers : List Answer} {last : Answer}
    (h : transport.Yields m (answers.map (.mk command)) m₁)
    (h' : transport.Yields m₁ [⟨command, last⟩] m') :
  transport.Yields m ((answers ++ [last]).map (.mk command)) m'
  := by
  rw [List.map_append]
  apply h.append h'

/-- A path along two traces passes through a mailbox between them. -/
theorem split (h : transport.Yields m (trace ++ trace') m') :
  ∃ m₁, transport.Yields m trace m₁ ∧ transport.Yields m₁ trace' m'
  := by
  induction trace generalizing m with
  | nil =>
      use m
      exact ⟨.nil m, h⟩
  | cons s trace ih =>
      cases h with
      | cons command h =>
          obtain ⟨m₁, h₁, h₂⟩ := ih h
          use m₁
          exact ⟨.cons command h₁, h₂⟩

/-- A path begins with the first submission of its trace. -/
theorem uncons {s : Submission} (h : transport.Yields m (s :: trace) m') :
  s.answer = (transport.submit s.command m).answer
    ∧ transport.Yields (transport.submit s.command m).mailbox trace m'
  := by
  cases h with
  | cons command h => exact ⟨rfl, h⟩

/-- What each command of a path preserves, the path preserves. -/
theorem preserves {holds : σ → Prop} (h : transport.Yields m trace m')
    (hstep : ∀ s ∈ trace, ∀ m, holds m → holds (transport.submit s.command m).mailbox)
    (hm : holds m) :
  holds m'
  := by
  induction h with
  | nil m => exact hm
  | cons command h ih =>
      apply ih (fun s hs => hstep s (List.mem_cons_of_mem _ hs))
      apply hstep _ List.mem_cons_self _ hm

/-- Where something comes back for each command of a path as long as a property holds, which the
commands preserve, something comes back for all of them. -/
theorem answered {holds : σ → Prop} (h : transport.Yields m trace m')
    (hstep : ∀ s ∈ trace, ∀ m, holds m → holds (transport.submit s.command m).mailbox
      ∧ ∃ receipt, (transport.submit s.command m).answer = .ok receipt) (hm : holds m) :
  ∀ s ∈ trace, ∃ receipt, s.answer = .ok receipt
  := by
  induction h with
  | nil m => nofun
  | @cons m _ _ command _ ih =>
      obtain ⟨hfirst, hothers⟩ := List.forall_mem_cons.mp hstep
      obtain ⟨hkept, hanswer⟩ := hfirst m hm
      exact List.forall_mem_cons.mpr ⟨hanswer, ih hothers hkept⟩

end Yields

/-- The submissions of some commands, one after another, and the mailbox that they lead to. -/
def send (transport : Transport σ) (m : σ) : List Command → List Submission × σ
  | [] => ([], m)
  | command :: rest =>
    let sent := transport.send (transport.submit command m).mailbox rest
    (⟨command, (transport.submit command m).answer⟩ :: sent.1, sent.2)

/-- Any commands are a path from any mailbox. -/
theorem yields_send (transport : Transport σ) (m : σ) (commands : List Command) :
  transport.Yields m (transport.send m commands).1 (transport.send m commands).2
  := by
  induction commands generalizing m with
  | nil => exact .nil m
  | cons command rest ih => exact .cons command (ih _)

/-- The clocks of two mailboxes show the same time, whatever state these are in. -/
def InStep (transport₁ : Transport σ) (transport₂ : Transport τ) : Prop :=
  ∀ delay m n, transport₁.clock delay m = transport₂.clock delay n

theorem Times.inStep {transport₁ : Transport σ} {transport₂ : Transport τ} {policy : RetryPolicy}
    (h : transport₁.Times policy) (m : σ) (hclock : transport₁.InStep transport₂) :
  transport₂.Times policy
  := by
  intro n
  rw [← hclock policy.delay m n]
  exact h m

end Transport

namespace Workflow

variable {transport : Transport σ} {allowed : Command → Prop}

/-- Whatever the mailbox, the submissions of `x` are a path from it to the mailbox
afterwards, of allowed commands. -/
def Follows (transport : Transport σ) (allowed : Command → Prop) (x : Workflow σ α) : Prop :=
  ∀ m, transport.Yields m (x m).submissions (x m).mailbox
    ∧ ∀ s ∈ (x m).submissions, allowed s.command

namespace Follows

/-- A workflow follows a transport when it does so quietly. -/
theorem of_quiet {x : Workflow σ α} (h : x.quiet.Follows transport allowed) :
  x.Follows transport allowed
  := by
  intro m
  rw [← submissions_quiet, ← mailbox_quiet]
  apply h

/-- A workflow that follows a transport does so quietly. -/
theorem quiet {x : Workflow σ α} (h : x.Follows transport allowed) :
  x.quiet.Follows transport allowed
  := by
  intro m
  rw [submissions_quiet, mailbox_quiet]
  apply h

protected theorem pure (a : α) :
  (pure a : Workflow σ α).Follows transport allowed
  := by
  intro m
  exact ⟨.nil m, fun s hs => absurd hs List.not_mem_nil⟩

theorem halt (fault : Fault) :
  (halt fault : Workflow σ α).Follows transport allowed
  := by
  intro m
  exact ⟨.nil m, fun s hs => absurd hs List.not_mem_nil⟩

theorem inspect {read : σ → β} {next : β → Workflow σ α}
    (h : ∀ b, (next b).Follows transport allowed) :
  (inspect read next).Follows transport allowed
  := fun m => h (read m) m

theorem sleep (duration : Duration) :
  (sleep duration : Workflow σ Unit).Follows transport allowed
  := by
  intro m
  exact ⟨.nil m, fun s hs => absurd hs List.not_mem_nil⟩

theorem ask {command : Command} (h : allowed command) :
  (ask transport command).Follows transport allowed
  := by
  intro m
  constructor
  · apply Transport.Yields.single
  · intro s hs
    obtain rfl := List.mem_singleton.mp hs
    exact h

protected theorem bind {x : Workflow σ α} {f : α → Workflow σ β}
    (hx : x.Follows transport allowed) (hf : ∀ a, (f a).Follows transport allowed) :
  (x >>= f).Follows transport allowed
  := by
  intro m
  obtain ⟨hpath, hallowed⟩ := hx m
  cases h : (x m).result with
  | error fault =>
      rw [bind_of_fault h]
      exact ⟨hpath, hallowed⟩
  | ok a =>
      rw [bind_of_ok h, Run.submissions, List.filterMap_append]
      obtain ⟨hpath', hallowed'⟩ := hf a (x m).mailbox
      constructor
      · apply hpath.append hpath'
      · intro s hs
        rcases List.mem_append.mp hs with hs | hs
        · exact hallowed s hs
        · exact hallowed' s hs

/-- What a workflow submits leads from its first mailbox to its last. -/
theorem yields {x : Workflow σ α} (hx : x.Follows transport allowed) {m m' : σ}
    {result : Except Fault α} {trace : List Submission} {delays : List Duration}
    (h : x.Gives m result trace delays m') :
  transport.Yields m trace m'
  := by
  rw [← h.submissions_eq, ← h.mailbox_eq]
  exact (hx m).1

/-- Something comes back for each command of a run if the mailbox sees to it for the allowed
commands. -/
theorem answered {x : Workflow σ α} (hx : x.Follows transport allowed) {holds : σ → Prop} {m : σ}
    (hstep : ∀ command, allowed command → ∀ m, holds m →
      holds (transport.submit command m).mailbox
        ∧ ∃ receipt, (transport.submit command m).answer = .ok receipt) (hm : holds m) :
  (x m).Answered
  := (hx m).1.answered (fun s hs => hstep s.command ((hx m).2 s hs)) hm

/-- What each allowed command preserves, the workflow preserves. -/
theorem preserves {x : Workflow σ α} (hx : x.Follows transport allowed) {holds : σ → Prop}
    (hstep : ∀ command, allowed command → ∀ m, holds m →
      holds (transport.submit command m).mailbox)
    {m : σ} (hm : holds m) :
  holds (x m).mailbox
  := by
  obtain ⟨hpath, hallowed⟩ := hx m
  apply hpath.preserves _ hm
  intro s hs
  apply hstep s.command (hallowed s hs)

end Follows

/-- A script always has an answer. -/
theorem Follows.answered_of_script {name : String} {x : Workflow Script α}
    {allowed : Command → Prop} (hx : x.Follows (Script.transport name) allowed) (script : Script) :
  (x script).Answered
  := by
  have hstep : ∀ command, allowed command → ∀ script, True →
      True ∧ ∃ receipt, ((Script.transport name).submit command script).answer = .ok receipt := by
    intro command _ script _
    change True ∧ ∃ receipt, script.react.answer = .ok receipt
    rw [Script.react]
    cases script.answers with
    | nil => exact ⟨trivial, _, rfl⟩
    | cons answer rest => exact ⟨trivial, _, rfl⟩
  exact hx.answered hstep trivial

/-! ## Workflows that mirror each other -/

/-- Wherever the mailbox of `y` gives the answers that `x` had, `y` does as `x` did. -/
def Mirrors (transport : Transport τ) (x : Workflow σ α) (y : Workflow τ α) : Prop :=
  ∀ m result trace delays m', x.Gives m result trace delays m' →
    ∀ n n', transport.Yields n trace n' → y.Gives n result trace delays n'

namespace Mirrors

variable {transport₁ : Transport σ} {transport₂ : Transport τ}

theorem of_quiet {x : Workflow σ α} {y : Workflow τ α}
    (h : Mirrors transport₂ x.quiet y.quiet) :
  Mirrors transport₂ x y
  := by
  intro m result trace delays m' hx n n' hpath
  rw [← Gives.quiet_iff] at hx ⊢
  exact h m result trace delays m' hx n n' hpath

protected theorem pure (a : α) :
  Mirrors transport₂ (pure a : Workflow σ α) (pure a)
  := by
  rintro m _ _ _ _ ⟨rfl, rfl, rfl, rfl⟩ n n' hpath
  cases hpath
  exact ⟨rfl, rfl, rfl, rfl⟩

theorem halt (fault : Fault) :
  Mirrors transport₂ (halt fault : Workflow σ α) (Workflow.halt fault)
  := by
  rintro m _ _ _ _ ⟨rfl, rfl, rfl, rfl⟩ n n' hpath
  cases hpath
  exact ⟨rfl, rfl, rfl, rfl⟩

/-- What is read off both mailboxes has to be the same. -/
theorem inspect {read : σ → β} {read' : τ → β} (hread : ∀ m n, read m = read' n)
    {x : β → Workflow σ α} {y : β → Workflow τ α} (h : ∀ b, Mirrors transport₂ (x b) (y b)) :
  Mirrors transport₂ (inspect read x) (Workflow.inspect read' y)
  := by
  intro m result trace delays m' hx n n' hpath
  have hy := h (read m) m result trace delays m' ⟨hx.1, hx.2, hx.3, hx.4⟩ n n' hpath
  rw [hread m n] at hy
  exact ⟨hy.1, hy.2, hy.3, hy.4⟩

theorem sleep (duration : Duration) :
  Mirrors transport₂ (sleep duration : Workflow σ Unit) (Workflow.sleep duration)
  := by
  rintro m _ _ _ _ ⟨rfl, rfl, rfl, rfl⟩ n n' hpath
  cases hpath
  exact ⟨rfl, rfl, rfl, rfl⟩

theorem ask (command : Command) :
  Mirrors transport₂ (ask transport₁ command) (Workflow.ask transport₂ command)
  := by
  rintro m _ _ _ _ ⟨rfl, rfl, rfl, rfl⟩ n n' hpath
  obtain ⟨hanswer, hrest⟩ := hpath.uncons
  simp only at hanswer hrest
  cases hrest
  constructor
  · simp only [Workflow.ask, hanswer]
  · simp only [Workflow.ask, ← hanswer]
    rfl
  · rfl
  · rfl

protected theorem bind {x : Workflow σ α} {y : Workflow τ α} {f : α → Workflow σ β}
    {g : α → Workflow τ β} (hx : Mirrors transport₂ x y)
    (hf : ∀ a, Mirrors transport₂ (f a) (g a)) :
  Mirrors transport₂ (x >>= f) (y >>= g)
  := by
  intro m result trace delays m' hgives n n' hpath
  rcases hgives.of_bind with ⟨fault, rfl, hfault⟩ | ⟨a, _, _, _, _, _, hfirst, hrest, rfl, rfl⟩
  · have hy := hx _ _ _ _ _ hfault n n' hpath
    exact hy.bind_fault g
  · obtain ⟨n₁, hpath₁, hpath₂⟩ := hpath.split
    have hy := hx _ _ _ _ _ hfirst n n₁ hpath₁
    exact hy.bind (hf a _ _ _ _ _ hrest n₁ n' hpath₂)

end Mirrors

end Workflow

end CxlFirmware
