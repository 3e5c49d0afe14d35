import CxlFirmware.Proofs.Deadline
import CxlFirmware.Proofs.Inquiry

/-!
# Repetitions

What an inquiry leaves behind, whatever the mailbox answers.  Every answer but the last one
asks for another attempt, there are no more attempts than the policy allows, and between two
attempts there is one delay; `Repeated` says so of a trace.  `inquiry_repeats` is read from
a run to its trace, and `inquiry_of_yields` from the answers of the mailbox to the run.
-/

namespace CxlFirmware

variable {σ α π ε : Type}

/-- An element of two lists in a row is in the first of them or in the second. -/
theorem in_first_or_second {first second before after : List α} {a : α}
    (h : first ++ second = before ++ a :: after) :
  (∃ after', first = before ++ a :: after')
    ∨ ∃ before', before = first ++ before' ∧ second = before' ++ a :: after
  := by
  induction first generalizing before with
  | nil => exact .inr ⟨before, rfl, h⟩
  | cons b first ih =>
      cases before with
      | nil =>
          obtain ⟨rfl, -⟩ := List.cons.inj h
          exact .inl ⟨first, rfl⟩
      | cons c before =>
          obtain ⟨rfl, hrest⟩ := List.cons.inj h
          rcases ih hrest with ⟨after', rfl⟩ | ⟨before', rfl, rfl⟩
          · exact .inl ⟨after', rfl⟩
          · exact .inr ⟨before', rfl, rfl⟩

/-- A command is sent at least once and at most `attempts` times; all answers but the last
one are of the kind `Waits`, and the last one is of the kind `Ends`. -/
def Repeated (attempts : Nat) (command : Command) (Waits Ends : Answer → Prop)
    (trace : List Submission) : Prop :=
  ∃ waited last, trace = (waited ++ [last]).map (Submission.mk command)
    ∧ waited.length < attempts ∧ (∀ answer ∈ waited, Waits answer) ∧ Ends last

namespace Repeated

variable {attempts : Nat} {command : Command} {Waits Ends Ends' : Answer → Prop}
  {trace : List Submission} {answer : Answer}

theorem single (h : Ends answer) :
  Repeated (attempts + 1) command Waits Ends [⟨command, answer⟩]
  := ⟨[], answer, rfl, Nat.succ_pos attempts, fun _ h => absurd h List.not_mem_nil, h⟩

theorem cons (hwaits : Waits answer) (h : Repeated attempts command Waits Ends trace) :
  Repeated (attempts + 1) command Waits Ends (⟨command, answer⟩ :: trace)
  := by
  obtain ⟨waited, last, rfl, hlength, hwaited, hlast⟩ := h
  use answer :: waited, last
  constructor
  · rfl
  · exact ⟨Nat.succ_lt_succ hlength, List.forall_mem_cons.mpr ⟨hwaits, hwaited⟩, hlast⟩

theorem mono (h : Repeated attempts command Waits Ends trace)
    (hends : ∀ answer, Ends answer → Ends' answer) :
  Repeated attempts command Waits Ends' trace
  := by
  obtain ⟨waited, last, htrace, hlength, hwaits, hlast⟩ := h
  exact ⟨waited, last, htrace, hlength, hwaits, hends last hlast⟩

theorem mem_command (h : Repeated attempts command Waits Ends trace) {s : Submission}
    (hs : s ∈ trace) :
  s.command = command
  := by
  obtain ⟨waited, last, rfl, -⟩ := h
  obtain ⟨answer, -, rfl⟩ := List.mem_map.mp hs
  rfl

theorem length_pos (h : Repeated attempts command Waits Ends trace) :
  0 < trace.length
  := by
  obtain ⟨waited, last, rfl, -⟩ := h
  simp

/-- A repeated command is sent at least once, and its last answer ends the repetition. -/
theorem getLast? (h : Repeated attempts command Waits Ends trace) :
  ∃ last, trace.getLast? = some ⟨command, last⟩ ∧ Ends last
  := by
  obtain ⟨waited, last, rfl, -, -, hlast⟩ := h
  use last
  constructor
  · simp
  · exact hlast

/-- Before each submission of a repeated command, there are only submissions of it that
wait for another one. -/
theorem before (h : Repeated attempts command Waits Ends trace) {earlier later : List Submission}
    {s : Submission} (hs : trace = earlier ++ s :: later) :
  s.command = command ∧ ∀ s' ∈ earlier, s'.command = command ∧ Waits s'.answer
  := by
  have hcommand := h.mem_command (hs ▸ List.mem_append_right earlier List.mem_cons_self)
  obtain ⟨waited, last, rfl, -, hwaits, -⟩ := h
  have hwaited : ∀ s' ∈ waited.map (Submission.mk command),
      s'.command = command ∧ Waits s'.answer := by
    intro s' hs'
    obtain ⟨answer, hanswer, rfl⟩ := List.mem_map.mp hs'
    exact ⟨rfl, hwaits answer hanswer⟩
  constructor
  · exact hcommand
  · rw [List.map_append] at hs
    rcases in_first_or_second hs with ⟨later', hfirst⟩ | ⟨earlier', rfl, hsecond⟩
    · intro s' hs'
      apply hwaited
      rw [hfirst]
      exact List.mem_append_left _ hs'
    · cases earlier' with
      | nil =>
          rw [List.append_nil]
          exact hwaited
      | cons _ earlier' => simp at hsecond

end Repeated

/-- A mailbox determines how often a command is repeated. -/
theorem Transport.Yields.repeated_unique {transport : Transport σ} {command : Command}
    {Waits Ends : Answer → Prop} (hexclusive : ∀ answer, Waits answer → ¬ Ends answer)
    {waited waited' : List Answer} {last last' : Answer} {m m₁ m₂ : σ}
    (h : transport.Yields m ((waited ++ [last]).map (Submission.mk command)) m₁)
    (h' : transport.Yields m ((waited' ++ [last']).map (Submission.mk command)) m₂)
    (hwaits : ∀ answer ∈ waited, Waits answer) (hwaits' : ∀ answer ∈ waited', Waits answer)
    (hlast : Ends last) (hlast' : Ends last') :
  waited = waited' ∧ last = last' ∧ m₁ = m₂
  := by
  -- Both sequences read their answers off the same mailbox, so neither can end before the other.
  induction waited generalizing m waited' with
  | nil =>
      obtain ⟨hanswer, hrest⟩ := h.uncons
      cases hrest
      cases waited' with
      | nil =>
          obtain ⟨hanswer', hrest'⟩ := h'.uncons
          cases hrest'
          exact ⟨rfl, hanswer.trans hanswer'.symm, rfl⟩
      | cons answer waited' =>
          obtain ⟨hanswer', -⟩ := h'.uncons
          have hsame : last = answer := hanswer.trans hanswer'.symm
          rw [hsame] at hlast
          exact absurd hlast (hexclusive answer (hwaits' answer List.mem_cons_self))
  | cons answer waited ih =>
      obtain ⟨hanswer, hrest⟩ := h.uncons
      obtain ⟨hwait, hwaits⟩ := List.forall_mem_cons.mp hwaits
      cases waited' with
      | nil =>
          obtain ⟨hanswer', -⟩ := h'.uncons
          have hsame : last' = answer := hanswer'.trans hanswer.symm
          rw [hsame] at hlast'
          exact absurd hlast' (hexclusive answer hwait)
      | cons answer' waited' =>
          obtain ⟨hanswer', hrest'⟩ := h'.uncons
          have hsame : answer = answer' := hanswer.trans hanswer'.symm
          obtain ⟨-, hwaits'⟩ := List.forall_mem_cons.mp hwaits'
          obtain ⟨rfl, rfl, rfl⟩ := ih hrest hrest' hwaits hwaits'
          exact ⟨by rw [hsame], rfl, rfl⟩

/-! ## Rounds of a loop -/

namespace Retry

/-- The judgement of answers tells those that ask for another attempt, and those that are
successful, from all others. -/
structure Judges (judge : Option π → Receipt → Attempt α π) (Waits Ends : Answer → Prop) :
    Prop where
  pending_iff : ∀ previous (answer : Answer),
    (∃ seen, answer.map (judge previous) = .ok (.pending seen)) ↔ Waits answer
  done_iff : ∀ previous (answer : Answer),
    (∃ value, answer.map (judge previous) = .ok (.done value)) ↔ Ends answer

/-- No answer both asks for another attempt and is successful. -/
theorem Judges.exclusive {judge : Option π → Receipt → Attempt α π} {Waits Ends : Answer → Prop}
    (h : Judges judge Waits Ends) (answer : Answer) (hwaits : Waits answer) :
  ¬ Ends answer
  := by
  intro hends
  obtain ⟨seen, hseen⟩ := (h.pending_iff none answer).mpr hwaits
  obtain ⟨value, hvalue⟩ := (h.done_iff none answer).mpr hends
  cases hseen.symm.trans hvalue

/-- It does so if it tells what comes back, and a fault is of neither kind. -/
theorem Judges.of_receipts {judge : Option π → Receipt → Attempt α π} {Waits Ends : Answer → Prop}
    (hpending : ∀ previous receipt,
      (∃ seen, judge previous receipt = .pending seen) ↔ Waits (.ok receipt))
    (hdone : ∀ previous receipt,
      (∃ value, judge previous receipt = .done value) ↔ Ends (.ok receipt))
    (hwaits : ∀ fault, ¬ Waits (.error fault)) (hends : ∀ fault, ¬ Ends (.error fault)) :
  Judges judge Waits Ends
  := by
  constructor
  · intro previous answer
    cases answer with
    | error fault => simp [Except.map, hwaits fault]
    | ok receipt => simp [Except.map, hpending previous receipt]
  · intro previous answer
    cases answer with
    | error fault => simp [Except.map, hends fault]
    | ok receipt => simp [Except.map, hdone previous receipt]

/-- Why a loop gave up behind `count` pending answers and a last one: that answer failed for
good, it was pending as well and the last one of the budget, or it was pending and there was no
time for another one. -/
inductive After (judge : Option π → Receipt → Attempt α π) (budget count : Nat) (last : Answer) :
    GaveUp π → Prop
  | failed {previous : Option π} {error : Error}
      (h : last.map (judge previous) = .ok (.failed error)) :
      After judge budget count last (.failed error)
  | exhausted {previous : Option π} {seen : π} {attempts : Nat}
      (h : last.map (judge previous) = .ok (.pending seen)) (hcount : count + 1 = budget) :
      After judge budget count last (.exhausted attempts seen)
  | deadline {previous : Option π} {seen : π} {attempts : Nat}
      (h : last.map (judge previous) = .ok (.pending seen)) (hcount : count + 1 < budget) :
      After judge budget count last (.deadline attempts seen)

/-- An attempt before the others is one of the budget. -/
theorem After.succ {judge : Option π → Receipt → Attempt α π} {budget count : Nat} {last : Answer}
    {reason : GaveUp π} (h : After judge budget count last reason) :
  After judge (budget + 1) (count + 1) last reason
  := by
  cases h with
  | failed h => exact .failed h
  | exhausted h hcount => exact .exhausted h (congrArg (· + 1) hcount)
  | deadline h hcount => exact .deadline h (Nat.succ_lt_succ hcount)

section

variable {policy : RetryPolicy} {elapsed : Nat → Duration} {transport : Transport σ}
  {command : Command} {judge : Option π → Receipt → Attempt α π} {failure : GaveUp π → Error}
  {Waits Ends : Answer → Prop} {left number : Nat} {previous : Option π} {m : σ}

/-- An attempt is one submission. -/
theorem asking_apply (transport : Transport σ) (command : Command)
    (judge : Option π → Receipt → Attempt α π) (number : Nat) (previous : Option π) (m : σ) :
  asking transport command judge number previous m
    = ⟨(transport.submit command m).answer.map (judge previous),
      (transport.submit command m).mailbox,
      [.exchanged command (transport.submit command m).answer]⟩
  := by
  rw [asking]
  cases h : (transport.submit command m).answer with
  | error fault =>
      rw [Workflow.bind_of_fault (x := Workflow.ask transport command) h]
      simp only [Workflow.ask, h]
      rfl
  | ok receipt =>
      rw [Workflow.bind_of_ok (x := Workflow.ask transport command) h]
      simp only [Workflow.ask, h]
      rfl

/-- A loop goes on after a delay where the answer is pending, attempts are left and there
is time for another one. -/
theorem loop_of_pending {seen : π}
    (hjudge : (transport.submit command m).answer.map (judge previous) = .ok (.pending seen))
    (hoverdue : policy.overdue (elapsed number) = .ok false) :
  loop policy elapsed (asking transport command judge) (left + 1) number previous m
    = let rest := loop policy elapsed (asking transport command judge) left (number + 1)
        (some seen) (transport.submit command m).mailbox
      ⟨rest.result, rest.mailbox, .exchanged command (transport.submit command m).answer
        :: .slept policy.delay :: rest.events⟩
  := by
  have hround : (asking transport command judge number previous m).result
      = .ok (.pending seen) := by
    rw [asking_apply, hjudge]
  rw [loop, Workflow.bind_of_ok hround, asking_apply]
  simp only [hoverdue]
  rfl

/-- In all other cases the loop ends after one submission.  It gives a value when the
answer is a successful one, ends the program when the answer does or when the time is not to be
told, and gives up for a reason that tells of the answer. -/
theorem loop_of_final (number : Nat)
    (h : ∀ seen, (transport.submit command m).answer.map (judge previous) = .ok (.pending seen) →
      left = 0 ∨ policy.overdue (elapsed number) ≠ .ok false) :
  ∃ result, loop policy elapsed (asking transport command judge) left number previous m
      = ⟨result, (transport.submit command m).mailbox,
        [.exchanged command (transport.submit command m).answer]⟩
    ∧ ((∃ value, (transport.submit command m).answer.map (judge previous) = .ok (.done value))
      ↔ ∃ value, result = .ok (.ok value))
    ∧ (∀ fault, result = .error fault → (transport.submit command m).answer = .error fault
      ∨ 0 < left ∧ policy.overdue (elapsed number) = .error fault)
    ∧ (∀ fault, (transport.submit command m).answer = .error fault → result = .error fault)
    ∧ ∀ reason, result = .ok (.error reason) →
      After judge (left + 1) 0 (transport.submit command m).answer reason
  := by
  have hround := asking_apply transport command judge number previous m
  have hresult := congrArg Run.result hround
  dsimp only at hresult
  cases hanswer : (transport.submit command m).answer with
  | error fault =>
      rw [hanswer] at hround hresult
      rw [loop, Workflow.bind_of_fault hresult, hround]
      exact ⟨.error fault, rfl, by simp [Except.map], by simp, by simp, by simp⟩
  | ok receipt =>
      rw [hanswer] at h hround hresult
      rw [loop, Workflow.bind_of_ok hresult, hround]
      cases hjudge : judge previous receipt with
      | done value =>
          exact ⟨.ok (.ok value), rfl, by simp [Except.map, hjudge], by simp, by simp, by simp⟩
      | failed error =>
          refine ⟨.ok (.error (.failed error)), rfl, by simp [Except.map, hjudge], by simp,
            by simp, ?_⟩
          rintro reason ⟨⟩
          exact .failed (congrArg Except.ok hjudge)
      | pending seen =>
          have hpending : Except.map (judge previous) (.ok receipt : Answer)
              = .ok (.pending seen) :=
            congrArg Except.ok hjudge
          cases left with
          | zero =>
              refine ⟨.ok (.error (.exhausted number seen)), rfl, by simp [hpending], by simp,
                by simp, ?_⟩
              rintro reason ⟨⟩
              exact .exhausted hpending rfl
          | succ left =>
              cases hoverdue : policy.overdue (elapsed number) with
              | error fault =>
                  exact ⟨.error fault, rfl, by simp [hpending], by simp, by simp, by simp⟩
              | ok overdue =>
                  cases overdue with
                  | true =>
                      refine ⟨.ok (.error (.deadline number seen)), rfl, by simp [hpending],
                        by simp, by simp, ?_⟩
                      rintro reason ⟨⟩
                      exact .deadline hpending (Nat.succ_lt_succ (Nat.succ_pos left))
                  | false =>
                      rcases h seen hpending with hleft | hfinal
                      · cases hleft
                      · exact absurd hoverdue hfinal

/-- Either a loop goes on after its first submission, or it ends there. -/
theorem pending_or_final (late : Except Fault Bool) (outcome : Except Fault (Attempt α π))
    (left : Nat) :
  (∃ seen, outcome = .ok (.pending seen) ∧ late = .ok false)
    ∨ ∀ seen, outcome = .ok (.pending seen) → left = 0 ∨ late ≠ .ok false
  := by
  by_cases h : late = .ok false
  · rcases outcome with fault | value | seen | error
    · simp
    · simp
    · exact .inl ⟨seen, rfl, h⟩
    · simp
  · exact .inr fun _ _ => .inr h

/-- The run of a loop repeats its command, with a delay between two attempts, and gives a
value exactly when the last answer is a successful one. -/
structure Repeats (policy : RetryPolicy) (command : Command) (Waits Ends : Answer → Prop)
    (attempts : Nat) (run : Run σ (Except ε α)) : Prop where
  repeated : Repeated attempts command Waits
    (fun last => Ends last ↔ ∃ value, run.result = .ok (.ok value)) run.submissions
  sleeps : run.sleeps = List.replicate (run.submissions.length - 1) policy.delay

theorem Repeats.of_quiet {x : Workflow σ (Except ε α)} {attempts : Nat}
    (h : Repeats policy command Waits Ends attempts (x.quiet m)) :
  Repeats policy command Waits Ends attempts (x m)
  := by
  obtain ⟨hrepeated, hsleeps⟩ := h
  simp only [Workflow.submissions_quiet, Workflow.sleeps_quiet, Workflow.result_quiet]
    at hrepeated hsleeps
  exact ⟨hrepeated, hsleeps⟩

theorem repeats_of_final (hjudges : Judges judge Waits Ends)
    (h : ∀ seen, (transport.submit command m).answer.map (judge previous) = .ok (.pending seen) →
      left = 0 ∨ policy.overdue (elapsed number) ≠ .ok false) :
  Repeats policy command Waits Ends (left + 1)
    (loop policy elapsed (asking transport command judge) left number previous m)
  := by
  obtain ⟨result, hrun, hdone, -⟩ := loop_of_final number h
  rw [hrun]
  constructor
  · apply Repeated.single
    rw [← hjudges.done_iff previous, hdone]
  · rfl

/-- Every loop repeats its command. -/
theorem loop_repeats (policy : RetryPolicy) (elapsed : Nat → Duration) (transport : Transport σ)
    (command : Command) (hjudges : Judges judge Waits Ends) (left number : Nat)
    (previous : Option π) (m : σ) :
  Repeats policy command Waits Ends (left + 1)
    (loop policy elapsed (asking transport command judge) left number previous m)
  := by
  induction left generalizing number previous m with
  | zero => exact repeats_of_final hjudges (fun _ _ => .inl rfl)
  | succ left ih =>
      rcases pending_or_final (policy.overdue (elapsed number))
        ((transport.submit command m).answer.map (judge previous)) (left + 1)
        with ⟨seen, hseen, hoverdue⟩ | hfinal
      · rw [loop_of_pending hseen hoverdue]
        obtain ⟨hrepeated, hsleeps⟩ := ih (number + 1) (some seen)
          (transport.submit command m).mailbox
        constructor
        · apply Repeated.cons _ hrepeated
          rw [← hjudges.pending_iff previous]
          exact ⟨seen, hseen⟩
        · obtain ⟨count, hcount⟩ := Nat.exists_eq_add_one.mpr hrepeated.length_pos
          rw [hcount, Nat.add_sub_cancel] at hsleeps
          simp only [Run.sleeps, Run.submissions, List.filterMap_cons, Event.delay?,
            Event.submission?, List.length_cons] at hcount hsleeps ⊢
          rw [hsleeps, hcount, Nat.add_sub_cancel, List.replicate_succ]
      · exact repeats_of_final hjudges hfinal

/-- A loop gives up behind pending answers, for a reason that tells of the last answer. -/
theorem loop_gave_up (hjudges : Judges judge Waits Ends) {reason : GaveUp π} (left number : Nat)
    (previous : Option π) (m : σ)
    (h : (loop policy elapsed (asking transport command judge) left number previous m).result
      = .ok (.error reason)) :
  ∃ waited last,
    (loop policy elapsed (asking transport command judge) left number previous m).submissions
      = (waited ++ [last]).map (Submission.mk command)
    ∧ (∀ answer ∈ waited, Waits answer) ∧ After judge (left + 1) waited.length last reason
  := by
  have hend : ∀ left number previous m,
      (∀ seen, (transport.submit command m).answer.map (judge previous) = .ok (.pending seen) →
        left = 0 ∨ policy.overdue (elapsed number) ≠ .ok false) →
      (loop policy elapsed (asking transport command judge) left number previous m).result
        = .ok (.error reason) →
      (loop policy elapsed (asking transport command judge) left number previous m).submissions
          = [⟨command, (transport.submit command m).answer⟩]
        ∧ After judge (left + 1) 0 (transport.submit command m).answer reason := by
    intro left number previous m hfinal h
    obtain ⟨result, hrun, -, -, -, hgaveUp⟩ := loop_of_final number hfinal
    rw [hrun] at h ⊢
    exact ⟨rfl, hgaveUp reason h⟩
  induction left generalizing number previous m with
  | zero =>
      obtain ⟨hsubmissions, hafter⟩ := hend 0 number previous m (fun _ _ => .inl rfl) h
      exact ⟨[], _, hsubmissions, nofun, hafter⟩
  | succ left ih =>
      rcases pending_or_final (policy.overdue (elapsed number))
        ((transport.submit command m).answer.map (judge previous)) (left + 1)
        with ⟨seen, hseen, hoverdue⟩ | hfinal
      · rw [loop_of_pending hseen hoverdue] at h ⊢
        obtain ⟨waited, last, hsubmissions, hwaits, hafter⟩ := ih (number + 1) (some seen) _ h
        refine ⟨(transport.submit command m).answer :: waited, last, ?_, ?_, hafter.succ⟩
        · exact congrArg (Submission.mk command _ :: ·) hsubmissions
        · exact List.forall_mem_cons.mpr ⟨(hjudges.pending_iff _ _).mp ⟨seen, hseen⟩, hwaits⟩
      · obtain ⟨hsubmissions, hafter⟩ := hend (left + 1) number previous m hfinal h
        exact ⟨[], _, hsubmissions, nofun, hafter⟩

/-- A loop that can be told each time whether it is late ends the program only where its last
submission does. -/
theorem loop_fault {fault : Fault} (left number : Nat) (previous : Option π) (m : σ)
    (htold : ∀ later, number ≤ later → later < number + left →
      ∃ late, policy.overdue (elapsed later) = .ok late)
    (h : (loop policy elapsed (asking transport command judge) left number previous m).result
      = .error fault) :
  ⟨command, .error fault⟩
    ∈ (loop policy elapsed (asking transport command judge) left number previous m).submissions
  := by
  have hstop : ∀ left number previous m,
      (∀ later, number ≤ later → later < number + left →
        ∃ late, policy.overdue (elapsed later) = .ok late) →
      (∀ seen, (transport.submit command m).answer.map (judge previous) = .ok (.pending seen) →
        left = 0 ∨ policy.overdue (elapsed number) ≠ .ok false) →
      (loop policy elapsed (asking transport command judge) left number previous m).result
        = .error fault →
      ⟨command, .error fault⟩ ∈
        (loop policy elapsed (asking transport command judge) left number previous m).submissions
      := by
    intro left number previous m htold hfinal h
    obtain ⟨result, hrun, -, hfault, -⟩ := loop_of_final number hfinal
    rw [hrun] at h ⊢
    rcases hfault fault h with hanswer | ⟨hleft, hoverdue⟩
    · rw [hanswer]
      exact List.mem_singleton_self _
    · obtain ⟨late, hlate⟩ := htold number (Nat.le_refl _) (by omega)
      cases hoverdue.symm.trans hlate
  induction left generalizing number previous m with
  | zero => exact hstop 0 number previous m htold (fun _ _ => .inl rfl) h
  | succ left ih =>
      rcases pending_or_final (policy.overdue (elapsed number))
        ((transport.submit command m).answer.map (judge previous)) (left + 1)
        with ⟨seen, hseen, hoverdue⟩ | hfinal
      · rw [loop_of_pending hseen hoverdue] at h ⊢
        have hrest := ih (number + 1) (some seen) (transport.submit command m).mailbox
          (fun later hle hlt => htold later (by omega) (by omega)) h
        exact List.mem_cons_of_mem _ hrest
      · exact hstop (left + 1) number previous m htold hfinal h

/-- The events of a loop with the given answers. -/
def rounds (policy : RetryPolicy) (command : Command) (waited : List Answer) (last : Answer) :
    List Event :=
  waited.flatMap (fun answer => [.exchanged command answer, .slept policy.delay])
    ++ [.exchanged command last]

theorem gives_of_rounds {x : Workflow σ α} {result : Except Fault α} {m' : σ}
    {waited : List Answer} {last : Answer}
    (h : x m = ⟨result, m', rounds policy command waited last⟩) :
  x.Gives m result ((waited ++ [last]).map (Submission.mk command))
    (List.replicate waited.length policy.delay) m'
  := by
  constructor
  · rw [h]
  · rw [h, Run.submissions]
    clear h
    induction waited with
    | nil => rfl
    | cons answer waited ih => exact congrArg (List.cons _) ih
  · rw [h, Run.sleeps]
    clear h
    induction waited with
    | nil => rfl
    | cons answer waited ih => exact congrArg (List.cons _) ih
  · rw [h]

/-- Where the mailbox answers as a loop waits for that has time for its delays, the loop goes on to
the first answer of another kind, and gets its value there or ends the program. -/
theorem loop_of_yields (number : Nat) (previous : Option π) (hjudges : Judges judge Waits Ends)
    (hroom : ∀ later, number ≤ later → later < number + left →
      policy.overdue (elapsed later) = .ok false)
    {waited : List Answer} {last : Answer} {m' : σ}
    (hpath : transport.Yields m ((waited ++ [last]).map (Submission.mk command)) m')
    (hwaits : ∀ answer ∈ waited, Waits answer) (hlast : ¬ Waits last)
    (hleft : waited.length ≤ left) :
  ∃ result, loop policy elapsed (asking transport command judge) left number previous m
      = ⟨result, m', rounds policy command waited last⟩
    ∧ (Ends last → ∃ value, result = .ok (.ok value))
    ∧ ∀ fault, last = .error fault → result = .error fault
  := by
  induction waited generalizing left number previous m with
  | nil =>
      cases hpath with
      | cons _ hpath =>
          cases hpath
          have hfinal : ∀ seen,
              (transport.submit command m).answer.map (judge previous) = .ok (.pending seen) →
                left = 0 ∨ policy.overdue (elapsed number) ≠ .ok false := by
            intro seen hseen
            exact absurd ((hjudges.pending_iff previous _).mp ⟨seen, hseen⟩) hlast
          obtain ⟨result, hrun, hdone, -, hfault, -⟩ := loop_of_final number hfinal
          refine ⟨result, hrun, fun hends => ?_, hfault⟩
          exact hdone.mp ((hjudges.done_iff previous _).mpr hends)
  | cons answer waited ih =>
      cases hpath with
      | cons _ hpath =>
          obtain ⟨left, rfl⟩ := Nat.exists_eq_add_one.mpr (Nat.zero_lt_of_lt hleft)
          obtain ⟨hwait, hwaits⟩ := List.forall_mem_cons.mp hwaits
          obtain ⟨seen, hseen⟩ := (hjudges.pending_iff previous _).mpr hwait
          obtain ⟨result, hrun, hresult⟩ := ih (number + 1) (some seen)
            (fun later hle hlt => hroom later (by omega) (by omega)) hpath hwaits
            (Nat.le_of_succ_le_succ hleft)
          refine ⟨result, ?_, hresult⟩
          rw [loop_of_pending hseen (hroom number (Nat.le_refl _) (by omega)), hrun]
          rfl

/-- A valid policy allows for a first attempt. -/
theorem maxAttempts_pos (hvalid : policy.validate = .ok ()) :
  0 < policy.maxAttempts.toNat
  := by
  apply Nat.pos_of_ne_zero
  intro hzero
  have hzero : policy.maxAttempts = 0 := UInt32.toNat_inj.mp hzero
  simp [RetryPolicy.validate, hzero] at hvalid

theorem run_of_valid (hvalid : policy.validate = .ok ()) :
  ∃ left, policy.maxAttempts.toNat = left + 1
    ∧ ∀ (clock : Clock σ) (attempt : Nat → Option π → Workflow σ (Attempt α π)) (m : σ),
      run clock policy attempt m = loop policy (clock policy.delay m) attempt left 1 none m
  := by
  obtain ⟨left, hleft⟩ := Nat.exists_eq_add_one.mpr (maxAttempts_pos hvalid)
  use left, hleft
  intro clock attempt m
  simp [run, hvalid, hleft, Workflow.inspect]

/-- A valid inquiry is a loop, with another word for why it gave up. -/
theorem inquiry_of_valid (transport : Transport σ) (command : Command)
    (judge : Option π → Receipt → Attempt α π) (failure : GaveUp π → Error)
    (hvalid : policy.validate = .ok ()) :
  ∃ left, policy.maxAttempts.toNat = left + 1
    ∧ ∀ m, inquiry policy transport command judge failure m
      = let looped := loop policy (transport.clock policy.delay m)
          (asking transport command judge) left 1 none m
        ⟨looped.result.map (·.mapError failure), looped.mailbox, looped.events⟩
  := by
  obtain ⟨left, hleft, hrun⟩ := run_of_valid hvalid
  use left, hleft
  intro m
  have hself := hrun transport.clock (asking transport command judge) m
  rw [inquiry, ← hself]
  cases h : (run transport.clock policy (asking transport command judge) m).result with
  | error fault =>
      rw [Workflow.bind_of_fault h]
      simp only [h]
      rfl
  | ok result =>
      rw [Workflow.bind_of_ok h]
      simp only [h, Workflow.pure_apply, List.append_nil]
      rfl

theorem map_mapError_eq_ok {result : Except Fault (Except (GaveUp π) α)} {value : α} :
  result.map (·.mapError failure) = .ok (.ok value) ↔ result = .ok (.ok value)
  := by
  rcases result with fault | reason | value
  · constructor
    · intro h
      cases h
    · intro h
      cases h
  · constructor
    · intro h
      cases h
    · intro h
      cases h
  · constructor
    · intro h
      cases h
      rfl
    · intro h
      cases h
      rfl

/-- An inquiry repeats its command as often as its policy allows. -/
theorem inquiry_repeats (hjudges : Judges judge Waits Ends) (hvalid : policy.validate = .ok ())
    (m : σ) :
  Repeats policy command Waits Ends policy.maxAttempts.toNat
    (inquiry policy transport command judge failure m)
  := by
  obtain ⟨left, hleft, hinquiry⟩ := inquiry_of_valid transport command judge failure
    hvalid
  obtain ⟨hrepeated, hsleeps⟩ := loop_repeats policy (transport.clock policy.delay m) transport
    command hjudges left 1 none m
  rw [hleft, hinquiry]
  constructor
  · apply hrepeated.mono
    intro last hlast
    simp only [hlast, map_mapError_eq_ok]
  · exact hsleeps

/-- The error of an inquiry is the word for the reason to give up. -/
theorem inquiry_gave_up (hjudges : Judges judge Waits Ends) (hvalid : policy.validate = .ok ())
    {error : Error}
    (h : (inquiry policy transport command judge failure m).result = .ok (.error error)) :
  ∃ waited last reason, (inquiry policy transport command judge failure m).submissions
      = (waited ++ [last]).map (Submission.mk command)
    ∧ (∀ answer ∈ waited, Waits answer)
    ∧ After judge policy.maxAttempts.toNat waited.length last reason ∧ error = failure reason
  := by
  obtain ⟨left, hleft, hinquiry⟩ := inquiry_of_valid transport command judge failure hvalid
  rw [hinquiry] at h ⊢
  dsimp only at h
  cases hresult : (loop policy (transport.clock policy.delay m) (asking transport command judge)
    left 1 none m).result with
  | error fault => simp [hresult, Except.map] at h
  | ok outcome =>
      cases outcome with
      | ok value =>
          rw [hresult] at h
          cases h
      | error reason =>
          rw [hresult] at h
          cases h
          obtain ⟨waited, last, hsubmissions, hwaits, hafter⟩ :=
            loop_gave_up hjudges left 1 none m hresult
          rw [← hleft] at hafter
          exact ⟨waited, last, reason, hsubmissions, hwaits, hafter, rfl⟩

/-- An inquiry that can be told each time whether it is late ends the program only where an answer
does. -/
theorem inquiry_relays (hvalid : policy.validate = .ok ()) (htimes : transport.Times policy) :
  (inquiry policy transport command judge failure).Relays
  := by
  intro m fault h
  obtain ⟨left, hleft, hinquiry⟩ := inquiry_of_valid transport command judge failure hvalid
  rw [hinquiry] at h ⊢
  have hmem := loop_fault left 1 none m
    (fun later hle hlt => htimes m later hle (by omega)) (Fault.map_eq_error.mp h)
  exact ⟨_, hmem, rfl⟩

/-- Where the mailbox answers as an inquiry waits for that has time for its delays, the inquiry
goes on to the first answer of another kind, and gets its value there or ends the program. -/
theorem inquiry_of_yields (failure : GaveUp π → Error) (hjudges : Judges judge Waits Ends)
    (hvalid : policy.validate = .ok ()) (hroom : policy.InTime (transport.clock policy.delay m))
    {waited : List Answer} {last : Answer} {m' : σ}
    (hpath : transport.Yields m ((waited ++ [last]).map (Submission.mk command)) m')
    (hwaits : ∀ answer ∈ waited, Waits answer) (hlast : ¬ Waits last)
    (hlength : waited.length < policy.maxAttempts.toNat) :
  ∃ result, inquiry policy transport command judge failure m
      = ⟨result, m', rounds policy command waited last⟩
    ∧ (Ends last → ∃ value, result = .ok (.ok value))
    ∧ ∀ fault, last = .error fault → result = .error fault
  := by
  obtain ⟨left, hleft, hinquiry⟩ := inquiry_of_valid transport command judge failure
    hvalid
  rw [hleft] at hlength
  obtain ⟨result, hrun, hdone, hfault⟩ := loop_of_yields 1 none hjudges
    (fun later hle hlt => hroom later hle (by omega)) hpath hwaits hlast
    (Nat.le_of_lt_succ hlength)
  refine ⟨result.map (·.mapError failure), ?_, ?_, ?_⟩
  · rw [hinquiry, hrun]
  · intro hends
    obtain ⟨value, rfl⟩ := hdone hends
    exact ⟨value, rfl⟩
  · intro fault hlast
    rw [hfault fault hlast]
    rfl

end

end Retry

end CxlFirmware
