import CxlFirmware.Proofs.Deadline
import CxlFirmware.Proofs.Traffic

/-!
# The attempts of a loop

What a bounded loop of attempts comes to, for any attempts and any outcomes.  `Retry.trial`
is the run of one attempt behind those before it, and `Retry.trials` is what happens in the
first attempts, with a delay between two of them.  The loop makes attempts until the first
that is not pending, or until there is no time for another one, or until its budget is used up.
-/

namespace CxlFirmware

variable {σ α π : Type}

namespace Attempt

/-- The operation is not done yet. -/
def IsPending (outcome : Attempt α π) : Prop :=
  ∃ seen, outcome = .pending seen

/-- What was seen of an operation that is not done yet. -/
def seen? : Attempt α π → Option π
  | .pending seen => some seen
  | .done _ | .failed _ => none

/-- What a loop comes to that ends with an outcome, where `gaveUp` is the reason to end with
a pending one. -/
def conclude (gaveUp : π → GaveUp π) : Attempt α π → Except (GaveUp π) α
  | .done value => .ok value
  | .pending seen => .error (gaveUp seen)
  | .failed error => .error (.failed error)

end Attempt

namespace Retry

variable {attempt : Nat → Option π → Workflow σ (Attempt α π)} {outcome : Nat → Attempt α π}

/-- An attempt comes to an end, and the operation is not done yet. -/
def GoesOn (result : Except Fault (Attempt α π)) : Prop :=
  ∃ seen, result = .ok (.pending seen)

theorem goesOn_ok {outcome : Attempt α π} :
  GoesOn (.ok outcome) ↔ outcome.IsPending
  := by
  simp only [GoesOn, Except.ok.injEq, Attempt.IsPending]

theorem conclusion_eq_ok {result : Except Fault (Attempt α π)} {gaveUp : π → GaveUp π}
    {failure : GaveUp π → Error} {value : α} :
  (result.map (·.conclude gaveUp)).map (·.mapError failure) = .ok (.ok value)
    ↔ result = .ok (.done value)
  := by
  rcases result with fault | value' | seen | error
  · exact ⟨nofun, nofun⟩
  · change (Except.ok (Except.ok value') : Except Fault (Except Error α)) = _ ↔ _
    rw [Except.ok.injEq, Except.ok.injEq, Except.ok.injEq, Attempt.done.injEq]
  · exact ⟨nofun, nofun⟩
  · exact ⟨nofun, nofun⟩

/-! ## Attempts behind each other -/

/-- The run of the attempt behind `count` others, the first of which has the number `number`,
an observation before it and a mailbox. -/
def trial (attempt : Nat → Option π → Workflow σ (Attempt α π)) :
    (number : Nat) → (previous : Option π) → σ → (count : Nat) → Run σ (Attempt α π)
  | number, previous, m, 0 => attempt number previous m
  | number, previous, m, count + 1 =>
    let first := attempt number previous m
    trial attempt (number + 1) (first.result.toOption.bind Attempt.seen?) first.mailbox count

/-- What happens in these attempts together with the delays between them. -/
def trials (policy : RetryPolicy) (attempt : Nat → Option π → Workflow σ (Attempt α π)) :
    (number : Nat) → (previous : Option π) → σ → (count : Nat) → List Event
  | number, previous, m, 0 => (attempt number previous m).events
  | number, previous, m, count + 1 =>
    let first := attempt number previous m
    first.events ++ .slept policy.delay :: trials policy attempt (number + 1)
      (first.result.toOption.bind Attempt.seen?) first.mailbox count

/-- An attempt comes behind the one before it. -/
theorem trial_succ (attempt : Nat → Option π → Workflow σ (Attempt α π)) (number : Nat)
    (previous : Option π) (m : σ) (count : Nat) :
  trial attempt number previous m (count + 1)
    = let last := trial attempt number previous m count
      attempt (number + count + 1) (last.result.toOption.bind Attempt.seen?) last.mailbox
  := by
  induction count generalizing number previous m with
  | zero => rfl
  | succ count ih =>
      rw [trial, ih]
      simp only [trial, Nat.add_assoc, Nat.add_comm 1 count]

/-- What is read off the events of attempts, and not off delays, is read off each of them. -/
theorem filterMap_trials {β : Type} {read : Event → Option β} (policy : RetryPolicy)
    (hread : read (.slept policy.delay) = none)
    (attempt : Nat → Option π → Workflow σ (Attempt α π)) (number : Nat) (previous : Option π)
    (m : σ) (count : Nat) :
  (trials policy attempt number previous m count).filterMap read
    = (List.range (count + 1)).flatMap fun i =>
      (trial attempt number previous m i).events.filterMap read
  := by
  induction count generalizing number previous m with
  | zero => simp [trials, trial]
  | succ count ih =>
      rw [trials, List.filterMap_append, List.filterMap_cons_none hread, ih,
        List.range_succ_eq_map (n := count + 1), List.flatMap_cons, List.flatMap_map]
      rfl

/-- There is one delay between two attempts and none behind the last. -/
theorem delays_of_trials (policy : RetryPolicy) {number count : Nat} {previous : Option π} {m : σ}
    (h : ∀ i ≤ count, (trial attempt number previous m i).sleeps = []) :
  (trials policy attempt number previous m count).filterMap Event.delay?
    = List.replicate count policy.delay
  := by
  induction count generalizing number previous m with
  | zero => exact h 0 (Nat.le_refl 0)
  | succ count ih =>
      have hfirst : (attempt number previous m).events.filterMap Event.delay? = [] :=
        h 0 (Nat.zero_le _)
      rw [trials, List.filterMap_append, hfirst, List.replicate_succ]
      exact congrArg (policy.delay :: ·) (ih fun i hi => h (i + 1) (Nat.succ_le_succ hi))

/-! ## Rounds of a loop -/

section

variable {policy : RetryPolicy} {elapsed : Nat → Duration} {left number : Nat}
  {previous : Option π} {m : σ}

/-- A loop goes on after a delay where the outcome is pending, attempts are left and there
is time for another one. -/
theorem loop_of_room {seen : π} (hresult : (attempt number previous m).result = .ok (.pending seen))
    (hroom : policy.overdue (elapsed number) = .ok false) :
  loop policy elapsed attempt (left + 1) number previous m
    = let rest := loop policy elapsed attempt left (number + 1) (some seen)
        (attempt number previous m).mailbox
      ⟨rest.result, rest.mailbox,
        (attempt number previous m).events ++ .slept policy.delay :: rest.events⟩
  := by
  rw [loop, Workflow.bind_of_ok hresult]
  simp only [hroom]
  rfl

/-- In all other cases it ends, with the outcome or with the reason to give up. -/
theorem loop_of_end {gaveUp : π → GaveUp π}
    (hend : ∀ seen, (attempt number previous m).result = .ok (.pending seen) →
      left = 0 ∧ gaveUp = .exhausted number
        ∨ 0 < left ∧ policy.overdue (elapsed number) = .ok true ∧ gaveUp = .deadline number) :
  loop policy elapsed attempt left number previous m
    = ⟨(attempt number previous m).result.map (·.conclude gaveUp),
      (attempt number previous m).mailbox, (attempt number previous m).events⟩
  := by
  cases hresult : (attempt number previous m).result with
  | error fault =>
      rw [loop, Workflow.bind_of_fault hresult]
      rfl
  | ok last =>
      rw [loop, Workflow.bind_of_ok hresult]
      cases last with
      | done value => simp [Attempt.conclude, Except.map]
      | failed error => simp [Attempt.conclude, Except.map]
      | pending seen =>
          rcases hend seen hresult with ⟨rfl, rfl⟩ | ⟨hleft, hlate, rfl⟩
          · simp [Attempt.conclude, Except.map]
          · obtain ⟨left, rfl⟩ := Nat.exists_eq_add_one.mpr hleft
            simp [hlate, Attempt.conclude, Except.map]

/-- A loop that can be told each time whether it is late makes attempts until the first that does
not go on, or until there is no time for another one. -/
theorem loop_of_timely (attempt : Nat → Option π → Workflow σ (Attempt α π)) (left number : Nat)
    (previous : Option π) (m : σ)
    (htold : ∀ later, number ≤ later → later < number + left →
      ∃ late, policy.overdue (elapsed later) = .ok late) :
  ∃ count < policy.reachFrom elapsed left number,
    (∀ i < count, GoesOn (trial attempt number previous m i).result)
    ∧ (count + 1 = policy.reachFrom elapsed left number
      ∨ ¬ GoesOn (trial attempt number previous m count).result)
    ∧ ∃ gaveUp, (policy.reachFrom elapsed left number = left + 1 →
        gaveUp = .exhausted (number + left))
      ∧ loop policy elapsed attempt left number previous m
        = ⟨(trial attempt number previous m count).result.map (·.conclude gaveUp),
          (trial attempt number previous m count).mailbox,
          trials policy attempt number previous m count⟩
  := by
  induction left generalizing number previous m with
  | zero =>
      refine ⟨0, policy.reachFrom_pos elapsed 0 number, nofun, .inl rfl, _, fun _ => rfl, ?_⟩
      exact loop_of_end fun _ _ => .inl ⟨rfl, rfl⟩
  | succ left ih =>
      by_cases hgoes : GoesOn (attempt number previous m).result
      · obtain ⟨seen, hseen⟩ := hgoes
        obtain ⟨late, hlate⟩ := htold number (Nat.le_refl _) (by omega)
        cases late with
        | true =>
            have hreach : policy.reachFrom elapsed (left + 1) number = 1 := by
              rw [RetryPolicy.reachFrom, hlate]
            rw [hreach]
            refine ⟨0, Nat.zero_lt_one, nofun, .inl rfl, .deadline number, by omega, ?_⟩
            exact loop_of_end fun _ _ => .inr ⟨Nat.succ_pos left, hlate, rfl⟩
        | false =>
            have hreach : policy.reachFrom elapsed (left + 1) number
                = policy.reachFrom elapsed left (number + 1) + 1 := by
              rw [RetryPolicy.reachFrom, hlate]
            have hprevious : (attempt number previous m).result.toOption.bind Attempt.seen?
                = some seen := by
              rw [hseen]
              rfl
            obtain ⟨count, hlt, hbefore, hlast, gaveUp, hgaveUp, hloop⟩ :=
              ih (number + 1) (some seen) (attempt number previous m).mailbox
                fun later hle hlt => htold later (by omega) (by omega)
            rw [hreach]
            refine ⟨count + 1, Nat.succ_lt_succ hlt, ?_, ?_, gaveUp, ?_, ?_⟩
            · intro i hi
              cases i with
              | zero => exact ⟨seen, hseen⟩
              | succ i =>
                  rw [trial, hprevious]
                  exact hbefore i (Nat.lt_of_succ_lt_succ hi)
            · rw [trial, hprevious]
              exact hlast.imp_left (congrArg (· + 1))
            · intro hall
              rw [hgaveUp (by omega), Nat.add_assoc, Nat.add_comm 1]
            · rw [loop_of_room hseen hlate, hloop, trial, trials, hprevious]
      · refine ⟨0, policy.reachFrom_pos elapsed _ _, nofun, .inr hgoes, _, fun _ => rfl, ?_⟩
        exact loop_of_end fun seen hseen => absurd ⟨seen, hseen⟩ hgoes

end

/-! ## Loops under a policy -/

theorem run_of_zero {policy : RetryPolicy} (hzero : policy.maxAttempts.toNat = 0)
    (clock : Clock σ) (attempt : Nat → Option π → Workflow σ (Attempt α π)) (m : σ) :
  run clock policy attempt m
    = ⟨.ok (.error (.failed (.config "retry attempts must be at least 1"))), m, []⟩
  := by
  have hmax : policy.maxAttempts = 0 := UInt32.toNat_inj.mp hzero
  simp [run, RetryPolicy.validate, hmax]

theorem run_of_pos {policy : RetryPolicy} (hpos : 0 < policy.maxAttempts.toNat)
    (clock : Clock σ) (attempt : Nat → Option π → Workflow σ (Attempt α π)) (m : σ) :
  run clock policy attempt m
    = loop policy (clock policy.delay m) attempt (policy.maxAttempts.toNat - 1) 1 none m
  := by
  rw [run, RetryPolicy.validate_of_pos hpos]
  rfl

/-- A loop that can be told each time whether it is late makes attempts until the first that does
not go on, or until there is no time for another one. -/
theorem run_of_timely (attempt : Nat → Option π → Workflow σ (Attempt α π))
    {policy : RetryPolicy} (hpos : 0 < policy.maxAttempts.toNat) {clock : Clock σ} {m : σ}
    (htimely : policy.Timely (clock policy.delay m)) :
  let reach := policy.reach (clock policy.delay m)
  ∃ count < reach, (∀ i < count, GoesOn (trial attempt 1 none m i).result)
    ∧ (count + 1 = reach ∨ ¬ GoesOn (trial attempt 1 none m count).result)
    ∧ ∃ gaveUp, (policy.InTime (clock policy.delay m) →
        gaveUp = .exhausted policy.maxAttempts.toNat)
      ∧ run clock policy attempt m
        = ⟨(trial attempt 1 none m count).result.map (·.conclude gaveUp),
          (trial attempt 1 none m count).mailbox, trials policy attempt 1 none m count⟩
  := by
  intro reach
  obtain ⟨count, hlt, hbefore, hlast, gaveUp, hgaveUp, hloop⟩ :=
    loop_of_timely attempt (policy.maxAttempts.toNat - 1) 1 none m
      fun later hle hlt => htimely later hle (by omega)
  refine ⟨count, hlt, hbefore, hlast, gaveUp, ?_, (run_of_pos hpos clock attempt m).trans hloop⟩
  intro hroom
  have hall := RetryPolicy.reach_of_inTime hpos hroom
  rw [hgaveUp (hall.trans (Nat.sub_add_cancel hpos).symm), Nat.add_comm, Nat.sub_add_cancel hpos]

/-- For every policy and any attempts with some outcomes, by a clock that only just moves: without
an attempt in the budget, the loop fails at once.  If the delay is shorter than the deadline, it
makes the attempts with the numbers from one on up to the first whose outcome is not pending, or up
to the last one of the budget, with one delay between two of them; it comes to the outcome of the
last attempt, where a pending one means that the budget is used up.  Otherwise it makes one attempt
and no delay, and a pending outcome of it means that the deadline is missed, or that the budget is
used up if there is no other attempt in it.  It ends the program only where it would have to tell
whether a delay is late that is too long to be added to another time. -/
theorem run_makes_attempts (policy : RetryPolicy)
    (attempt : Nat → Option π → Workflow σ (Attempt α π)) (m : σ)
    (houtcome : ∀ i, (trial attempt 1 none m i).result = .ok (outcome i)) :
  let budget := policy.maxAttempts.toNat
  let run := run .still policy attempt m
  (budget = 0 → run
      = ⟨.ok (.error (.failed (.config "retry attempts must be at least 1"))), m, []⟩)
    ∧ (0 < budget → policy.Roomy → ∃ count < budget, (∀ i < count, (outcome i).IsPending)
      ∧ (count + 1 = budget ∨ ¬ (outcome count).IsPending)
      ∧ run = ⟨.ok ((outcome count).conclude (.exhausted budget)),
        (trial attempt 1 none m count).mailbox, trials policy attempt 1 none m count⟩
      ∧ ((∀ i ≤ count, (trial attempt 1 none m i).sleeps = []) →
        run.sleeps = List.replicate count policy.delay))
    ∧ (0 < budget → ¬ policy.Roomy →
      (1 < budget → (outcome 0).IsPending → Duration.tick.add? policy.delay ≠ none) →
      run = ⟨.ok ((outcome 0).conclude (if budget = 1 then .exhausted 1 else .deadline 1)),
          (attempt 1 none m).mailbox, (attempt 1 none m).events⟩)
    ∧ (1 < budget → ¬ policy.Roomy → (outcome 0).IsPending →
      Duration.tick.add? policy.delay = none →
      run = ⟨.error .durationSum, (attempt 1 none m).mailbox, (attempt 1 none m).events⟩)
  := by
  intro budget run
  have hgoes : ∀ i, GoesOn (trial attempt 1 none m i).result ↔ (outcome i).IsPending := by
    intro i
    rw [houtcome, goesOn_ok]
  refine ⟨fun hzero => run_of_zero hzero .still attempt m, ?_, ?_, ?_⟩
  · intro hpos hroomy
    have hroom := hroomy.inTime m
    obtain ⟨count, hlt, hbefore, hlast, gaveUp, hgaveUp, hrun⟩ :=
      run_of_timely attempt hpos hroom.timely
    rw [RetryPolicy.reach_of_inTime hpos hroom] at hlt hlast
    rw [hgaveUp hroom, houtcome] at hrun
    refine ⟨count, hlt, fun i hi => (hgoes i).mp (hbefore i hi), ?_, hrun, ?_⟩
    · exact hlast.imp_right (mt (hgoes count).mpr)
    · intro hquiet
      rw [show run = _ from hrun]
      exact delays_of_trials policy hquiet
  · intro hpos hroomy htold
    have hfirst : (attempt 1 none m).result = .ok (outcome 0) := houtcome 0
    have hend : ∀ seen, (attempt 1 none m).result = .ok (.pending seen) →
        budget - 1 = 0 ∧ (if budget = 1 then .exhausted 1 else .deadline 1)
            = (GaveUp.exhausted 1 : π → GaveUp π)
          ∨ 0 < budget - 1 ∧ policy.overdue .tick = .ok true
            ∧ (if budget = 1 then .exhausted 1 else .deadline 1)
              = (GaveUp.deadline 1 : π → GaveUp π) := by
      intro seen hseen
      by_cases hone : budget = 1
      · left
        exact ⟨by omega, if_pos hone⟩
      · right
        have hmore : 1 < budget := by omega
        have hpending : (outcome 0).IsPending := ⟨seen, Except.ok.inj (hfirst.symm.trans hseen)⟩
        obtain ⟨total, htotal⟩ := Option.ne_none_iff_exists'.mp (htold hmore hpending)
        refine ⟨by omega, ?_, if_neg hone⟩
        rw [RetryPolicy.overdue_of_not_roomy hroomy, htotal]
    have hrun : run = _ := (run_of_pos hpos .still attempt m).trans (loop_of_end hend)
    rw [hrun, hfirst]
    rfl
  · intro hmore hroomy hpending htotal
    obtain ⟨seen, hseen⟩ := hpending
    obtain ⟨left, hleft⟩ := Nat.exists_eq_add_one.mpr (show 0 < budget - 1 by omega)
    have hfirst : (attempt 1 none m).result = .ok (.pending seen) :=
      (houtcome 0).trans (congrArg Except.ok hseen)
    have hfault : policy.overdue (Clock.still policy.delay m 1) = .error .durationSum := by
      rw [Clock.still, RetryPolicy.overdue_of_not_roomy hroomy, htotal]
    have hrun : run = _ := run_of_pos (Nat.zero_lt_of_lt hmore) .still attempt m
    rw [hrun, hleft, loop, Workflow.bind_of_ok hfirst]
    simp only [hfault, Workflow.halt, List.append_nil]

/-- Attempts with given outcomes, in a mailbox that keeps their numbers. -/
def recorded (outcome : Nat → Attempt α π) :
    Nat → Option π → Workflow (List Nat) (Attempt α π) :=
  fun number _ numbers => ⟨.ok (outcome number), numbers ++ [number], []⟩

theorem trial_recorded (outcome : Nat → Attempt α π) (number : Nat) (previous : Option π)
    (numbers : List Nat) (count : Nat) :
  trial (recorded outcome) number previous numbers count
    = ⟨.ok (outcome (number + count)), numbers ++ List.range' number (count + 1), []⟩
  := by
  induction count generalizing number previous numbers with
  | zero => rfl
  | succ count ih =>
      rw [trial, ih]
      simp [recorded, Nat.add_assoc, Nat.add_comm 1 count, List.range'_succ]

/-- Three attempts, the last of which is done, with a delay behind each of the others. -/
theorem run_makes_attempts_recorded :
  let outcome : Nat → Attempt Nat Nat := fun number =>
    if number < 3 then .pending number else .done number
  let run := run .still ⟨5, .ofMillis 10, some (.ofSeconds 1)⟩ (recorded outcome) []
  run.result = .ok (.ok 3) ∧ run.mailbox = [1, 2, 3]
    ∧ run.sleeps = [.ofMillis 10, .ofMillis 10]
  := by
  intro outcome run
  have houtcome : ∀ i, (trial (recorded outcome) 1 none [] i).result = .ok (outcome (1 + i)) := by
    intro i
    rw [trial_recorded]
  have hquiet : ∀ i, (trial (recorded outcome) 1 none [] i).sleeps = [] := by
    intro i
    rw [trial_recorded]
    rfl
  have hroomy : RetryPolicy.Roomy ⟨5, .ofMillis 10, some (.ofSeconds 1)⟩ := by
    intro limit hlimit
    cases hlimit
    decide
  obtain ⟨-, hbounded, -⟩ := run_makes_attempts ⟨5, .ofMillis 10, some (.ofSeconds 1)⟩
    (recorded outcome) [] houtcome
  obtain ⟨count, hlt, hbefore, hlast, hrun, hsleeps⟩ := hbounded (by decide) hroomy
  have hpending : ∀ i, (outcome (1 + i)).IsPending ↔ 1 + i < 3 := by
    intro i
    by_cases hi : 1 + i < 3
    · simp [outcome, Attempt.IsPending, hi]
    · simp [outcome, Attempt.IsPending, hi]
  have hcount : count = 2 := by
    have hshort : ∀ i < count, 1 + i < 3 := fun i hi => (hpending i).mp (hbefore i hi)
    have hlong : count + 1 = 5 ∨ ¬ 1 + count < 3 :=
      hlast.imp_right (mt (hpending count).mpr)
    have htwo : ¬ 2 < count := fun hi => absurd (hshort 2 hi) (by decide)
    omega
  subst hcount
  have hsleeps := hsleeps fun i _ => hquiet i
  refine ⟨?_, ?_, hsleeps⟩
  · exact congrArg Run.result hrun
  · refine (congrArg Run.mailbox hrun).trans ?_
    rw [trial_recorded]
    rfl

end Retry

end CxlFirmware
