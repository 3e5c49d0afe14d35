import Mathlib.Algebra.GroupWithZero.Nat
import CxlFirmware.Proofs.Attempts

/-!
# The budget of delays

The budget of a policy is what a loop of attempts spends on delays at worst, whatever the clock
shows.  `Retry.calls` is the count of attempts that the loop makes.  There is one delay between two
attempts, so the delays come to the budget exactly when all attempts are made.
-/

namespace CxlFirmware

variable {σ α π : Type}

/-! ## Multiples of a duration -/

namespace Duration

variable {d product : Duration} {factor : Nat}

theorem nanos_eq (d : Duration) :
  d.nanos = d.seconds * 1000000000 + d.subsecond
  := by
  rw [seconds, subsecond]
  omega

/-- The nanoseconds of a multiple are carried over to its seconds. -/
theorem nanos_mul (d : Duration) (factor : Nat) :
  d.nanos * factor = (d.seconds * factor + d.subsecond * factor / 1000000000) * 1000000000
    + d.subsecond * factor % 1000000000
  := by
  have hseconds : d.seconds * 1000000000 * factor = d.seconds * factor * 1000000000 :=
    Nat.mul_right_comm _ _ _
  rw [d.nanos_eq, Nat.add_mul, hseconds]
  omega

theorem scale?_eq_none_iff :
  d.scale? factor = none ↔ limit ≤ d.nanos * factor
  := by
  simp [scale?, ofNanos?]

theorem nanos_of_scale? (h : d.scale? factor = some product) :
  product.nanos = d.nanos * factor
  := by
  rw [scale?, ofNanos?] at h
  split at h
  · obtain rfl := Option.some.inj h
    rfl
  · cases h

theorem parts_of_scale? (h : d.scale? factor = some product) :
  product.seconds = d.seconds * factor + d.subsecond * factor / 1000000000
    ∧ product.subsecond = d.subsecond * factor % 1000000000
  := by
  have hnanos := nanos_of_scale? h
  rw [nanos_mul, product.nanos_eq] at hnanos
  have hrest : product.subsecond < 1000000000 := Nat.mod_lt _ (by decide)
  omega

end Duration

namespace RetryPolicy

variable {policy : RetryPolicy}

theorem budget_eq_ok_iff {total : Duration} :
  policy.budget = .ok total ↔ policy.delay.scale? (policy.maxAttempts.toNat - 1) = some total
  := by
  rw [budget]
  cases policy.delay.scale? (policy.maxAttempts.toNat - 1) with
  | none => simp
  | some product => rw [Except.ok.injEq, Option.some.injEq]

theorem budget_eq_fault_iff :
  policy.budget = .error .durationProduct
    ↔ policy.delay.scale? (policy.maxAttempts.toNat - 1) = none
  := by
  rw [budget]
  cases policy.delay.scale? (policy.maxAttempts.toNat - 1) with
  | none => exact iff_of_true rfl rfl
  | some product => simp

end RetryPolicy

/-! ## Attempts that are counted -/

/-- The clock beside a mailbox that counts. -/
def Clock.counted (clock : Clock σ) : Clock (σ × Nat) :=
  fun delay m => clock delay m.1

namespace Retry

/-- The attempts, in a mailbox that counts them. -/
def counted (attempt : Nat → Option π → Workflow σ (Attempt α π)) :
    Nat → Option π → Workflow (σ × Nat) (Attempt α π) :=
  fun number previous m =>
    let run := attempt number previous m.1
    ⟨run.result, (run.mailbox, m.2 + 1), run.events⟩

/-- The count of attempts that a loop makes. -/
def calls (clock : Clock σ) (policy : RetryPolicy)
    (attempt : Nat → Option π → Workflow σ (Attempt α π)) (m : σ) : Nat :=
  (run clock.counted policy (counted attempt) (m, 0)).mailbox.2

/-! ## Attempts and delays -/

/-- An attempt with this outcome is the last one of a loop, which comes to `result`, whatever the
mailbox is. -/
def EndsAt (policy : RetryPolicy) (elapsed : Nat → Duration) (left number : Nat)
    (previous : Option π) (outcome : Except Fault (Attempt α π))
    (result : Except Fault (Except (GaveUp π) α)) : Prop :=
  ∀ (σ : Type) (attempt : Nat → Option π → Workflow σ (Attempt α π)) (m : σ),
    (attempt number previous m).result = outcome →
    loop policy elapsed attempt left number previous m
      = ⟨result, (attempt number previous m).mailbox, (attempt number previous m).events⟩

/-- The outcome of an attempt ends the loop, or it is pending, and there are attempts and time
left for another one. -/
theorem endsAt_or_goes_on (policy : RetryPolicy) (elapsed : Nat → Duration) (left number : Nat)
    (previous : Option π) (outcome : Except Fault (Attempt α π)) :
  (∃ result, EndsAt policy elapsed left number previous outcome result)
    ∨ ∃ rest seen, left = rest + 1 ∧ outcome = .ok (.pending seen)
      ∧ policy.overdue (elapsed number) = .ok false
  := by
  rcases outcome with fault | value | seen | error
  · left
    use .error fault
    intro σ attempt m h
    rw [loop, Workflow.bind_of_fault h]
  · left
    use .ok (.ok value)
    intro σ attempt m h
    rw [loop, Workflow.bind_of_ok h]
    simp
  · cases left with
    | zero =>
        left
        use .ok (.error (.exhausted number seen))
        intro σ attempt m h
        rw [loop, Workflow.bind_of_ok h]
        simp
    | succ rest =>
        cases hlate : policy.overdue (elapsed number) with
        | error fault =>
            left
            use .error fault
            intro σ attempt m h
            rw [loop, Workflow.bind_of_ok h]
            simp [hlate, Workflow.halt]
        | ok late =>
            cases late with
            | true =>
                left
                use .ok (.error (.deadline number seen))
                intro σ attempt m h
                rw [loop, Workflow.bind_of_ok h]
                simp [hlate]
            | false => exact .inr ⟨rest, seen, rfl, rfl, rfl⟩
  · left
    use .ok (.error (.failed error))
    intro σ attempt m h
    rw [loop, Workflow.bind_of_ok h]
    simp

section

variable {policy : RetryPolicy} {elapsed : Nat → Duration}
  {attempt : Nat → Option π → Workflow σ (Attempt α π)} {left number count : Nat}
  {previous : Option π} {seen : π} {m : σ}

/-- The loop makes a count of delays and one attempt more, and to count the attempts changes
nothing else. -/
structure Paces (policy : RetryPolicy) (elapsed : Nat → Duration)
    (attempt : Nat → Option π → Workflow σ (Attempt α π)) (left number : Nat)
    (previous : Option π) (m : σ) (count : Nat) : Prop where
  sleeps : (loop policy elapsed attempt left number previous m).sleeps
    = List.replicate count policy.delay
  attempts : ∀ before, loop policy elapsed (counted attempt) left number previous (m, before)
    = let run := loop policy elapsed attempt left number previous m
      ⟨run.result, (run.mailbox, before + (count + 1)), run.events⟩

/-- A loop that ends with its first attempt has no delay. -/
theorem Paces.of_end (hquiet : (attempt number previous m).sleeps = [])
    {result : Except Fault (Except (GaveUp π) α)}
    (hends : EndsAt policy elapsed left number previous (attempt number previous m).result result) :
  Paces policy elapsed attempt left number previous m 0
  := by
  have hself := hends σ attempt m rfl
  constructor
  · rw [hself]
    exact hquiet
  · intro before
    rw [hself, hends (σ × Nat) (counted attempt) (m, before) rfl]
    rfl

/-- One that goes on has one delay more than the rest of it. -/
theorem Paces.of_room (hquiet : (attempt number previous m).sleeps = [])
    (hresult : (attempt number previous m).result = .ok (.pending seen))
    (hroom : policy.overdue (elapsed number) = .ok false)
    (h : Paces policy elapsed attempt left (number + 1) (some seen)
      (attempt number previous m).mailbox count) :
  Paces policy elapsed attempt (left + 1) number previous m (count + 1)
  := by
  have hself := @loop_of_room _ _ _ attempt policy elapsed left number previous m seen hresult hroom
  constructor
  · have hfirst : (attempt number previous m).events.filterMap Event.delay? = [] := hquiet
    rw [hself, Run.sleeps, List.filterMap_append, hfirst, List.replicate_succ]
    exact congrArg (policy.delay :: ·) h.sleeps
  · intro before
    have hcounted : (counted attempt number previous (m, before)).result = .ok (.pending seen) :=
      hresult
    have hmailbox : (counted attempt number previous (m, before)).mailbox
        = ((attempt number previous m).mailbox, before + 1) :=
      rfl
    rw [hself, loop_of_room hcounted hroom, hmailbox, h.attempts, Nat.add_right_comm,
      Nat.add_assoc]
    rfl

/-- A loop under a policy makes one attempt more than delays. -/
theorem run_of_paces (hpos : 0 < policy.maxAttempts.toNat) {clock : Clock σ}
    (h : Paces policy (clock policy.delay m) attempt (policy.maxAttempts.toNat - 1) 1 none m
      count) :
  calls clock policy attempt m = count + 1
    ∧ (run clock policy attempt m).sleeps = List.replicate count policy.delay
    ∧ run clock.counted policy (counted attempt) (m, 0)
      = let run := run clock policy attempt m
        ⟨run.result, (run.mailbox, count + 1), run.events⟩
  := by
  have hattempts := h.attempts 0
  rw [Nat.zero_add] at hattempts
  have hcounted := (run_of_pos hpos clock.counted (counted attempt) (m, 0)).trans hattempts
  rw [← run_of_pos hpos clock attempt m] at hcounted
  refine ⟨congrArg (fun run => run.mailbox.2) hcounted, ?_, hcounted⟩
  rw [run_of_pos hpos]
  exact h.sleeps

end

section

variable {attempt : Nat → Option π → Workflow σ (Attempt α π)}
  (hquiet : ∀ number previous m, (attempt number previous m).sleeps = [])
include hquiet

/-- A loop of attempts that do not wait has at most one delay for each attempt that is left behind
the first. -/
theorem loop_paces (policy : RetryPolicy) (elapsed : Nat → Duration) (left number : Nat)
    (previous : Option π) (m : σ) :
  ∃ count ≤ left, Paces policy elapsed attempt left number previous m count
  := by
  induction left generalizing number previous m with
  | zero =>
      rcases endsAt_or_goes_on policy elapsed 0 number previous
        (attempt number previous m).result with ⟨result, hends⟩ | ⟨_, _, hleft, -⟩
      · exact ⟨0, Nat.le_refl 0, .of_end (hquiet _ _ _) hends⟩
      · cases hleft
  | succ left ih =>
      rcases endsAt_or_goes_on policy elapsed (left + 1) number previous
        (attempt number previous m).result with ⟨result, hends⟩ | ⟨_, seen, -, hpending, hroom⟩
      · exact ⟨0, Nat.zero_le _, .of_end (hquiet _ _ _) hends⟩
      · obtain ⟨count, hle, hrest⟩ := ih (number + 1) (some seen)
          (attempt number previous m).mailbox
        exact ⟨count + 1, Nat.succ_le_succ hle, hrest.of_room (hquiet _ _ _) hpending hroom⟩

/-- If no attempt comes to an end and the clock is never late, there is one delay for each. -/
theorem loop_paces_of_pending
    (hpending : ∀ number previous m, ∃ seen,
      (attempt number previous m).result = .ok (.pending seen))
    {policy : RetryPolicy} {elapsed : Nat → Duration} (left number : Nat) (previous : Option π)
    (m : σ)
    (hroom : ∀ later, number ≤ later → later < number + left →
      policy.overdue (elapsed later) = .ok false) :
  Paces policy elapsed attempt left number previous m left
  := by
  induction left generalizing number previous m with
  | zero =>
      obtain ⟨count, hle, hpaces⟩ := loop_paces hquiet policy elapsed 0 number previous m
      obtain rfl := Nat.le_zero.mp hle
      exact hpaces
  | succ left ih =>
      obtain ⟨seen, hseen⟩ := hpending number previous m
      have hrest := ih (number + 1) (some seen) (attempt number previous m).mailbox
        fun later hle hlt => hroom later (by omega) (by omega)
      exact hrest.of_room (hquiet _ _ _) hseen (hroom number (Nat.le_refl _) (by omega))

/-- A loop under a policy makes no more attempts than the policy allows, and at least one if it
allows any.  There is one delay between two attempts, and to count them changes nothing else. -/
theorem run_counted (clock : Clock σ) (policy : RetryPolicy) (m : σ) :
  let run := run clock policy attempt m
  let calls := calls clock policy attempt m
  Retry.run clock.counted policy (counted attempt) (m, 0)
      = ⟨run.result, (run.mailbox, calls), run.events⟩
    ∧ calls ≤ policy.maxAttempts.toNat
    ∧ (0 < policy.maxAttempts.toNat → 0 < calls)
    ∧ run.sleeps = List.replicate (calls - 1) policy.delay
  := by
  intro run made
  rcases Nat.eq_zero_or_pos policy.maxAttempts.toNat with hzero | hpos
  · have hself : run = _ := run_of_zero hzero clock attempt m
    have hcounted := run_of_zero hzero clock.counted (counted attempt) (m, 0)
    have hmade : made = 0 := congrArg (fun run => run.mailbox.2) hcounted
    rw [hmade, hself]
    exact ⟨hcounted, Nat.zero_le _, fun hpos => absurd hzero (Nat.ne_of_gt hpos), rfl⟩
  · obtain ⟨count, hle, hpaces⟩ := loop_paces hquiet policy (clock policy.delay m)
      (policy.maxAttempts.toNat - 1) 1 none m
    obtain ⟨hmade, hsleeps, hcounted⟩ := run_of_paces hpos hpaces
    rw [show made = count + 1 from hmade]
    exact ⟨hcounted, by omega, fun _ => by omega, hsleeps⟩

end

/-- For every policy and any attempts that do not wait themselves, whatever these come to and
whatever the clock shows: to count the attempts changes nothing else.  The budget is the delay for
each attempt but one, with the nanoseconds carried over to the seconds, and there is none exactly
when that is not below `2 ^ 64` seconds.  The delays of the loop together are no longer than the
budget; if attempts are allowed and the delay is not empty, they are as long as the budget exactly
when all attempts are made, which happens if none comes to an end and the clock is never late. -/
theorem delays_within_budget (clock : Clock σ) (policy : RetryPolicy)
    (attempt : Nat → Option π → Workflow σ (Attempt α π))
    (hquiet : ∀ number previous m, (attempt number previous m).sleeps = []) (m : σ) :
  let gaps := policy.maxAttempts.toNat - 1
  let run := run clock policy attempt m
  let slept := (run.sleeps.map Duration.nanos).sum
  let calls := calls clock policy attempt m
  Retry.run clock.counted policy (counted attempt) (m, 0)
      = ⟨run.result, (run.mailbox, calls), run.events⟩
    ∧ (policy.budget = .error .durationProduct
      ↔ 2 ^ 64 * 1000000000 ≤ policy.delay.nanos * gaps)
    ∧ (∀ budget, policy.budget = .ok budget →
      budget.seconds = policy.delay.seconds * gaps + policy.delay.subsecond * gaps / 1000000000
      ∧ budget.subsecond = policy.delay.subsecond * gaps % 1000000000
      ∧ slept ≤ budget.nanos
      ∧ (0 < policy.maxAttempts.toNat → 0 < policy.delay.nanos →
        (slept = budget.nanos ↔ calls = policy.maxAttempts.toNat)))
    ∧ (0 < policy.maxAttempts.toNat →
      (∀ number previous m, ∃ seen, (attempt number previous m).result = .ok (.pending seen)) →
      policy.InTime (clock policy.delay m) → calls = policy.maxAttempts.toNat)
  := by
  intro gaps run slept made
  obtain ⟨hcounted, hle, hpos, hsleeps⟩ := run_counted hquiet clock policy m
  have hslept : slept = policy.delay.nanos * (made - 1) := by
    simp only [slept, run, made, hsleeps, List.map_replicate, List.sum_replicate_nat, Nat.mul_comm]
  refine ⟨hcounted, ?_, ?_, ?_⟩
  · rw [RetryPolicy.budget_eq_fault_iff]
    exact Duration.scale?_eq_none_iff
  · intro budget hbudget
    have hscale := RetryPolicy.budget_eq_ok_iff.mp hbudget
    obtain ⟨hseconds, hsubsecond⟩ := Duration.parts_of_scale? hscale
    have hnanos := Duration.nanos_of_scale? hscale
    refine ⟨hseconds, hsubsecond, ?_, ?_⟩
    · rw [hslept, hnanos]
      exact Nat.mul_le_mul_left _ (Nat.sub_le_sub_right hle 1)
    · intro hallowed hdelay
      have hmade : 0 < made := hpos hallowed
      rw [hslept, hnanos, Nat.mul_right_inj (Nat.ne_of_gt hdelay)]
      omega
  · intro hallowed hpending hroom
    have hpaces := loop_paces_of_pending hquiet hpending (policy.maxAttempts.toNat - 1) 1 none m
      fun later hle hlt => hroom later hle (by omega)
    exact (run_of_paces hallowed hpaces).1.trans (Nat.sub_add_cancel hallowed)

/-- Attempts that are pending for ever, by a clock that moves a second at each of them: the
deadline leaves no time for the last one of the four, and the delays stay below the budget. -/
theorem delays_within_budget_hurried :
  let policy : RetryPolicy := ⟨4, .ofMillis 1500, some (.ofSeconds 4)⟩
  let clock : Clock (List Nat) := fun _ _ number => .ofSeconds (UInt64.ofNat number)
  let attempt := recorded fun number => (.pending number : Attempt Nat Nat)
  (∀ number previous numbers, (attempt number previous numbers).sleeps = [])
    ∧ policy.budget = .ok (.ofMillis 4500)
    ∧ calls clock policy attempt [] = 3
    ∧ ((run clock policy attempt []).sleeps.map Duration.nanos).sum
      < (Duration.ofMillis 4500).nanos
  := by
  intro policy clock attempt
  have hquiet : ∀ number previous numbers, (attempt number previous numbers).sleeps = [] :=
    fun _ _ _ => rfl
  have hbudget : policy.budget = .ok (.ofMillis 4500) :=
    RetryPolicy.budget_eq_ok_iff.mpr (by decide +kernel)
  have hcalls : calls clock policy attempt [] = 3 := by
    decide +kernel
  obtain ⟨-, -, hwithin, -⟩ := delays_within_budget clock policy attempt hquiet []
  obtain ⟨-, -, hle, hexact⟩ := hwithin _ hbudget
  refine ⟨hquiet, hbudget, hcalls, Nat.lt_of_le_of_ne hle fun hspent => ?_⟩
  have hall := (hexact (by decide) (by decide)).mp hspent
  rw [hcalls] at hall
  exact absurd hall (by decide)

end Retry

end CxlFirmware
