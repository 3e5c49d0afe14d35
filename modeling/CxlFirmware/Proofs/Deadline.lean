import CxlFirmware.Retry

/-!
# Time for delays

Between two attempts a loop asks whether the delay would end after the deadline, by the time that
the clock shows.  `RetryPolicy.InTime` says that it never would, and `RetryPolicy.Timely` that it
can be told each time, and `Transport.Times` that the clock of a mailbox makes it so;
`RetryPolicy.reach` is the count of attempts that there is time for.  By the clock that only just
moves, there is time for all attempts if the delay is shorter than the deadline, and else for the
first one alone.
-/

namespace CxlFirmware

variable {σ : Type}

namespace RetryPolicy

variable {policy : RetryPolicy} {elapsed : Nat → Duration}

/-- No delay ends after the deadline. -/
def InTime (policy : RetryPolicy) (elapsed : Nat → Duration) : Prop :=
  ∀ number, 0 < number → number < policy.maxAttempts.toNat →
    policy.overdue (elapsed number) = .ok false

/-- The end of each delay can be told. -/
def Timely (policy : RetryPolicy) (elapsed : Nat → Duration) : Prop :=
  ∀ number, 0 < number → number < policy.maxAttempts.toNat →
    ∃ late, policy.overdue (elapsed number) = .ok late

theorem InTime.timely (h : policy.InTime elapsed) :
  policy.Timely elapsed
  := fun number hpos hlt => ⟨false, h number hpos hlt⟩

theorem overdue_of_none (h : policy.deadline = none) (time : Duration) :
  policy.overdue time = .ok false
  := by
  rw [overdue, h]

/-- Without a deadline there is always time. -/
theorem inTime_of_none (h : policy.deadline = none) (elapsed : Nat → Duration) :
  policy.InTime elapsed
  := fun number _ _ => overdue_of_none h (elapsed number)

/-- The end of a delay can be told if it is not too long. -/
theorem timely_of_fits
    (h : ∀ number, 0 < number → number < policy.maxAttempts.toNat →
      (elapsed number).nanos + policy.delay.nanos < Duration.limit) :
  policy.Timely elapsed
  := by
  intro number hpos hlt
  rw [overdue]
  cases policy.deadline with
  | none => exact ⟨false, rfl⟩
  | some limit =>
      rw [Duration.add?, Duration.ofNanos?, dif_pos (h number hpos hlt)]
      exact ⟨_, rfl⟩

theorem validate_of_pos (hpos : 0 < policy.maxAttempts.toNat) :
  policy.validate = .ok ()
  := by
  rw [validate, if_neg]
  intro hzero
  rw [hzero] at hpos
  exact absurd hpos (by decide)

/-- A policy that allows for more attempts than some count is valid. -/
theorem validate_of_lt {count : UInt32} (h : count < policy.maxAttempts) :
  policy.validate = .ok ()
  := validate_of_pos (Nat.zero_lt_of_lt (UInt32.lt_iff_toNat_lt.mp h))

/-! ## The count of attempts that there is time for -/

/-- The count of attempts from one with a number on, with at most `left` behind it, that there is
time for. -/
def reachFrom (policy : RetryPolicy) (elapsed : Nat → Duration) : (left number : Nat) → Nat
  | 0, _ => 1
  | left + 1, number =>
    match policy.overdue (elapsed number) with
    | .ok false => policy.reachFrom elapsed left (number + 1) + 1
    | .ok true | .error _ => 1

/-- The count of attempts in the budget that there is time for. -/
def reach (policy : RetryPolicy) (elapsed : Nat → Duration) : Nat :=
  policy.reachFrom elapsed (policy.maxAttempts.toNat - 1) 1

theorem reachFrom_pos (policy : RetryPolicy) (elapsed : Nat → Duration) (left number : Nat) :
  0 < policy.reachFrom elapsed left number
  := by
  cases left with
  | zero => exact Nat.zero_lt_one
  | succ left =>
      rw [reachFrom]
      split
      · exact Nat.succ_pos _
      · exact Nat.zero_lt_one
      · exact Nat.zero_lt_one

theorem reachFrom_le (policy : RetryPolicy) (elapsed : Nat → Duration) (left number : Nat) :
  policy.reachFrom elapsed left number ≤ left + 1
  := by
  induction left generalizing number with
  | zero => exact Nat.le_refl 1
  | succ left ih =>
      rw [reachFrom]
      split
      · exact Nat.succ_le_succ (ih (number + 1))
      · exact Nat.succ_le_succ (Nat.zero_le _)
      · exact Nat.succ_le_succ (Nat.zero_le _)

theorem reachFrom_of_inTime {left number : Nat}
    (h : ∀ later, number ≤ later → later < number + left →
      policy.overdue (elapsed later) = .ok false) :
  policy.reachFrom elapsed left number = left + 1
  := by
  induction left generalizing number with
  | zero => rfl
  | succ left ih =>
      rw [reachFrom, h number (Nat.le_refl _) (by omega)]
      exact congrArg (· + 1) (ih fun later hle hlt => h later (by omega) (by omega))

theorem reach_le (hpos : 0 < policy.maxAttempts.toNat) (elapsed : Nat → Duration) :
  policy.reach elapsed ≤ policy.maxAttempts.toNat
  := by
  have hle := policy.reachFrom_le elapsed (policy.maxAttempts.toNat - 1) 1
  rwa [Nat.sub_add_cancel hpos] at hle

theorem reach_of_inTime (hpos : 0 < policy.maxAttempts.toNat) (h : policy.InTime elapsed) :
  policy.reach elapsed = policy.maxAttempts.toNat
  := by
  rw [reach, reachFrom_of_inTime fun later hle hlt => h later hle (by omega)]
  exact Nat.sub_add_cancel hpos

/-! ## The clock that only just moves -/

/-- The delay is shorter than the deadline, if there is one. -/
def Roomy (policy : RetryPolicy) : Prop :=
  ∀ limit, policy.deadline = some limit → policy.delay.nanos < limit.nanos

instance (policy : RetryPolicy) : Decidable policy.Roomy :=
  match h : policy.deadline with
  | none => .isTrue fun _ hlimit => nomatch h.symm.trans hlimit
  | some limit =>
    decidable_of_iff (policy.delay.nanos < limit.nanos) (by
      constructor
      · intro hlt limit' hlimit'
        cases h.symm.trans hlimit'
        exact hlt
      · intro hroomy
        exact hroomy limit h)

theorem overdue_of_roomy (h : policy.Roomy) :
  policy.overdue .tick = .ok false
  := by
  rw [overdue]
  cases hdeadline : policy.deadline with
  | none => rfl
  | some limit =>
      have hlt := h limit hdeadline
      have hfits : Duration.tick.nanos + policy.delay.nanos < Duration.limit := by
        have hbounded := limit.bounded
        simp only [Duration.tick]
        omega
      have hlate : ¬ limit.nanos < Duration.tick.nanos + policy.delay.nanos := by
        simp only [Duration.tick]
        omega
      simp only [Duration.add?, Duration.ofNanos?, hfits, dif_pos, hlate, decide_false]

/-- A policy that leaves no time for a delay is late after it, unless the delay is too long to
be added to another time. -/
theorem overdue_of_not_roomy (h : ¬ policy.Roomy) :
  policy.overdue .tick = match Duration.tick.add? policy.delay with
    | none => .error .durationSum
    | some _ => .ok true
  := by
  rw [Roomy, Classical.not_forall] at h
  obtain ⟨limit, h⟩ := h
  obtain ⟨hlimit, hle⟩ := Classical.not_imp.mp h
  rw [overdue, hlimit]
  by_cases hfits : Duration.tick.nanos + policy.delay.nanos < Duration.limit
  · have hlate : limit.nanos < Duration.tick.nanos + policy.delay.nanos := by
      simp only [Duration.tick]
      omega
    simp only [Duration.add?, Duration.ofNanos?, hfits, dif_pos, hlate, decide_true]
  · simp only [Duration.add?, Duration.ofNanos?, hfits, dif_neg, not_false_eq_true]

/-- By the clock that only just moves there is time for all attempts, if the delay is shorter than
the deadline. -/
theorem Roomy.inTime (h : policy.Roomy) (m : σ) :
  policy.InTime (Clock.still policy.delay m)
  := fun _ _ _ => overdue_of_roomy h

end RetryPolicy

/-! ## The clock of a mailbox -/

/-- Whatever the state of the mailbox, its clock lets a loop under the policy tell the end of each
delay. -/
def Transport.Times (transport : Transport σ) (policy : RetryPolicy) : Prop :=
  ∀ m, policy.Timely (transport.clock policy.delay m)

theorem Transport.times_of_none (transport : Transport σ) {policy : RetryPolicy}
    (h : policy.deadline = none) :
  transport.Times policy
  := fun _ => (RetryPolicy.inTime_of_none h _).timely

end CxlFirmware
