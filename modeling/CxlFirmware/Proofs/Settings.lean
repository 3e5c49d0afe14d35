import Mathlib.Algebra.GroupWithZero.Nat
import CxlFirmware.Proofs.Deadline
import CxlFirmware.Proofs.Program
import CxlFirmware.Settings.Loading

/-!
# Settings that are loaded

Settings can always be loaded, from any files, and loading changes none.  Whatever they
choose, the budgets that they mean are timely.
-/

namespace CxlFirmware

/-- Programs that keep the files as they are, one after the other. -/
theorem Program.Ends.kept_bind {α β : Type} {program : Program α} {next : α → Program β}
    {files : Files} (h : ∃ a, program.Ends files a files)
    (hnext : ∀ a, ∃ b, (next a).Ends files b files) :
  ∃ b, (program >>= next).Ends files b files
  := by
  obtain ⟨a, ha⟩ := h
  obtain ⟨b, hb⟩ := hnext a
  exact ⟨b, ha.bind hb⟩

namespace Settings

open Program (Ends)

/-! ## Loading -/

theorem warnUnusable_ends (what path reason : String) (files : Files) :
  (warnUnusable what path reason).Ends files none files
  := .bind (.log _ _ _ _) (.pure _ _)

theorem loadFile_ends (path : String) (files : Files) :
  ∃ found, (loadFile path).Ends files found files
  := by
  rw [loadFile]
  refine Ends.kept_bind ⟨_, .isPresent path files⟩ fun present => ?_
  cases present with
  | false => exact ⟨_, .pure _ _⟩
  | true =>
      refine Ends.kept_bind ⟨_, .readFile path files⟩ fun content => ?_
      cases content with
      | error error => exact ⟨_, warnUnusable_ends _ _ _ _⟩
      | ok content =>
          cases htext : Utf8.decode? content with
          | none =>
              simp only [htext]
              exact ⟨_, warnUnusable_ends _ _ _ _⟩
          | some text =>
              cases hread : read? text with
              | none =>
                  simp only [htext, hread]
                  exact ⟨_, warnUnusable_ends _ _ _ _⟩
              | some settings =>
                  simp only [htext, hread]
                  exact ⟨_, .pure _ _⟩

theorem loadOver_ends (lower : Settings) (what path : String) (files : Files) :
  ∃ settings, (loadOver lower what path).Ends files settings files
  := by
  rw [loadOver]
  refine Ends.kept_bind (loadFile_ends path files) fun found => ?_
  cases found with
  | none => exact ⟨_, .pure _ _⟩
  | some upper => exact ⟨_, .bind (.log _ _ _ _) (.pure _ _)⟩

theorem load_ends (environment : Environment) (files : Files) :
  ∃ settings, (load environment).Ends files settings files
  := by
  rw [load]
  cases globalPath? environment with
  | none => exact Ends.kept_bind ⟨_, .pure _ _⟩ fun lower => loadOver_ends lower _ _ _
  | some path =>
      exact Ends.kept_bind (loadOver_ends _ _ _ _) fun lower => loadOver_ends lower _ _ _

theorem loadFrom_ends (path : String) (files : Files) :
  ∃ settings, (loadFrom path).Ends files settings files
  := by
  rw [loadFrom]
  refine Ends.kept_bind (loadFile_ends path files) fun found => ?_
  cases found with
  | none => exact ⟨_, .bind (.log _ _ _ _) (.pure _ _)⟩
  | some settings => exact ⟨_, .bind (.log _ _ _ _) (.pure _ _)⟩

/-! ## Budgets -/

/-- A budget with a delay of milliseconds is timely, as long as the clock shows fewer than
`2 ^ 63` seconds. -/
theorem policy_timely (default : RetryPolicy)
    (hdefault : ∃ millis, default.delay = .ofMillis millis)
    (attempts : Option UInt32) (millis : Option UInt64) (deadline : Option Duration)
    {elapsed : Nat → Duration} (helapsed : ∀ number, (elapsed number).seconds < 2 ^ 63) :
  (policy default attempts millis deadline).Timely elapsed
  := by
  obtain ⟨chosen, hdelay⟩ :
      ∃ chosen, (policy default attempts millis deadline).delay = .ofMillis chosen := by
    cases millis with
    | none => exact hdefault
    | some millis => exact ⟨millis, rfl⟩
  apply RetryPolicy.timely_of_fits
  intro number _ _
  have hseconds := helapsed number
  have hchosen := chosen.toNat_lt
  rw [hdelay]
  simp only [Duration.seconds] at hseconds
  simp only [Duration.ofMillis, Duration.limit, UInt64.size]
  omega

/-- The budgets of a transfer are timely. -/
theorem transferConfig_timely (settings : Settings) (kind : Transfer.Kind) (slot : UInt8)
    (mock : Bool) {elapsed : Nat → Duration}
    (helapsed : ∀ number, (elapsed number).seconds < 2 ^ 63) :
  let config := settings.transferConfig kind slot mock
  config.stepRetry.Timely elapsed ∧ config.poll.Timely elapsed
  := ⟨policy_timely _ ⟨10, rfl⟩ _ _ _ helapsed, policy_timely _ ⟨10, rfl⟩ _ _ _ helapsed⟩

end Settings

end CxlFirmware
