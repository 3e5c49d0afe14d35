import Mathlib.Data.List.DropRight
import Mathlib.Data.Nat.Digits.Defs
import CxlFirmware.Proofs.Console.Session

/-!
# Numbers of devices

`numericSuffix` is the longest run of digits that a name ends with, and `numericStem` is what
stands in front of it.  The number of a device is the one that the suffix denotes if no digit
stands in the stem, and zero otherwise; `Session.numbered_by_suffix_iff` says so of every session
that is opened.
-/

namespace CxlFirmware

/-- The number with these decimal digits, the last of which counts the ones. -/
def Text.numeral (digits : List Char) : Nat :=
  Nat.ofDigits 10 (digits.reverse.map fun c => c.toNat - '0'.toNat)

theorem Text.decimal_eq_numeral (digits : List Char) :
  decimal digits = numeral digits
  := by
  induction digits using List.reverseRecOn with
  | nil => rfl
  | append_singleton digits c ih =>
      have hdecimal : decimal (digits ++ [c]) = 10 * decimal digits + (c.toNat - 48) :=
        List.foldl_append
      rw [hdecimal, ih, numeral, numeral, List.reverse_concat, List.map_cons, Nat.ofDigits_cons,
        Nat.add_comm]
      rfl

namespace Console

/-! ## Digits at the end of a name -/

/-- The digits that a name ends with. -/
def numericSuffix (name : String) : List Char :=
  name.toList.rtakeWhile Char.isDigit

/-- What stands in front of the digits that a name ends with. -/
def numericStem (name : String) : List Char :=
  name.toList.rdropWhile Char.isDigit

/-- All digits of a name are among those that it ends with. -/
def DigitsLast (name : String) : Prop :=
  ∀ c ∈ numericStem name, c.isDigit = false

theorem toList_eq_stem_append_suffix (name : String) :
  name.toList = numericStem name ++ numericSuffix name
  := (List.rdropWhile_append_rtakeWhile).symm

theorem isDigit_of_mem_suffix {name : String} {c : Char} (h : c ∈ numericSuffix name) :
  c.isDigit = true
  := List.mem_rtakeWhile_imp h

/-- What begins with the first digit of a name. -/
def fromFirstDigit (name : String) : List Char :=
  name.toList.dropWhile fun c => !c.isDigit

/-- In a name whose digits are last, these begin with the first digit. -/
theorem DigitsLast.fromFirstDigit_eq {name : String} (h : DigitsLast name) :
  fromFirstDigit name = numericSuffix name
  := by
  have hstem : ∀ c ∈ numericStem name, (!c.isDigit) = true := by
    intro c hc
    rw [h c hc]
    rfl
  rw [fromFirstDigit, toList_eq_stem_append_suffix, List.dropWhile_append_of_pos hstem]
  cases hsuffix : numericSuffix name with
  | nil => rfl
  | cons c rest =>
      have hdigit : c.isDigit = true := isDigit_of_mem_suffix (hsuffix ▸ List.mem_cons_self)
      exact List.dropWhile_cons_of_neg (by simp [hdigit])

/-- There are only digits behind the first one exactly in these names. -/
theorem digitsLast_iff {name : String} :
  DigitsLast name ↔ (fromFirstDigit name).all Char.isDigit = true
  := by
  rw [List.all_eq_true]
  constructor
  · intro h c hc
    rw [h.fromFirstDigit_eq] at hc
    exact isDigit_of_mem_suffix hc
  · intro hall c hc
    -- All that the stem has is in front of the first digit.
    have hparts : name.toList.takeWhile (fun c => !c.isDigit) ++ fromFirstDigit name
        = name.toList :=
      List.takeWhile_append_dropWhile
    have hdigits : ∀ c ∈ (fromFirstDigit name).reverse, c.isDigit = true := by
      intro c hc
      exact hall c (List.mem_reverse.mp hc)
    rw [numericStem, ← hparts, List.rdropWhile, List.reverse_append,
      List.dropWhile_append_of_pos hdigits, ← List.rdropWhile] at hc
    have hfront := List.mem_takeWhile_imp ((List.rdropWhile_prefix _ _).subset hc)
    rwa [Bool.not_eq_true'] at hfront

instance (name : String) : Decidable (DigitsLast name) :=
  decidable_of_iff _ digitsLast_iff.symm

/-- The number of a device is what the digits at the end of its name denote, if these are all its
digits and 32 bits are enough, and zero otherwise. -/
theorem toNat_deviceNumber (name : String) :
  (deviceNumber name).toNat
    = if DigitsLast name ∧ Text.numeral (numericSuffix name) < 2 ^ 32
      then Text.numeral (numericSuffix name) else 0
  := by
  have hnumber : deviceNumber name
      = if (fromFirstDigit name).all Char.isDigit
          ∧ Text.decimal (fromFirstDigit name) < UInt32.size
        then UInt32.ofNat (Text.decimal (fromFirstDigit name)) else 0 :=
    rfl
  rw [hnumber]
  by_cases h : DigitsLast name ∧ Text.numeral (numericSuffix name) < 2 ^ 32
  · obtain ⟨hlast, hfits⟩ := id h
    have hall := digitsLast_iff.mp hlast
    rw [hlast.fromFirstDigit_eq] at hall ⊢
    rw [Text.decimal_eq_numeral, if_pos h, if_pos ⟨hall, hfits⟩]
    exact UInt32.toNat_ofNat_of_lt' hfits
  · rw [if_neg h, if_neg]
    · rfl
    · rintro ⟨hall, hfits⟩
      have hlast := digitsLast_iff.mpr hall
      rw [hlast.fromFirstDigit_eq, Text.decimal_eq_numeral] at hfits
      exact h ⟨hlast, hfits⟩

namespace Session

/-! ## Opened devices -/

theorem device_id_of_start {setup : Setup} {files : Files} {session : Session}
    (hopen : ((start setup).run.run files).result = .ok (.ok session)) :
  session.device.id = deviceNumber setup.deviceName
  := by
  rcases start_ends setup files with ⟨state, -, hstart⟩ | ⟨-, text, hstart⟩
  · rw [hstart.result] at hopen
    cases hopen
    rfl
  · rw [hstart.result] at hopen
    cases hopen

/-- The device of an opened session has the number that the digits at the end of its name denote,
where 32 bits are enough for it, exactly when no other digits stand in front of them, unless they
denote zero.  It has the number zero when there are such digits, when the name does not end with
a digit, and when 32 bits are not enough. -/
theorem numbered_by_suffix_iff (setup : Setup) (files : Files) {session : Session}
    (hopen : ((start setup).run.run files).result = .ok (.ok session)) :
  let name := setup.deviceName
  let value := Text.numeral (numericSuffix name)
  (value < 2 ^ 32 → (session.device.id.toNat = value ↔ DigitsLast name ∨ value = 0))
    ∧ (¬ DigitsLast name → session.device.id = 0)
    ∧ (numericSuffix name = [] → session.device.id = 0)
    ∧ (2 ^ 32 ≤ value → session.device.id = 0)
  := by
  intro name value
  have hnumber : session.device.id.toNat
      = if DigitsLast name ∧ value < 2 ^ 32 then value else 0 := by
    rw [device_id_of_start hopen]
    exact toNat_deviceNumber name
  have hzero : ¬ (DigitsLast name ∧ value < 2 ^ 32) → session.device.id = 0 := by
    intro h
    rw [if_neg h] at hnumber
    exact UInt32.toNat_inj.mp hnumber
  refine ⟨?_, ?_, ?_, ?_⟩
  · intro hfits
    by_cases hlast : DigitsLast name
    · rw [hnumber, if_pos ⟨hlast, hfits⟩]
      exact iff_of_true rfl (.inl hlast)
    · rw [hzero fun h => hlast h.1]
      constructor
      · intro hvalue
        exact .inr hvalue.symm
      · intro h
        exact (h.resolve_left hlast).symm
  · exact fun hlast => hzero fun h => hlast h.1
  · intro hsuffix
    have hvalue : value = 0 := by
      simp only [value, hsuffix]
      rfl
    rw [hvalue, ite_self] at hnumber
    exact UInt32.toNat_inj.mp hnumber
  · exact fun hlong => hzero fun h => absurd h.2 (Nat.not_lt_of_le hlong)

/-- A device without a state file. -/
def namedSetup (name : String) : Setup :=
  ⟨.english, true, name, none, .unset, .still⟩

/-- A name with a digit of another script and leading zeros. -/
theorem numbered_by_suffix_iff_padded :
  let setup := namedSetup "größe٣-mem007"
  let session := ofState setup .default
  ((start setup).run.run ⟨[], []⟩).result = .ok (.ok session)
    ∧ numericSuffix setup.deviceName = ['0', '0', '7'] ∧ session.device.id = 7
  := by
  intro setup session
  have hopen : ((start setup).run.run ⟨[], []⟩).result = .ok (.ok session) :=
    (start_of_stateIn? rfl).result
  have hsuffix : numericSuffix setup.deviceName = ['0', '0', '7'] := by
    decide +kernel
  obtain ⟨hiff, -⟩ := numbered_by_suffix_iff setup ⟨[], []⟩ hopen
  rw [hsuffix] at hiff
  refine ⟨hopen, hsuffix, UInt32.toNat_inj.mp ?_⟩
  exact (hiff (by decide)).mpr (.inl (by decide +kernel))

/-- The digit in front of the others makes the device lose the number that its name ends with. -/
theorem suffix_number_lost :
  let setup := namedSetup "cxl1mem2"
  let session := ofState setup .default
  ((start setup).run.run ⟨[], []⟩).result = .ok (.ok session)
    ∧ setup.deviceName.toList = "cxl1mem".toList ++ ['2']
    ∧ numericSuffix setup.deviceName = ['2'] ∧ Text.numeral ['2'] = 2
    ∧ session.device.id = 0
  := by
  intro setup session
  refine ⟨(start_of_stateIn? rfl).result, by decide +kernel, by decide +kernel, rfl, ?_⟩
  decide +kernel

end Session

end Console

end CxlFirmware
