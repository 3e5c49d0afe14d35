import CxlFirmware.Hex
import CxlFirmware.Text.Decimal
import CxlFirmware.Text.Utf8

/-!
# Texts that are written and read back

The bytes of a text are well-formed and denote it, the digits of a number denote it, whether
they are decimal or hexadecimal.
-/

namespace CxlFirmware

/-! ## UTF-8 -/

namespace Utf8

/-- A code point of a character lies outside the surrogates. -/
theorem toNat_char (c : Char) :
  c.toNat < 0xD800 ∨ 0xDFFF < c.toNat ∧ c.toNat < 0x110000
  := c.valid

theorem within_eq_true {low high : Nat} {b : UInt8} :
  within low high b = true ↔ low ≤ b.toNat ∧ b.toNat ≤ high
  := by
  rw [within, Bool.and_eq_true, decide_eq_true_iff, decide_eq_true_iff]

section

variable {a b c d : UInt8} {rest : Bytes}

theorem scalars_one (ha : a.toNat < 0x80) :
  scalars (a :: rest) = some (Char.ofNat a.toNat) :: scalars rest
  := by
  rw [scalars.eq_def]
  exact if_pos ha

theorem scalars_two (ha : within 0xC2 0xDF a = true) (hb : continues b = true) :
  scalars (a :: b :: rest) = some (Char.ofNat (a.toNat % 32 * 64 + low6 b)) :: scalars rest
  := by
  have hlead := within_eq_true.mp ha
  rw [scalars.eq_def]
  simp only [ha, hb, if_true]
  exact if_neg (by omega)

theorem scalars_three (ha : within 0xE0 0xEF a = true) (hb : second3 a b = true)
    (hc : continues c = true) :
  scalars (a :: b :: c :: rest)
    = some (Char.ofNat (a.toNat % 16 * 4096 + low6 b * 64 + low6 c)) :: scalars rest
  := by
  have hlead := within_eq_true.mp ha
  have htwo : within 0xC2 0xDF a = false := by
    rw [← Bool.not_eq_true, within_eq_true]
    omega
  rw [scalars.eq_def]
  simp only [ha, hb, hc, htwo, if_true, Bool.false_eq_true, if_false]
  exact if_neg (by omega)

theorem scalars_four (ha : within 0xF0 0xF4 a = true) (hb : second4 a b = true)
    (hc : continues c = true) (hd : continues d = true) :
  scalars (a :: b :: c :: d :: rest)
    = some (Char.ofNat (a.toNat % 8 * 262144 + low6 b * 4096 + low6 c * 64 + low6 d))
      :: scalars rest
  := by
  have hlead := within_eq_true.mp ha
  have htwo : within 0xC2 0xDF a = false := by
    rw [← Bool.not_eq_true, within_eq_true]
    omega
  have hthree : within 0xE0 0xEF a = false := by
    rw [← Bool.not_eq_true, within_eq_true]
    omega
  rw [scalars.eq_def]
  simp only [ha, hb, hc, hd, htwo, hthree, if_true, Bool.false_eq_true, if_false]
  exact if_neg (by omega)

end

/-- A continuing byte holds six bits. -/
theorem continues_ofNat {n : Nat} (h : n < 64) :
  continues (UInt8.ofNat (0x80 + n)) = true ∧ low6 (UInt8.ofNat (0x80 + n)) = n
  := by
  have hbyte : (UInt8.ofNat (0x80 + n)).toNat = 0x80 + n :=
    UInt8.toNat_ofNat_of_lt' (by change _ < 256; omega)
  rw [continues, within_eq_true, low6, hbyte]
  omega

/-- The bytes are those of one character, and the number is its code point. -/
inductive Denotes : Bytes → Nat → Prop where
  | one {a : UInt8} : a.toNat < 0x80 → Denotes [a] a.toNat
  | two {a b : UInt8} : within 0xC2 0xDF a = true → continues b = true →
      Denotes [a, b] (a.toNat % 32 * 64 + low6 b)
  | three {a b c : UInt8} : within 0xE0 0xEF a = true → second3 a b = true →
      continues c = true → Denotes [a, b, c] (a.toNat % 16 * 4096 + low6 b * 64 + low6 c)
  | four {a b c d : UInt8} : within 0xF0 0xF4 a = true → second4 a b = true →
      continues c = true → continues d = true →
      Denotes [a, b, c, d] (a.toNat % 8 * 262144 + low6 b * 4096 + low6 c * 64 + low6 d)

theorem Denotes.of_eq {bytes : Bytes} {n n' : Nat} (h : Denotes bytes n) (heq : n = n') :
  Denotes bytes n'
  := heq ▸ h

theorem denotes_encodeChar (c : Char) :
  Denotes (encodeChar c) c.toNat
  := by
  have hvalid := toNat_char c
  have hbyte : ∀ n, n < 256 → (UInt8.ofNat n).toNat = n := fun n hn =>
    UInt8.toNat_ofNat_of_lt' hn
  obtain ⟨hlast, hlow⟩ := @continues_ofNat (c.toNat % 64) (by omega)
  obtain ⟨hthird, hmiddle⟩ := @continues_ofNat (c.toNat / 64 % 64) (by omega)
  obtain ⟨hsecond, hhigh⟩ := @continues_ofNat (c.toNat / 4096 % 64) (by omega)
  rw [encodeChar]
  split
  · rename_i hone
    have hlead := hbyte c.toNat (by omega)
    apply (Denotes.one (by omega)).of_eq
    exact hlead
  · split
    · have hlead := hbyte (0xC0 + c.toNat / 64) (by omega)
      apply (Denotes.two (within_eq_true.mpr (by omega)) hlast).of_eq
      omega
    · split
      · have hlead := hbyte (0xE0 + c.toNat / 4096) (by omega)
        have hnext := hbyte (0x80 + c.toNat / 64 % 64) (by omega)
        apply (Denotes.three (within_eq_true.mpr (by omega)) _ hlast).of_eq
        · omega
        · rw [second3]
          split
          · exact within_eq_true.mpr (by omega)
          · split
            · exact within_eq_true.mpr (by omega)
            · exact hthird
      · have hlead := hbyte (0xF0 + c.toNat / 262144) (by omega)
        have hnext := hbyte (0x80 + c.toNat / 4096 % 64) (by omega)
        apply (Denotes.four (within_eq_true.mpr (by omega)) _ hthird hlast).of_eq
        · omega
        · rw [second4]
          split
          · exact within_eq_true.mpr (by omega)
          · split
            · exact within_eq_true.mpr (by omega)
            · exact hsecond

/-- The characters of bytes that begin with those of a character. -/
theorem Denotes.scalars_append {bytes : Bytes} {n : Nat} (h : Denotes bytes n) (rest : Bytes) :
  scalars (bytes ++ rest) = some (Char.ofNat n) :: scalars rest
  := by
  cases h with
  | one ha => exact scalars_one ha
  | two ha hb => exact scalars_two ha hb
  | three ha hb hc => exact scalars_three ha hb hc
  | four ha hb hc hd => exact scalars_four ha hb hc hd

theorem scalars_encodeChar (c : Char) (rest : Bytes) :
  scalars (encodeChar c ++ rest) = some c :: scalars rest
  := by
  rw [(denotes_encodeChar c).scalars_append, Char.ofNat_toNat]

theorem scalars_encode (cs : List Char) :
  scalars (cs.flatMap encodeChar) = cs.map some
  := by
  induction cs with
  | nil => rfl
  | cons c cs ih => rw [List.flatMap_cons, scalars_encodeChar, ih, List.map_cons]

/-- The bytes of a text denote the text. -/
theorem decode?_encode (text : String) :
  decode? (encode text) = some text
  := by
  have hall : (text.toList.map some).mapM id = some text.toList := by
    rw [List.mapM_map]
    exact List.mapM_pure.trans (congrArg some (List.map_id _))
  rw [decode?, encode, scalars_encode, hall, Option.map_some, String.ofList_toList]

end Utf8

/-! ## Decimal digits -/

namespace Text

/-- The decimal digits of a number denote it. -/
theorem decimal_toDigits (n : Nat) :
  decimal (Nat.toDigits 10 n) = n
  := by
  have hfold : Nat.ofDigitChars 10 (Nat.toDigits 10 n) 0 = decimal (Nat.toDigits 10 n) :=
    Nat.ofDigitChars_eq_foldl
  rw [← hfold, Nat.ofDigitChars_ten_toDigits]

/-- They are digits, and there is one at least. -/
theorem isDigit_of_mem_toDigits {n : Nat} {c : Char} (h : c ∈ Nat.toDigits 10 n) :
  c.isDigit = true
  := Nat.isDigit_of_mem_toDigits (by decide) (by decide) h

/-- Only the digit of zero begins with a zero. -/
theorem zero_toDigits {n : Nat} {rest : List Char} (h : Nat.toDigits 10 n = '0' :: rest) :
  rest = []
  := by
  induction n using Nat.strongRecOn generalizing rest with
  | ind n ih =>
      rw [Nat.toDigits_eq_if (by decide)] at h
      split at h
      · exact (List.cons.inj h).2.symm
      · rename_i hten
        obtain ⟨c, front, hfront⟩ := List.exists_cons_of_ne_nil
          (Nat.toDigits_ne_nil (n := n / 10) (b := 10))
        rw [hfront, List.cons_append, List.cons.injEq] at h
        obtain ⟨rfl, -⟩ := h
        -- The number in front would be zero.
        obtain rfl := ih (n / 10) (by omega) hfront
        have hzero := decimal_toDigits (n / 10)
        rw [hfront] at hzero
        have hvalue : decimal ['0'] = 0 := by decide
        omega

end Text

/-! ## Hexadecimal digits -/

namespace Hex

theorem value?_digit {n : Nat} (h : n < 16) :
  value? (digit n) = some n
  := by
  revert n
  decide

end Hex

end CxlFirmware
