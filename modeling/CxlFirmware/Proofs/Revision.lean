import Mathlib.Data.List.DropRight
import CxlFirmware.Mailbox.FirmwareInfo
import CxlFirmware.Proofs.Text

/-!
# Revisions in their fields

What is read of a revision that was written into its field of 16 bytes.  The field ends at the
first NUL, and a longer text is cut off after 16 bytes, wherever that is.  As a rule the
revision is read as a part of the text, without blank characters at its ends.  Where the cut
goes through a character, `FirmwareInfo.IsCut`, the bytes of it that are left are read as a
replacement character.
-/

namespace CxlFirmware

namespace Utf8

variable {c : Char} {cs kept rest : List Char} {room : Nat}

/-! ## Texts without NUL -/

theorem Denotes.eq_zero_of_mem {bytes : Bytes} {n : Nat} (h : Denotes bytes n) (hzero : 0 ∈ bytes) :
  bytes = [0] ∧ n = 0
  := by
  have hcontinues : continues 0 = false := rfl
  cases h with
  | one ha =>
      obtain rfl := List.mem_singleton.mp hzero
      exact ⟨rfl, rfl⟩
  | two ha hb =>
      simp only [List.mem_cons, List.not_mem_nil, or_false] at hzero
      rcases hzero with rfl | rfl
      · cases ha
      · cases hb
  | @three a b c ha hb hc =>
      simp only [List.mem_cons, List.not_mem_nil, or_false] at hzero
      rcases hzero with rfl | rfl | rfl
      · cases ha
      · rw [second3] at hb
        split at hb
        · cases hb
        · split at hb
          · cases hb
          · cases hb
      · cases hc
  | @four a b c d ha hb hc hd =>
      simp only [List.mem_cons, List.not_mem_nil, or_false] at hzero
      rcases hzero with rfl | rfl | rfl | rfl
      · cases ha
      · rw [second4] at hb
        split at hb
        · cases hb
        · split at hb
          · cases hb
          · cases hb
      · cases hc
      · cases hd

theorem encodeChar_nul : encodeChar '\x00' = [0]
  := rfl

/-- Only NUL has a zero byte. -/
theorem not_zero_mem_encodeChar (h : c ≠ '\x00') :
  0 ∉ encodeChar c
  := by
  intro hzero
  apply h
  apply Char.toNat_inj.mp
  exact ((denotes_encodeChar c).eq_zero_of_mem hzero).2

/-- The bytes in front of the first zero are those of the characters in front of the first
NUL. -/
theorem takeWhile_flatMap_encodeChar (cs : List Char) :
  (cs.flatMap encodeChar).takeWhile (· != 0) = (cs.takeWhile (· != '\x00')).flatMap encodeChar
  := by
  induction cs with
  | nil => rfl
  | cons c cs ih =>
      by_cases h : c = '\x00'
      · rw [h, List.flatMap_cons, encodeChar_nul]
        rfl
      · have hbytes : ∀ b ∈ encodeChar c, (b != 0) = true := by
          intro b hb
          rw [bne_iff_ne]
          rintro rfl
          exact not_zero_mem_encodeChar h hb
        have hc : (c != '\x00') = true := bne_iff_ne.mpr h
        rw [List.flatMap_cons, List.takeWhile_append_of_pos hbytes, ih, List.takeWhile_cons,
          if_pos hc, List.flatMap_cons]

/-! ## Texts that are cut off -/

/-- Of the bytes of a character, some are left and some are missing. -/
theorem Denotes.scalars_take {bytes : Bytes} {n count : Nat} (h : Denotes bytes n)
    (hpos : 0 < count) (hlt : count < bytes.length) :
  scalars (bytes.take count) = [none]
  := by
  cases h with
  | one ha =>
      rw [List.length_singleton] at hlt
      omega
  | @two a b ha hb =>
      have hlead := within_eq_true.mp ha
      obtain rfl : count = 1 := by
        simp only [List.length_cons, List.length_nil] at hlt
        omega
      change scalars [a] = [none]
      rw [scalars.eq_def]
      simp only [ha, if_true]
      exact if_neg (by omega)
  | @three a b c ha hb hc =>
      have hlead := within_eq_true.mp ha
      have htwo : within 0xC2 0xDF a = false := by
        rw [← Bool.not_eq_true, within_eq_true]
        omega
      have hone : ¬ a.toNat < 0x80 := by omega
      obtain rfl | rfl : count = 1 ∨ count = 2 := by
        simp only [List.length_cons, List.length_nil] at hlt
        omega
      · change scalars [a] = [none]
        rw [scalars.eq_def]
        simp [ha, htwo, hone]
      · change scalars [a, b] = [none]
        rw [scalars.eq_def]
        simp [ha, hb, htwo, hone]
  | @four a b c d ha hb hc hd =>
      have hlead := within_eq_true.mp ha
      have htwo : within 0xC2 0xDF a = false := by
        rw [← Bool.not_eq_true, within_eq_true]
        omega
      have hthree : within 0xE0 0xEF a = false := by
        rw [← Bool.not_eq_true, within_eq_true]
        omega
      have hone : ¬ a.toNat < 0x80 := by omega
      obtain rfl | rfl | rfl : count = 1 ∨ count = 2 ∨ count = 3 := by
        simp only [List.length_cons, List.length_nil] at hlt
        omega
      · change scalars [a] = [none]
        rw [scalars.eq_def]
        simp [ha, htwo, hthree, hone]
      · change scalars [a, b] = [none]
        rw [scalars.eq_def]
        simp [ha, hb, htwo, hthree, hone]
      · change scalars [a, b, c] = [none]
        rw [scalars.eq_def]
        simp [ha, hb, hc, htwo, hthree, hone]

theorem scalars_append (cs : List Char) (rest : Bytes) :
  scalars (cs.flatMap encodeChar ++ rest) = cs.map some ++ scalars rest
  := by
  induction cs with
  | nil => rfl
  | cons c cs ih =>
      rw [List.flatMap_cons, List.append_assoc, scalars_encodeChar, ih, List.map_cons,
        List.cons_append]

/-- The bytes of a text are read as the text. -/
theorem decodeLossy_flatMap (cs : List Char) :
  decodeLossy (cs.flatMap encodeChar) = cs
  := by
  rw [decodeLossy, scalars_encode, List.map_map]
  exact List.map_id cs

/-- With the character the text is too long for the room, and without it there is room left. -/
def Crosses (room : Nat) (kept : List Char) (c : Char) : Prop :=
  (kept.flatMap encodeChar).length < room
    ∧ room < (kept.flatMap encodeChar).length + (encodeChar c).length

/-- A text is cut off behind one of its characters, or in the middle of one. -/
theorem take_cases (room : Nat) (cs : List Char) :
  (∃ kept, kept <+: cs ∧ (cs.flatMap encodeChar).take room = kept.flatMap encodeChar)
    ∨ ∃ kept c rest, cs = kept ++ c :: rest ∧ Crosses room kept c
  := by
  induction cs generalizing room with
  | nil =>
      left
      use [], List.prefix_refl []
      apply List.take_nil
  | cons c cs ih =>
      by_cases hfits : (encodeChar c).length ≤ room
      · obtain ⟨left, rfl⟩ := Nat.exists_eq_add_of_le hfits
        rw [List.flatMap_cons, List.take_length_add_append]
        rcases ih left with ⟨kept, hkept, htake⟩ | ⟨kept, d, rest, rfl, hleft, hright⟩
        · left
          use c :: kept, List.cons_prefix_cons.mpr ⟨rfl, hkept⟩
          rw [htake, List.flatMap_cons]
        · right
          refine ⟨c :: kept, d, rest, rfl, ?_, ?_⟩
          · rw [List.flatMap_cons, List.length_append]
            exact Nat.add_lt_add_left hleft _
          · rw [List.flatMap_cons, List.length_append, Nat.add_assoc]
            exact Nat.add_lt_add_left hright _
      · rcases Nat.eq_zero_or_pos room with rfl | hpos
        · left
          use [], List.nil_prefix
          rfl
        · right
          refine ⟨[], c, cs, rfl, hpos, ?_⟩
          rw [List.flatMap_nil, List.length_nil, Nat.zero_add]
          exact Nat.lt_of_not_le hfits

/-- What is left of a character that is cut through is read as a replacement character. -/
theorem decodeLossy_of_crosses (h : Crosses room kept c) (rest : List Char) :
  decodeLossy (((kept ++ c :: rest).flatMap encodeChar).take room) = kept ++ [replacement]
  := by
  obtain ⟨hleft, hright⟩ := h
  obtain ⟨count, rfl⟩ := Nat.exists_eq_add_of_lt hleft
  have hcount : count + 1 < (encodeChar c).length := by omega
  have htake : ((kept ++ c :: rest).flatMap encodeChar).take
      ((kept.flatMap encodeChar).length + count + 1)
      = kept.flatMap encodeChar ++ (encodeChar c).take (count + 1) := by
    rw [List.flatMap_append, List.flatMap_cons, Nat.add_assoc, List.take_length_add_append,
      List.take_append_of_le_length (Nat.le_of_lt hcount)]
  rw [htake, decodeLossy, scalars_append,
    (denotes_encodeChar c).scalars_take (Nat.succ_pos count) hcount, List.map_append, List.map_map]
  congr 1
  exact List.map_id kept

end Utf8

namespace Text

/-! ## Blank characters at the ends -/

/-- What is left of a text is a part of it. -/
theorem trim_infix (cs : List Char) :
  trim cs <:+: cs
  := by
  have hfront : (cs.dropWhile isBlank).rdropWhile isBlank <+: cs.dropWhile isBlank :=
    List.rdropWhile_prefix isBlank _
  exact hfront.isInfix.trans (List.dropWhile_suffix isBlank).isInfix

/-- The text has no blank characters at its ends. -/
structure IsTrimmed (cs : List Char) : Prop where
  head : ∀ c ∈ cs.head?, isBlank c = false
  last : ∀ c ∈ cs.getLast?, isBlank c = false

theorem isBlank_of_head?_dropWhile {cs : List Char} {c : Char}
    (h : c ∈ (cs.dropWhile isBlank).head?) :
  isBlank c = false
  := by
  have hnot := List.head?_dropWhile_not isBlank cs
  rw [Option.mem_def.mp h] at hnot
  exact hnot

theorem isTrimmed_trim (cs : List Char) :
  IsTrimmed (trim cs)
  := by
  constructor
  · intro c hc
    have hfront : (cs.dropWhile isBlank).rdropWhile isBlank <+: cs.dropWhile isBlank :=
      List.rdropWhile_prefix isBlank _
    have hhead : c ∈ (cs.dropWhile isBlank).head? := by
      obtain ⟨back, hback⟩ := hfront
      rw [← hback]
      exact List.mem_head?_append_of_mem_head? hc
    exact isBlank_of_head?_dropWhile hhead
  · intro c hc
    rw [trim, List.getLast?_reverse] at hc
    exact isBlank_of_head?_dropWhile hc

theorem isTrimmed_of_trim_eq_self {cs : List Char} (h : trim cs = cs) :
  IsTrimmed cs
  := h ▸ isTrimmed_trim cs

theorem dropWhile_eq_self {cs : List Char} (h : ∀ c ∈ cs.head?, isBlank c = false) :
  cs.dropWhile isBlank = cs
  := by
  cases cs with
  | nil => rfl
  | cons c cs =>
      apply List.dropWhile_cons_of_neg
      rw [h c rfl]
      exact Bool.false_ne_true

theorem IsTrimmed.trim_eq_self {cs : List Char} (h : IsTrimmed cs) :
  trim cs = cs
  := by
  have hlast : ∀ c ∈ cs.reverse.head?, isBlank c = false := by
    rw [List.head?_reverse]
    exact h.last
  rw [trim, dropWhile_eq_self h.head, dropWhile_eq_self hlast, List.reverse_reverse]

theorem trim_append_singleton (cs : List Char) {c : Char} (h : isBlank c = false) :
  trim (cs ++ [c]) = cs.dropWhile isBlank ++ [c]
  := by
  have hc : ¬ isBlank c = true := by
    rw [h]
    exact Bool.false_ne_true
  have hdrop : (cs ++ [c]).dropWhile isBlank = cs.dropWhile isBlank ++ [c] := by
    rw [List.dropWhile_append, List.dropWhile_cons_of_neg hc]
    split
    · rename_i hempty
      rw [List.isEmpty_iff.mp hempty]
      rfl
    · rfl
  rw [trim, hdrop]
  exact List.rdropWhile_concat_neg isBlank _ c hc

end Text

namespace FirmwareInfo

open Utf8 (encodeChar decodeLossy replacement Crosses)
open Text (trim isBlank)

variable {field : Bytes} {revision text : String}

/-! ## Revision fields -/

/-- The text of a field is the one in front of its first zero byte, without blank characters at
its ends, unless nothing remains. -/
theorem readRevision_eq_some_iff :
  readRevision field = some text
    ↔ text.toList = trim (decodeLossy (field.takeWhile (· != 0))) ∧ text.toList ≠ []
  := by
  rw [readRevision]
  split
  · rename_i hempty
    constructor
    · nofun
    · rintro ⟨htext, hne⟩
      exact absurd (htext.trans hempty) hne
  · rename_i hne
    constructor
    · intro hsome
      obtain rfl := Option.some.inj hsome
      rw [String.toList_ofList]
      exact ⟨rfl, hne⟩
    · rintro ⟨htext, -⟩
      rw [← htext, String.ofList_toList]

/-- The zeros behind a text are not read. -/
theorem takeWhile_append_replicate (bytes : Bytes) (count : Nat) :
  (bytes ++ List.replicate count 0).takeWhile (· != 0) = bytes.takeWhile (· != 0)
  := by
  induction bytes with
  | nil => simp
  | cons b bytes ih =>
      rw [List.cons_append, List.takeWhile_cons, List.takeWhile_cons, ih]

/-- What is read of a revision are the bytes in front of its first NUL that fit the field. -/
theorem takeWhile_writeRevision (revision : String) :
  (writeRevision (some revision)).takeWhile (· != 0)
    = ((revision.toList.takeWhile (· != '\x00')).flatMap encodeChar).take revisionLength
  := by
  rw [← Utf8.takeWhile_flatMap_encodeChar, List.take_takeWhile, writeRevision,
    takeWhile_append_replicate]
  rfl

/-- The end of the field goes through the character of the revision behind those that are kept,
and there is no NUL among these. -/
def CutAt (revision : String) (kept : List Char) : Prop :=
  ∃ c rest, revision.toList = kept ++ c :: rest ∧ '\x00' ∉ kept ∧ Crosses revisionLength kept c

/-- The end of the field goes through a character of the revision. -/
def IsCut (revision : String) : Prop :=
  ∃ kept, CutAt revision kept

/-- A revision that fits its field is not cut through. -/
theorem not_isCut_of_fits (h : (Utf8.encode revision).length ≤ revisionLength) :
  ¬ IsCut revision
  := by
  rintro ⟨kept, c, rest, hsplit, -, -, hright⟩
  rw [Utf8.encode, hsplit, List.flatMap_append, List.flatMap_cons, List.length_append,
    List.length_append] at h
  omega

/-- A revision that is not cut through is read as a part of itself. -/
theorem infix_of_not_isCut (hcut : ¬ IsCut revision)
    (htext : readRevision (writeRevision (some revision)) = some text) :
  text.toList <:+: revision.toList
  := by
  obtain ⟨htrim, -⟩ := readRevision_eq_some_iff.mp htext
  rw [takeWhile_writeRevision] at htrim
  have hsplit := @List.takeWhile_append_dropWhile _ (· != '\x00') revision.toList
  have hvisible : ∀ c ∈ revision.toList.takeWhile (· != '\x00'), c ≠ '\x00' := by
    intro c hc
    have hne := List.mem_takeWhile_imp hc
    exact bne_iff_ne.mp hne
  generalize revision.toList.takeWhile (· != '\x00') = visible at htrim hsplit hvisible
  generalize revision.toList.dropWhile (· != '\x00') = behind at hsplit
  rcases Utf8.take_cases revisionLength visible with ⟨kept, hkept, htake⟩
    | ⟨kept, c, rest, rfl, hcrosses⟩
  · rw [htake, Utf8.decodeLossy_flatMap] at htrim
    rw [htrim]
    apply (Text.trim_infix kept).trans
    apply List.IsPrefix.isInfix
    apply hkept.trans
    exact ⟨_, hsplit⟩
  · apply absurd _ hcut
    refine ⟨kept, c, rest ++ behind, ?_, ?_, hcrosses⟩
    · rw [← hsplit, List.append_assoc, List.cons_append]
    · intro hnul
      exact hvisible _ (List.mem_append_left _ hnul) rfl

/-- A revision that is cut through is read with a replacement character at its end. -/
theorem readRevision_of_cutAt {kept : List Char} (hcut : CutAt revision kept) :
  readRevision (writeRevision (some revision))
    = some (String.ofList (kept.dropWhile isBlank ++ [replacement]))
  := by
  obtain ⟨c, rest, hsplit, hnul, hcrosses⟩ := hcut
  have hkept : ∀ d ∈ kept, (d != '\x00') = true := by
    intro d hd
    rw [bne_iff_ne]
    rintro rfl
    exact hnul hd
  have hc : (c != '\x00') = true := by
    rw [bne_iff_ne]
    rintro rfl
    obtain ⟨hleft, hright⟩ := hcrosses
    rw [Utf8.encodeChar_nul, List.length_singleton] at hright
    omega
  apply readRevision_eq_some_iff.mpr
  rw [takeWhile_writeRevision, hsplit, List.takeWhile_append_of_pos hkept, List.takeWhile_cons,
    if_pos hc, Utf8.decodeLossy_of_crosses hcrosses, Text.trim_append_singleton _ rfl,
    String.toList_ofList]
  refine ⟨rfl, ?_⟩
  apply List.append_ne_nil_of_right_ne_nil
  apply List.cons_ne_nil

end FirmwareInfo

end CxlFirmware
