import CxlFirmware.Proofs.Codec
import CxlFirmware.Proofs.Revision

/-!
# The layout of the reply on slots

The reply to the query for the slots is a codec for the information that is `Canonical`: such
information is read back as it was written, and what is read of any reply is canonical, as long
as its revisions are well-formed texts.  The reader keeps within its reply: it reads the same
when each of its accesses is checked, `FirmwareInfo.decodeChecked?`.
-/

namespace CxlFirmware

/-- The bytes from one position to another, if there are as many. -/
def Bytes.slice? (bytes : Bytes) (start stop : Nat) : Option Bytes :=
  if start ≤ stop ∧ stop ≤ bytes.length then some ((bytes.drop start).take (stop - start))
  else none

namespace FirmwareInfo

open Text (trim IsTrimmed)
open Utf8 (encodeChar decodeLossy)

variable {info : FirmwareInfo} {payload bytes : Bytes} {revision text : String}

/-! ## Canonical information -/

/-- The revision fits its field as it is. -/
structure Fits (revision : String) : Prop where
  nonempty : revision ≠ ""
  short : (Utf8.encode revision).length ≤ 16
  no_nul : '\x00' ∉ revision.toList
  trimmed : IsTrimmed revision.toList

/-- The information fits a reply as it is. -/
structure Canonical (info : FirmwareInfo) : Prop where
  active : info.activeSlot < 8
  staged : info.stagedSlot < 8
  count : info.revisions.length = min info.slotsSupported.toNat 4
  fits : ∀ revision, some revision ∈ info.revisions → Fits revision

/-- A revision that fits its field is read back. -/
theorem Fits.read_write (h : Fits revision) :
  readRevision (writeRevision (some revision)) = some revision
  := by
  have hall : revision.toList.takeWhile (· != '\x00') = revision.toList := by
    apply List.takeWhile_eq_self_iff.mpr
    intro c hc
    rw [bne_iff_ne]
    rintro rfl
    exact h.no_nul hc
  have hshort : (revision.toList.flatMap encodeChar).length ≤ revisionLength := h.short
  apply readRevision_eq_some_iff.mpr
  rw [takeWhile_writeRevision, hall, List.take_of_length_le hshort, Utf8.decodeLossy_flatMap,
    h.trimmed.trim_eq_self]
  refine ⟨rfl, ?_⟩
  intro hnil
  exact h.nonempty (String.toList_eq_nil_iff.mp hnil)

theorem ofNat_mod_lt (n : Nat) :
  UInt8.ofNat (n % 8) < 8
  := by
  have hlt : n % 8 < 8 := Nat.mod_lt n (by decide)
  rw [UInt8.lt_iff_toNat_lt, UInt8.toNat_ofNat_of_lt' (Nat.lt_trans hlt (by decide))]
  exact hlt

/-- Canonical information is written as it is. -/
theorem Canonical.written_eq (h : info.Canonical) :
  info.written = info
  := by
  have hrevisions : info.written.revisions = info.revisions := by
    rw [written]
    apply List.ext_getElem
    · rw [List.length_map, List.length_range, h.count]
      rfl
    · intro i hi hi'
      rw [List.getElem_map, List.getElem_range, List.getElem?_eq_getElem hi', Option.join_some]
      cases hrevision : info.revisions[i] with
      | none => rfl
      | some revision =>
          apply (h.fits revision _).read_write
          rw [← hrevision]
          exact List.getElem_mem hi'
  have hactive := ofNat_mod_eight h.active
  have hstaged := ofNat_mod_eight h.staged
  cases info
  simp only [written] at hrevisions ⊢
  rw [hrevisions, hactive, hstaged]

/-! ## What is read of a reply -/

/-- The field of a revision in a reply. -/
def field (payload : Bytes) (i : Nat) : Bytes :=
  (payload.drop (revisionStart + i * revisionLength)).take revisionLength

/-- A revision that is read of a well-formed text fits its field. -/
theorem fits_of_read (hshort : bytes.length ≤ 16)
    (htext : bytes.takeWhile (· != 0) = Utf8.encode text)
    (hread : readRevision bytes = some revision) :
  Fits revision
  := by
  obtain ⟨htrim, hne⟩ := readRevision_eq_some_iff.mp hread
  rw [htext, Utf8.encode, Utf8.decodeLossy_flatMap] at htrim
  have hinfix : revision.toList <:+: text.toList := htrim ▸ Text.trim_infix text.toList
  constructor
  · rintro rfl
    exact hne rfl
  · obtain ⟨front, back, hparts⟩ := hinfix
    have hlength := congrArg List.length htext
    have hprefix : bytes.takeWhile (· != 0) <+: bytes := List.takeWhile_prefix _
    have hle := hprefix.length_le
    rw [Utf8.encode, ← hparts, List.flatMap_append, List.flatMap_append, List.length_append,
      List.length_append] at hlength
    rw [Utf8.encode]
    omega
  · intro hnul
    have hzero : 0 ∈ Utf8.encode text :=
      List.mem_flatMap.mpr ⟨_, hinfix.subset hnul, List.mem_singleton_self 0⟩
    rw [← htext] at hzero
    have hne := List.mem_takeWhile_imp hzero
    cases hne
  · rw [htrim]
    exact Text.isTrimmed_trim _

/-- A reply that is long enough is read. -/
theorem decode_of_length (h : length ≤ payload.length) :
  ∃ slots selected flags, payload[0]? = some slots ∧ payload[1]? = some selected
    ∧ payload[2]? = some flags
    ∧ decode payload = .ok {
      slotsSupported := slots
      activeSlot := UInt8.ofNat (selected.toNat % 8)
      stagedSlot := UInt8.ofNat (selected.toNat / 8 % 8)
      onlineActivation := flags.toNat % 2 == 1
      revisions := (List.range (min slots.toNat maxSlots)).map fun i =>
        readRevision (field payload i) }
  := by
  match payload, h with
  | slots :: selected :: flags :: rest, h =>
      refine ⟨slots, selected, flags, rfl, rfl, rfl, ?_⟩
      exact if_neg (Nat.not_lt.mpr h)

theorem decode_of_short (h : payload.length < length) :
  decode payload = decode.tooShort payload
  := by
  unfold decode
  split
  · exact if_pos h
  · rfl

/-- What is read of well-formed revisions is canonical. -/
theorem canonical_of_decode {slots : UInt8} (h : length ≤ payload.length)
    (hslots : payload[0]? = some slots)
    (htexts : ∀ i < min slots.toNat maxSlots, ∃ text,
      (field payload i).takeWhile (· != 0) = Utf8.encode text) :
  ∃ info, decode payload = .ok info ∧ info.Canonical
  := by
  obtain ⟨slots', selected, flags, hslots', -, -, hdecode⟩ := decode_of_length h
  obtain rfl := Option.some.inj (hslots.symm.trans hslots')
  refine ⟨_, hdecode, ?_⟩
  constructor
  · exact ofNat_mod_lt _
  · exact ofNat_mod_lt _
  · simp [maxSlots]
  · intro revision hrevision
    obtain ⟨i, hi, hread⟩ := List.mem_map.mp hrevision
    obtain ⟨text, htext⟩ := htexts i (List.mem_range.mp hi)
    exact fits_of_read (List.length_take_le _ _) htext hread

/-! ## Accesses -/

/-- The text that a revision is read as, unless it is empty. -/
def named : List Char → Option String
  | [] => none
  | cs => some (String.ofList cs)

/-- The revision in a field, if the reply has the field. -/
def revisionChecked? (payload : Bytes) (i : Nat) : Option (Option String) := do
  let start := revisionStart + i * revisionLength
  let raw ← Bytes.slice? payload start (start + revisionLength)
  let bytes ← Bytes.slice? raw 0 (raw.findIdx (· == 0))
  return named (trim (decodeLossy bytes))

/-- The content of a reply, unless an access leaves the reply. -/
def decodeChecked? (payload : Bytes) : Option (Except Error FirmwareInfo) :=
  if payload.length < length then some (decode.tooShort payload)
  else do
    let slots ← payload[0]?
    let selected ← payload[1]?
    let revisions ← (List.range (min slots.toNat maxSlots)).mapM (revisionChecked? payload)
    let flags ← payload[2]?
    return .ok {
      slotsSupported := slots
      activeSlot := UInt8.ofNat (selected.toNat % 8)
      stagedSlot := UInt8.ofNat (selected.toNat / 8 % 8)
      onlineActivation := flags.toNat % 2 == 1
      revisions }

theorem slice?_of_le {start stop : Nat} (hstart : start ≤ stop) (hstop : stop ≤ bytes.length) :
  Bytes.slice? bytes start stop = some ((bytes.drop start).take (stop - start))
  := if_pos ⟨hstart, hstop⟩

/-- A reply that is long enough has the field of each revision that is read. -/
theorem revisionChecked?_of_length (h : length ≤ payload.length) {i : Nat} (hi : i < maxSlots) :
  revisionChecked? payload i = some (readRevision (field payload i))
  := by
  have hstop : revisionStart + i * revisionLength + revisionLength ≤ payload.length := by
    apply Nat.le_trans _ h
    simp only [maxSlots] at hi
    simp only [revisionStart, revisionLength, length]
    omega
  have htext : (field payload i).take ((field payload i).findIdx (· == 0))
      = (field payload i).takeWhile (· != 0) := by
    rw [List.takeWhile_eq_take_findIdx_not]
    simp only [bne, Bool.not_not]
  have hraw : Bytes.slice? payload (revisionStart + i * revisionLength)
      (revisionStart + i * revisionLength + revisionLength) = some (field payload i) := by
    rw [slice?_of_le (Nat.le_add_right _ _) hstop, Nat.add_sub_cancel_left]
    rfl
  have hbytes : Bytes.slice? (field payload i) 0 ((field payload i).findIdx (· == 0))
      = some ((field payload i).takeWhile (· != 0)) := by
    rw [slice?_of_le (Nat.zero_le _) List.findIdx_le_length, List.drop_zero, Nat.sub_zero, htext]
  simp only [revisionChecked?, hraw, hbytes, Option.bind_eq_bind, Option.bind_some]
  rfl

theorem mapM_of_forall {α β : Type} {f : α → Option β} {g : α → β} {as : List α}
    (h : ∀ a ∈ as, f a = some (g a)) :
  as.mapM f = some (as.map g)
  := by
  induction as with
  | nil => rfl
  | cons a as ih =>
      rw [List.mapM_cons, h a List.mem_cons_self, ih fun a ha => h a (List.mem_cons_of_mem _ ha)]
      rfl

/-- No access leaves a reply, whatever its length and content. -/
theorem decodeChecked?_eq (payload : Bytes) :
  decodeChecked? payload = some (decode payload)
  := by
  rw [decodeChecked?]
  split
  · rename_i hshort
    rw [decode_of_short hshort]
  · rename_i hlong
    obtain ⟨slots, selected, flags, hslots, hselected, hflags, hdecode⟩ :=
      decode_of_length (Nat.le_of_not_lt hlong)
    have hrevisions : (List.range (min slots.toNat maxSlots)).mapM (revisionChecked? payload)
        = some ((List.range (min slots.toNat maxSlots)).map fun i =>
          readRevision (field payload i)) := by
      apply mapM_of_forall
      intro i hi
      apply revisionChecked?_of_length (Nat.le_of_not_lt hlong)
      exact Nat.lt_of_lt_of_le (List.mem_range.mp hi) (Nat.min_le_right _ _)
    rw [hslots, hselected, hflags, hdecode]
    simp only [hrevisions, Option.bind_eq_bind, Option.bind_some]
    rfl

/-! ## The codec -/

/-- The reply is a codec for canonical information.  Such information takes 80 bytes and is read
back.  What is read of 80 bytes or more is canonical if the bytes of each revision in front of
the first zero are a well-formed text, so that it is read again from its own reply.  A shorter
reply is refused.  Of no reply, whatever its length and content, is a byte read that it does not
have. -/
theorem canonical_read_back :
  (∀ info : FirmwareInfo, info.Canonical →
      info.encode.length = 80 ∧ decode info.encode = .ok info)
    ∧ (∀ (payload : Bytes) slots, 80 ≤ payload.length → payload[0]? = some slots →
        (∀ i < min slots.toNat 4, ∃ text,
          (field payload i).takeWhile (· != 0) = Utf8.encode text) →
        ∃ info, decode payload = .ok info ∧ info.Canonical ∧ decode info.encode = decode payload)
    ∧ (∀ payload : Bytes, payload.length < 80 → ∃ text,
        decode payload = .error (.protocol text))
    ∧ ∀ payload : Bytes, decodeChecked? payload = some (decode payload)
  := by
  refine ⟨fun info hinfo => ?_, fun payload slots hlong hslots htexts => ?_,
    fun payload hshort => ?_, decodeChecked?_eq⟩
  · refine ⟨info.length_encode, ?_⟩
    rw [decode_encode, hinfo.written_eq]
  · obtain ⟨info, hdecode, hcanonical⟩ := canonical_of_decode hlong hslots htexts
    refine ⟨info, hdecode, hcanonical, ?_⟩
    rw [decode_encode, hcanonical.written_eq, hdecode]
  · rw [decode_of_short hshort]
    exact ⟨_, rfl⟩

/-- Information on seven slots, of which one revision is as long as its field, and one ends in a
character of two bytes. -/
def sevenSlots : FirmwareInfo where
  slotsSupported := 7
  activeSlot := 3
  stagedSlot := 5
  onlineActivation := true
  revisions := [some "1.0.0-a", none, some "2026.04.15-build", some "2.0 é"]

/-- A reply on three slots whose unused bits are ones and whose first field goes on behind a zero
with what is no text. -/
def untidy : Bytes :=
  [3, 255, 255] ++ List.replicate 13 170
    ++ Utf8.encode " 1.0\t" ++ [0] ++ List.replicate 10 255
    ++ List.replicate 16 0
    ++ Utf8.encode "2026.04.15-build"
    ++ List.replicate 17 255

theorem canonical_sevenSlots :
  sevenSlots.Canonical
  := by
  constructor
  · decide
  · decide
  · decide
  · intro revision hrevision
    simp only [sevenSlots, List.mem_cons, Option.some.injEq, reduceCtorEq, false_or,
      List.not_mem_nil, or_false] at hrevision
    obtain rfl | rfl | rfl := hrevision
    all_goals exact ⟨by decide, by decide, by decide, Text.isTrimmed_of_trim_eq_self (by decide)⟩

theorem texts_untidy (i : Nat) (hi : i < 3) :
  ∃ text, (field untidy i).takeWhile (· != 0) = Utf8.encode text
  := by
  match i, hi with
  | 0, _ => exact ⟨" 1.0\t", by decide⟩
  | 1, _ => exact ⟨"", by decide⟩
  | 2, _ => exact ⟨"2026.04.15-build", by decide⟩

/-- The information on seven slots is read back, the untidy reply is read as something that is
read again from its own reply, and a reply that is one byte too short is refused. -/
theorem canonical_read_back_sevenSlots :
  decode sevenSlots.encode = .ok sevenSlots
    ∧ (∃ info, decode untidy = .ok info ∧ decode info.encode = .ok info)
    ∧ ∃ text, decode (untidy.take 79) = .error (.protocol text)
  := by
  obtain ⟨hwritten, hread, hshort, -⟩ := canonical_read_back
  refine ⟨(hwritten _ canonical_sevenSlots).2, ?_, hshort _ (by decide)⟩
  obtain ⟨info, hinfo, -, hagain⟩ := hread untidy 3 (by decide) rfl texts_untidy
  exact ⟨info, hinfo, hagain.trans hinfo⟩

end FirmwareInfo

end CxlFirmware
