import Mathlib.Algebra.Group.Nat.Defs
import CxlFirmware.Proofs.Codec
import CxlFirmware.Proofs.Polling

/-!
# The layouts of a background status

A reply to a status query is a word of eight bytes, and a layout says which of its bits hold
which field of a report.  In each of the two layouts the fields and the reserved bits cover
the word without an overlap, so a word is determined by its fields.  What the host writes has
the report in the fields and zeros in the reserved bits, and what it reads is what the fields
hold: a word that is read and written again only loses its reserved bits and what its
percentage has above one hundred.
-/

namespace CxlFirmware

/-! ## Fields of a word -/

/-- Some of the bits of a word: `width` of them, from bit `low` on. -/
structure BitField where
  low : Nat
  width : Nat

namespace BitField

variable {field other : BitField} {word word' value : Nat}

/-- What the field of a word holds. -/
def get (field : BitField) (word : Nat) : Nat :=
  word / 2 ^ field.low % 2 ^ field.width

/-- The word with a value in the field. -/
def put (field : BitField) (value word : Nat) : Nat :=
  word % 2 ^ field.low
    + 2 ^ field.low * (value % 2 ^ field.width
      + 2 ^ field.width * (word / 2 ^ (field.low + field.width)))

/-- The fields have no bit in common. -/
def Disjoint (field other : BitField) : Prop :=
  field.low + field.width ≤ other.low ∨ other.low + other.width ≤ field.low

instance : Decidable (field.Disjoint other) :=
  inferInstanceAs (Decidable (_ ∨ _))

theorem put_mod (field : BitField) (value word : Nat) :
  field.put value word % 2 ^ field.low = word % 2 ^ field.low
  := by
  rw [put, Nat.add_mul_mod_self_left, Nat.mod_mod]

theorem put_div (field : BitField) (value word : Nat) :
  field.put value word / 2 ^ field.low
    = value % 2 ^ field.width + 2 ^ field.width * (word / 2 ^ (field.low + field.width))
  := by
  have hmod : word % 2 ^ field.low < 2 ^ field.low := Nat.mod_lt _ (Nat.two_pow_pos _)
  rw [put, Nat.add_mul_div_left _ _ (Nat.two_pow_pos _), Nat.div_eq_of_lt hmod, Nat.zero_add]

/-- The bits above a field are kept. -/
theorem put_div_above (field : BitField) (value word : Nat) :
  field.put value word / 2 ^ (field.low + field.width)
    = word / 2 ^ (field.low + field.width)
  := by
  have hmod : value % 2 ^ field.width < 2 ^ field.width := Nat.mod_lt _ (Nat.two_pow_pos _)
  rw [Nat.pow_add, ← Nat.div_div_eq_div_mul, put_div, Nat.add_mul_div_left _ _ (Nat.two_pow_pos _),
    Nat.div_eq_of_lt hmod, Nat.zero_add, Nat.pow_add]

theorem put_lt {bits : Nat} (hbits : field.low + field.width ≤ bits) (hword : word < 2 ^ bits) :
  field.put value word < 2 ^ bits
  := by
  obtain ⟨above, rfl⟩ := Nat.exists_eq_add_of_le hbits
  have hzero : word / 2 ^ (field.low + field.width + above) = 0 := Nat.div_eq_of_lt hword
  apply Nat.lt_of_div_eq_zero (Nat.two_pow_pos _)
  rw [Nat.pow_add, ← Nat.div_div_eq_div_mul] at hzero ⊢
  rw [put_div_above, hzero]

/-- A field holds what was put into it. -/
theorem get_put (hvalue : value < 2 ^ field.width) :
  field.get (field.put value word) = value
  := by
  rw [get, put_div, Nat.add_mul_mod_self_left, Nat.mod_mod, Nat.mod_eq_of_lt hvalue]

/-- A field below a bit depends on the bits below it only. -/
theorem get_of_mod_eq {bit : Nat} (hbit : field.low + field.width ≤ bit)
    (h : word % 2 ^ bit = word' % 2 ^ bit) :
  field.get word = field.get word'
  := by
  have hfield (word : Nat) : field.get (word % 2 ^ bit) = field.get word := by
    obtain ⟨above, rfl⟩ := Nat.exists_eq_add_of_le hbit
    rw [get, get, Nat.add_assoc, Nat.pow_add, Nat.mod_mul_right_div_self, Nat.pow_add,
      Nat.mod_mul_right_mod]
  rw [← hfield word, h, hfield word']

/-- A field above a bit depends on the bits from it on only. -/
theorem get_of_div_eq {bit : Nat} (hbit : bit ≤ field.low) (h : word / 2 ^ bit = word' / 2 ^ bit) :
  field.get word = field.get word'
  := by
  obtain ⟨above, habove⟩ := Nat.exists_eq_add_of_le hbit
  rw [get, get, habove, Nat.pow_add, ← Nat.div_div_eq_div_mul, h, Nat.div_div_eq_div_mul]

/-- The other fields keep what they hold. -/
theorem get_put_of_disjoint (h : field.Disjoint other) :
  other.get (field.put value word) = other.get word
  := by
  rcases h with habove | hbelow
  · exact get_of_div_eq habove (field.put_div_above value word)
  · exact get_of_mod_eq hbelow (field.put_mod value word)

end BitField

/-! ## Layouts -/

/-- Which bits of a reply hold which field of a report. -/
structure StatusLayout where
  running : BitField
  percent : BitField
  reserved : BitField
  opcode : BitField
  returnCode : BitField
  vendorStatus : BitField

/-- The layout of the replies to a query. -/
def StatusQuery.layout : StatusQuery → StatusLayout
  | spec => {
      running := ⟨0, 1⟩
      percent := ⟨1, 7⟩
      reserved := ⟨8, 8⟩
      opcode := ⟨16, 16⟩
      returnCode := ⟨32, 16⟩
      vendorStatus := ⟨48, 16⟩ }
  | hbo => {
      opcode := ⟨0, 16⟩
      percent := ⟨16, 7⟩
      running := ⟨23, 1⟩
      reserved := ⟨24, 8⟩
      returnCode := ⟨32, 16⟩
      vendorStatus := ⟨48, 16⟩ }

namespace StatusLayout

variable {query : StatusQuery} {layout : StatusLayout} {report report' : BackgroundStatus}
variable {word word' : Nat}

/-- The fields of a word hold the report. -/
structure Holds (layout : StatusLayout) (report : BackgroundStatus) (word : Nat) : Prop where
  running : layout.running.get word = report.inProgress.toNat
  percent : layout.percent.get word = report.percent.toNat
  opcode : layout.opcode.get word = report.opcode.toNat
  returnCode : layout.returnCode.get word = report.returnCode.toNat
  vendorStatus : layout.vendorStatus.get word = report.vendorStatus.toNat

/-- The word with a percentage of at most one hundred. -/
def capped (layout : StatusLayout) (word : Nat) : Nat :=
  layout.percent.put (min (layout.percent.get word) 100) word

/-- The word as it is written back: capped, and with nothing in the reserved bits. -/
def tidied (layout : StatusLayout) (word : Nat) : Nat :=
  layout.capped (layout.reserved.put 0 word)

/-- A word holds one report. -/
theorem Holds.eq (h : layout.Holds report word) (h' : layout.Holds report' word) :
  report = report'
  := by
  have hrunning : report.inProgress = report'.inProgress := by
    rw [← BackgroundStatus.toNat_beq_one report.inProgress, ← h.running, h'.running,
      BackgroundStatus.toNat_beq_one]
  have hpercent := h.percent.symm.trans h'.percent
  have hopcode := h.opcode.symm.trans h'.opcode
  have hreturn := h.returnCode.symm.trans h'.returnCode
  have hvendor := h.vendorStatus.symm.trans h'.vendorStatus
  cases report
  cases report'
  rw [BackgroundStatus.mk.injEq]
  exact ⟨hrunning, UInt8.toNat_inj.mp hpercent, UInt16.toNat_inj.mp hopcode,
    UInt16.toNat_inj.mp hreturn, UInt16.toNat_inj.mp hvendor⟩

/-- The fields and the reserved bits cover the word. -/
theorem Holds.word_eq (h : query.layout.Holds report word) (h' : query.layout.Holds report word')
    (hreserved : query.layout.reserved.get word = query.layout.reserved.get word')
    (hword : word < 2 ^ 64) (hword' : word' < 2 ^ 64) :
  word = word'
  := by
  have hrunning := h.running.trans h'.running.symm
  have hpercent := h.percent.trans h'.percent.symm
  have hopcode := h.opcode.trans h'.opcode.symm
  have hreturn := h.returnCode.trans h'.returnCode.symm
  have hvendor := h.vendorStatus.trans h'.vendorStatus.symm
  cases query with
  | spec =>
      simp only [StatusQuery.layout, BitField.get] at *
      omega
  | hbo =>
      simp only [StatusQuery.layout, BitField.get] at *
      omega

/-- Tidying a word leaves the report as it is written. -/
theorem Holds.tidied (h : query.layout.Holds report word) :
  query.layout.Holds report.written (query.layout.tidied word)
    ∧ query.layout.reserved.get (query.layout.tidied word) = 0
  := by
  have hkept {field : BitField} (hreserved : query.layout.reserved.Disjoint field)
      (hfield : query.layout.percent.Disjoint field) :
      field.get (query.layout.tidied word) = field.get word := by
    rw [StatusLayout.tidied, capped, BitField.get_put_of_disjoint hfield,
      BitField.get_put_of_disjoint hreserved]
  have hpercent : query.layout.reserved.Disjoint query.layout.percent := by
    cases query <;> decide
  constructor
  · constructor
    · rw [hkept (by cases query <;> decide) (by cases query <;> decide), h.running]
      rfl
    · rw [StatusLayout.tidied, capped, BitField.get_put_of_disjoint hpercent, h.percent,
        BitField.get_put]
      · exact report.toNat_written.symm
      · cases query with
        | spec => exact Nat.lt_of_le_of_lt (Nat.min_le_right _ _) (by decide)
        | hbo => exact Nat.lt_of_le_of_lt (Nat.min_le_right _ _) (by decide)
    · rw [hkept (by cases query <;> decide) (by cases query <;> decide), h.opcode]
      rfl
    · rw [hkept (by cases query <;> decide) (by cases query <;> decide), h.returnCode]
      rfl
    · rw [hkept (by cases query <;> decide) (by cases query <;> decide), h.vendorStatus]
      rfl
  · have hdisjoint : query.layout.percent.Disjoint query.layout.reserved := by
      cases query <;> decide
    rw [StatusLayout.tidied, capped, BitField.get_put_of_disjoint hdisjoint,
      BitField.get_put (Nat.two_pow_pos _)]

theorem tidied_lt (hword : word < 2 ^ 64) :
  query.layout.tidied word < 2 ^ 64
  := by
  cases query with
  | spec => exact BitField.put_lt (by decide) (BitField.put_lt (by decide) hword)
  | hbo => exact BitField.put_lt (by decide) (BitField.put_lt (by decide) hword)

end StatusLayout

/-! ## What is written and read -/

namespace BackgroundStatus

variable (report : BackgroundStatus)

/-- What is read back differs in the percentage only. -/
theorem written_eq :
  report.written = { report with percent := min report.percent 100 }
  := by
  have hmin : (min report.percent 100).toNat = min report.percent.toNat 100 := by
    rw [Nat.min_def]
    apply apply_ite UInt8.toNat
  have hpercent : report.written.percent = min report.percent 100 :=
    UInt8.toNat_inj.mp (report.toNat_written.trans hmin.symm)
  rw [← hpercent]
  rfl

theorem toNat_mod_two_beq_one (n : Nat) :
  (n % 2 == 1).toNat = n % 2
  := by
  rcases Nat.mod_two_eq_zero_or_one n with h | h
  · rw [h]
    rfl
  · rw [h]
    rfl

theorem toNat_encodeSpec :
  Bytes.toNat report.encodeSpec
    = report.inProgress.toNat + 2 * report.writtenPercent + 2 ^ 16 * report.opcode.toNat
      + 2 ^ 32 * report.returnCode.toNat + 2 ^ 48 * report.vendorStatus.toNat
  := by
  obtain ⟨hflag, hpercent, hopcode, hreturn, hvendor⟩ := report.field_bounds
  simp only [encodeSpec, Bytes.ofNat, Bytes.toNat, List.cons_append, List.nil_append,
    UInt8.toNat_ofNat', UInt8.toNat_zero]
  omega

end BackgroundStatus

namespace StatusQuery

variable (query : StatusQuery) (report : BackgroundStatus) {payload : Bytes}

theorem length_encode :
  (query.encode report).length = BackgroundStatus.length
  := by
  cases query with
  | spec => rfl
  | hbo => exact Bytes.length_ofNat 8 _

/-- The fields of what is written hold the report, and its reserved bits hold nothing. -/
theorem holds_encode :
  query.layout.Holds report.written (Bytes.toNat (query.encode report))
    ∧ query.layout.reserved.get (Bytes.toNat (query.encode report)) = 0
  := by
  obtain ⟨hflag, hpercent, hopcode, hreturn, hvendor⟩ := report.field_bounds
  have hwritten : report.written.percent.toNat = report.writtenPercent := report.toNat_written
  cases query with
  | spec =>
      simp only [encode, report.toNat_encodeSpec]
      constructor
      · constructor
        case percent =>
          rw [hwritten]
          simp only [layout, BitField.get]
          omega
        all_goals
          simp only [layout, BitField.get, BackgroundStatus.written]
          omega
      · simp only [layout, BitField.get]
        omega
  | hbo =>
      simp only [encode, report.toNat_encodeHbo, BackgroundStatus.vendorWord]
      constructor
      · constructor
        case percent =>
          rw [hwritten]
          simp only [layout, BitField.get]
          omega
        all_goals
          simp only [layout, BitField.get, BackgroundStatus.written]
          omega
      · simp only [layout, BitField.get]
        omega

/-- What is read is what the fields hold. -/
theorem holds_decode (h : BackgroundStatus.length ≤ payload.length) :
  ∃ report, query.decode payload = .ok report
    ∧ query.layout.Holds report (Bytes.toNat (payload.take BackgroundStatus.length))
  := by
  cases query with
  | spec =>
      match payload, h with
      | b0 :: b1 :: b2 :: b3 :: b4 :: b5 :: b6 :: b7 :: rest, _ =>
          have h0 : b0.toNat < 256 := b0.toNat_lt
          have h1 : b1.toNat < 256 := b1.toNat_lt
          have h2 : b2.toNat < 256 := b2.toNat_lt
          have h3 : b3.toNat < 256 := b3.toNat_lt
          have h4 : b4.toNat < 256 := b4.toNat_lt
          have h5 : b5.toNat < 256 := b5.toNat_lt
          have h6 : b6.toNat < 256 := b6.toNat_lt
          have h7 : b7.toNat < 256 := b7.toNat_lt
          refine ⟨_, rfl, ?_⟩
          constructor
          all_goals
            simp only [layout, BitField.get, BackgroundStatus.length, List.take_succ_cons,
              List.take_zero, Bytes.toNat, UInt8.toNat_ofNat', UInt16.toNat_ofNat']
          case running =>
            rw [BackgroundStatus.toNat_mod_two_beq_one]
            omega
          all_goals omega
  | hbo =>
      have hlong : ¬ payload.length < BackgroundStatus.length := Nat.not_lt.mpr h
      rw [decode, BackgroundStatus.decodeHbo, if_neg hlong]
      refine ⟨_, rfl, ?_⟩
      generalize Bytes.toNat (payload.take BackgroundStatus.length) = word
      constructor
      all_goals
        simp only [layout, BitField.get, UInt8.toNat_ofNat', UInt16.toNat_ofNat']
      case running =>
        rw [BackgroundStatus.toNat_mod_two_beq_one]
        omega
      all_goals omega

/-- What comes after the word is not read. -/
theorem decode_take (h : BackgroundStatus.length ≤ payload.length) :
  query.decode (payload.take BackgroundStatus.length) = query.decode payload
  := by
  have hlength : (payload.take BackgroundStatus.length).length = BackgroundStatus.length :=
    List.length_take_of_le h
  obtain ⟨report, hdecode, hholds⟩ := query.holds_decode h
  obtain ⟨report', hdecode', hholds'⟩ := query.holds_decode (Nat.le_of_eq hlength.symm)
  rw [List.take_take, Nat.min_self] at hholds'
  rw [hdecode, hdecode', hholds.eq hholds']

/-- What is read is written back as the tidied word. -/
theorem encode_of_holds {word : Nat} (h : query.layout.Holds report word) (hword : word < 2 ^ 64) :
  query.encode report = Bytes.ofNat BackgroundStatus.length (query.layout.tidied word)
  := by
  have hlength := query.length_encode report
  obtain ⟨hwritten, hreserved⟩ := query.holds_encode report
  obtain ⟨htidied, hcleared⟩ := h.tidied
  have hlimit : Bytes.toNat (query.encode report) < 2 ^ 64 := by
    have hlt := Bytes.toNat_lt (query.encode report)
    rw [hlength] at hlt
    exact hlt
  have heq : Bytes.toNat (query.encode report) = query.layout.tidied word :=
    hwritten.word_eq htidied (hreserved.trans hcleared.symm) hlimit
      (StatusLayout.tidied_lt hword)
  rw [← heq, ← hlength, Bytes.ofNat_toNat]

/-- The reserved bits are a byte of their own. -/
theorem reserved_put_zero (h : BackgroundStatus.length ≤ payload.length) :
  query.layout.reserved.put 0 (Bytes.toNat (payload.take BackgroundStatus.length))
    = Bytes.toNat ((payload.take BackgroundStatus.length).set (query.layout.reserved.low / 8) 0)
  := by
  match payload, h with
  | b0 :: b1 :: b2 :: b3 :: b4 :: b5 :: b6 :: b7 :: rest, _ =>
      have h0 : b0.toNat < 256 := b0.toNat_lt
      have h1 : b1.toNat < 256 := b1.toNat_lt
      have h2 : b2.toNat < 256 := b2.toNat_lt
      have h3 : b3.toNat < 256 := b3.toNat_lt
      cases query with
      | spec =>
          simp only [layout, BitField.put, BackgroundStatus.length, List.take_succ_cons,
            List.take_zero, List.set, Bytes.toNat, UInt8.toNat_zero]
          omega
      | hbo =>
          simp only [layout, BitField.put, BackgroundStatus.length, List.take_succ_cons,
            List.take_zero, List.set, Bytes.toNat, UInt8.toNat_zero]
          omega

/-- Either layout is a codec.  A report takes eight bytes and is read back with a percentage
of at most one hundred, and each field of the word holds its own value and the reserved bits
nothing.  Eight bytes or more are read, whatever comes after the eighth, and written back
with the reserved byte cleared and the field of the percentage lowered to one hundred.  Fewer
are refused. -/
theorem reads_back_and_writes_back :
  (∀ report : BackgroundStatus,
      (query.encode report).length = 8
        ∧ query.decode (query.encode report) = .ok { report with percent := min report.percent 100 }
        ∧ query.layout.Holds { report with percent := min report.percent 100 }
          (Bytes.toNat (query.encode report))
        ∧ query.layout.reserved.get (Bytes.toNat (query.encode report)) = 0)
    ∧ (∀ payload : Bytes, 8 ≤ payload.length → ∃ report,
        query.decode payload = .ok report
          ∧ (∀ rest, query.decode (payload.take 8 ++ rest) = .ok report)
          ∧ query.layout.Holds report (Bytes.toNat (payload.take 8))
          ∧ let word := Bytes.toNat ((payload.take 8).set (query.layout.reserved.low / 8) 0)
            word = query.layout.reserved.put 0 (Bytes.toNat (payload.take 8))
              ∧ query.encode report = Bytes.ofNat 8 (query.layout.capped word))
    ∧ ∀ payload : Bytes, payload.length < 8 → ∃ text,
        query.decode payload = .error (.protocol text)
  := by
  refine ⟨fun report => ?_, fun payload hlong => ?_, fun payload => query.decode_of_short⟩
  · have hwritten := report.written_eq
    obtain ⟨hholds, hreserved⟩ := query.holds_encode report
    have hdecode := query.decode_encode report
    rw [hwritten] at hholds hdecode
    exact ⟨query.length_encode report, hdecode, hholds, hreserved⟩
  · obtain ⟨report, hdecode, hholds⟩ := query.holds_decode hlong
    have hlength : (payload.take 8).length = 8 := List.length_take_of_le hlong
    have hword : Bytes.toNat (payload.take 8) < 2 ^ 64 := by
      have hlt := Bytes.toNat_lt (payload.take 8)
      rw [hlength] at hlt
      exact hlt
    refine ⟨report, hdecode, fun rest => ?_, hholds, ?_⟩
    · have hlong' : BackgroundStatus.length ≤ (payload.take 8 ++ rest).length := by
        rw [List.length_append, hlength]
        exact Nat.le_add_right _ _
      have htake : (payload.take 8 ++ rest).take BackgroundStatus.length = payload.take 8 :=
        List.take_left' hlength
      rw [← query.decode_take hlong', htake, ← hdecode]
      apply query.decode_take hlong
    · have hbyte := query.reserved_put_zero hlong
      refine ⟨hbyte.symm, ?_⟩
      rw [query.encode_of_holds report hholds hword, StatusLayout.tidied, hbyte]
      rfl

/-- A reply with every bit set is written back in the vendor layout without its fourth byte and
with a percentage of one hundred, and seven bytes are refused. -/
theorem reads_back_and_writes_back_saturated :
  (∃ report, hbo.decode (List.replicate 9 0xFF) = .ok report
      ∧ hbo.encode report = [0xFF, 0xFF, 0xE4, 0, 0xFF, 0xFF, 0xFF, 0xFF])
    ∧ ∃ text, hbo.decode (List.replicate 7 0xFF) = .error (.protocol text)
  := by
  obtain ⟨-, hlong, hshort⟩ := reads_back_and_writes_back hbo
  constructor
  · obtain ⟨report, hdecode, -, -, -, hencode⟩ := hlong (List.replicate 9 0xFF) (by decide)
    refine ⟨report, hdecode, ?_⟩
    rw [hencode]
    decide
  · exact hshort (List.replicate 7 0xFF) (by decide)

end StatusQuery

end CxlFirmware
