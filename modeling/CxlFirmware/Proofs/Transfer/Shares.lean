import Mathlib.Data.List.Infix
import Mathlib.Data.List.Nodup
import Mathlib.Data.Nat.Find
import Mathlib.Order.Monotone.Basic
import CxlFirmware.Proofs.Transfer.Carriage

/-!
# Shares of an image

How much of an image the first blocks of a plan carry, in bytes and in percent, and which
blocks mark a further tenth of it.  The percentages do not fall and come to one hundred with
the whole image.  Those of the marked tenths rise, and one hundred is among them once.
-/

namespace CxlFirmware.Transfer

variable {config : Config} {image : Image} {plan : Plan} {step : Step}

/-! ## Shares and percentages -/

/-- The count of bytes in the first blocks of an image. -/
def Config.share (config : Config) (image : Image) (count : Nat) : Nat :=
  min (count * config.blockSize) image.size

/-- The share of the image in the first blocks, in percent. -/
def Config.percent (config : Config) (image : Image) (count : Nat) : Nat :=
  config.share image count * 100 / image.size

/-- A further tenth of the image is reached with a block, which was not with any block before. -/
def Config.MarksAt (config : Config) (image : Image) (count : Nat) : Prop :=
  0 < config.percent image count / 10
    ∧ ∀ earlier < count, 0 < earlier →
      config.percent image earlier / 10 < config.percent image count / 10

instance : DecidablePred (config.MarksAt image) :=
  fun count => inferInstanceAs (Decidable (0 < config.percent image count / 10 ∧ _))

/-- The report on the first blocks of an image, the last of which is in the step. -/
def Config.report (config : Config) (image : Image) (plan : Plan) (step : Step) (count : Nat) :
    Progress where
  step := count
  totalSteps := plan.steps.length
  action := step.action
  bytesSent := config.share image count
  totalBytes := image.size

namespace Config

theorem share_mono (config : Config) (image : Image) :
  Monotone (config.share image)
  := by
  intro count count' hcount
  have hblocks := Nat.mul_le_mul_right config.blockSize hcount
  rw [share, share]
  omega

theorem percent_mono (config : Config) (image : Image) :
  Monotone (config.percent image)
  := by
  intro count count' hcount
  apply Nat.div_le_div_right
  apply Nat.mul_le_mul_right
  exact config.share_mono image hcount

@[simp]
theorem share_zero (config : Config) (image : Image) :
  config.share image 0 = 0
  := by
  rw [share, Nat.zero_mul, Nat.zero_min]

@[simp]
theorem percent_zero (config : Config) (image : Image) :
  config.percent image 0 = 0
  := by
  rw [percent, share_zero, Nat.zero_mul, Nat.zero_div]

theorem share_le (config : Config) (image : Image) (count : Nat) :
  config.share image count ≤ image.size
  := Nat.min_le_right _ _

theorem percent_le (config : Config) (image : Image) (count : Nat) :
  config.percent image count ≤ 100
  := by
  apply Nat.div_le_of_le_mul
  exact Nat.mul_le_mul_right 100 (config.share_le image count)

/-- All of the image is the whole of it. -/
theorem percent_eq_hundred {count : Nat} :
  config.percent image count = 100 ↔ config.share image count = image.size
  := by
  have hpos := image.size_pos
  constructor
  · intro h
    have hall := Nat.mul_le_of_le_div _ _ _ h.ge
    have hle := config.share_le image count
    omega
  · intro h
    rw [percent, h]
    exact Nat.mul_div_cancel_left 100 hpos

/-- A block marks a further tenth when the block right before it does not reach that tenth. -/
theorem marksAt_succ_iff {count : Nat} :
  config.MarksAt image (count + 1)
    ↔ config.percent image count / 10 < config.percent image (count + 1) / 10
  := by
  constructor
  · rintro ⟨hpos, hearlier⟩
    cases count with
    | zero => rwa [percent_zero]
    | succ count => exact hearlier _ (Nat.lt_succ_self _) (Nat.succ_pos _)
  · intro h
    constructor
    · exact Nat.zero_lt_of_lt h
    · intro earlier hearlier _
      apply lt_of_le_of_lt _ h
      apply Nat.div_le_div_right
      apply config.percent_mono image
      exact Nat.le_of_lt_succ hearlier

/-- The report gives the share of the image, since its product fits the word. -/
theorem percent_report (hsize : image.size * 100 < UInt64.size) (plan : Plan) (step : Step)
    (count : Nat) :
  (config.report image plan step count).percent = config.percent image count
  := by
  have hfits : config.share image count * 100 < UInt64.size := by
    apply lt_of_le_of_lt _ hsize
    exact Nat.mul_le_mul_right 100 (config.share_le image count)
  change (if image.size = 0 then 100
    else config.share image count * 100 % UInt64.size / image.size) = _
  rw [if_neg image.size_pos.ne', Nat.mod_eq_of_lt hfits, percent]

/-- The first blocks of a plan have the share of the image. -/
theorem length_take_data (hplan : config.plan image = .ok plan) {count : Nat}
    (hcount : count ≤ plan.steps.length) :
  ((plan.steps.take count).flatMap Step.data).length = config.share image count
  := by
  rw [config.plan_take_data hplan hcount, List.length_take, share, Image.size]

/-- The block of a step adds to the share of the image. -/
theorem share_succ (hplan : config.plan image = .ok plan) {count : Nat}
    (hstep : plan.steps[count]? = some step) :
  config.share image (count + 1) = config.share image count + step.data.length
  := by
  obtain ⟨hlt, rfl⟩ := List.getElem?_eq_some_iff.mp hstep
  rw [← length_take_data hplan hlt, ← length_take_data hplan (Nat.le_of_lt hlt),
    List.take_succ_eq_append_getElem hlt, List.flatMap_append, List.length_append,
    List.flatMap_singleton]

end Config

/-! ## Marks -/

/-- The percentages of the milestones that the first blocks mark. -/
def Config.marks (config : Config) (image : Image) (count : Nat) : List Nat :=
  ((List.range' 1 count).filter (config.MarksAt image)).map fun block =>
    config.percent image block / 10 * 10

theorem Config.mem_marks {count mark : Nat} :
  mark ∈ config.marks image count
    ↔ ∃ block, 0 < block ∧ block ≤ count ∧ config.MarksAt image block
      ∧ config.percent image block / 10 * 10 = mark
  := by
  simp only [marks, List.mem_map, List.mem_filter, List.mem_range'_1, decide_eq_true_iff]
  constructor
  · rintro ⟨block, ⟨⟨hpos, hle⟩, hmarks⟩, hmark⟩
    exact ⟨block, hpos, by omega, hmarks, hmark⟩
  · rintro ⟨block, hpos, hle, hmarks, hmark⟩
    exact ⟨block, ⟨⟨hpos, by omega⟩, hmarks⟩, hmark⟩

/-- Later milestones have larger percentages. -/
theorem Config.pairwise_marks (config : Config) (image : Image) (count : Nat) :
  (config.marks image count).Pairwise (· < ·)
  := by
  rw [marks, List.pairwise_map, List.pairwise_filter]
  apply (List.pairwise_lt_range' 1).imp_of_mem
  intro block later hblock _ hlt _ hlater
  have hpos := (List.mem_range'_1.mp hblock).1
  have hmarks := (of_decide_eq_true hlater).2 block hlt hpos
  omega

/-- Blocks that carry all of the image mark one milestone that says so. -/
theorem Config.count_marks_hundred {count : Nat} (h : config.percent image count = 100) :
  (config.marks image count).count 100 = 1
  := by
  have hnodup : (config.marks image count).Nodup :=
    (config.pairwise_marks image count).imp Nat.ne_of_lt
  apply List.count_eq_one_of_mem hnodup
  have hreached : ∃ block, config.percent image block = 100 := ⟨count, h⟩
  -- The milestone is marked by the first block with which all of the image is carried.
  have hfirst := Nat.find_spec hreached
  apply config.mem_marks.mpr
  refine ⟨Nat.find hreached, ?_, Nat.find_min' hreached h, ⟨?_, ?_⟩, ?_⟩
  · apply Nat.pos_of_ne_zero
    intro hzero
    rw [hzero, percent_zero] at hfirst
    cases hfirst
  · rw [hfirst]
    decide
  · intro earlier hearlier _
    have hle := config.percent_le image earlier
    have hother := Nat.find_min hreached hearlier
    rw [hfirst]
    omega
  · rw [hfirst]

theorem percents_reports (hsize : image.size * 100 < UInt64.size) (plan : Plan)
    (confirmed : List Step) :
  ((confirmed.zipIdx 1).map fun (step, count) => config.report image plan step count).map
      Progress.percent
    = (List.range' 1 confirmed.length).map (config.percent image)
  := by
  rw [List.map_map, ← List.zipIdx_map_snd, List.map_map]
  apply List.map_congr_left
  rintro ⟨step, count⟩ -
  exact config.percent_report hsize plan step count

/-- The last report gives all of the image exactly when all of it is carried. -/
theorem getLast?_percents (hplan : config.plan image = .ok plan) {confirmed : List Step}
    (hconfirmed : confirmed <+: plan.steps) :
  ((List.range' 1 confirmed.length).map (config.percent image)).getLast? = some 100
    ↔ confirmed.flatMap Step.data = image.data
  := by
  have htake := List.prefix_iff_eq_take.mp hconfirmed
  have hdata : (confirmed.flatMap Step.data).length = config.share image confirmed.length := by
    rw [← config.length_take_data hplan hconfirmed.length_le, ← htake]
  have hprefix : confirmed.flatMap Step.data <+: image.data := by
    rw [htake, config.plan_take_data hplan hconfirmed.length_le]
    apply List.take_prefix
  have hwhole : config.percent image confirmed.length = 100
      ↔ confirmed.flatMap Step.data = image.data := by
    rw [config.percent_eq_hundred, ← hdata]
    constructor
    · exact hprefix.eq_of_length
    · exact congrArg List.length
  rw [List.getLast?_map, List.getLast?_range']
  cases confirmed with
  | nil => simp [image.nonempty.symm]
  | cons step rest =>
      rw [← hwhole, if_neg (List.length_pos_of_mem List.mem_cons_self).ne', Nat.add_sub_cancel_left]
      apply Option.some_inj

end CxlFirmware.Transfer
