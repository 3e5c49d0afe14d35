import Mathlib.Algebra.Order.Floor.Div
import CxlFirmware.Proofs.Transfer.Cause

/-!
# How a plan splits an image

An image has a plan exactly where the block size is a positive multiple of the unit and the
offset of its last block fits the offset field.  `Plan.Splits image blockSize` says what such
a plan is: there is one step for each block, the steps are numbered, their data is the image,
all blocks but the last one are full, and the offset of each step is the position of its data.
-/

namespace CxlFirmware.Transfer

/-! ## When the blocks are numbered -/

@[simp]
theorem length_blocks (size count : Nat) (data : Bytes) :
  (blocks size count data).length = count
  := by
  induction count generalizing data with
  | zero => rfl
  | succ count ih => rw [blocks, List.length_cons, ih]

theorem validateBlockSize_of_dvd {blockSize : Nat} (hpos : 0 < blockSize)
    (hdvd : TransferRequest.unit ∣ blockSize) :
  validateBlockSize blockSize = .ok ()
  := by
  rw [validateBlockSize, if_neg]
  rintro (hzero | hrest)
  · exact hpos.ne' hzero
  · exact hrest (Nat.mod_eq_zero_of_dvd hdvd)

theorem offsetOf_of_lt {position : Nat} (h : position / TransferRequest.unit < UInt32.size) :
  offsetOf position = .ok (UInt32.ofNat (position / TransferRequest.unit))
  := by
  rw [offsetOf, if_pos h]

variable {blockSize last index : Nat}

/-- Numbering keeps the count of blocks. -/
theorem length_number {blocks : List Bytes} {steps : List Step}
    (h : Plan.number blockSize last index blocks = .ok steps) :
  steps.length = blocks.length
  := by
  induction blocks generalizing index steps with
  | nil =>
      cases h
      rfl
  | cons block rest ih =>
      obtain ⟨offset, steps', -, hrest, rfl⟩ := number_cons h
      rw [List.length_cons, List.length_cons, ih hrest]

/-- Blocks are numbered where the offset of the last of them fits. -/
theorem number_of_fits {limit : Nat} {blocks : List Bytes}
    (hlimit : index + blocks.length ≤ limit + 1)
    (hfits : limit * blockSize / TransferRequest.unit < UInt32.size) :
  ∃ steps, Plan.number blockSize last index blocks = .ok steps
  := by
  induction blocks generalizing index with
  | nil => exact ⟨[], rfl⟩
  | cons block rest ih =>
      rw [List.length_cons] at hlimit
      -- No offset is larger than the last one.
      have hindex : index * blockSize / TransferRequest.unit < UInt32.size := by
        apply lt_of_le_of_lt _ hfits
        apply Nat.div_le_div_right
        apply Nat.mul_le_mul_right
        omega
      have hrest : index + 1 + rest.length ≤ limit + 1 := by omega
      obtain ⟨steps, hsteps⟩ := ih hrest
      rw [Plan.number, offsetOf_of_lt hindex, hsteps]
      exact ⟨_, rfl⟩

/-! ## What the steps are -/

/-- The actions of the steps in a plan of `count` steps. -/
def Plan.actions : (count : Nat) → List Action
  | 0 => []
  | 1 => [.end]
  | count + 2 => .initiate :: (List.replicate count .continue ++ [.end])

/-- Full blocks have as many bytes as their count says. -/
theorem byteCount_of_full {steps : List Step}
    (h : ∀ step ∈ steps, step.data.length = blockSize) :
  byteCount steps = steps.length * blockSize
  := by
  induction steps with
  | nil => rw [byteCount, List.length_nil, Nat.zero_mul]
  | cons step rest ih =>
      obtain ⟨hstep, hrest⟩ := List.forall_mem_cons.mp h
      rw [byteCount, hstep, ih hrest, List.length_cons, Nat.succ_mul, Nat.add_comm]

namespace Carries

variable {steps : List Step} {data : Bytes}

theorem exists_length (h : Carries blockSize index steps data) :
  ∃ count, steps.length = count + 1
  := Nat.exists_eq_add_one.mpr (List.length_pos_iff.mpr h.ne_nil)

/-- The blocks are the data, one behind another. -/
theorem flatMap_data (h : Carries blockSize index steps data) :
  steps.flatMap Step.data = data
  := by
  induction h with
  | last hoffset hpos hlength => apply List.flatMap_singleton
  | more hoffset hlength hrest ih => rw [List.flatMap_cons, ih]

/-- The steps are numbered one after another. -/
theorem map_index (h : Carries blockSize index steps data) :
  steps.map Step.index = List.range' index steps.length
  := by
  induction h with
  | last hoffset hpos hlength => rfl
  | more hoffset hlength hrest ih =>
      rw [List.map_cons, ih, List.length_cons, List.range'_succ]

/-- Behind a first block, all steps but the last one continue. -/
theorem map_action_of_pos (h : Carries blockSize index steps data) (hindex : 0 < index) :
  steps.map Step.action = List.replicate (steps.length - 1) .continue ++ [.end]
  := by
  induction h with
  | last hoffset hpos hlength => rfl
  | @more index offset block data rest hoffset hlength hrest ih =>
      obtain ⟨count, hcount⟩ := hrest.exists_length
      rw [List.map_cons, ih (Nat.succ_pos index), if_neg (Nat.ne_of_gt hindex),
        List.length_cons, hcount]
      rfl

theorem map_action (h : Carries blockSize 0 steps data) :
  steps.map Step.action = Plan.actions steps.length
  := by
  cases h with
  | last hoffset hpos hlength => rfl
  | @more index offset block data rest hoffset hlength hrest =>
      obtain ⟨count, hcount⟩ := hrest.exists_length
      rw [List.map_cons, hrest.map_action_of_pos (Nat.succ_pos 0), if_pos rfl,
        List.length_cons, hcount]
      rfl

/-- All blocks but the last one are full. -/
theorem full (h : Carries blockSize index steps data) :
  ∀ step ∈ steps.dropLast, step.data.length = blockSize
  := by
  induction h with
  | last hoffset hpos hlength => nofun
  | more hoffset hlength hrest ih =>
      rw [List.dropLast_cons_of_ne_nil hrest.ne_nil, List.forall_mem_cons]
      exact ⟨hlength, ih⟩

/-- The last block is not empty and not longer than the others. -/
theorem last_block (h : Carries blockSize index steps data) :
  ∀ step ∈ steps.getLast?, 0 < step.data.length ∧ step.data.length ≤ blockSize
  := by
  induction h with
  | last hoffset hpos hlength =>
      rintro step ⟨⟩
      exact ⟨hpos, hlength⟩
  | more hoffset hlength hrest ih =>
      rw [List.getLast?_cons_of_ne_nil hrest.ne_nil]
      exact ih

/-- The offset of a step is the count of bytes before it, in units. -/
theorem offset_mul_unit (h : Carries blockSize 0 steps data)
    (hdvd : TransferRequest.unit ∣ blockSize) {before after : List Step} {step : Step}
    (hsteps : steps = before ++ step :: after) :
  step.offset.toNat * TransferRequest.unit = byteCount before
  := by
  have hplace : steps[before.length]? = some step := by
    rw [hsteps, List.getElem?_append_right (Nat.le_refl _), Nat.sub_self]
    rfl
  have hbefore : ∀ earlier ∈ before, earlier.data.length = blockSize := by
    intro earlier hearlier
    apply h.full
    rw [hsteps, List.dropLast_append_cons]
    exact List.mem_append_left _ hearlier
  obtain ⟨-, hoffset, -⟩ := h.step_eq hplace
  rw [byteCount_of_full hbefore, hoffset, Nat.zero_add]
  exact Nat.div_mul_cancel (Dvd.dvd.mul_left hdvd _)

/-- Later steps have larger offsets. -/
theorem offset_strictMono (h : Carries blockSize index steps data) (hpos : 0 < blockSize)
    (hdvd : TransferRequest.unit ∣ blockSize) :
  steps.Pairwise (fun step later => step.offset < later.offset)
  := by
  rw [List.pairwise_iff_getElem]
  intro i j hi hj hlt
  obtain ⟨-, hoffset, -⟩ := h.step_eq (List.getElem?_eq_getElem hi)
  obtain ⟨-, hlater, -⟩ := h.step_eq (List.getElem?_eq_getElem hj)
  rw [UInt32.lt_iff_toNat_lt, hoffset, hlater]
  apply Nat.div_lt_div_of_lt_of_dvd (Dvd.dvd.mul_left hdvd _)
  apply Nat.mul_lt_mul_of_pos_right _ hpos
  omega

end Carries

/-! ## What the plan of a whole image is -/

/-- A plan whose steps split an image into blocks of one size. -/
structure Plan.Splits (plan : Plan) (image : Image) (blockSize : Nat) : Prop where
  /-- There is one step for each block. -/
  length : plan.steps.length = image.size ⌈/⌉ blockSize
  count : image.blockCount blockSize = .ok plan.steps.length
  /-- The steps are numbered from zero. -/
  index : plan.steps.map Step.index = List.range plan.steps.length
  action : plan.steps.map Step.action = actions plan.steps.length
  /-- The blocks are the image, one behind another. -/
  data : plan.steps.flatMap Step.data = image.data
  full : ∀ step ∈ plan.steps.dropLast, step.data.length = blockSize
  last : ∀ step ∈ plan.steps.getLast?, 0 < step.data.length ∧ step.data.length ≤ blockSize
  /-- The offset of a step is the position of its data. -/
  place : ∀ before step after, plan.steps = before ++ step :: after →
    step.offset.toNat * TransferRequest.unit = byteCount before
  offset : plan.steps.Pairwise (fun step later => step.offset < later.offset)
  total : plan.totalBytes = image.size

variable {image : Image} {plan : Plan}

theorem length_whole (h : Plan.whole image blockSize = .ok plan) :
  plan.steps.length = image.size ⌈/⌉ blockSize
  := by
  obtain ⟨-, -, hsteps⟩ := whole_eq_ok h
  rw [length_number hsteps, length_blocks, Nat.ceilDiv_eq_add_pred_div]

theorem splits_whole (h : Plan.whole image blockSize = .ok plan) :
  plan.Splits image blockSize
  := by
  obtain ⟨hvalid, htotal, -⟩ := whole_eq_ok h
  obtain ⟨hpos, hdvd⟩ := validateBlockSize_eq_ok hvalid
  have hcarries := carries_whole h
  have hlength := length_whole h
  constructor
  · exact hlength
  · rw [Image.blockCount, if_neg hpos.ne', hlength, Nat.ceilDiv_eq_add_pred_div]
  · rw [hcarries.map_index, List.range_eq_range']
  · exact hcarries.map_action
  · exact hcarries.flatMap_data
  · exact hcarries.full
  · exact hcarries.last_block
  · intro before step after hsteps
    exact hcarries.offset_mul_unit hdvd hsteps
  · exact hcarries.offset_strictMono hpos hdvd
  · exact htotal

/-- The offset of the last block of a plan fits the offset field. -/
theorem fits_of_whole (h : Plan.whole image blockSize = .ok plan) :
  (image.size ⌈/⌉ blockSize - 1) * blockSize / TransferRequest.unit < UInt32.size
  := by
  have hcarries := carries_whole h
  obtain ⟨last, hlength⟩ := hcarries.exists_length
  have hlast : last < plan.steps.length := by omega
  obtain ⟨-, hoffset, -⟩ := hcarries.step_eq (List.getElem?_eq_getElem hlast)
  rw [← length_whole h, hlength, Nat.add_sub_cancel, ← Nat.zero_add last, ← hoffset]
  apply UInt32.toNat_lt_size

/-- There is a plan where the block size passes the check and the last offset fits. -/
theorem whole_of_fits (hpos : 0 < blockSize) (hdvd : TransferRequest.unit ∣ blockSize)
    (hfits : (image.size ⌈/⌉ blockSize - 1) * blockSize / TransferRequest.unit < UInt32.size) :
  ∃ plan, Plan.whole image blockSize = .ok plan
  := by
  rw [Nat.ceilDiv_eq_add_pred_div] at hfits
  rw [Plan.whole, validateBlockSize_of_dvd hpos hdvd]
  dsimp only
  generalize (image.size + blockSize - 1) / blockSize = count at hfits ⊢
  have hcount : 0 + (blocks blockSize count image.data).length ≤ count - 1 + 1 := by
    rw [length_blocks]
    omega
  obtain ⟨steps, hsteps⟩ := number_of_fits hcount hfits
  rw [hsteps]
  exact ⟨_, rfl⟩

/-- An image is refused with a block size as a setting exactly where the block size is not a
positive multiple of the unit or the offset of the last block does not fit the offset field.
Where it is not refused, it has a plan that splits it. -/
theorem Plan.whole_splits_or_refuses (image : Image) (blockSize : Nat) :
  ((∃ text, Plan.whole image blockSize = .error (.config text))
      ↔ blockSize = 0 ∨ ¬ TransferRequest.unit ∣ blockSize
        ∨ 2 ^ 32 - 1 < (image.size ⌈/⌉ blockSize - 1) * blockSize / TransferRequest.unit)
    ∧ ((∃ text, Plan.whole image blockSize = .error (.config text))
      ∨ ∃ plan, Plan.whole image blockSize = .ok plan ∧ plan.Splits image blockSize)
  := by
  constructor
  · constructor
    · rintro ⟨text, hrefused⟩
      by_contra hfits
      push Not at hfits
      obtain ⟨hpos, hdvd, hfits⟩ := hfits
      obtain ⟨plan, hplan⟩ := whole_of_fits (Nat.pos_of_ne_zero hpos) hdvd
        (Nat.lt_of_le_pred (Nat.succ_pos _) hfits)
      cases hrefused.symm.trans hplan
    · intro hfails
      cases hplan : Plan.whole image blockSize with
      | error error =>
          obtain ⟨text, rfl⟩ := config_of_whole hplan
          exact ⟨text, rfl⟩
      | ok plan =>
          obtain ⟨hvalid, -, -⟩ := whole_eq_ok hplan
          obtain ⟨hpos, hdvd⟩ := validateBlockSize_eq_ok hvalid
          rcases hfails with hzero | hrest | hlarge
          · exact absurd hzero hpos.ne'
          · exact absurd hdvd hrest
          · exact absurd (fits_of_whole hplan) (Nat.not_lt.mpr hlarge)
  · cases hplan : Plan.whole image blockSize with
    | error error =>
        obtain ⟨text, rfl⟩ := config_of_whole hplan
        exact .inl ⟨text, rfl⟩
    | ok plan => exact .inr ⟨plan, rfl, splits_whole hplan⟩

/-- An image of three blocks, the last of which is short. -/
def shortEnded : Image :=
  ⟨List.replicate 300 0x5A, none, List.cons_ne_nil _ _⟩

/-- Three blocks for 300 bytes, the last of which has the 44 that are left. -/
example :
  (Plan.whole shortEnded 128).toOption.map (fun plan =>
      plan.steps.map fun step => (step.action, step.offset, step.data.length))
    = some [(.initiate, 0, 128), (.continue, 1, 128), (.end, 2, 44)]
  := by decide +kernel

end CxlFirmware.Transfer
