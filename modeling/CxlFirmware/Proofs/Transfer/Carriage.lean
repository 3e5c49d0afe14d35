import Mathlib.Tactic.Use
import CxlFirmware.Proofs.Codec
import CxlFirmware.Transfer.Plan

/-!
# What a plan carries

`Carries blockSize index steps data` says that the steps carry the data in blocks of one
size, from block number `index` on: each step has its number and its offset, all blocks but
the last one are full, and the last one ends the transfer.  Every plan of a whole image
carries the image from block number zero on.  The steps of a plan are numbered, none of them
is an abort, and no two of them have the same offset.
-/

namespace CxlFirmware.Transfer

/-- Steps that carry data in blocks, from block number `index` on. -/
inductive Carries (blockSize : Nat) : Nat → List Step → Bytes → Prop
  | last {index : Nat} {offset : UInt32} {data : Bytes}
      (hoffset : offset.toNat = index * blockSize / TransferRequest.unit)
      (hpos : 0 < data.length) (hlength : data.length ≤ blockSize) :
      Carries blockSize index [⟨index, .end, offset, data⟩] data
  | more {index : Nat} {offset : UInt32} {block data : Bytes} {rest : List Step}
      (hoffset : offset.toNat = index * blockSize / TransferRequest.unit)
      (hlength : block.length = blockSize)
      (hrest : Carries blockSize (index + 1) rest data) :
      Carries blockSize index
        (⟨index, if index = 0 then .initiate else .continue, offset, block⟩ :: rest)
        (block ++ data)

theorem validateBlockSize_eq_ok {blockSize : Nat} (h : validateBlockSize blockSize = .ok ()) :
  0 < blockSize ∧ TransferRequest.unit ∣ blockSize
  := by
  rw [validateBlockSize] at h
  split at h
  · cases h
  · rename_i hsize
    obtain ⟨hpos, hdvd⟩ := not_or.mp hsize
    constructor
    · exact Nat.pos_of_ne_zero hpos
    · exact Nat.dvd_of_mod_eq_zero (Decidable.not_not.mp hdvd)

theorem offsetOf_eq_ok {position : Nat} {offset : UInt32} (h : offsetOf position = .ok offset) :
  offset.toNat = position / TransferRequest.unit
  := by
  rw [offsetOf] at h
  split at h
  · rename_i hfits
    cases h
    exact UInt32.toNat_ofNat_of_lt' hfits
  · cases h

theorem number_cons {blockSize last index : Nat} {block : Bytes} {rest : List Bytes}
    {steps : List Step} (h : Plan.number blockSize last index (block :: rest) = .ok steps) :
  ∃ offset steps', offset.toNat = index * blockSize / TransferRequest.unit
    ∧ Plan.number blockSize last (index + 1) rest = .ok steps'
    ∧ steps = ⟨index, Plan.actionAt last index, offset, block⟩ :: steps'
  := by
  rw [Plan.number] at h
  cases hoffset : offsetOf (index * blockSize) with
  | error error =>
      rw [hoffset] at h
      cases h
  | ok offset =>
      rw [hoffset] at h
      cases hrest : Plan.number blockSize last (index + 1) rest with
      | error error =>
          rw [hrest] at h
          cases h
      | ok steps' =>
          rw [hrest] at h
          cases h
          exact ⟨offset, steps', offsetOf_eq_ok hoffset, rfl, rfl⟩

/-- The numbered blocks of data are steps that carry the data. -/
theorem carries_number {blockSize last : Nat} (count index : Nat) {data : Bytes}
    {steps : List Step} (hlast : index + count = last)
    (hlower : count * blockSize < data.length) (hupper : data.length ≤ (count + 1) * blockSize)
    (h : Plan.number blockSize last index (blocks blockSize (count + 1) data) = .ok steps) :
  Carries blockSize index steps data
  := by
  induction count generalizing index data steps with
  | zero =>
      rw [Nat.zero_mul] at hlower
      rw [Nat.zero_add, Nat.one_mul] at hupper
      obtain ⟨offset, steps', hoffset, hrest, rfl⟩ := number_cons h
      cases hrest
      rw [Nat.add_zero] at hlast
      rw [List.take_of_length_le hupper, Plan.actionAt, if_pos hlast]
      exact .last hoffset hlower hupper
  | succ count ih =>
      rw [Nat.add_mul, Nat.one_mul] at hlower hupper
      obtain ⟨offset, steps', hoffset, hrest, rfl⟩ := number_cons h
      have hlength : (data.take blockSize).length = blockSize := by
        rw [List.length_take]
        omega
      have hcarries : Carries blockSize (index + 1) steps' (data.drop blockSize) := by
        apply ih (index + 1) _ _ _ hrest
        · omega
        · rw [List.length_drop]
          omega
        · rw [List.length_drop]
          omega
      have hmore := Carries.more hoffset hlength hcarries
      rw [List.take_append_drop] at hmore
      rw [Plan.actionAt, if_neg (by omega)]
      exact hmore

/-- The plan of a whole image has its numbered blocks as steps. -/
theorem whole_eq_ok {image : Image} {blockSize : Nat} {plan : Plan}
    (h : Plan.whole image blockSize = .ok plan) :
  validateBlockSize blockSize = .ok () ∧ plan.totalBytes = image.size
    ∧ Plan.number blockSize ((image.size + blockSize - 1) / blockSize - 1) 0
        (blocks blockSize ((image.size + blockSize - 1) / blockSize) image.data) = .ok plan.steps
  := by
  rw [Plan.whole] at h
  cases hblock : validateBlockSize blockSize with
  | error error =>
      rw [hblock] at h
      cases h
  | ok _ =>
      rw [hblock] at h
      dsimp only at h
      split at h
      · cases h
      · rename_i hsteps
        cases h
        exact ⟨rfl, rfl, hsteps⟩

/-- The plan of a whole image carries the image. -/
theorem carries_whole {image : Image} {blockSize : Nat} {plan : Plan}
    (h : Plan.whole image blockSize = .ok plan) :
  Carries blockSize 0 plan.steps image.data
  := by
  obtain ⟨hblock, -, hsteps⟩ := whole_eq_ok h
  obtain ⟨hpos, -⟩ := validateBlockSize_eq_ok hblock
  have himage := image.size_pos
  -- There is a block, since the image is not empty.
  obtain ⟨last, hlast⟩ : ∃ last, (image.size + blockSize - 1) / blockSize = last + 1 := by
    apply Nat.exists_eq_add_one.mpr
    apply Nat.div_pos _ hpos
    omega
  have hlower : last * blockSize < image.size := by
    have hdiv := Nat.div_mul_le_self (image.size + blockSize - 1) blockSize
    rw [hlast, Nat.add_mul] at hdiv
    omega
  have hupper : image.size ≤ (last + 1) * blockSize := by
    have hdiv := Nat.lt_div_mul_add hpos (a := image.size + blockSize - 1)
    rw [hlast] at hdiv
    omega
  rw [hlast, Nat.add_sub_cancel] at hsteps
  exact carries_number last 0 (Nat.zero_add last) hlower hupper hsteps

/-- The count of bytes in some steps. -/
def byteCount : List Step → Nat
  | [] => 0
  | step :: rest => step.data.length + byteCount rest

namespace Carries

variable {blockSize index : Nat} {steps : List Step} {data : Bytes}

theorem ne_nil (h : Carries blockSize index steps data) :
  steps ≠ []
  := by
  cases h with
  | last hoffset hpos hlength => exact List.cons_ne_nil _ _
  | more hoffset hlength hrest => exact List.cons_ne_nil _ _

/-- The blocks have as many bytes as the data that they carry. -/
theorem byteCount_eq (h : Carries blockSize index steps data) :
  byteCount steps = data.length
  := by
  induction h with
  | last hoffset hpos hlength => rfl
  | more hoffset hlength hrest ih =>
      rw [List.length_append, ← ih, byteCount]

theorem length_pos (h : Carries blockSize index steps data) :
  0 < data.length
  := by
  induction h with
  | last hoffset hpos hlength => exact hpos
  | more hoffset hlength hrest ih =>
      rw [List.length_append]
      omega

/-- The first blocks are the beginning of the data. -/
theorem take_data (h : Carries blockSize index steps data) {count : Nat}
    (hcount : count ≤ steps.length) :
  (steps.take count).flatMap Step.data = data.take (count * blockSize)
  := by
  induction h generalizing count with
  | @last index offset data hoffset hpos hlength =>
      cases count with
      | zero => rw [Nat.zero_mul, List.take_zero, List.take_zero, List.flatMap_nil]
      | succ count =>
          have hall : data.length ≤ (count + 1) * blockSize := by
            apply Nat.le_trans hlength
            apply Nat.le_mul_of_pos_left _ (Nat.succ_pos count)
          rw [List.take_succ_cons, List.take_nil, List.take_of_length_le hall,
            List.flatMap_singleton]
  | more hoffset hlength hrest ih =>
      cases count with
      | zero => rw [Nat.zero_mul, List.take_zero, List.take_zero, List.flatMap_nil]
      | succ count =>
          rw [List.take_succ_cons, List.flatMap_cons, ih (Nat.le_of_succ_le_succ hcount),
            Nat.succ_mul, Nat.add_comm, ← hlength, List.take_length_add_append]

/-- The steps are numbered and placed one after another, and none of them is an abort. -/
theorem step_eq (h : Carries blockSize index steps data) {i : Nat} {step : Step}
    (hstep : steps[i]? = some step) :
  step.index = index + i ∧ step.offset.toNat = (index + i) * blockSize / TransferRequest.unit
    ∧ step.action ≠ .abort
  := by
  induction h generalizing i with
  | last hoffset hpos hlength =>
      cases i with
      | zero =>
          cases hstep
          exact ⟨rfl, hoffset, nofun⟩
      | succ i => cases hstep
  | @more index offset block data rest hoffset hlength hrest ih =>
      cases i with
      | zero =>
          cases hstep
          constructor
          · rfl
          · constructor
            · exact hoffset
            · split
              · nofun
              · nofun
      | succ i =>
          have hih := ih hstep
          rw [Nat.add_assoc, Nat.add_comm 1 i] at hih
          exact hih

/-- No step but the last one ends the transfer. -/
theorem action_ne_end (h : Carries blockSize index steps data) {before after : List Step}
    {step : Step} (hsteps : steps = before ++ step :: after) :
  ∀ earlier ∈ before, earlier.action ≠ .end
  := by
  induction h generalizing before with
  | last hoffset hpos hlength =>
      cases before with
      | nil => nofun
      | cons first before => simp at hsteps
  | more hoffset hlength hrest ih =>
      cases before with
      | nil => nofun
      | cons first before =>
          obtain ⟨rfl, hrest⟩ := List.cons.inj hsteps
          rw [List.forall_mem_cons]
          constructor
          · dsimp only
            split
            · nofun
            · nofun
          · exact ih hrest

end Carries

/-! ## The plan of a transfer -/

section

variable {config : Config} {image : Image} {plan : Plan}

/-- A plan carries the image, or it is the plan of a mock transfer. -/
theorem Config.plan_cases (hplan : config.plan image = .ok plan) :
  (config.mock = false ∧ Carries config.blockSize 0 plan.steps image.data)
    ∨ config.mock = true ∧ plan.steps = [⟨0, .initiate, 0, image.data.take config.blockSize⟩]
  := by
  rw [Config.plan] at hplan
  cases hmock : config.mock with
  | false =>
      rw [hmock] at hplan
      exact .inl ⟨rfl, carries_whole hplan⟩
  | true =>
      rw [hmock, if_pos rfl, Plan.mock] at hplan
      right
      split at hplan
      · cases hplan
      · cases hplan
        exact ⟨rfl, rfl⟩

theorem Config.plan_totalBytes (hplan : config.plan image = .ok plan) :
  plan.totalBytes = image.size
  := by
  rw [Config.plan] at hplan
  split at hplan
  · rw [Plan.mock] at hplan
    split at hplan
    · cases hplan
    · cases hplan
      rfl
  · obtain ⟨-, htotal, -⟩ := whole_eq_ok hplan
    exact htotal

/-- The first blocks of a plan are the beginning of the image. -/
theorem Config.plan_take_data (hplan : config.plan image = .ok plan) {count : Nat}
    (hcount : count ≤ plan.steps.length) :
  (plan.steps.take count).flatMap Step.data = image.data.take (count * config.blockSize)
  := by
  rcases config.plan_cases hplan with ⟨-, hcarries⟩ | ⟨-, hsteps⟩
  · exact hcarries.take_data hcount
  · rw [hsteps] at hcount ⊢
    cases count with
    | zero => rw [Nat.zero_mul, List.take_zero, List.take_zero, List.flatMap_nil]
    | succ count =>
        obtain rfl := Nat.le_zero.mp (Nat.le_of_succ_le_succ hcount)
        rw [Nat.zero_add, Nat.one_mul, List.take_succ_cons, List.take_nil, List.flatMap_singleton]

theorem Config.plan_ne_nil (hplan : config.plan image = .ok plan) :
  plan.steps ≠ []
  := by
  rcases config.plan_cases hplan with ⟨-, hcarries⟩ | ⟨-, hsteps⟩
  · exact hcarries.ne_nil
  · rw [hsteps]
    exact List.cons_ne_nil _ _

/-- The steps of a plan before one of its steps do not end the transfer. -/
theorem Config.plan_action_ne_end (hplan : config.plan image = .ok plan)
    {before after : List Step} {step : Step} (hsteps : plan.steps = before ++ step :: after) :
  ∀ earlier ∈ before, earlier.action ≠ .end
  := by
  rcases config.plan_cases hplan with ⟨-, hcarries⟩ | ⟨-, hmock⟩
  · exact hcarries.action_ne_end hsteps
  · rw [hmock] at hsteps
    cases before with
    | nil => nofun
    | cons first before => simp at hsteps

/-- A plan that is not of a mock transfer carries the image. -/
theorem Config.plan_carries (hplan : config.plan image = .ok plan) (hmock : config.mock = false) :
  Carries config.blockSize 0 plan.steps image.data
  := by
  rcases config.plan_cases hplan with ⟨-, hcarries⟩ | ⟨hmock', -⟩
  · exact hcarries
  · cases hmock.symm.trans hmock'

theorem Config.plan_byteCount (hplan : config.plan image = .ok plan)
    (hmock : config.mock = false) :
  byteCount plan.steps = image.size
  := (config.plan_carries hplan hmock).byteCount_eq

theorem Config.plan_step (hplan : config.plan image = .ok plan) {i : Nat} {step : Step}
    (hstep : plan.steps[i]? = some step) :
  step.index = i ∧ step.offset.toNat = i * config.blockSize / TransferRequest.unit
    ∧ step.action ≠ .abort
  := by
  rcases config.plan_cases hplan with ⟨-, hcarries⟩ | ⟨-, hsteps⟩
  · have hstep := hcarries.step_eq hstep
    rw [Nat.zero_add] at hstep
    exact hstep
  · rw [hsteps] at hstep
    cases i with
    | zero =>
        cases hstep
        rw [Nat.zero_mul]
        exact ⟨rfl, rfl, nofun⟩
    | succ i => cases hstep

theorem Config.plan_action_ne_abort (hplan : config.plan image = .ok plan) :
  ∀ step ∈ plan.steps, step.action ≠ .abort
  := by
  intro step hstep
  obtain ⟨i, hi⟩ := List.mem_iff_getElem?.mp hstep
  exact (config.plan_step hplan hi).2.2

/-- No two steps of a plan have the same offset. -/
theorem Config.plan_offset_injective (hvalid : validateBlockSize config.blockSize = .ok ())
    (hplan : config.plan image = .ok plan) {i j : Nat} {step step' : Step}
    (hi : plan.steps[i]? = some step) (hj : plan.steps[j]? = some step')
    (h : step.offset = step'.offset) :
  i = j
  := by
  obtain ⟨hpos, count, hcount⟩ := validateBlockSize_eq_ok hvalid
  have hpos : 0 < count := by
    apply Nat.pos_of_ne_zero
    rintro rfl
    omega
  obtain ⟨-, hoffset, -⟩ := config.plan_step hplan hi
  obtain ⟨-, hoffset', -⟩ := config.plan_step hplan hj
  have hplace : ∀ n : Nat, n * config.blockSize / TransferRequest.unit = n * count := by
    intro n
    rw [hcount, Nat.mul_left_comm]
    exact Nat.mul_div_cancel_left _ (Nat.zero_lt_succ 127)
  rw [hplace] at hoffset hoffset'
  rw [h, hoffset'] at hoffset
  exact Nat.eq_of_mul_eq_mul_right hpos hoffset.symm

theorem unit_le_of_validate {blockSize : Nat} (h : validateBlockSize blockSize = .ok ()) :
  TransferRequest.unit ≤ blockSize
  := by
  obtain ⟨hpos, hdvd⟩ := validateBlockSize_eq_ok h
  exact Nat.le_of_dvd hpos hdvd

/-- A plan has a valid block size. -/
theorem Config.plan_blockSize (hplan : config.plan image = .ok plan) :
  validateBlockSize config.blockSize = .ok ()
  := by
  rw [Config.plan] at hplan
  cases hsize : validateBlockSize config.blockSize with
  | ok _ => rfl
  | error error =>
      split at hplan
      · rw [Plan.mock, hsize] at hplan
        cases hplan
      · rw [Plan.whole, hsize] at hplan
        cases hplan

/-- A step that carries data is the last one, or its block is full. -/
theorem Carries.step_data {blockSize index : Nat} {steps : List Step} {data : Bytes}
    (h : Carries blockSize index steps data) {step : Step} (hstep : step ∈ steps) :
  step.action = .end ∨ step.data.length = blockSize
  := by
  induction h with
  | last hoffset hpos hlength =>
      obtain rfl := List.mem_singleton.mp hstep
      exact .inl rfl
  | more hoffset hlength hrest ih =>
      rcases List.mem_cons.mp hstep with rfl | hstep
      · exact .inr hlength
      · exact ih hstep

/-- A step of a plan ends the transfer, or its block has at least the length of a unit, or it
carries the whole of a short image in a mock transfer. -/
theorem Config.plan_step_data (hplan : config.plan image = .ok plan) {step : Step}
    (hstep : step ∈ plan.steps) :
  step.action = .end ∨ TransferRequest.unit ≤ step.data.length
    ∨ config.mock = true ∧ image.size < TransferRequest.unit ∧ step.action = .initiate
      ∧ step.data = image.data
  := by
  have hunit := unit_le_of_validate (config.plan_blockSize hplan)
  rcases config.plan_cases hplan with ⟨-, hcarries⟩ | ⟨hmock, hsteps⟩
  · rcases hcarries.step_data hstep with hend | hfull
    · exact .inl hend
    · rw [hfull]
      exact .inr (.inl hunit)
  · right
    rw [hsteps] at hstep
    obtain rfl := List.mem_singleton.mp hstep
    by_cases hshort : image.size < TransferRequest.unit
    · right
      refine ⟨hmock, hshort, rfl, ?_⟩
      apply List.take_of_length_le
      exact Nat.le_trans (Nat.le_of_lt hshort) hunit
    · left
      rw [List.length_take]
      exact Nat.le_min.mpr ⟨hunit, Nat.not_lt.mp hshort⟩

end

end CxlFirmware.Transfer
