import CxlFirmware.Proofs.Emulator.Reaction
import CxlFirmware.Proofs.Transfer.Groups

/-!
# Staging

What a device holds once it has taken the steps of a transfer.  The group of a step makes the
device take the step once.  Steps that carry data, taken one after another, leave that data in
the target of the transfer, behind what was staged before.
-/

namespace CxlFirmware

open Transfer (Step Carries)

namespace Emulator

variable {name : String} {config : Config} {clock : Clock Emulator} {transfer : Transfer.Config}
  {step : Step} {steps : List Step} {before after : Emulator} {trace : List Submission}

/-! ## The content along a group -/

/-- Status queries leave the content of the device as it is. -/
theorem keeps_of_status (h : (transport name config clock).Yields before trace after)
    (hstatus : ∀ s ∈ trace, s.command = transfer.statusCommand) :
  Keeps before after
  := by
  have hstep : ∀ s ∈ trace, ∀ device, Keeps before device →
      Keeps before ((transport name config clock).submit s.command device).mailbox := by
    intro s hs device hkeeps
    rw [hstatus s hs]
    apply hkeeps.trans
    apply submit_status_keeps
  apply h.preserves hstep
  exact ⟨rfl, rfl⟩

/-- Blocks that are not answered with success leave the content of the device as it is. -/
theorem keeps_of_waited (hfail : config.Refuses)
    (haction : step.action ≠ .abort) {answers : List Answer}
    (h : (transport name config clock).Yields before
      (answers.map (Submission.mk (transfer.command step))) after)
    (hanswers : ∀ answer ∈ answers, ¬ answer.IsSuccess) :
  Keeps before after
  := by
  induction answers generalizing before with
  | nil =>
      cases h
      exact ⟨rfl, rfl⟩
  | cons answer answers ih =>
      obtain ⟨hanswer, hanswers⟩ := List.forall_mem_cons.mp hanswers
      obtain ⟨hreaction, hrest⟩ := h.uncons
      rcases submit_step_cases name hfail haction before rfl with ⟨hsuccess, -⟩ | ⟨-, hkeeps⟩
      · rw [← hreaction] at hsuccess
        exact absurd hsuccess hanswer
      · exact hkeeps.trans (ih hrest hanswers)

/-- The group of a step makes the device take the step, once. -/
theorem takes_of_group (hfail : config.Refuses)
    (haction : step.action ≠ .abort) (h : (transport name config clock).Yields before trace after)
    (hgroup : transfer.Group step trace) :
  Takes transfer step before after
  := by
  obtain ⟨_, confirmed, rfl, ⟨waited, last, rfl, -, hwaits, hlast⟩, hconfirmed⟩ := hgroup
  rw [List.map_append] at h
  obtain ⟨between, hsent, hstatus⟩ := h.split
  obtain ⟨device, hwaited, hfinal⟩ := hsent.split
  have hkeeps := keeps_of_waited hfail haction hwaited
    (fun answer hanswer => (Mailbox.judges transfer.kind.opcode).exclusive answer
      (hwaits answer hanswer))
  have hkeeps' := keeps_of_status hstatus (fun s hs => hconfirmed.mem_command hs)
  obtain ⟨hreaction, hend⟩ := hfinal.uncons
  cases hend
  rcases submit_step_cases name hfail haction device rfl with ⟨-, htakes⟩ | ⟨hother, -⟩
  · exact (htakes.of_keeps hkeeps).keeps hkeeps'
  · rw [← hreaction] at hother
    exact absurd hlast hother

/-! ## The content along all groups -/

/-- The device takes the steps, one after another. -/
inductive TakesAll (transfer : Transfer.Config) : List Step → Emulator → Emulator → Prop
  | nil (device : Emulator) : TakesAll transfer [] device device
  | cons {step : Step} {rest : List Step} {before between after : Emulator}
      (h : Takes transfer step before between) (hrest : TakesAll transfer rest between after) :
      TakesAll transfer (step :: rest) before after

theorem TakesAll.uncons (h : TakesAll transfer (step :: steps) before after) :
  ∃ between, Takes transfer step before between ∧ TakesAll transfer steps between after
  := by
  cases h with
  | cons h hrest => exact ⟨_, h, hrest⟩

/-- The groups of steps make the device take the steps. -/
theorem takesAll_of_groups (hfail : config.Refuses)
    (haction : ∀ step ∈ steps, step.action ≠ .abort) {groups : List (List Submission)}
    (h : (transport name config clock).Yields before groups.flatten after)
    (hgroups : List.Forall₂ transfer.Group steps groups) :
  TakesAll transfer steps before after
  := by
  induction hgroups generalizing before with
  | nil =>
      cases h
      exact .nil _
  | cons hgroup hgroups ih =>
      obtain ⟨hstep, hrest⟩ := List.forall_mem_cons.mp haction
      obtain ⟨between, hfirst, hsecond⟩ := h.split
      exact .cons (takes_of_group hfail hstep hfirst hgroup) (ih hrest hsecond)

/-- A complete transfer makes the device take all steps of its plan. -/
theorem takesAll_of_completed (hfail : config.Refuses) {device : String} {image : Image}
    {blocks bytes : Nat}
    (h : (Transfer.run (transport name config clock) device transfer image before).result
      = .ok (.ok (.completed blocks bytes))) :
  ∃ plan, transfer.plan image = .ok plan ∧ transfer.mock = false
    ∧ TakesAll transfer plan.steps before
      (Transfer.run (transport name config clock) device transfer image before).mailbox
  := by
  obtain ⟨hmock, plan, groups, hplan, hgroups, hpath⟩ := Transfer.groups_of_completed h
  use plan, hplan, hmock
  apply takesAll_of_groups hfail _ hpath hgroups
  exact transfer.plan_action_ne_abort hplan

variable {blockSize index : Nat} {staged data : Bytes}

/-- Behind a first block, the steps put the rest of the data behind what is staged. -/
theorem content_of_rest (hcarries : Carries blockSize index steps data)
    (htakes : TakesAll transfer steps before after) (hindex : 0 < index)
    (hstaging : before.staging = some ⟨transfer.kind.opcode, transfer.slot, staged⟩) :
  after.staging = none ∧ after.state = before.state.store transfer (.ofData (staged ++ data))
  := by
  -- What is staged grows by one block in each step, and is committed with the last one.
  induction hcarries generalizing before staged with
  | last hoffset hpos hlength =>
      obtain ⟨between, htake, hend⟩ := htakes.uncons
      cases hend
      constructor
      · rw [htake.staging, if_pos rfl]
      · rw [htake.state, if_pos rfl, hstaging]
        apply commit_eq_store
  | @more index offset block data rest hoffset hlength hrest ih =>
      rw [if_neg (Nat.ne_of_gt hindex)] at htakes
      obtain ⟨between, htake, hafter⟩ := htakes.uncons
      have hnext := htake.staging
      rw [if_neg (by simp), hstaging] at hnext
      obtain ⟨hnone, hstate⟩ := ih hafter (Nat.succ_pos index) hnext
      constructor
      · exact hnone
      · rw [hstate, htake.state, if_neg (by simp), List.append_assoc]

/-- Several steps leave their data in the target. -/
theorem content_of_many (hcarries : Carries blockSize 0 steps data)
    (htakes : TakesAll transfer steps before after) (hmany : blockSize < data.length) :
  before.state.Allows transfer ∧ after.staging = none
    ∧ after.state = before.state.store transfer (.ofData data)
  := by
  cases hcarries with
  | last hoffset hpos hlength => exact absurd hmany (Nat.not_lt.mpr hlength)
  | more hoffset hlength hrest =>
      rw [if_pos rfl] at htakes
      obtain ⟨between, htake, hafter⟩ := htakes.uncons
      have hnext := htake.staging
      rw [if_neg (by simp)] at hnext
      rw [extend_initiate] at hnext
      obtain ⟨hnone, hstate⟩ := content_of_rest hrest hafter (Nat.succ_pos 0) hnext
      rw [htake.state, if_neg (by simp)] at hstate
      exact ⟨htake.target, hnone, hstate⟩

/-- A single step leaves its data in the target, behind a short rest that was staged for the
same target, if there was any. -/
theorem content_of_single (hcarries : Carries blockSize 0 steps data)
    (htakes : TakesAll transfer steps before after) (hsingle : data.length ≤ blockSize) :
  before.state.Allows transfer ∧ after.staging = none
    ∧ ((before.staging = none ∧ after.state = before.state.store transfer (.ofData data))
      ∨ ∃ staged, before.staging = some ⟨transfer.kind.opcode, transfer.slot, staged⟩
        ∧ staged.length < TransferRequest.unit
        ∧ after.state = before.state.store transfer (.ofData (staged ++ data)))
  := by
  cases hcarries with
  | last hoffset hpos hlength =>
      obtain ⟨between, htake, hend⟩ := htakes.uncons
      cases hend
      have hnone := htake.staging
      have hstate := htake.state
      have hplace := htake.offset
      rw [if_pos rfl] at hnone hstate
      rw [hoffset, Nat.zero_mul, Nat.zero_div] at hplace
      refine ⟨htake.target, hnone, ?_⟩
      rcases hstaging : before.staging with _ | ⟨opcode, slot, staged⟩
      · left
        rw [hstaging] at hstate
        rw [hstate]
        exact ⟨rfl, commit_eq_store _ _ _⟩
      · right
        rw [hstaging] at hstate hplace
        simp only [expectedOffset] at hplace
        split at hplace
        · rename_i hsame
          obtain ⟨rfl, rfl⟩ := hsame
          use staged, rfl
          constructor
          · exact Nat.lt_of_div_eq_zero (Nat.zero_lt_succ 127) (Option.some.inj hplace)
          · rw [hstate]
            exact commit_eq_store _ _ _
        · cases hplace
  | more hoffset hlength hrest =>
      have hpos := hrest.length_pos
      rw [List.length_append] at hsingle
      omega

/-- Where nothing is staged, the steps leave their data in the target. -/
theorem content_of_idle (hcarries : Carries blockSize 0 steps data)
    (htakes : TakesAll transfer steps before after) (hidle : before.staging = none) :
  before.state.Allows transfer ∧ after.staging = none
    ∧ after.state = before.state.store transfer (.ofData data)
  := by
  rcases Nat.lt_or_ge blockSize data.length with hmany | hsingle
  · apply content_of_many hcarries htakes hmany
  · obtain ⟨htarget, hnone, ⟨-, hstate⟩ | ⟨staged, hstaged, -⟩⟩ := content_of_single hcarries
      htakes hsingle
    · exact ⟨htarget, hnone, hstate⟩
    · cases hidle.symm.trans hstaged

end Emulator

end CxlFirmware
