import CxlFirmware.Proofs.Emulator.Atomicity

/-!
# The slots of a device

What any commands leave of the slots of a device.  A command stores an image in a slot that
does not run, or activates a filled slot, or leaves the lasting state as it is.  So the image
that runs is not written over, no slot is added, removed or emptied, and the slots that run
now and after a reset stay filled.
-/

namespace CxlFirmware

namespace Emulator

namespace State

/-- The slot at an index, counted from zero, holds an image. -/
def Filled (state : State) (index : Nat) : Prop :=
  ∃ image, state.slots[index]? = some (some image)

/-- The slot that runs is filled, and so is the slot that runs after the next reset, if there
is one. -/
def Bootable (state : State) : Prop :=
  (state.slot? state.activeSlot).isSome
    ∧ (state.stagedSlot = 0 ∨ (state.slot? state.stagedSlot).isSome)

/-- No slot is added, removed or emptied, and the slots that run stay filled. -/
structure Conserves (before after : State) : Prop where
  length : after.slots.length = before.slots.length
  filled : ∀ index, before.Filled index → after.Filled index
  bootable : before.Bootable → after.Bootable

theorem isSome_slot? {state : State} {slot : UInt8} :
  (state.slot? slot).isSome ↔ ∃ index, slot.toNat = index + 1 ∧ state.Filled index
  := by
  rw [slot?]
  cases hslot : slot.toNat with
  | zero => simp
  | succ index =>
      simp only [Nat.add_right_cancel_iff, exists_eq_left', Filled]
      rcases state.slots[index]? with _ | _ | image
      · simp
      · simp
      · simp

theorem Conserves.refl (state : State) :
  state.Conserves state
  := ⟨rfl, fun _ h => h, fun h => h⟩

theorem Conserves.trans {before between after : State} (h : before.Conserves between)
    (h' : between.Conserves after) :
  before.Conserves after
  := by
  constructor
  · exact h'.length.trans h.length
  · exact fun index hfilled => h'.filled index (h.filled index hfilled)
  · exact fun hbootable => h'.bootable (h.bootable hbootable)

/-! ## States with another image or another slot that runs -/

theorem isSome_slot?_mono {before after : State} {slot : UInt8}
    (h : ∀ index, before.Filled index → after.Filled index) (hslot : (before.slot? slot).isSome) :
  (after.slot? slot).isSome
  := by
  obtain ⟨index, hindex, hfilled⟩ := isSome_slot?.mp hslot
  exact isSome_slot?.mpr ⟨index, hindex, h index hfilled⟩

theorem target_eq_slot? {transfer : Transfer.Config} (h : ¬ transfer.kind = .osImage)
    (state : State) :
  state.target transfer = state.slot? transfer.slot
  := by
  rw [target]
  cases hkind : transfer.kind with
  | osImage => exact absurd hkind h
  | specDefined => rfl
  | vendorBackground => rfl

/-- Storing an image in a target that may be written conserves the slots. -/
theorem conserves_store {transfer : Transfer.Config} {state : State}
    (h : state.Allows transfer) (image : SlotImage) :
  state.Conserves (state.store transfer image)
  := by
  have hagrees := agreesBeside_store h image
  have hfilled : ∀ index, state.Filled index → (state.store transfer image).Filled index := by
    rintro index ⟨image', himage⟩
    by_cases hother : transfer.kind = .osImage ∨ index + 1 ≠ transfer.slot.toNat
    · exact ⟨image', (hagrees.slots index hother).trans himage⟩
    -- The slot that is written is filled by the new image.
    · obtain ⟨hkind, hindex⟩ := not_or.mp hother
      have hslot : ((state.store transfer image).slot? transfer.slot).isSome := by
        rw [← target_eq_slot? hkind, target_store h]
        rfl
      obtain ⟨index', hindex', hfilled⟩ := isSome_slot?.mp hslot
      obtain rfl : index = index' := by omega
      exact hfilled
  constructor
  · exact hagrees.length
  · exact hfilled
  · rintro ⟨hactive, hstaged⟩
    rw [Bootable, hagrees.activeSlot, hagrees.stagedSlot]
    exact ⟨isSome_slot?_mono hfilled hactive, hstaged.imp_right (isSome_slot?_mono hfilled)⟩

/-- Activating a filled slot conserves the slots. -/
theorem conserves_activate {state : State} {slot : UInt8} {image : SlotImage}
    (hslot : state.slot? slot = some image) (action : Activation.Action) :
  state.Conserves (state.activate slot action)
  := by
  have hsome : (state.slot? slot).isSome := Option.isSome_of_mem hslot
  cases action with
  | online => exact ⟨rfl, fun _ h => h, fun _ => ⟨hsome, .inl rfl⟩⟩
  | onNextReset => exact ⟨rfl, fun _ h => h, fun h => ⟨h.1, .inr hsome⟩⟩

end State

variable {name : String} {config : Config} {clock : Clock Emulator} {command : Command}
  {before after : Emulator} {answer : Answer} {trace : List Submission}

/-! ## What a command does to the lasting state -/

/-- A command leaves the state as it is, stores an image in a target that may be written, or
activates a filled slot. -/
theorem Effect.state_cases (h : Effect config command before answer after) :
  after.state = before.state
    ∨ (∃ transfer image, before.state.Allows transfer
      ∧ after.state = before.state.store transfer image)
    ∨ ∃ slot action image, before.state.slot? slot = some image
      ∧ after.state = before.state.activate slot action
  := by
  cases h with
  | unmoved h _ => exact .inl h.state
  | reported _ _ _ hkeeps => exact .inl hkeeps.state
  | aborted _ _ _ _ hstate => exact .inl hstate
  | @taken order _ _ _ _ htakes =>
      by_cases hend : order.step.action = .end
      · exact .inr (.inl ⟨_, _, htakes.target, htakes.state_eq_store hend⟩)
      · left
        rw [htakes.state, if_neg hend]
  | activated _ _ _ _ hslot _ _ hstate => exact .inr (.inr ⟨_, _, _, hslot, hstate⟩)

theorem conserves_submit (name : String) (config : Config) (command : Command)
    (device : Emulator) :
  device.state.Conserves ((transport name config clock).submit command device).mailbox.state
  := by
  rcases (effect_submit name config clock command device).state_cases with hsame
    | ⟨transfer, image, hallows, hstate⟩ | ⟨slot, action, image, hslot, hstate⟩
  · rw [hsame]
    exact .refl _
  · rw [hstate]
    exact State.conserves_store hallows image
  · rw [hstate]
    exact State.conserves_activate hslot action

theorem conserves_of_yields (h : (transport name config clock).Yields before trace after) :
  before.state.Conserves after.state
  := by
  have hstep : ∀ s ∈ trace, ∀ device : Emulator, before.state.Conserves device.state →
      before.state.Conserves
        ((transport name config clock).submit s.command device).mailbox.state :=
    fun s _ device hconserves => hconserves.trans (conserves_submit name config s.command device)
  exact h.preserves hstep (.refl _)

/-- The image in the slot that runs stays as it is, whatever the command. -/
theorem running_submit (name : String) (config : Config) (command : Command) (device : Emulator)
    {index : Nat} (hindex : index + 1 = device.state.activeSlot.toNat) :
  ((transport name config clock).submit command device).mailbox.state.slots[index]?
    = device.state.slots[index]?
  := by
  rcases (effect_submit name config clock command device).state_cases with hsame
    | ⟨transfer, image, hallows, hstate⟩ | ⟨slot, action, image, hslot, hstate⟩
  · rw [hsame]
  · rw [hstate]
    apply (State.agreesBeside_store hallows image).slots
    rcases hallows with hkind | haccepts
    · exact .inl hkind
    · right
      rw [hindex]
      intro hactive
      have hslot : transfer.slot = device.state.activeSlot := UInt8.toNat_inj.mp hactive.symm
      simp [State.accepts, hslot] at haccepts
  · rw [hstate]
    cases action with
    | online => rfl
    | onNextReset => rfl

/-- A last block that is taken for a slot is stored in it, with what was staged before. -/
theorem stored_of_takes {order : Order}
    (htakes : Takes order.transfer order.step before after) (hend : order.action = .end)
    (hkind : order.kind ≠ .osImage) :
  let staged := extend before.staging order.kind.opcode order.action order.slot order.data
  staged.slot = order.slot ∧ 0 < order.slot.toNat
    ∧ order.slot.toNat ≤ before.state.slots.length
    ∧ after.state.slots[order.slot.toNat - 1]? = some (some (.ofData staged.data))
  := by
  intro staged
  have htarget : staged = ⟨order.kind.opcode, order.slot, staged.data⟩ :=
    extend_target htakes.offset order.data
  have hslot : staged.slot = order.slot := congrArg Staging.slot htarget
  have hopcode : staged.opcode ≠ .hboTransferOsImage := by
    rw [show staged.opcode = order.kind.opcode from congrArg Staging.opcode htarget]
    exact opcode_ne_osImage.mpr hkind
  obtain ⟨hpos, hle⟩ := State.lt_of_accepts (htakes.target.resolve_left hkind)
  have hlt : order.slot.toNat - 1 < before.state.slots.length := Nat.sub_one_lt_of_le hpos hle
  have hcommit : after.state = commit before.state staged := htakes.state.trans (if_pos hend)
  have hstate : after.state = before.state.setSlot staged.slot (.ofData staged.data) :=
    hcommit.trans (if_neg hopcode)
  refine ⟨hslot, hpos, hle, ?_⟩
  rw [hstate, hslot]
  exact List.getElem?_set_self hlt

/-! ## Runs -/

/-- After any commands, whatever the command that follows: the image in the slot that runs
stays as it is; no slot has been added or removed since the start; the slots that are filled
stay so under all further commands; if the slots that run now and after a reset were filled at
the start, they are; and a last block that is answered with success, unless it was made to
fail, is stored with what was staged before in one of the slots. -/
theorem slots_conserved (name : String) (config : Config) (state : State)
    (hpath : (transport name config clock).Yields (start config state) trace before)
    (command : Command) :
  let reaction := (transport name config clock).submit command before
  (∀ index, index + 1 = before.state.activeSlot.toNat →
      reaction.mailbox.state.slots[index]? = before.state.slots[index]?)
    ∧ before.state.slots.length = state.slots.length
    ∧ (∀ trace' later, (transport name config clock).Yields before trace' later →
      ∀ index, before.state.Filled index → later.state.Filled index)
    ∧ (state.Bootable → before.state.Bootable)
    ∧ ∀ order, command.order? = some order → order.action = .end → order.kind ≠ .osImage →
      reaction.answer.IsSuccess → ¬ config.Pretends before.stepsSeen →
      let staged := extend before.staging order.kind.opcode order.action order.slot order.data
      staged.slot = order.slot ∧ 0 < order.slot.toNat
        ∧ order.slot.toNat ≤ before.state.slots.length
        ∧ reaction.mailbox.state.slots[order.slot.toNat - 1]? = some (some (.ofData staged.data))
  := by
  intro reaction
  have hconserves : state.Conserves before.state := conserves_of_yields hpath
  refine ⟨fun index => running_submit name config command before, hconserves.length, ?_,
    hconserves.bootable, ?_⟩
  · intro trace' later hlater
    exact (conserves_of_yields hlater).filled
  · intro order horder hend hkind hsuccess hpretends
    rcases (effect_submit name config clock command before).order_cases horder with
      ⟨-, hunmoved⟩ | ⟨habort, -⟩ | ⟨-, -, htakes⟩
    · exact absurd (hunmoved hsuccess) hpretends
    · cases habort.symm.trans hend
    · exact stored_of_takes htakes hend hkind

/-- The only block of an image of two bytes for a slot. -/
def wholeImage (slot : UInt8) : Order :=
  ⟨.specDefined, .end, slot, 0, [0xaa, 0xbb]⟩

/-- Commands that store an image in the second slot and let it run. -/
def relocation : List Command :=
  [(wholeImage 2).command, ⟨Opcode.getBackgroundStatus.code, []⟩,
    ⟨Opcode.getBackgroundStatus.code, []⟩, ⟨Opcode.activateFw.code, [0, 2]⟩,
    ⟨Opcode.getBackgroundStatus.code, []⟩, ⟨Opcode.getBackgroundStatus.code, []⟩,
    ⟨Opcode.getBackgroundStatus.code, []⟩]

/-- A device with the default behaviour behind these commands. -/
def relocated : Emulator :=
  ((transport "mem0" .default .still).send (start .default .default) relocation).2

theorem slots_conserved_relocated :
  let reaction := (transport "mem0" .default .still).submit (wholeImage 1).command relocated
  relocated.state.activeSlot = 2 ∧ relocated.state.Bootable
    ∧ reaction.mailbox.state.slots[1]? = relocated.state.slots[1]?
    ∧ reaction.mailbox.state.slots[0]? = some (some (.ofData [0xaa, 0xbb]))
  := by
  dsimp only
  have hactive : relocated.state.activeSlot = 2 := by
    decide +kernel
  have hbootable : State.default.Bootable := ⟨rfl, .inl rfl⟩
  have hsuccess : ((transport "mem0" .default .still).submit (wholeImage 1).command
      relocated).answer.IsSuccess := by
    decide +kernel
  have hstaging : relocated.staging = none := by
    decide +kernel
  have hpath : (transport "mem0" .default .still).Yields (start .default .default) _ relocated :=
    (transport "mem0" .default .still).yields_send (start .default .default) relocation
  obtain ⟨hrunning, -, -, hboots, hstored⟩ := slots_conserved "mem0" .default .default hpath
    (wholeImage 1).command
  obtain ⟨-, -, -, hslot⟩ := hstored (wholeImage 1) (wholeImage 1).order?_command rfl nofun
    hsuccess nofun
  rw [hstaging] at hslot
  refine ⟨hactive, hboots hbootable, ?_, hslot⟩
  apply hrunning
  rw [hactive]
  rfl

end Emulator

end CxlFirmware
