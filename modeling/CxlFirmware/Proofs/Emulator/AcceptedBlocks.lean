import CxlFirmware.Proofs.Emulator.Effect

/-!
# Accepted blocks

What is staged in a device is the data of the blocks that it has accepted since the last
first block, one after another.  `accepted` reads the orders off a trace that were answered
with success, and `Refines` relates them to what is staged; every command preserves it.  So a
last block that is accepted leaves the data of those blocks in its target, and none else.
-/

namespace CxlFirmware

namespace Emulator

/-! ## Orders that are accepted -/

/-- The orders among the submissions of a trace that are answered with success. -/
def accepted (trace : List Submission) : List Order :=
  trace.filterMap fun s => if s.answer.IsSuccess then s.command.order? else none

theorem accepted_append (trace trace' : List Submission) :
  accepted (trace ++ trace') = accepted trace ++ accepted trace'
  := List.filterMap_append

/-- The blocks are those that were accepted since the last first block, and no transfer was
ended or aborted since. -/
def SinceInitiate (orders blocks : List Order) : Prop :=
  ∃ earlier first rest, orders = earlier ++ blocks ∧ blocks = first :: rest
    ∧ first.action = .initiate ∧ ∀ order ∈ rest, order.action = .continue

/-- No transfer was begun, or the last one was ended or aborted. -/
def Closed (orders : List Order) : Prop :=
  ∀ last ∈ orders.getLast?, last.action = .end ∨ last.action = .abort

/-- The data of blocks, one after another. -/
def content (blocks : List Order) : Bytes :=
  blocks.flatMap Order.data

/-- Each block has the offset of the data before it, in units, rounded down. -/
def Placed (blocks : List Order) : Prop :=
  ∀ earlier block later, blocks = earlier ++ block :: later →
    block.offset.toNat = (content earlier).length / TransferRequest.unit

/-- The blocks of an open transfer, all of them for one target, make up what is staged. -/
structure Open (orders blocks : List Order) (staged : Staging) : Prop where
  since : SinceInitiate orders blocks
  target : ∀ block ∈ blocks, block.kind.opcode = staged.opcode ∧ block.slot = staged.slot
  data : staged.data = content blocks
  placed : Placed blocks

/-- What is staged belongs to an open transfer. -/
def Refines (orders : List Order) : Option Staging → Prop
  | none => Closed orders
  | some staged => ∃ blocks, Open orders blocks staged

theorem placed_nil : Placed []
  := by
  intro earlier block later hsplit
  simp at hsplit

theorem placed_concat {blocks : List Order} {block : Order} (h : Placed blocks)
    (hblock : block.offset.toNat = (content blocks).length / TransferRequest.unit) :
  Placed (blocks ++ [block])
  := by
  intro earlier block' later hsplit
  rcases in_first_or_second hsplit with ⟨later', hblocks⟩ | ⟨rest, rfl, hlast⟩
  · exact h earlier block' later' hblocks
  · cases rest with
    | nil =>
        obtain ⟨rfl, -⟩ := List.cons.inj hlast
        rw [List.append_nil]
        exact hblock
    | cons first rest => simp at hlast

variable {name : String} {config : Config} {clock : Clock Emulator} {command : Command}
  {before after : Emulator} {answer : Answer} {orders blocks : List Order} {order : Order}
  {trace : List Submission}

/-! ## What a command preserves -/

/-- A first block opens a transfer, and drops the one before. -/
theorem open_initiate (orders : List Order) (haction : order.action = .initiate)
    (hoffset : order.offset.toNat = 0) :
  Open (orders ++ [order]) [order] ⟨order.kind.opcode, order.slot, order.data⟩
  := by
  constructor
  · exact ⟨orders, order, [], rfl, rfl, haction, nofun⟩
  · intro block hblock
    obtain rfl := List.mem_singleton.mp hblock
    exact ⟨rfl, rfl⟩
  · simp [content]
  · exact placed_concat placed_nil hoffset

/-- A further block for the same target that comes behind what is staged belongs to the
transfer. -/
theorem Open.concat {staged : Staging} (h : Open orders blocks staged)
    (haction : order.action = .continue) (hopcode : staged.opcode = order.kind.opcode)
    (hslot : staged.slot = order.slot)
    (hoffset : order.offset.toNat = staged.data.length / TransferRequest.unit) :
  Open (orders ++ [order]) (blocks ++ [order]) { staged with data := staged.data ++ order.data }
  := by
  obtain ⟨earlier, first, rest, rfl, rfl, hfirst, hrest⟩ := h.since
  constructor
  · refine ⟨earlier, first, rest ++ [order], List.append_assoc _ _ _, rfl, hfirst, ?_⟩
    exact List.forall_mem_append.mpr ⟨hrest, List.forall_mem_singleton.mpr haction⟩
  · exact List.forall_mem_append.mpr ⟨h.target,
      List.forall_mem_singleton.mpr ⟨hopcode.symm, hslot.symm⟩⟩
  · simp [content, h.data]
  · apply placed_concat h.placed
    rw [hoffset, h.data]

/-- An order that is taken is one more block, or the end of the transfer. -/
theorem refines_of_takes (h : Refines orders before.staging)
    (htakes : Takes order.transfer order.step before after) (haction : order.action ≠ .abort) :
  Refines (orders ++ [order]) after.staging
  := by
  have hstaging : after.staging = if order.action = .end then none else
      some (extend before.staging order.kind.opcode order.action order.slot order.data) :=
    htakes.staging
  have hoffset : expectedOffset before.staging order.kind.opcode order.action order.slot
      = some order.offset.toNat := htakes.offset
  cases hcase : order.action with
  | abort => exact absurd hcase haction
  | «end» =>
      rw [hstaging, if_pos hcase]
      simp [Refines, Closed, hcase]
  | initiate =>
      rw [hstaging, hcase, if_neg nofun, extend_initiate]
      rw [hcase, expectedOffset] at hoffset
      exact ⟨[order], open_initiate orders hcase (Option.some.inj hoffset).symm⟩
  | «continue» =>
      have hother : order.action ≠ .initiate := by
        rw [hcase]
        nofun
      rw [hstaging, if_neg (by rw [hcase]; nofun)]
      cases hbefore : before.staging with
      | none =>
          rw [hbefore, hcase] at hoffset
          cases hoffset
      | some staged =>
          rw [hbefore] at h hoffset
          obtain ⟨blocks, hopen⟩ := h
          obtain ⟨hopcode, hslot, hplace⟩ := expectedOffset_some hother hoffset
          rw [extend_some hother]
          exact ⟨blocks ++ [order], hopen.concat hcase hopcode hslot hplace⟩

theorem refines_of_effect (hfail : config.failAtStep = none)
    (h : Effect config command before answer after) (hrefines : Refines orders before.staging) :
  Refines (orders ++ accepted [⟨command, answer⟩]) after.staging
  := by
  cases horder : command.order? with
  | none =>
      rw [h.staging_of_no_order horder]
      simp [accepted, horder, hrefines]
  | some order =>
      rcases h.order_cases horder with ⟨hunmoved, hpretends⟩ | ⟨haction, hsuccess, -, hnone⟩
        | ⟨haction, hsuccess, htakes⟩
      · have hanswer : ¬ answer.IsSuccess := by
          intro hsuccess
          cases hfail.symm.trans (hpretends hsuccess).1
        rw [hunmoved.staging]
        simp [accepted, hanswer, hrefines]
      · rw [hnone]
        simp [accepted, hsuccess, horder, Refines, Closed, haction]
      · simp only [accepted, List.filterMap_cons, hsuccess, if_true, horder, List.filterMap_nil]
        exact refines_of_takes hrefines htakes haction

/-! ## What is accepted along a trace -/

theorem refines_of_yields (hfail : config.failAtStep = none)
    (h : (transport name config clock).Yields before trace after)
    (hrefines : Refines orders before.staging) :
  Refines (orders ++ accepted trace) after.staging
  := by
  -- The orders accepted so far are arbitrary, as they grow along the path.
  induction h generalizing orders with
  | nil device =>
      rw [accepted, List.filterMap_nil, List.append_nil]
      exact hrefines
  | @cons device _ rest command h ih =>
      have heffect := effect_submit name config clock command device
      have hstep := refines_of_effect hfail heffect hrefines
      have hrest := ih hstep
      rw [List.append_assoc, ← accepted_append] at hrest
      exact hrest

/-! ## Where a block is in the image -/

theorem dvd_content {count : Nat} (h : ∀ block ∈ blocks, count ∣ block.data.length) :
  count ∣ (content blocks).length
  := by
  induction blocks with
  | nil => exact Nat.dvd_zero count
  | cons block blocks ih =>
      obtain ⟨hblock, hblocks⟩ := List.forall_mem_cons.mp h
      rw [content, List.flatMap_cons, List.length_append]
      exact Nat.dvd_add hblock (ih hblocks)

/-- Where all blocks but the last one fill whole units, each block begins at its offset. -/
theorem Placed.length_eq (h : Placed (blocks ++ [order]))
    (hunits : ∀ block ∈ blocks, TransferRequest.unit ∣ block.data.length)
    {earlier later : List Order} {block : Order}
    (hsplit : blocks ++ [order] = earlier ++ block :: later) :
  (content earlier).length = TransferRequest.unit * block.offset.toNat
  := by
  have hearlier : ∀ block ∈ earlier, TransferRequest.unit ∣ block.data.length := by
    have hblocks := congrArg List.dropLast hsplit
    rw [List.dropLast_concat, List.dropLast_append_cons] at hblocks
    intro block hblock
    apply hunits
    rw [hblocks]
    exact List.mem_append_left _ hblock
  rw [h earlier block later hsplit, Nat.mul_div_cancel' (dvd_content hearlier)]

/-! ## What is committed -/

/-- A last block that is taken completes the blocks of the open transfer, if there is one. -/
theorem committed_of_takes (hrefines : Refines orders before.staging)
    (htakes : Takes order.transfer order.step before after) (hend : order.action = .end) :
  ∃ blocks, (blocks = [] ∧ before.staging = none ∧ Closed orders ∨ SinceInitiate orders blocks)
    ∧ (∀ block ∈ blocks, block.kind = order.kind ∧ block.slot = order.slot)
    ∧ after.state = before.state.store order.transfer (.ofData (content (blocks ++ [order])))
    ∧ Placed (blocks ++ [order])
  := by
  have hoffset : expectedOffset before.staging order.kind.opcode order.action order.slot
      = some order.offset.toNat := htakes.offset
  have hstate : after.state = before.state.store order.transfer
      (.ofData (extend before.staging order.kind.opcode order.action order.slot order.data).data) :=
    htakes.state_eq_store hend
  have hother : order.action ≠ .initiate := by
    rw [hend]
    nofun
  rw [hstate]
  cases hstaging : before.staging with
  | none =>
      rw [hstaging] at hrefines hoffset
      rw [hend] at hoffset ⊢
      refine ⟨[], .inl ⟨rfl, rfl, hrefines⟩, nofun, ?_, ?_⟩
      · simp [extend, content]
      · exact placed_concat placed_nil (Option.some.inj hoffset).symm
  | some staged =>
      rw [hstaging] at hrefines hoffset
      obtain ⟨blocks, hopen⟩ := hrefines
      obtain ⟨hopcode, hslot, hplace⟩ := expectedOffset_some hother hoffset
      refine ⟨blocks, .inr hopen.since, ?_, ?_, ?_⟩
      · intro block hblock
        obtain ⟨hblockOpcode, hblockSlot⟩ := hopen.target block hblock
        exact ⟨kind_of_opcode (hblockOpcode.trans hopcode), hblockSlot.trans hslot⟩
      · rw [extend_some hother, hopen.data]
        simp [content]
      · apply placed_concat hopen.placed
        rw [hplace, hopen.data]

/-- A further block is taken only while a transfer is open. -/
theorem since_of_takes (hrefines : Refines orders before.staging)
    (htakes : Takes order.transfer order.step before after) (hcontinue : order.action = .continue) :
  ∃ blocks, SinceInitiate orders blocks
  := by
  have hoffset : expectedOffset before.staging order.kind.opcode order.action order.slot
      = some order.offset.toNat := htakes.offset
  cases hstaging : before.staging with
  | none =>
      rw [hstaging, hcontinue] at hoffset
      cases hoffset
  | some staged =>
      rw [hstaging] at hrefines
      obtain ⟨blocks, hopen⟩ := hrefines
      exact ⟨blocks, hopen.since⟩

/-- After any commands, what is not answered with success changes neither the state nor what
is staged.  A last block that is accepted leaves in its target the data of the blocks accepted
since the last first block, all of them for that target, and of itself; with nothing staged,
of itself alone.  Where the blocks before it fill whole units, each block begins at its offset.
A further block is accepted only behind an accepted first block, with nothing but further
blocks in between, and an abort drops what is staged. -/
theorem commits_accepted_blocks (name : String) (hfail : config.failAtStep = none)
    (state : State) (hpath : (transport name config clock).Yields (start config state) trace before)
    (command : Command) :
  let reaction := (transport name config clock).submit command before
  (¬ reaction.answer.IsSuccess → Keeps before reaction.mailbox)
    ∧ ∀ order, command.order? = some order → reaction.answer.IsSuccess →
      (order.action = .end → ∃ blocks,
        (blocks = [] ∧ before.staging = none ∧ Closed (accepted trace)
          ∨ SinceInitiate (accepted trace) blocks)
        ∧ (∀ block ∈ blocks, block.kind = order.kind ∧ block.slot = order.slot)
        ∧ reaction.mailbox.state
          = before.state.store order.transfer (.ofData (content (blocks ++ [order])))
        ∧ reaction.mailbox.state.target order.transfer
          = some (.ofData (content (blocks ++ [order])))
        ∧ ((∀ block ∈ blocks, TransferRequest.unit ∣ block.data.length) →
          ∀ earlier block later, blocks ++ [order] = earlier ++ block :: later →
            (content earlier).length = TransferRequest.unit * block.offset.toNat))
      ∧ (order.action = .continue → ∃ blocks, SinceInitiate (accepted trace) blocks)
      ∧ (order.action = .abort →
        reaction.mailbox.state = before.state ∧ reaction.mailbox.staging = none)
  := by
  intro reaction
  have heffect := effect_submit name config clock command before
  have hstart : Refines [] (start config state).staging := nofun
  have hrefines : Refines (accepted trace) before.staging :=
    refines_of_yields hfail hpath hstart
  constructor
  · intro hanswer
    exact heffect.keeps_of_not_success hanswer
  · intro order horder hsuccess
    rcases heffect.order_cases horder with ⟨-, hpretends⟩ | ⟨haction, -, hstate, hnone⟩
      | ⟨haction, -, htakes⟩
    · cases hfail.symm.trans (hpretends hsuccess).1
    · rw [haction]
      exact ⟨nofun, nofun, fun _ => ⟨hstate, hnone⟩⟩
    · refine ⟨fun hend => ?_, since_of_takes hrefines htakes, fun habort => absurd habort haction⟩
      obtain ⟨blocks, hblocks, htarget, hcommit, hplaced⟩ := committed_of_takes hrefines htakes hend
      refine ⟨blocks, hblocks, htarget, hcommit, ?_, ?_⟩
      · rw [hcommit]
        exact State.target_store htakes.target _
      · intro hunits earlier block later hsplit
        exact hplaced.length_eq hunits hsplit

/-- The first block of a transfer to the second slot. -/
def firstBlock : Order :=
  ⟨.specDefined, .initiate, 2, 0, List.replicate 128 1⟩

/-- The last block of it. -/
def lastBlock : Order :=
  ⟨.specDefined, .end, 2, 1, [2]⟩

theorem commits_accepted_blocks_two :
  let transport := transport "mem0" .default .still
  let sent := transport.send (start .default .default)
    [firstBlock.command, firstBlock.transfer.statusCommand, lastBlock.command,
      firstBlock.transfer.statusCommand]
  accepted sent.1 = [firstBlock]
    ∧ (transport.submit lastBlock.command sent.2).mailbox.state.target lastBlock.transfer
      = some (.ofData (List.replicate 128 1 ++ [2]))
  := by
  intro transport sent
  have haccepted : accepted sent.1 = [firstBlock] := by
    decide +kernel
  have hsuccess : (transport.submit lastBlock.command sent.2).answer.IsSuccess := by
    decide +kernel
  have hstaging : sent.2.staging ≠ none := by
    decide +kernel
  obtain ⟨-, hcommits⟩ := commits_accepted_blocks "mem0" rfl .default
    (transport.yields_send (start .default .default) _) lastBlock.command
  obtain ⟨hend, -, -⟩ := hcommits lastBlock lastBlock.order?_command hsuccess
  obtain ⟨blocks, hblocks, -, -, htarget, -⟩ := hend rfl
  rw [haccepted] at hblocks
  constructor
  · exact haccepted
  · rcases hblocks with ⟨-, hnone, -⟩ | ⟨earlier, first, rest, horders, rfl, -⟩
    · exact absurd hnone hstaging
    · cases earlier with
      | nil =>
          obtain ⟨rfl, rfl⟩ := List.cons.inj horders
          rw [htarget]
          rfl
      | cons _ earlier => simp at horders

end Emulator

end CxlFirmware
