import CxlFirmware.Emulator.Device
import CxlFirmware.Proofs.Judgement
import CxlFirmware.Proofs.Transfer.Course

/-!
# Reactions of an emulated device

How a device reacts to the commands of a transfer.  A block is put off, refused or taken;
only one that is taken is answered with success and changes what the device holds.  A status
query changes neither the state of the device nor what is staged.
-/

namespace CxlFirmware

namespace Emulator

variable {name : String} {config : Config} {clock : Clock Emulator} {device : Emulator}

/-! ## The target of a transfer -/

/-- What is in the place that a transfer writes. -/
def State.target (transfer : Transfer.Config) (state : State) : Option SlotImage :=
  match transfer.kind with
  | .osImage => state.osImage
  | .specDefined | .vendorBackground => state.slot? transfer.slot

/-- The state with another image in the place that a transfer writes. -/
def State.store (transfer : Transfer.Config) (state : State) (image : SlotImage) : State :=
  match transfer.kind with
  | .osImage => state.setOsImage image
  | .specDefined | .vendorBackground => state.setSlot transfer.slot image

/-- The device may write the target of a transfer. -/
def State.Allows (transfer : Transfer.Config) (state : State) : Prop :=
  transfer.kind = .osImage ∨ state.accepts transfer.slot = true

theorem commit_eq_store (transfer : Transfer.Config) (state : State) (data : Bytes) :
  commit state ⟨transfer.kind.opcode, transfer.slot, data⟩ = state.store transfer (.ofData data)
  := by
  rw [commit, State.store]
  cases transfer.kind with
  | specDefined => rfl
  | vendorBackground => rfl
  | osImage => rfl

/-- A slot that may be written is one of the slots. -/
theorem State.lt_of_accepts {state : State} {slot : UInt8} (h : state.accepts slot = true) :
  0 < slot.toNat ∧ slot.toNat ≤ state.slots.length
  := by
  rw [accepts, Bool.and_eq_true, Bool.and_eq_true, decide_eq_true_iff, decide_eq_true_iff] at h
  obtain ⟨⟨hpos, hle⟩, -⟩ := h
  have hcount : state.slotCount.toNat ≤ state.slots.length := by
    rw [slotCount, UInt8.toNat_ofNat']
    exact Nat.le_trans (Nat.mod_le _ _) (Nat.min_le_left _ _)
  constructor
  · exact hpos
  · exact Nat.le_trans hle hcount

/-- What was stored is in the target. -/
theorem State.target_store {transfer : Transfer.Config} {state : State}
    (h : state.Allows transfer) (image : SlotImage) :
  (state.store transfer image).target transfer = some image
  := by
  have hslot : ∀ slot, state.accepts slot = true → (state.setSlot slot image).slot? slot
      = some image := by
    intro slot haccepts
    obtain ⟨hpos, hle⟩ := lt_of_accepts haccepts
    obtain ⟨index, hindex⟩ := Nat.exists_eq_add_one.mpr hpos
    have hlt : index < state.slots.length := by omega
    rw [slot?, setSlot, hindex]
    simp [hlt]
  rw [store, target]
  rcases h with hkind | haccepts
  · rw [hkind]
    rfl
  · cases transfer.kind with
    | specDefined => exact hslot _ haccepts
    | vendorBackground => exact hslot _ haccepts
    | osImage => rfl

/-! ## Reactions -/

/-- The device once it has noted a command. -/
def noted (device : Emulator) (opcode : Opcode) : Emulator :=
  { device with history := opcode.code :: device.history }

/-- The device once it has begun to look at a command. -/
def ready (config : Config) (device : Emulator) : Emulator :=
  { device with busyLeft := config.busyReplies }

/-- The device puts transfers and activations off. -/
def IsBusy (device : Emulator) : Prop :=
  device.background.isSome ∨ 0 < device.busyLeft

theorem not_isBusy : ¬ device.IsBusy ↔ device.background = none ∧ device.busyLeft = 0
  := by
  rw [IsBusy, not_or, Bool.not_eq_true, Option.isSome_eq_false_iff, Option.isNone_iff_eq_none,
    UInt32.not_lt]
  simp

theorem submit_transfer (name : String) (config : Config) (kind : Transfer.Kind)
    (payload : Bytes) (device : Emulator) :
  (transport name config clock).submit ⟨kind.opcode.code, payload⟩ device
    = replyTransfer name config kind.opcode payload (device.noted kind.opcode)
  := by
  cases kind with
  | specDefined => rfl
  | vendorBackground => rfl
  | osImage => rfl

theorem submit_status (name : String) (config : Config) (query : StatusQuery) (payload : Bytes)
    (device : Emulator) :
  (transport name config clock).submit ⟨query.opcode.code, payload⟩ device
    = replyStatus query (device.noted query.opcode)
  := by
  cases query with
  | spec => rfl
  | hbo => rfl

/-- The device holds what it held before. -/
structure Keeps (before after : Emulator) : Prop where
  state : after.state = before.state
  staging : after.staging = before.staging

/-- The device holds, processes and reports what it did before. -/
structure Unmoved (before after : Emulator) : Prop extends Keeps before after where
  background : after.background = before.background
  lastBackground : after.lastBackground = before.lastBackground

/-! ## What a device puts off -/

section

variable {handle : Emulator → Verdict}

/-- A busy device puts a command off, whatever it is. -/
theorem gated_of_isBusy (config : Config) (handle : Emulator → Verdict) (h : device.IsBusy) :
  ∃ device', gated config handle device = ⟨.busy, [], device'⟩ ∧ Unmoved device device'
  := by
  rw [gated]
  by_cases hbackground : device.background.isSome
  · rw [if_pos hbackground]
    exact ⟨device, rfl, ⟨rfl, rfl⟩, rfl, rfl⟩
  · rw [if_neg hbackground, if_pos (h.resolve_left hbackground)]
    exact ⟨_, rfl, ⟨rfl, rfl⟩, rfl, rfl⟩

/-- A device that is not busy looks at a command. -/
theorem gated_of_idle (h : ¬ device.IsBusy) :
  gated config handle device = handle (device.ready config)
  := by
  obtain ⟨hbackground, hbusy⟩ := not_or.mp h
  rw [gated, if_neg hbackground, if_neg hbusy]
  rfl

/-- A device without a background operation counts the commands that it puts off. -/
theorem gated_of_busyLeft (h : device.background = none) (hleft : 0 < device.busyLeft) :
  gated config handle device = ⟨.busy, [], { device with busyLeft := device.busyLeft - 1 }⟩
  := by
  rw [gated, h, if_neg (by simp), if_pos hleft]

end

/-- A busy device puts the command off, and one that is not busy handles it. -/
def Gates (name : String) (config : Config) (opcode : Opcode) (payload : Bytes)
    (handle : Emulator → Verdict) : Prop :=
  ∀ clock device, (transport name config clock).submit ⟨opcode.code, payload⟩ device
    = (gated config handle (device.noted opcode)).exchange

theorem gates_transfer (name : String) (config : Config) (kind : Transfer.Kind)
    (payload : Bytes) :
  Gates name config kind.opcode payload (transfer name config kind.opcode payload)
  := fun _ => submit_transfer name config kind payload

/-! ## What a device makes of a transfer command -/

section

variable {opcode : Opcode} {payload : Bytes}

theorem replyTransfer_of_background (h : device.background.isSome) :
  replyTransfer name config opcode payload device
    = ⟨.ok (.ok ⟨Status.busy.code, []⟩), [], device⟩
  := by
  rw [replyTransfer, gated, if_pos h]
  rfl

theorem replyTransfer_of_isBusy (name : String) (config : Config) (opcode : Opcode)
    (payload : Bytes) (h : device.IsBusy) :
  ∃ device', replyTransfer name config opcode payload device
      = ⟨.ok (.ok ⟨Status.busy.code, []⟩), [], device'⟩
    ∧ Unmoved device device'
  := by
  obtain ⟨device', hgated, hunmoved⟩ := gated_of_isBusy config
    (transfer name config opcode payload) h
  use device'
  rw [replyTransfer, hgated]
  exact ⟨rfl, hunmoved⟩

theorem replyTransfer_of_idle (h : ¬ device.IsBusy) :
  replyTransfer name config opcode payload device
    = (transfer name config opcode payload (device.ready config)).exchange
  := by
  rw [replyTransfer, gated_of_idle h]

variable {slot : UInt8} {offset : UInt32} {data : Bytes} {action : Transfer.Action}

theorem transfer_block (haction : action ≠ .abort) :
  transfer name config opcode (TransferRequest.payload action slot offset data) device
    = step name config opcode action ⟨action.code, slot, offset, data⟩ device
  := by
  rw [transfer, TransferRequest.payload, TransferRequest.parse?_encode]
  simp only [Transfer.Action.ofCode?_code]

theorem transfer_abort :
  transfer name config opcode (TransferRequest.payload .abort slot offset data) device
    = ⟨.success, [⟨.debug, origin, name ++ ": transfer aborted"⟩],
      { device with staging := none }⟩
  := by
  rw [transfer, TransferRequest.payload, TransferRequest.parse?_encode]
  simp only [Transfer.Action.ofCode?_code]

end

/-! ## What a device makes of a status query -/

/-- The count of queries for which an operation is reported as running: for the next one, the
product for the percentage has no place in 32 bits. -/
def shownPolls : Nat := 42949673

section

variable {operation : Background}

/-- The count of queries that the operation has been asked. -/
def Background.asked (operation : Background) : Nat :=
  (operation.totalPolls - operation.remaining).toNat

theorem Background.asked_add_remaining {asked : Nat}
    (h : asked + operation.remaining.toNat = operation.totalPolls.toNat) :
  operation.asked = asked
  := by
  rw [Background.asked, UInt32.toNat_sub_of_le, ← h, Nat.add_sub_cancel]
  rw [UInt32.le_iff_toNat_le, ← h]
  exact Nat.le_add_left _ _

/-- A query takes the operation one further. -/
theorem Background.asked_next (hleft : 0 < operation.remaining)
    (hasked : operation.asked < shownPolls) :
  ({ operation with remaining := operation.remaining - 1 } : Background).asked
    = operation.asked + 1
  := by
  have hone : (1 : UInt32) ≤ operation.remaining := by
    rw [UInt32.le_iff_toNat_le]
    exact UInt32.lt_iff_toNat_lt.mp hleft
  have hnext : (operation.remaining - 1).toNat = operation.remaining.toNat - 1 :=
    UInt32.toNat_sub_of_le _ _ hone
  have hlt := operation.remaining.toNat_lt
  rw [UInt32.lt_iff_toNat_lt, UInt32.toNat_zero] at hleft
  rw [Background.asked, UInt32.toNat_sub, shownPolls] at hasked
  change (operation.totalPolls - (operation.remaining - 1)).toNat
    = (operation.totalPolls - operation.remaining).toNat + 1
  rw [UInt32.toNat_sub, hnext, UInt32.toNat_sub]
  omega

/-- The report of an operation that has not been asked too often. -/
theorem Background.report_of_lt (h : operation.asked < shownPolls) :
  ∃ percent : UInt8, operation.report = .ok ⟨true, percent, operation.opcode.code, 0, 0⟩
    ∧ (operation.asked < operation.totalPolls.toNat →
      percent.toNat = 100 * operation.asked / operation.totalPolls.toNat)
  := by
  have hfits : (operation.totalPolls - operation.remaining).toNat * 100 < UInt32.size := by
    rw [Background.asked, shownPolls] at h
    rw [UInt32.size]
    omega
  rw [report, if_pos hfits]
  refine ⟨_, rfl, fun hlt => ?_⟩
  have hsmall : 100 * operation.asked / operation.totalPolls.toNat < 256 := by
    apply Nat.div_lt_of_lt_mul
    omega
  rw [Nat.mul_comm]
  change UInt8.toNat (if 100 * operation.asked / operation.totalPolls.toNat < 256 then
    .ofNat (100 * operation.asked / operation.totalPolls.toNat) else 99) = _
  rw [if_pos hsmall, UInt8.toNat_ofNat_of_lt' hsmall]

/-- From then on there is none. -/
theorem Background.report_of_le (h : shownPolls ≤ operation.asked) :
  operation.report = .error .product
  := by
  rw [Background.asked, shownPolls] at h
  rw [report, if_neg]
  rw [UInt32.size]
  omega

end

theorem replyStatus_of_running (query : StatusQuery) {operation : Background}
    (h : device.background = some operation) (hleft : 0 < operation.remaining) :
  replyStatus query device
    = ⟨operation.report.map fun report => .ok ⟨Status.success.code, query.encode report⟩, [],
      { device with background := some { operation with remaining := operation.remaining - 1 } }⟩
  := by
  rw [replyStatus, backgroundStatus, h]
  simp only [hleft, if_true]
  cases operation.report with
  | error fault => rfl
  | ok report => rfl

theorem replyStatus_of_finished (query : StatusQuery) {operation : Background}
    (h : device.background = some operation) (hzero : operation.remaining = 0) :
  replyStatus query device
    = ⟨.ok (.ok ⟨Status.success.code, query.encode operation.finished⟩), [],
      { device with background := none, lastBackground := operation.finished }⟩
  := by
  rw [replyStatus, backgroundStatus, h]
  simp [hzero, reply, Except.map]

/-! ## What changes the content of a device -/

/-- A step that is made to fail is not answered with success. -/
def Config.Refuses (config : Config) : Prop :=
  config.failAtStep = none ∨ config.failStatus.code ≠ Status.success.code

/-- A step is made to fail, and answered with success all the same. -/
def Config.Pretends (config : Config) (step : Nat) : Prop :=
  config.failAtStep = some step ∧ config.failStatus.code = Status.success.code

theorem Config.not_pretends_of_refuses (h : config.Refuses) (step : Nat) :
  ¬ config.Pretends step
  := by
  rintro ⟨hstep, hcode⟩
  rcases h with hnone | hother
  · cases hnone.symm.trans hstep
  · exact hother hcode

/-- The device takes a block: it may be written, comes where it has to come, and is staged
or, as the last one, committed. -/
structure Takes (transfer : Transfer.Config) (step : Transfer.Step) (before after : Emulator) :
    Prop where
  target : before.state.Allows transfer
  offset : expectedOffset before.staging transfer.kind.opcode step.action transfer.slot
    = some step.offset.toNat
  state : after.state = if step.action = .end
    then commit before.state
      (extend before.staging transfer.kind.opcode step.action transfer.slot step.data)
    else before.state
  staging : after.staging = if step.action = .end then none
    else some (extend before.staging transfer.kind.opcode step.action transfer.slot step.data)

section

variable {transfer : Transfer.Config} {step : Transfer.Step} {before between after : Emulator}

theorem Keeps.trans (h : Keeps before between) (h' : Keeps between after) :
  Keeps before after
  := ⟨h'.state.trans h.state, h'.staging.trans h.staging⟩

/-- A device may keep what it holds before it takes a block. -/
theorem Takes.of_keeps (h : Keeps before between) (h' : Takes transfer step between after) :
  Takes transfer step before after
  := by
  constructor
  · rw [← h.state]
    exact h'.target
  · rw [← h.staging]
    exact h'.offset
  · rw [← h.state, ← h.staging]
    exact h'.state
  · rw [← h.staging]
    exact h'.staging

/-- A device may keep what it holds after it has taken a block. -/
theorem Takes.keeps (h : Takes transfer step before between) (h' : Keeps between after) :
  Takes transfer step before after
  := by
  constructor
  · exact h.target
  · exact h.offset
  · rw [h'.state]
    exact h.state
  · rw [h'.staging]
    exact h.staging

/-- Neither noting a command nor looking at it changes what a device holds. -/
theorem keeps_ready (config : Config) (device : Emulator) (opcode : Opcode) :
  Keeps device ((device.noted opcode).ready config)
  := ⟨rfl, rfl⟩

end

/-- The first block drops what was staged before. -/
theorem extend_initiate (staging : Option Staging) (opcode : Opcode) (slot : UInt8)
    (data : Bytes) :
  extend staging opcode .initiate slot data = ⟨opcode, slot, data⟩
  := by
  cases staging with
  | none => rfl
  | some staged => rfl

section

variable {staging : Option Staging} {staged : Staging} {opcode : Opcode}
  {action : Transfer.Action} {slot : UInt8} {offset : Nat}

theorem extend_some (haction : action ≠ .initiate) (data : Bytes) :
  extend (some staged) opcode action slot data = { staged with data := staged.data ++ data }
  := by
  cases action with
  | initiate => exact absurd rfl haction
  | _ => rfl

/-- Behind something staged, a block has to be for the same target and to come behind it. -/
theorem expectedOffset_some (haction : action ≠ .initiate)
    (h : expectedOffset (some staged) opcode action slot = some offset) :
  staged.opcode = opcode ∧ staged.slot = slot
    ∧ offset = staged.data.length / TransferRequest.unit
  := by
  have hplace : expectedOffset (some staged) opcode action slot
      = if staged.opcode = opcode ∧ staged.slot = slot then
        some (staged.data.length / TransferRequest.unit) else none := by
    cases action with
    | initiate => exact absurd rfl haction
    | _ => rfl
  rw [hplace] at h
  split at h
  · rename_i hsame
    exact ⟨hsame.1, hsame.2, (Option.some.inj h).symm⟩
  · cases h

/-- A block that comes where it has to come leaves something staged for its own target. -/
theorem extend_target (h : expectedOffset staging opcode action slot = some offset)
    (data : Bytes) :
  extend staging opcode action slot data
    = ⟨opcode, slot, (extend staging opcode action slot data).data⟩
  := by
  by_cases haction : action = .initiate
  · rw [haction, extend_initiate]
  · cases staging with
    | none =>
        cases action with
        | initiate => exact absurd rfl haction
        | _ => rfl
    | some staged =>
        obtain ⟨hopcode, hslot, -⟩ := expectedOffset_some haction h
        rw [extend_some haction, ← hopcode, ← hslot]

end

theorem opcode_ne_osImage {kind : Transfer.Kind} :
  kind.opcode ≠ .hboTransferOsImage ↔ kind ≠ .osImage
  := by
  cases kind with
  | specDefined => simp [Transfer.Kind.opcode]
  | vendorBackground => simp [Transfer.Kind.opcode]
  | osImage => simp [Transfer.Kind.opcode]

theorem kind_of_opcode {kind kind' : Transfer.Kind} (h : kind.opcode = kind'.opcode) :
  kind = kind'
  := by
  revert h
  cases kind <;> cases kind' <;> decide

theorem isSuccess_exchange {verdict : Verdict} :
  verdict.exchange.answer.IsSuccess ↔ verdict.status.code = Status.success.code
  := by
  constructor
  · rintro ⟨response, hresponse, hsuccess⟩
    obtain rfl := Except.ok.inj (Except.ok.inj hresponse)
    rw [← Status.code_ofCode verdict.status.code, hsuccess]
  · intro h
    exact ⟨_, rfl, by rw [h]; rfl⟩

/-- The last block leaves all that was staged with it in the target. -/
theorem Takes.state_eq_store {transfer : Transfer.Config} {step : Transfer.Step}
    {before after : Emulator} (h : Takes transfer step before after)
    (hend : step.action = .end) :
  after.state = before.state.store transfer (.ofData (extend before.staging transfer.kind.opcode
    step.action transfer.slot step.data).data)
  := by
  rw [h.state, if_pos hend]
  exact (congrArg (commit before.state) (extend_target h.offset step.data)).trans
    (commit_eq_store transfer before.state _)

section

variable {transfer : Transfer.Config} {step : Transfer.Step}

/-- A block that passed every check is taken, and then processed. -/
theorem accept_takes (name : String) (config : Config) (device : Emulator)
    (htarget : device.state.Allows transfer)
    (hoffset : expectedOffset device.staging transfer.kind.opcode step.action transfer.slot
      = some step.offset.toNat) :
  ∃ records after, accept name config transfer.kind.opcode step.action
      ⟨step.action.code, transfer.slot, step.offset, step.data⟩
      { device with stepsSeen := device.stepsSeen + 1 } = ⟨.success, records, after⟩
    ∧ Takes transfer step device after
    ∧ after.background
      = some ⟨transfer.kind.opcode, config.processingPolls, config.processingPolls⟩
    ∧ after.busyLeft = device.busyLeft ∧ after.history = device.history
    ∧ after.lastBackground = device.lastBackground
  := by
  rw [accept]
  by_cases hend : step.action = .end
  · rw [if_pos hend]
    refine ⟨_, _, rfl, ⟨htarget, hoffset, ?_, ?_⟩, rfl, rfl, rfl, rfl⟩
    · rw [if_pos hend]
      rfl
    · rw [if_pos hend]
      rfl
  · rw [if_neg hend]
    refine ⟨_, _, rfl, ⟨htarget, hoffset, ?_, ?_⟩, rfl, rfl, rfl, rfl⟩
    · rw [if_neg hend]
      rfl
    · rw [if_neg hend]
      rfl

/-- A block that a device looks at is taken with success, or leaves the device unmoved. -/
theorem step_taken_or_unmoved (device : Emulator) {verdict : Verdict}
    (h : Emulator.step name config transfer.kind.opcode step.action
      ⟨step.action.code, transfer.slot, step.offset, step.data⟩ device = verdict) :
  (verdict.status = .success ∧ Takes transfer step device verdict.device
      ∧ verdict.device.background
        = some ⟨transfer.kind.opcode, config.processingPolls, config.processingPolls⟩
      ∧ verdict.device.lastBackground = device.lastBackground)
    ∨ Unmoved device verdict.device
      ∧ (verdict.status.code = Status.success.code → config.Pretends device.stepsSeen)
  := by
  rw [Emulator.step] at h
  subst h
  split
  · rename_i hinjected
    right
    constructor
    · exact ⟨⟨rfl, rfl⟩, rfl, rfl⟩
    · intro hsuccess
      exact ⟨hinjected, hsuccess⟩
  · split
    · have hcode : Status.fwInvalidSlot.code ≠ Status.success.code := by decide
      exact .inr ⟨⟨⟨rfl, rfl⟩, rfl, rfl⟩, fun hsuccess => absurd hsuccess hcode⟩
    · rename_i hreject
      split
      · rename_i hoffset
        left
        have htarget : device.state.Allows transfer := by
          by_cases hkind : transfer.kind = .osImage
          · exact .inl hkind
          · right
            rw [← Bool.not_eq_false]
            intro hslot
            exact hreject ⟨opcode_ne_osImage.mpr hkind, hslot⟩
        obtain ⟨records, after, haccept, htakes, hbackground, -, -, hlast⟩ := accept_takes name
          config device htarget hoffset
        rw [haccept]
        exact ⟨rfl, htakes, hbackground, hlast⟩
      · have hcode : Status.fwTransferOutOfOrder.code ≠ Status.success.code := by decide
        exact .inr ⟨⟨⟨rfl, rfl⟩, rfl, rfl⟩, fun hsuccess => absurd hsuccess hcode⟩

/-- A block that a device looks at is taken, or refused with the content unchanged. -/
theorem step_cases (device : Emulator) (hfail : config.Refuses) {verdict : Verdict}
    (h : Emulator.step name config transfer.kind.opcode step.action
      ⟨step.action.code, transfer.slot, step.offset, step.data⟩ device = verdict) :
  verdict.status.code = Status.success.code ∧ Takes transfer step device verdict.device
    ∨ verdict.status.code ≠ Status.success.code ∧ Keeps device verdict.device
  := by
  rcases step_taken_or_unmoved device h with ⟨hstatus, htakes, -⟩ | ⟨hunmoved, hpretends⟩
  · left
    rw [hstatus]
    exact ⟨rfl, htakes⟩
  · right
    constructor
    · intro hsuccess
      exact config.not_pretends_of_refuses hfail _ (hpretends hsuccess)
    · exact hunmoved.toKeeps

/-- The answer of a device that puts a command off. -/
theorem not_isSuccess_busy : ¬ Answer.IsSuccess (.ok (.ok ⟨Status.busy.code, []⟩))
  := by
  rintro ⟨response, hresponse, hsuccess⟩
  obtain rfl := Except.ok.inj (Except.ok.inj hresponse)
  exact absurd hsuccess (by decide)

/-- A block is answered with success when the device takes it, and otherwise leaves the
device with the same content. -/
theorem submit_step_cases (name : String) (hfail : config.Refuses)
    (haction : step.action ≠ .abort) (device : Emulator) {reaction : Exchange Emulator}
    (h : (transport name config clock).submit (transfer.command step) device = reaction) :
  reaction.answer.IsSuccess ∧ Takes transfer step device reaction.mailbox
    ∨ ¬ reaction.answer.IsSuccess ∧ Keeps device reaction.mailbox
  := by
  rw [Transfer.Config.command, submit_transfer] at h
  by_cases hbusy : (device.noted transfer.kind.opcode).IsBusy
  · right
    obtain ⟨device', hreply, hkeeps⟩ := replyTransfer_of_isBusy name config
      transfer.kind.opcode _ hbusy
    rw [hreply] at h
    subst h
    exact ⟨not_isSuccess_busy, hkeeps.state, hkeeps.staging⟩
  · rw [replyTransfer_of_idle hbusy, transfer_block haction] at h
    subst h
    rw [isSuccess_exchange]
    have hready := keeps_ready config device transfer.kind.opcode
    rcases step_cases ((device.noted transfer.kind.opcode).ready config) hfail rfl with
      ⟨hsuccess, htakes⟩ | ⟨hrefused, hkeeps⟩
    · exact .inl ⟨hsuccess, htakes.of_keeps hready⟩
    · exact .inr ⟨hrefused, hready.trans hkeeps⟩

/-- An abort leaves nothing staged, or the device with the same content. -/
theorem submit_abort_cases (name : String) (config : Config) (transfer : Transfer.Config)
    (device : Emulator) {reaction : Exchange Emulator}
    (h : (transport name config clock).submit transfer.abortCommand device = reaction) :
  reaction.mailbox.state = device.state
    ∧ (reaction.mailbox.staging = none ∨ reaction.mailbox.staging = device.staging)
  := by
  rw [Transfer.Config.abortCommand, submit_transfer] at h
  by_cases hbusy : (device.noted transfer.kind.opcode).IsBusy
  · obtain ⟨device', hreply, hkeeps⟩ := replyTransfer_of_isBusy name config
      transfer.kind.opcode _ hbusy
    rw [hreply] at h
    subst h
    exact ⟨hkeeps.state, .inr hkeeps.staging⟩
  · rw [replyTransfer_of_idle hbusy, Transfer.abortPayload, transfer_abort] at h
    subst h
    exact ⟨rfl, .inl rfl⟩

/-- A status query leaves the content of the device as it is. -/
theorem submit_status_keeps (query : StatusQuery) (payload : Bytes) (device : Emulator) :
  Keeps device ((transport name config clock).submit ⟨query.opcode.code, payload⟩ device).mailbox
  := by
  rw [submit_status, replyStatus, reply, backgroundStatus]
  split
  · exact ⟨rfl, rfl⟩
  · split
    · exact ⟨rfl, rfl⟩
    · exact ⟨rfl, rfl⟩

end

end Emulator

end CxlFirmware
