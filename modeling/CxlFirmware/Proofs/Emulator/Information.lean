import CxlFirmware.Proofs.Emulator.Integrity
import CxlFirmware.Proofs.Emulator.Slots

/-!
# What a device tells of its slots

The reply to the query for the slots has room for four of them, and for the numbers of the
slots that run in three bits each.  It tells the truth as long as these numbers are among
those of the slots that it counts.  They stay so under all commands exactly when no slot behind
the fourth is filled: a transfer writes only a slot that is counted, but an activation takes
any slot that is filled.
-/

namespace CxlFirmware

/-- Asking for the slots comes to reading the answer. -/
theorem Device.quiet_firmwareInfo {σ : Type} (device : Device σ) :
  device.firmwareInfo.quiet = do
    let answer ← Workflow.ask device.transport ⟨Opcode.getFwInfo.code, []⟩
    return (Mailbox.verdict .getFwInfo answer).bind FirmwareInfo.decode
  := by
  rw [firmwareInfo, Workflow.quiet_bind, Mailbox.quiet_submit, bind_assoc]
  congr 1
  funext answer
  rw [pure_bind]
  cases Mailbox.verdict .getFwInfo answer with
  | error error => rfl
  | ok payload =>
      simp only [Except.bind]
      cases FirmwareInfo.decode payload with
      | error error => rfl
      | ok info => simp

namespace Emulator

variable {name : String} {config : Config} {clock : Clock Emulator} {host : Device Emulator}
  {state : State} {before after : Emulator} {trace : List Submission}

/-- A device tells the slots that it holds, as far as they fit the reply. -/
theorem result_firmwareInfo (hhost : host.transport = transport name config clock)
    (device : Emulator) :
  (host.firmwareInfo device).result = .ok (.ok (firmwareInfo config device).written)
  := by
  have hverdict : Mailbox.verdict .getFwInfo
      (.ok ⟨Status.success.code, (firmwareInfo config device).encode⟩)
      = .ok (firmwareInfo config device).encode := rfl
  rw [← Workflow.result_quiet, Device.quiet_firmwareInfo, hhost]
  change Except.ok ((Mailbox.verdict .getFwInfo
    (.ok ⟨Status.success.code, (firmwareInfo config device).encode⟩)).bind
      FirmwareInfo.decode) = _
  rw [hverdict]
  exact congrArg Except.ok (FirmwareInfo.decode_encode _)

/-- What is read in the reply about the slots that run is true, and they are among those that
it counts. -/
def Truthful (host : Device Emulator) (device : Emulator) : Prop :=
  ∃ info, (host.firmwareInfo device).result = .ok (.ok info)
    ∧ info.activeSlot = device.state.activeSlot ∧ info.stagedSlot = device.state.stagedSlot
    ∧ (1 ≤ info.activeSlot ∧ info.activeSlot ≤ info.slotsSupported)
    ∧ (info.stagedSlot = 0 ∨ 1 ≤ info.stagedSlot ∧ info.stagedSlot ≤ info.slotsSupported)

namespace State

/-- The slots that run are among those that the device counts. -/
structure InRange (state : State) : Prop where
  active : 1 ≤ state.activeSlot ∧ state.activeSlot ≤ state.slotCount
  staged : state.stagedSlot = 0 ∨ 1 ≤ state.stagedSlot ∧ state.stagedSlot ≤ state.slotCount

/-- No slot that has a number is filled behind those that the device can count. -/
def Counted (state : State) : Prop :=
  ∀ index, FirmwareInfo.maxSlots ≤ index → index + 1 < UInt8.size → ¬ state.Filled index

theorem toNat_slotCount (state : State) :
  state.slotCount.toNat = min state.slots.length FirmwareInfo.maxSlots
  := by
  apply UInt8.toNat_ofNat_of_lt'
  change min _ 4 < 256
  omega

theorem slotCount_le (state : State) :
  state.slotCount.toNat ≤ FirmwareInfo.maxSlots
  := by
  rw [toNat_slotCount]
  exact Nat.min_le_right _ _

/-- The number of a slot that the device counts fits three bits. -/
theorem ofNat_mod_eight {slot : UInt8} (h : slot ≤ state.slotCount) :
  UInt8.ofNat (slot.toNat % 8) = slot
  := by
  apply FirmwareInfo.ofNat_mod_eight
  apply UInt8.lt_iff_toNat_lt.mpr
  exact Nat.lt_of_le_of_lt (Nat.le_trans (UInt8.le_iff_toNat_le.mp h) state.slotCount_le)
    (by decide)

theorem InRange.staged_le (h : state.InRange) :
  state.stagedSlot ≤ state.slotCount
  := by
  rcases h.staged with hzero | ⟨-, hle⟩
  · rw [hzero]
    exact UInt8.zero_le
  · exact hle

end State

/-- The reply is true when the slots that run are counted, and only then. -/
theorem truthful_iff (hhost : host.transport = transport name config clock) {device : Emulator} :
  Truthful host device ↔ device.state.InRange
  := by
  constructor
  · rintro ⟨info, hinfo, hactive, hstaged, hactiveRange, hstagedRange⟩
    rw [result_firmwareInfo hhost] at hinfo
    obtain rfl := Except.ok.inj (Except.ok.inj hinfo)
    rw [hactive] at hactiveRange
    rw [hstaged] at hstagedRange
    exact ⟨hactiveRange, hstagedRange⟩
  · intro hrange
    have hactive : (firmwareInfo config device).written.activeSlot = device.state.activeSlot :=
      State.ofNat_mod_eight hrange.active.2
    have hstaged : (firmwareInfo config device).written.stagedSlot = device.state.stagedSlot :=
      State.ofNat_mod_eight hrange.staged_le
    refine ⟨_, result_firmwareInfo hhost device, hactive, hstaged, ?_, ?_⟩
    · rw [hactive]
      exact hrange.active
    · rw [hstaged]
      exact hrange.staged

/-! ## The slots that are counted -/

namespace State

theorem AgreesBeside.slotCount {transfer : Transfer.Config} {before after : State}
    (h : before.AgreesBeside transfer after) :
  after.slotCount = before.slotCount
  := by
  rw [State.slotCount, h.length]
  rfl

/-- A slot that is filled and has a number is counted, if no slot behind the fourth is
filled. -/
theorem Counted.slot_le {slot : UInt8} (hcounted : state.Counted)
    (hslot : (state.slot? slot).isSome) :
  1 ≤ slot ∧ slot ≤ state.slotCount
  := by
  obtain ⟨index, hindex, hfilled⟩ := isSome_slot?.mp hslot
  have hnumber : index + 1 < UInt8.size := by
    rw [← hindex]
    exact slot.toNat_lt
  have hfew : index < FirmwareInfo.maxSlots := by
    apply Nat.lt_of_not_le
    intro hbehind
    exact hcounted index hbehind hnumber hfilled
  have hlength : index < state.slots.length := by
    obtain ⟨image, himage⟩ := hfilled
    exact (List.getElem?_eq_some_iff.mp himage).1
  rw [UInt8.le_iff_toNat_le, UInt8.le_iff_toNat_le, toNat_slotCount, hindex]
  exact ⟨Nat.succ_pos index, Nat.le_min.mpr ⟨hlength, hfew⟩⟩

section

variable {transfer : Transfer.Config}

theorem Counted.store (hcounted : state.Counted) (hallows : state.Allows transfer)
    (image : SlotImage) :
  (state.store transfer image).Counted
  := by
  rintro index hbehind hnumber ⟨image', himage⟩
  have hother : transfer.kind = .osImage ∨ index + 1 ≠ transfer.slot.toNat := by
    apply hallows.imp_right
    intro haccepts hsame
    simp only [accepts, Bool.and_eq_true, decide_eq_true_iff] at haccepts
    have hle : index + 1 ≤ FirmwareInfo.maxSlots :=
      hsame ▸ Nat.le_trans (UInt8.le_iff_toNat_le.mp haccepts.1.2) state.slotCount_le
    omega
  exact hcounted index hbehind hnumber
    ⟨image', ((agreesBeside_store hallows image).slots index hother).symm.trans himage⟩

theorem InRange.store (hrange : state.InRange) (hallows : state.Allows transfer)
    (image : SlotImage) :
  (state.store transfer image).InRange
  := by
  have hagrees := agreesBeside_store hallows image
  constructor
  · rw [hagrees.activeSlot, hagrees.slotCount]
    exact hrange.active
  · rw [hagrees.stagedSlot, hagrees.slotCount]
    exact hrange.staged

end

section

variable {slot : UInt8}

theorem Counted.activate (hcounted : state.Counted) (action : Activation.Action) :
  (state.activate slot action).Counted
  := by
  cases action with
  | online => exact hcounted
  | onNextReset => exact hcounted

theorem InRange.activate (hrange : state.InRange) (hcounted : state.Counted)
    (hslot : (state.slot? slot).isSome) (action : Activation.Action) :
  (state.activate slot action).InRange
  := by
  have hcount := hcounted.slot_le hslot
  cases action with
  | online => exact ⟨hcount, .inl rfl⟩
  | onNextReset => exact ⟨hrange.active, .inr hcount⟩

end

end State

/-! ## Runs -/

/-- Where no slot behind the fourth is filled, the slots that run stay counted, whatever the
command. -/
theorem inRange_submit (name : String) (config : Config) (command : Command)
    (device : Emulator) (h : device.state.InRange ∧ device.state.Counted) :
  let later := ((transport name config clock).submit command device).mailbox
  later.state.InRange ∧ later.state.Counted
  := by
  intro later
  obtain ⟨hrange, hcounted⟩ := h
  rcases (effect_submit name config clock command device).state_cases with hsame
    | ⟨transfer, image, hallows, hstate⟩ | ⟨slot, action, image, hslot, hstate⟩
  · rw [show later.state = device.state from hsame]
    exact ⟨hrange, hcounted⟩
  · rw [show later.state = _ from hstate]
    exact ⟨hrange.store hallows image, hcounted.store hallows image⟩
  · rw [show later.state = _ from hstate]
    exact ⟨hrange.activate hcounted (Option.isSome_of_mem hslot) action, hcounted.activate action⟩

/-- Any filled slot of a new device can be made the one that runs after the next reset. -/
theorem yields_onNextReset (name : String) (config : Config) {slot : UInt8} {image : SlotImage}
    (hslot : state.slot? slot = some image) :
  ∃ trace later, (transport name config clock).Yields (start config state) trace later
    ∧ later.state = state.activate slot .onNextReset
  := by
  have hhandled : (transport name config clock).Yields _ _ _ := yields_handled
    (gates_activation name config .specDefined [Activation.Action.onNextReset.code, slot])
    (start config state) rfl
  have hfilled : state.slot? slot ≠ none := Option.ne_none_iff_exists'.mpr ⟨image, hslot⟩
  obtain ⟨records, hactivated⟩ := @activate_of_supported name config
    Activation.Kind.specDefined.opcode
    ((start config state).handling config Activation.Kind.specDefined.opcode)
    .onNextReset slot rfl hfilled (.inl rfl)
  rw [hactivated] at hhandled
  exact ⟨_, _, hhandled, rfl⟩

/-- Of a new device whose slots that run are counted, the reply is true after any commands
exactly when no slot behind the fourth is filled. -/
theorem always_truthful_iff (hhost : host.transport = transport name config clock)
    (hrange : state.InRange) :
  (∀ trace device, (transport name config clock).Yields (start config state) trace device →
      Truthful host device)
    ↔ ∀ index, 4 ≤ index → index < 255 → ¬ state.Filled index
  := by
  constructor
  · rintro htruthful index hbehind hnumber ⟨image, himage⟩
    have hindex : (UInt8.ofNat (index + 1)).toNat = index + 1 :=
      UInt8.toNat_ofNat_of_lt' (Nat.succ_lt_succ hnumber)
    have hslot : state.slot? (UInt8.ofNat (index + 1)) = some image := by
      rw [State.slot?, hindex]
      exact congrArg Option.join himage
    obtain ⟨trace, later, hpath, hstate⟩ := yields_onNextReset name config hslot
    have hlater := ((truthful_iff hhost).mp (htruthful trace later hpath)).staged_le
    rw [hstate, UInt8.le_iff_toNat_le] at hlater
    have hcount : (UInt8.ofNat (index + 1)).toNat ≤ 4 := Nat.le_trans hlater (State.slotCount_le _)
    omega
  · intro hcounted trace device hpath
    have hkept := hpath.preserves
      (fun s _ device => inRange_submit name config s.command device)
      ⟨hrange, fun index hbehind hnumber => hcounted index hbehind (Nat.lt_of_succ_lt_succ hnumber)⟩
    exact (truthful_iff hhost).mpr hkept.1

theorem always_truthful_iff_relocated :
  State.default.InRange ∧ relocated.state.activeSlot = 2 ∧ Truthful fresh relocated
  := by
  have hrange : State.default.InRange := ⟨by decide, .inl rfl⟩
  have hcounted : ∀ index, 4 ≤ index → index < 255 → ¬ State.default.Filled index := by
    rintro index hbehind - ⟨image, himage⟩
    have hlength : index < 4 := (List.getElem?_eq_some_iff.mp himage).1
    omega
  have hactive : relocated.state.activeSlot = 2 := by
    decide +kernel
  have hpath : (transport "mem0" .default .still).Yields (start .default .default) _ relocated :=
    (transport "mem0" .default .still).yields_send (start .default .default) relocation
  have hhost : fresh.transport = transport "mem0" .default .still := rfl
  have htruthful := (always_truthful_iff hhost hrange).mpr hcounted
  exact ⟨hrange, hactive, htruthful _ relocated hpath⟩

/-- A state of nine slots, the first and the last of which are filled. -/
def nineSlots : State :=
  { State.default with
    slots := some ⟨"emu-1.0.0", 0, 0⟩ :: List.replicate 7 none ++ [some ⟨"emu-9.0.0", 0, 0⟩] }

/-- A device that lets the ninth slot run tells that the first one does. -/
theorem mistold_ninth_slot :
  let command : Command := ⟨Opcode.activateFw.code, [0, 9]⟩
  let reaction := (transport "mem0" .default .still).submit command (start .default nineSlots)
  nineSlots.InRange
    ∧ (transport "mem0" .default .still).Yields (start .default nineSlots)
      [⟨command, reaction.answer⟩] reaction.mailbox
    ∧ reaction.mailbox.state.activeSlot = 9
    ∧ (∃ info, (fresh.firmwareInfo reaction.mailbox).result = .ok (.ok info)
      ∧ info.activeSlot = 1)
    ∧ ¬ Truthful fresh reaction.mailbox
  := by
  intro command reaction
  have hrange : nineSlots.InRange := ⟨by decide, .inl rfl⟩
  have hactive : reaction.mailbox.state.activeSlot = 9 := by
    decide +kernel
  have hcount : reaction.mailbox.state.slotCount = 4 := by
    decide +kernel
  have hinfo : (firmwareInfo .default reaction.mailbox).written.activeSlot = 1 := by
    change UInt8.ofNat (reaction.mailbox.state.activeSlot.toNat % 8) = 1
    rw [hactive]
    rfl
  refine ⟨hrange, .single _ command, hactive, ⟨_, result_firmwareInfo rfl _, hinfo⟩, ?_⟩
  intro htruthful
  have hle := ((truthful_iff rfl).mp htruthful).active.2
  rw [hactive, hcount] at hle
  exact absurd hle (by decide)

end Emulator

end CxlFirmware
