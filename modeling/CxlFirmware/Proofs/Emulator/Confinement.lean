import CxlFirmware.Proofs.Emulator.Slots

/-!
# What a command may change

A command that a device does not answer with success changes nothing that the device holds,
processes or reports.  One that it does answer with success changes only what belongs to its
code: a query for the slots changes nothing, a status query only the background operation and
its report, a transfer command what is staged, the operation and, with the last block, one
target, and an activation the operation and which slots run.  No command changes whether the
device reports itself busy.
-/

namespace CxlFirmware

theorem Answer.isSuccess_ok {response : Response} :
  IsSuccess (.ok (.ok response)) ↔ response.status = Status.success.code
  := by
  constructor
  · rintro ⟨_, ⟨⟩, hsuccess⟩
    rw [← Status.code_ofCode response.status, hsuccess]
  · intro hstatus
    refine ⟨response, rfl, ?_⟩
    rw [hstatus]
    rfl

namespace Emulator

variable {name : String} {config : Config} {clock : Clock Emulator} {command : Command}
  {before after : Emulator} {answer : Answer} {trace : List Submission}

/-! ## Bounds on changes -/

/-- What an order may change in a device that answers it with success. -/
structure Order.Confines (order : Order) (before after : Emulator) : Prop where
  /-- Only a last block changes the lasting state. -/
  unfinished : order.action ≠ .end → after.state = before.state
  /-- And of the lasting state it changes only the target. -/
  beside : before.state.AgreesBeside order.transfer after.state
  aborted : order.action = .abort → after.background = before.background
  lastBackground : after.lastBackground = before.lastBackground

/-- What an activation may change in a device that answers it with success: the operation, and
which slots run now and after a reset. -/
structure ActivationConfines (before after : Emulator) : Prop where
  slots : after.state.slots = before.state.slots
  osImage : after.state.osImage = before.state.osImage
  busy : after.state.busy = before.state.busy
  staging : after.staging = before.staging
  lastBackground : after.lastBackground = before.lastBackground

/-- What a command may change in a device that answers it with success. -/
def Confines (command : Command) (before after : Emulator) : Prop :=
  match Opcode.ofCode? command.opcode with
  | some .getFwInfo => Unmoved before after
  | some .getBackgroundStatus | some .hboStatus => Keeps before after
  | some .transferFw | some .hboTransferFw | some .hboTransferOsImage =>
    ∃ order, command.order? = some order ∧ order.Confines before after
  | some .activateFw | some .hboActivateFw => ActivationConfines before after
  | none => False

theorem confines_of_info (hcommand : command.opcode = Opcode.getFwInfo.code)
    (h : Unmoved before after) :
  Confines command before after
  := by
  rw [Confines, hcommand, Opcode.ofCode?_code]
  exact h

theorem confines_of_status {query : StatusQuery} (hcommand : command.opcode = query.opcode.code)
    (h : Keeps before after) :
  Confines command before after
  := by
  rw [Confines, hcommand, Opcode.ofCode?_code]
  cases query with
  | spec => exact h
  | hbo => exact h

theorem confines_of_order {order : Order} (horder : command.order? = some order)
    (h : order.Confines before after) :
  Confines command before after
  := by
  rw [Confines, (Command.order?_eq_some.mp horder).1, Opcode.ofCode?_code]
  have hconfines : ∃ order, command.order? = some order ∧ order.Confines before after :=
    ⟨order, horder, h⟩
  cases order.kind with
  | specDefined => exact hconfines
  | vendorBackground => exact hconfines
  | osImage => exact hconfines

theorem confines_of_activation {kind : Activation.Kind}
    (hcommand : command.opcode = kind.opcode.code) (h : ActivationConfines before after) :
  Confines command before after
  := by
  rw [Confines, hcommand, Opcode.ofCode?_code]
  cases kind with
  | specDefined => exact h
  | vendorBackground => exact h

/-! ## Orders -/

theorem State.AgreesBeside.refl (transfer : Transfer.Config) (state : State) :
  state.AgreesBeside transfer state
  := ⟨rfl, rfl, rfl, rfl, fun _ _ => rfl, fun _ => rfl⟩

/-- A device that an order leaves unmoved is within the bounds of the order. -/
theorem Order.confines_of_unmoved (order : Order) (h : Unmoved before after) :
  order.Confines before after
  := by
  constructor
  · exact fun _ => h.state
  · rw [h.state]
    exact .refl _ _
  · exact fun _ => h.background
  · exact h.lastBackground

/-- So is one that takes the block of the order. -/
theorem Order.confines_of_takes {order : Order} (haction : order.action ≠ .abort)
    (htakes : Takes order.transfer order.step before after)
    (hlast : after.lastBackground = before.lastBackground) :
  order.Confines before after
  := by
  have hunfinished : order.action ≠ .end → after.state = before.state :=
    fun hend => htakes.state.trans (if_neg hend)
  constructor
  · exact hunfinished
  · by_cases hend : order.action = .end
    · rw [htakes.state_eq_store hend]
      exact State.agreesBeside_store htakes.target _
    · rw [hunfinished hend]
      exact .refl _ _
  · exact fun habort => absurd habort haction
  · exact hlast

/-! ## All commands -/

/-- An activation changes which slots run, and nothing else of the state. -/
theorem State.activate_keeps (state : State) (slot : UInt8) (action : Activation.Action) :
  (state.activate slot action).slots = state.slots
    ∧ (state.activate slot action).osImage = state.osImage
    ∧ (state.activate slot action).busy = state.busy
  := by
  cases action with
  | online => exact ⟨rfl, rfl, rfl⟩
  | onNextReset => exact ⟨rfl, rfl, rfl⟩

/-- A command that is answered with success is within its bounds. -/
theorem Effect.confines (h : Effect config command before answer after)
    (hsuccess : answer.IsSuccess) :
  Confines command before after
  := by
  cases h with
  | unmoved hunmoved hanswer =>
      rcases hanswer hsuccess with hinfo | ⟨⟨order, horder⟩, -⟩
      · exact confines_of_info hinfo hunmoved
      · exact confines_of_order horder (order.confines_of_unmoved hunmoved)
  | reported query hcommand _ hkeeps => exact confines_of_status hcommand hkeeps
  | @aborted order horder haction hidle _ hstate _ hbackground hlast =>
      have hnone : before.background = none := (not_isBusy.mp hidle).1
      apply confines_of_order horder
      constructor
      · exact fun _ => hstate
      · rw [hstate]
        exact .refl _ _
      · exact fun _ => hbackground.trans hnone.symm
      · exact hlast
  | taken horder haction _ _ htakes _ hlast =>
      exact confines_of_order horder (Order.confines_of_takes haction htakes hlast)
  | @activated kind code slot rest action image hcommand _ _ _ _ _ hstate hstaging hstaging' _
      hlast =>
      have hopcode : command.opcode = kind.opcode.code := congrArg Command.opcode hcommand
      obtain ⟨hslots, hosImage, hbusy⟩ := before.state.activate_keeps slot action
      apply confines_of_activation hopcode
      constructor
      · rw [hstate, hslots]
      · rw [hstate, hosImage]
      · rw [hstate, hbusy]
      · exact hstaging'.trans hstaging.symm
      · exact hlast

/-- A device answers every command, but for a status query after an operation that has been asked
too often. -/
theorem answer_submit (name : String) (config : Config) (command : Command)
    (device : Emulator) :
  (∃ response, ((transport name config clock).submit command device).answer
      = .ok (.ok response))
    ∨ ((transport name config clock).submit command device).answer = .error .product
      ∧ (∃ query : StatusQuery, command.opcode = query.opcode.code)
      ∧ ∃ operation, device.background = some operation ∧ 0 < operation.remaining
        ∧ shownPolls ≤ operation.asked
  := by
  have hstatus : ∀ query : StatusQuery, command.opcode = query.opcode.code →
      (∃ response, ((transport name config clock).submit command device).answer
          = .ok (.ok response))
        ∨ ((transport name config clock).submit command device).answer = .error .product
          ∧ (∃ query : StatusQuery, command.opcode = query.opcode.code)
          ∧ ∃ operation, device.background = some operation ∧ 0 < operation.remaining
            ∧ shownPolls ≤ operation.asked := by
    intro query hopcode
    obtain ⟨code, payload⟩ := command
    obtain rfl : code = query.opcode.code := hopcode
    rw [answer_status]
    rcases device.backgroundStatus_cases with ⟨report, hreport⟩ | ⟨hfault, hasked⟩
    · rw [hreport]
      exact .inl ⟨_, rfl⟩
    · rw [hfault]
      exact .inr ⟨rfl, ⟨query, rfl⟩, hasked⟩
  cases hopcode : Opcode.ofCode? command.opcode with
  | none =>
      left
      simp only [transport, handle, hopcode]
      exact ⟨_, rfl⟩
  | some opcode =>
      have hcode := Opcode.eq_of_ofCode? hopcode
      cases opcode with
      | getBackgroundStatus => exact hstatus .spec hcode
      | hboStatus => exact hstatus .hbo hcode
      | _ =>
          left
          simp only [transport, handle, hopcode]
          exact ⟨_, rfl⟩

/-- No command changes whether a device reports itself busy. -/
theorem busy_submit (name : String) (config : Config) (command : Command) (device : Emulator) :
  ((transport name config clock).submit command device).mailbox.state.busy = device.state.busy
  := by
  rcases (effect_submit name config clock command device).state_cases with hsame
    | ⟨transfer, image, hallows, hstate⟩ | ⟨slot, action, _, _, hstate⟩
  · rw [hsame]
  · rw [hstate]
    exact (State.agreesBeside_store hallows image).busy
  · rw [hstate]
    exact (device.state.activate_keeps slot action).2.2

/-- Nor do commands, one after another. -/
theorem busy_of_yields (h : (transport name config clock).Yields before trace after) :
  after.state.busy = before.state.busy
  := by
  have hstep : ∀ s ∈ trace, ∀ device : Emulator, device.state.busy = before.state.busy →
      ((transport name config clock).submit s.command device).mailbox.state.busy
        = before.state.busy :=
    fun s _ device hsame => (busy_submit name config s.command device).trans hsame
  exact h.preserves hstep rfl

/-- A device answers every command, whatever its code and payload, but for a status query after an
operation that has been asked too often, which ends the program.  One that it does not answer with
success leaves the device unmoved, and one that it answers with success is within its bounds; and
whether the device reports itself busy stays as it is. -/
theorem submit_confined (name : String) (config : Config) (command : Command)
    (device : Emulator) :
  let reaction := (transport name config clock).submit command device
  ((∃ response, reaction.answer = .ok (.ok response)
      ∧ (response.status ≠ Status.success.code → Unmoved device reaction.mailbox)
      ∧ (response.status = Status.success.code → Confines command device reaction.mailbox))
    ∨ reaction.answer = .error .product ∧ Keeps device reaction.mailbox
      ∧ (∃ query : StatusQuery, command.opcode = query.opcode.code)
      ∧ ∃ operation, device.background = some operation ∧ 0 < operation.remaining
        ∧ shownPolls ≤ operation.asked)
    ∧ reaction.mailbox.state.busy = device.state.busy
  := by
  intro reaction
  have heffect := effect_submit name config clock command device
  refine ⟨?_, busy_submit name config command device⟩
  rcases @answer_submit clock name config command device with
    ⟨response, hresponse⟩ | ⟨hfault, hquery, hasked⟩
  · refine .inl ⟨response, hresponse, ?_, ?_⟩
    · intro hstatus
      apply heffect.unmoved_of_not_success hresponse
      rw [hresponse, Answer.isSuccess_ok]
      exact hstatus
    · intro hstatus
      apply heffect.confines
      rw [hresponse, Answer.isSuccess_ok]
      exact hstatus
  · refine .inr ⟨hfault, heffect.keeps_of_not_success ?_, hquery, hasked⟩
    rw [hfault]
    rintro ⟨response, hresponse, -⟩
    cases hresponse

/-- The last block for the second slot of a new device changes that slot and nothing else of
the lasting state. -/
theorem submit_confined_wholeImage :
  let device := start .default .default
  let reaction := (transport "mem0" .default .still).submit (wholeImage 2).command device
  reaction.answer.IsSuccess ∧ reaction.mailbox.state ≠ device.state
    ∧ device.state.AgreesBeside (wholeImage 2).transfer reaction.mailbox.state
  := by
  dsimp only
  have hsuccess : ((transport "mem0" .default .still).submit (wholeImage 2).command
      (start .default .default)).answer.IsSuccess := by
    decide +kernel
  have hchanged : ((transport "mem0" .default .still).submit (wholeImage 2).command
      (start .default .default)).mailbox.state ≠ State.default := by
    decide +kernel
  refine ⟨hsuccess, hchanged, ?_⟩
  rcases (@submit_confined .still "mem0" .default (wholeImage 2).command
      (start .default .default)).1 with ⟨response, hresponse, -, hconfined⟩ | ⟨hfault, -⟩
  · rw [hresponse, Answer.isSuccess_ok] at hsuccess
    obtain ⟨order, horder, hconfines⟩ := hconfined hsuccess
    obtain rfl := Option.some.inj ((wholeImage 2).order?_command.symm.trans horder)
    exact hconfines.beside
  · rw [hfault] at hsuccess
    exact absurd hsuccess (by decide)

end Emulator

end CxlFirmware
