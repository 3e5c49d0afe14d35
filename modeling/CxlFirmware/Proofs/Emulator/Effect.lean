import CxlFirmware.Proofs.Emulator.Reaction

/-!
# What a command does to a device

A transfer command that a device can read is an `Order`.  `Effect` lists all that a command
does, whatever its code and payload: it leaves the device unmoved, reports a background
operation, drops what is staged, makes the device take a block, or activates a slot.  A
command that is not answered with success leaves the device unmoved.
-/

namespace CxlFirmware

theorem Opcode.eq_of_ofCode? {code : UInt16} {opcode : Opcode} (h : ofCode? code = some opcode) :
  code = opcode.code
  := by
  have hfound := List.find?_some h
  exact (beq_iff_eq.mp hfound).symm

/-- The family that a transfer command belongs to. -/
def Opcode.transferKind? : Opcode → Option Transfer.Kind
  | transferFw => some .specDefined
  | hboTransferFw => some .vendorBackground
  | hboTransferOsImage => some .osImage
  | _ => none

@[simp]
theorem Opcode.transferKind?_opcode (kind : Transfer.Kind) :
  kind.opcode.transferKind? = some kind
  := by
  cases kind <;> rfl

theorem Opcode.eq_of_transferKind? {opcode : Opcode} {kind : Transfer.Kind}
    (h : opcode.transferKind? = some kind) :
  opcode = kind.opcode
  := by
  cases opcode <;> cases h <;> rfl

theorem Transfer.Action.eq_of_ofCode? {code : UInt8} {action : Action}
    (h : ofCode? code = some action) :
  code = action.code
  := by
  apply UInt8.toNat_inj.mp
  unfold ofCode? at h
  split at h <;> cases h <;> assumption

namespace Emulator

/-! ## Orders -/

/-- What a transfer command tells a device: to take a block, or to drop what is staged. -/
structure Order where
  kind : Transfer.Kind
  action : Transfer.Action
  slot : UInt8
  offset : UInt32
  data : Bytes
  deriving DecidableEq

namespace Order

/-- A transfer to the target of an order. -/
def transfer (order : Order) : Transfer.Config :=
  .new order.kind order.slot

/-- The step of such a transfer that is given by the order. -/
def step (order : Order) : Transfer.Step :=
  ⟨0, order.action, order.offset, order.data⟩

/-- The command that carries an order. -/
def command (order : Order) : Command :=
  order.transfer.command order.step

/-- The request that a device reads in it. -/
def request (order : Order) : TransferRequest :=
  ⟨order.action.code, order.slot, order.offset, order.data⟩

end Order

end Emulator

open Emulator (Order)

/-- The order that a device reads in a command, if it is a transfer command in which it can
read one. -/
def Command.order? (command : Command) : Option Order := do
  let opcode ← Opcode.ofCode? command.opcode
  let kind ← opcode.transferKind?
  let request ← TransferRequest.parse? command.payload
  let action ← Transfer.Action.ofCode? request.action
  return ⟨kind, action, request.slot, request.offset, request.data⟩

theorem Command.order?_eq_some {command : Command} {order : Order} :
  command.order? = some order ↔ command.opcode = order.kind.opcode.code
    ∧ TransferRequest.parse? command.payload = some order.request
  := by
  constructor
  · intro h
    obtain ⟨opcode, hopcode, h⟩ := Option.bind_eq_some_iff.mp h
    obtain ⟨kind, hkind, h⟩ := Option.bind_eq_some_iff.mp h
    obtain ⟨request, hrequest, h⟩ := Option.bind_eq_some_iff.mp h
    obtain ⟨action, haction, h⟩ := Option.bind_eq_some_iff.mp h
    cases h
    constructor
    · rw [Opcode.eq_of_ofCode? hopcode, Opcode.eq_of_transferKind? hkind]
    · rw [hrequest, Order.request, ← Transfer.Action.eq_of_ofCode? haction]
  · rintro ⟨hopcode, hrequest⟩
    simp [order?, hopcode, hrequest, Order.request]

/-- The order in the command of a step. -/
theorem Transfer.Config.order?_command (config : Config) (step : Step) :
  (config.command step).order?
    = some ⟨config.kind, step.action, config.slot, step.offset, step.data⟩
  := by
  apply Command.order?_eq_some.mpr
  exact ⟨rfl, TransferRequest.parse?_encode _⟩

/-- The order in its own command. -/
theorem Emulator.Order.order?_command (order : Order) :
  order.command.order? = some order
  := order.transfer.order?_command order.step

namespace Emulator

variable {name : String} {config : Config} {clock : Clock Emulator} {command : Command}
  {before after : Emulator} {answer : Answer}

/-! ## Effects -/

/-- The state once a slot is activated. -/
def State.activate (state : State) (slot : UInt8) : Activation.Action → State
  | .online => { state with activeSlot := slot, stagedSlot := 0 }
  | .onNextReset => { state with stagedSlot := slot }

/-- The device before and after a command that is answered with `answer`. -/
inductive Effect (config : Config) (command : Command) (before : Emulator) (answer : Answer)
    (after : Emulator) : Prop
  /-- The command does nothing.  It is not a success, or it asks for the slots, or it is a step
  that is made to fail and answered with success all the same. -/
  | unmoved (h : Unmoved before after)
      (hanswer : answer.IsSuccess → command.opcode = Opcode.getFwInfo.code
        ∨ (∃ order, command.order? = some order) ∧ config.Pretends before.stepsSeen)
  /-- The background status is reported, unless the report is a fault. -/
  | reported (query : StatusQuery) (hcommand : command.opcode = query.opcode.code)
      (hanswer : answer = before.backgroundStatus.1.map fun report =>
        .ok ⟨Status.success.code, query.encode report⟩)
      (hkeeps : Keeps before after)
      (hbackground : after.background = before.backgroundStatus.2.background)
      (hlast : after.lastBackground = before.backgroundStatus.2.lastBackground)
  /-- What is staged is dropped. -/
  | aborted {order : Order} (horder : command.order? = some order)
      (haction : order.action = .abort) (hidle : ¬ before.IsBusy) (hanswer : answer.IsSuccess)
      (hstate : after.state = before.state) (hstaging : after.staging = none)
      (hbackground : after.background = none)
      (hlast : after.lastBackground = before.lastBackground)
  /-- A block is taken, and then processed. -/
  | taken {order : Order} (horder : command.order? = some order)
      (haction : order.action ≠ .abort) (hidle : ¬ before.IsBusy) (hanswer : answer.IsSuccess)
      (htakes : Takes order.transfer order.step before after)
      (hbackground : after.background
        = some ⟨order.kind.opcode, config.processingPolls, config.processingPolls⟩)
      (hlast : after.lastBackground = before.lastBackground)
  /-- A filled slot is activated, while nothing is staged. -/
  | activated (kind : Activation.Kind) {code slot : UInt8} {rest : Bytes}
      {action : Activation.Action} {image : SlotImage}
      (hcommand : command = ⟨kind.opcode.code, code :: slot :: rest⟩)
      (haction : Activation.Action.ofCode? code = some action)
      (honline : action = .online → config.onlineActivation = true)
      (hslot : before.state.slot? slot = some image) (hidle : ¬ before.IsBusy)
      (hanswer : answer.IsSuccess) (hstate : after.state = before.state.activate slot action)
      (hstaging : before.staging = none) (hstaging' : after.staging = none)
      (hbackground : after.background
        = some ⟨kind.opcode, config.activationPolls, config.activationPolls⟩)
      (hlast : after.lastBackground = before.lastBackground)

/-! ## Transfer commands -/

section

variable {kind : Transfer.Kind} {payload : Bytes} {order : Order}

/-- A block is looked at as a step. -/
theorem transfer_of_block (hparse : TransferRequest.parse? payload = some order.request)
    (haction : order.action ≠ .abort) (device : Emulator) :
  transfer name config kind.opcode payload device
    = step name config kind.opcode order.action order.request device
  := by
  rw [transfer, hparse]
  simp only [Order.request, Transfer.Action.ofCode?_code]

/-- An abort drops what is staged. -/
theorem transfer_of_abort (hparse : TransferRequest.parse? payload = some order.request)
    (haction : order.action = .abort) (device : Emulator) :
  transfer name config kind.opcode payload device
    = ⟨.success, [⟨.debug, origin, name ++ ": transfer aborted"⟩],
      { device with staging := none }⟩
  := by
  rw [transfer, hparse]
  simp only [Order.request, Transfer.Action.ofCode?_code, haction]

end

/-- Noting a command leaves the device unmoved, and so does looking at it. -/
theorem unmoved_ready (config : Config) (device : Emulator) (opcode : Opcode) :
  Unmoved device ((device.noted opcode).ready config)
  := ⟨⟨rfl, rfl⟩, rfl, rfl⟩

theorem Unmoved.trans {between : Emulator} (h : Unmoved before between)
    (h' : Unmoved between after) :
  Unmoved before after
  := by
  constructor
  · exact h.toKeeps.trans h'.toKeeps
  · exact h'.background.trans h.background
  · exact h'.lastBackground.trans h.lastBackground

/-- The effect of a command that a busy device puts off. -/
theorem effect_of_gated {opcode : Opcode} {handle : Emulator → Verdict} {device : Emulator}
    (hidle : ¬ device.IsBusy → Effect config command device
      (handle ((device.noted opcode).ready config)).exchange.answer
      (handle ((device.noted opcode).ready config)).exchange.mailbox) :
  Effect config command device (gated config handle (device.noted opcode)).exchange.answer
    (gated config handle (device.noted opcode)).exchange.mailbox
  := by
  by_cases hbusy : (device.noted opcode).IsBusy
  · obtain ⟨device', hgated, hunmoved⟩ := gated_of_isBusy config handle hbusy
    rw [hgated]
    apply Effect.unmoved
    · exact ⟨⟨hunmoved.state, hunmoved.staging⟩, hunmoved.background, hunmoved.lastBackground⟩
    · intro hsuccess
      exact absurd hsuccess not_isSuccess_busy
  · rw [gated_of_idle hbusy]
    exact hidle hbusy

/-- The effect of a command that is refused at once. -/
theorem effect_of_refused {status : Status} {device : Emulator}
    (hstatus : status.code ≠ Status.success.code) (opcode : Opcode) :
  Effect config command device
    (⟨status, [], (device.noted opcode).ready config⟩ : Verdict).exchange.answer
    (⟨status, [], (device.noted opcode).ready config⟩ : Verdict).exchange.mailbox
  := by
  apply Effect.unmoved (unmoved_ready config device opcode)
  intro hsuccess
  exact absurd (isSuccess_exchange.mp hsuccess) hstatus

/-- The effect of a command in which the device reads an order. -/
theorem effect_of_order (name : String) (config : Config) {order : Order}
    (horder : command.order? = some order) (device : Emulator) :
  Effect config command device ((transport name config clock).submit command device).answer
    ((transport name config clock).submit command device).mailbox
  := by
  obtain ⟨hopcode, hparse⟩ := Command.order?_eq_some.mp horder
  obtain ⟨code, payload⟩ := command
  obtain rfl : code = order.kind.opcode.code := hopcode
  rw [submit_transfer]
  apply effect_of_gated
  intro hidle
  have hready := unmoved_ready config device order.kind.opcode
  by_cases haction : order.action = .abort
  · rw [transfer_of_abort hparse haction]
    exact .aborted horder haction hidle (isSuccess_exchange.mpr rfl) rfl rfl
      (not_isBusy.mp hidle).1 rfl
  · rw [transfer_of_block hparse haction]
    rcases @step_taken_or_unmoved name config order.transfer order.step
        ((device.noted order.kind.opcode).ready config) _ rfl with
      ⟨hstatus, htakes, hbackground, hlast⟩ | ⟨hunmoved, hpretends⟩
    · apply Effect.taken horder haction hidle
      · exact isSuccess_exchange.mpr (congrArg Status.code hstatus)
      · exact htakes.of_keeps hready.toKeeps
      · exact hbackground
      · exact hlast
    · apply Effect.unmoved (hready.trans hunmoved)
      intro hsuccess
      right
      exact ⟨⟨order, horder⟩, hpretends (isSuccess_exchange.mp hsuccess)⟩

/-- The effect of a transfer command in which the device reads no order. -/
theorem effect_of_no_order (name : String) (config : Config) {kind : Transfer.Kind}
    {payload : Bytes} (horder : Command.order? ⟨kind.opcode.code, payload⟩ = none)
    (device : Emulator) :
  Effect config ⟨kind.opcode.code, payload⟩ device
    ((transport name config clock).submit ⟨kind.opcode.code, payload⟩ device).answer
    ((transport name config clock).submit ⟨kind.opcode.code, payload⟩ device).mailbox
  := by
  rw [submit_transfer]
  apply effect_of_gated
  intro hidle
  rw [transfer]
  cases hparse : TransferRequest.parse? payload with
  | none => exact effect_of_refused (by decide) kind.opcode
  | some request =>
      cases haction : Transfer.Action.ofCode? request.action with
      | none =>
          simp only [haction]
          exact effect_of_refused (by decide) kind.opcode
      | some action =>
          simp [Command.order?, hparse, haction] at horder

/-! ## Activation commands -/

/-- An activation is refused, or activates a filled slot while nothing is staged. -/
theorem activate_cases (name : String) (config : Config) (opcode : Opcode) (payload : Bytes)
    (device : Emulator) :
  (∃ status : Status, status.code ≠ Status.success.code
      ∧ activate name config opcode payload device = ⟨status, [], device⟩)
    ∨ ∃ code slot rest action image records, payload = code :: slot :: rest
      ∧ Activation.Action.ofCode? code = some action
      ∧ (action = .online → config.onlineActivation = true)
      ∧ device.staging = none ∧ device.state.slot? slot = some image
      ∧ activate name config opcode payload device = ⟨.success, records,
        { device with state := device.state.activate slot action }.startBackground opcode
          config.activationPolls⟩
  := by
  match payload with
  | [] => exact .inl ⟨.invalidPayloadLength, by decide, rfl⟩
  | [_] => exact .inl ⟨.invalidPayloadLength, by decide, rfl⟩
  | code :: slot :: rest =>
      rw [activate]
      split
      · exact .inl ⟨.fwTransferInProgress, by decide, rfl⟩
      · rename_i hstaging
        split
        · exact .inl ⟨.fwInvalidSlot, by decide, rfl⟩
        · rename_i hslot
          obtain ⟨image, himage⟩ := Option.ne_none_iff_exists'.mp hslot
          have hnone : device.staging = none := by
            rw [← Option.isNone_iff_eq_none, ← Option.isSome_eq_false_iff]
            exact eq_false_of_ne_true hstaging
          cases haction : Activation.Action.ofCode? code with
          | none => exact .inl ⟨.invalidParameter, by decide, rfl⟩
          | some action =>
              cases action with
              | online =>
                  by_cases honline : config.onlineActivation = true
                  · right
                    simp only [honline, if_true]
                    exact ⟨code, slot, rest, .online, image, _, rfl, haction, fun _ => trivial,
                      hnone, himage, rfl⟩
                  · left
                    simp only [honline]
                    exact ⟨.unsupported, by decide, rfl⟩
              | onNextReset =>
                  exact .inr ⟨code, slot, rest, .onNextReset, image, _, rfl, haction, nofun,
                    hnone, himage, rfl⟩

section

variable {opcode : Opcode} {device : Emulator} {action : Activation.Action} {slot : UInt8}

/-- While something is staged, no activation is taken. -/
theorem activate_of_staged (code : UInt8) (hstaging : device.staging.isSome) :
  activate name config opcode [code, slot] device = ⟨.fwTransferInProgress, [], device⟩
  := by
  rw [activate, if_pos hstaging]

/-- A slot without an image is not activated. -/
theorem activate_of_empty (code : UInt8) (hstaging : device.staging = none)
    (hslot : device.state.slot? slot = none) :
  activate name config opcode [code, slot] device = ⟨.fwInvalidSlot, [], device⟩
  := by
  rw [activate, hstaging, if_neg (by simp), if_pos hslot]

/-- A slot is not activated at once by a device that needs a reset for it. -/
theorem activate_of_unsupported (hstaging : device.staging = none)
    (hslot : device.state.slot? slot ≠ none) (honline : config.onlineActivation = false) :
  activate name config opcode [Activation.Action.online.code, slot] device
    = ⟨.unsupported, [], device⟩
  := by
  rw [activate, hstaging, if_neg (by simp), if_neg hslot]
  simp [Activation.Action.ofCode?, Activation.Action.code, honline]

/-- Any other slot is activated. -/
theorem activate_of_supported (hstaging : device.staging = none)
    (hslot : device.state.slot? slot ≠ none)
    (hsupported : action = .onNextReset ∨ config.onlineActivation = true) :
  ∃ records, activate name config opcode [action.code, slot] device = ⟨.success, records,
    { device with state := device.state.activate slot action }.startBackground opcode
      config.activationPolls⟩
  := by
  rw [activate, hstaging, if_neg (by simp), if_neg hslot]
  cases action with
  | onNextReset => exact ⟨_, rfl⟩
  | online =>
      have honline : config.onlineActivation = true := hsupported.resolve_left nofun
      simp only [Activation.Action.ofCode?, Activation.Action.code, honline]
      exact ⟨_, rfl⟩

end

theorem submit_activation (name : String) (config : Config) (kind : Activation.Kind)
    (payload : Bytes) (device : Emulator) :
  (transport name config clock).submit ⟨kind.opcode.code, payload⟩ device
    = replyActivate name config kind.opcode payload (device.noted kind.opcode)
  := by
  cases kind with
  | specDefined => rfl
  | vendorBackground => rfl

theorem gates_activation (name : String) (config : Config) (kind : Activation.Kind)
    (payload : Bytes) :
  Gates name config kind.opcode payload (activate name config kind.opcode payload)
  := fun _ => submit_activation name config kind payload

/-- The effect of an activation. -/
theorem effect_of_activation (name : String) (config : Config) (kind : Activation.Kind)
    (payload : Bytes) (device : Emulator) :
  Effect config ⟨kind.opcode.code, payload⟩ device
    ((transport name config clock).submit ⟨kind.opcode.code, payload⟩ device).answer
    ((transport name config clock).submit ⟨kind.opcode.code, payload⟩ device).mailbox
  := by
  rw [submit_activation]
  apply effect_of_gated
  intro hidle
  rcases activate_cases name config kind.opcode payload
      ((device.noted kind.opcode).ready config) with
    ⟨status, hstatus, hrefused⟩
      | ⟨code, slot, rest, action, image, records, rfl, haction, honline, hstaging, hslot, hdone⟩
  · rw [hrefused]
    exact effect_of_refused hstatus kind.opcode
  · rw [hdone]
    exact .activated kind rfl haction honline hslot hidle (isSuccess_exchange.mpr rfl) rfl
      hstaging hstaging rfl rfl

/-! ## Status queries -/

theorem backgroundStatus_noted (device : Emulator) (opcode : Opcode) :
  (device.noted opcode).backgroundStatus
    = (device.backgroundStatus.1, device.backgroundStatus.2.noted opcode)
  := by
  obtain ⟨_, _, background, _, _, _, _⟩ := device
  cases background with
  | none => rfl
  | some operation =>
      simp only [backgroundStatus, noted]
      split
      · rfl
      · rfl

/-- There is a report, unless an operation has been asked too often. -/
theorem backgroundStatus_cases (device : Emulator) :
  (∃ report, device.backgroundStatus.1 = .ok report)
    ∨ device.backgroundStatus.1 = .error .product
      ∧ ∃ operation, device.background = some operation ∧ 0 < operation.remaining
        ∧ shownPolls ≤ operation.asked
  := by
  rw [backgroundStatus]
  split
  · exact .inl ⟨_, rfl⟩
  · rename_i operation hbackground
    split
    · rename_i hleft
      rcases Nat.lt_or_ge operation.asked shownPolls with hlt | hle
      · obtain ⟨percent, hreport, -⟩ := Background.report_of_lt hlt
        exact .inl ⟨_, hreport⟩
      · exact .inr ⟨Background.report_of_le hle, operation, hbackground, hleft, hle⟩
    · exact .inl ⟨_, rfl⟩

theorem keeps_backgroundStatus (device : Emulator) :
  Keeps device device.backgroundStatus.2
  := by
  rw [backgroundStatus]
  split
  · exact ⟨rfl, rfl⟩
  · split
    · exact ⟨rfl, rfl⟩
    · exact ⟨rfl, rfl⟩

/-- A status query is answered with what the device has to report, unless that is a fault. -/
theorem answer_status (name : String) (config : Config) (query : StatusQuery) (payload : Bytes)
    (device : Emulator) :
  ((transport name config clock).submit ⟨query.opcode.code, payload⟩ device).answer
    = device.backgroundStatus.1.map fun report => .ok ⟨Status.success.code, query.encode report⟩
  := by
  rw [submit_status, replyStatus, backgroundStatus_noted]
  cases device.backgroundStatus.1 with
  | error fault => rfl
  | ok report => rfl

/-- The effect of a status query. -/
theorem effect_of_status (name : String) (config : Config) (query : StatusQuery)
    (payload : Bytes) (device : Emulator) :
  Effect config ⟨query.opcode.code, payload⟩ device
    ((transport name config clock).submit ⟨query.opcode.code, payload⟩ device).answer
    ((transport name config clock).submit ⟨query.opcode.code, payload⟩ device).mailbox
  := by
  have hanswer := @answer_status clock name config query payload device
  obtain ⟨hstate, hstaging⟩ := keeps_backgroundStatus device
  rw [submit_status, replyStatus, backgroundStatus_noted] at hanswer ⊢
  exact .reported query rfl hanswer ⟨hstate, hstaging⟩ rfl rfl

/-! ## All commands -/

/-- A command has one of the effects. -/
theorem effect_submit (name : String) (config : Config) (clock : Clock Emulator)
    (command : Command) (device : Emulator) :
  Effect config command device ((transport name config clock).submit command device).answer
    ((transport name config clock).submit command device).mailbox
  := by
  cases horder : command.order? with
  | some order => exact effect_of_order name config horder device
  | none =>
      obtain ⟨code, payload⟩ := command
      cases hopcode : Opcode.ofCode? code with
      | none =>
          have hunsupported : (transport name config clock).submit ⟨code, payload⟩ device
              = (⟨.unsupported, [], { device with history := code :: device.history }⟩
                : Verdict).exchange := by
            simp only [transport, handle, hopcode]
          rw [hunsupported]
          have hcode : Status.unsupported.code ≠ Status.success.code := by decide
          exact .unmoved ⟨⟨rfl, rfl⟩, rfl, rfl⟩ fun hsuccess =>
            absurd (isSuccess_exchange.mp hsuccess) hcode
      | some opcode =>
          obtain rfl := Opcode.eq_of_ofCode? hopcode
          cases opcode with
          | getBackgroundStatus => exact effect_of_status name config .spec payload device
          | hboStatus => exact effect_of_status name config .hbo payload device
          | getFwInfo => exact .unmoved ⟨⟨rfl, rfl⟩, rfl, rfl⟩ fun _ => .inl rfl
          | transferFw => exact @effect_of_no_order clock name config .specDefined _ horder device
          | hboTransferFw =>
              exact @effect_of_no_order clock name config .vendorBackground _ horder device
          | hboTransferOsImage =>
              exact @effect_of_no_order clock name config .osImage _ horder device
          | activateFw => exact effect_of_activation name config .specDefined payload device
          | hboActivateFw => exact effect_of_activation name config .vendorBackground payload device

/-- A command that is answered, but not with success, leaves the device unmoved. -/
theorem Effect.unmoved_of_not_success (h : Effect config command before answer after)
    {receipt : Receipt} (hreceipt : answer = .ok receipt) (hanswer : ¬ answer.IsSuccess) :
  Unmoved before after
  := by
  cases h with
  | unmoved h _ => exact h
  | reported query _ hreply =>
      cases hstatus : before.backgroundStatus.1 with
      | error fault =>
          rw [hreceipt, hstatus] at hreply
          cases hreply
      | ok report =>
          rw [hstatus] at hreply
          exact absurd ⟨_, hreply, rfl⟩ hanswer
  | aborted _ _ _ hsuccess => exact absurd hsuccess hanswer
  | taken _ _ _ hsuccess => exact absurd hsuccess hanswer
  | activated _ _ _ _ _ _ hsuccess => exact absurd hsuccess hanswer

/-- Whatever becomes of a command, without a success the device holds what it held before. -/
theorem Effect.keeps_of_not_success (h : Effect config command before answer after)
    (hanswer : ¬ answer.IsSuccess) :
  Keeps before after
  := by
  cases h with
  | unmoved h _ => exact h.toKeeps
  | reported _ _ _ hkeeps => exact hkeeps
  | aborted _ _ _ hsuccess => exact absurd hsuccess hanswer
  | taken _ _ _ hsuccess => exact absurd hsuccess hanswer
  | activated _ _ _ _ _ _ hsuccess => exact absurd hsuccess hanswer

/-- A transfer command, sent again while it is not answered with success, leaves the device
unmoved. -/
theorem unmoved_of_answers {kind : Transfer.Kind} {payload : Bytes} {answers : List Answer}
    (h : (transport name config clock).Yields before
      (answers.map (.mk ⟨kind.opcode.code, payload⟩)) after)
    (hanswers : ∀ answer ∈ answers, ¬ answer.IsSuccess) :
  Unmoved before after
  := by
  induction answers generalizing before with
  | nil =>
      cases h
      exact ⟨⟨rfl, rfl⟩, rfl, rfl⟩
  | cons answer answers ih =>
      obtain ⟨hanswer, hothers⟩ := List.forall_mem_cons.mp hanswers
      obtain ⟨hfirst, hrest⟩ := h.uncons
      have hreceipt : answer = .ok _ := hfirst.trans (congrArg Exchange.answer
        (submit_transfer name config kind payload before))
      have heffect := effect_submit name config clock ⟨kind.opcode.code, payload⟩ before
      rw [← show answer = _ from hfirst] at heffect
      exact (heffect.unmoved_of_not_success hreceipt hanswer).trans (ih hrest hothers)

/-! ## Commands with and without an order -/

theorem order?_status (query : StatusQuery) (payload : Bytes) :
  Command.order? ⟨query.opcode.code, payload⟩ = none
  := by
  cases query <;> simp [Command.order?, StatusQuery.opcode, Opcode.transferKind?]

theorem order?_activation (kind : Activation.Kind) (payload : Bytes) :
  Command.order? ⟨kind.opcode.code, payload⟩ = none
  := by
  cases kind <;> simp [Command.order?, Activation.Kind.opcode, Opcode.transferKind?]

/-- A device does nothing on an order, drops what is staged, or takes a block. -/
theorem Effect.order_cases (h : Effect config command before answer after) {order : Order}
    (horder : command.order? = some order) :
  (Unmoved before after ∧ (answer.IsSuccess → config.Pretends before.stepsSeen))
    ∨ (order.action = .abort ∧ answer.IsSuccess ∧ after.state = before.state
      ∧ after.staging = none)
    ∨ order.action ≠ .abort ∧ answer.IsSuccess ∧ Takes order.transfer order.step before after
  := by
  cases h with
  | unmoved h hanswer =>
      left
      refine ⟨h, fun hsuccess => ?_⟩
      rcases hanswer hsuccess with hinfo | ⟨-, hpretends⟩
      · obtain ⟨code, payload⟩ := command
        obtain rfl : code = Opcode.getFwInfo.code := hinfo
        simp [Command.order?, Opcode.transferKind?] at horder
      · exact hpretends
  | reported query hcommand =>
      obtain ⟨code, payload⟩ := command
      obtain rfl : code = query.opcode.code := hcommand
      rw [order?_status] at horder
      cases horder
  | aborted horder' haction _ hanswer hstate hstaging =>
      cases horder.symm.trans horder'
      exact .inr (.inl ⟨haction, hanswer, hstate, hstaging⟩)
  | taken horder' haction _ hanswer htakes =>
      cases horder.symm.trans horder'
      exact .inr (.inr ⟨haction, hanswer, htakes⟩)
  | activated kind hcommand =>
      rw [hcommand, order?_activation] at horder
      cases horder

/-- A command without an order changes nothing of what is staged. -/
theorem Effect.staging_of_no_order (h : Effect config command before answer after)
    (horder : command.order? = none) :
  after.staging = before.staging
  := by
  cases h with
  | unmoved h _ => exact h.staging
  | reported _ _ _ hkeeps => exact hkeeps.staging
  | aborted horder' => cases horder.symm.trans horder'
  | taken horder' => cases horder.symm.trans horder'
  | activated _ _ _ _ _ _ _ _ hnone hnone' => exact hnone'.trans hnone.symm

end Emulator

end CxlFirmware
