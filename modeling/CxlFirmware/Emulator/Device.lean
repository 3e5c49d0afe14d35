import CxlFirmware.Activation
import CxlFirmware.Device
import CxlFirmware.Emulator.State
import CxlFirmware.Mailbox.TransferRequest

/-!
# Emulated devices

A device in memory that takes every command.  A transfer or an activation that is
accepted starts a background operation, which ends after a fixed count of status
queries; while it runs, further transfers and activations are answered with Busy.
A device can be told to be busy more often and to fail at one step of a transfer.
-/

namespace CxlFirmware

namespace Emulator

/-- How an emulated device behaves. -/
structure Config where
  /-- The count of Busy answers before each transfer or activation is looked at. -/
  busyReplies : UInt32
  /-- The count of status queries for which a block is being processed. -/
  processingPolls : UInt32
  /-- The count of status queries for which an activation is being processed. -/
  activationPolls : UInt32
  /-- The step of a transfer to refuse, counted from zero and without aborts. -/
  failAtStep : Option Nat
  /-- The return code of the refused step. -/
  failStatus : Status
  /-- Whether a slot can be activated without a reset. -/
  onlineActivation : Bool
  deriving DecidableEq, Repr

/-- The behaviour where nothing else is chosen. -/
def Config.default : Config where
  busyReplies := 0
  processingPolls := 1
  activationPolls := 2
  failAtStep := none
  failStatus := .internalError
  onlineActivation := true

/-- The part of an image that was received so far. -/
structure Staging where
  opcode : Opcode
  slot : UInt8
  data : Bytes
  deriving DecidableEq

/-- A running background operation. -/
structure Background where
  opcode : Opcode
  /-- The count of status queries for which the operation runs. -/
  totalPolls : UInt32
  /-- The count of those that are still to come. -/
  remaining : UInt32
  deriving DecidableEq

/-- The report of a running operation.  The product for the percentage has 32 bits, and
one that does not fit them is a fault; a percentage that does not fit a byte is reported
as 99. -/
def Background.report (operation : Background) : Except Fault BackgroundStatus :=
  let done := operation.totalPolls - operation.remaining
  let percent := done.toNat * 100 / operation.totalPolls.toNat
  if done.toNat * 100 < UInt32.size then .ok {
    inProgress := true
    percent := if percent < 256 then UInt8.ofNat percent else 99
    opcode := operation.opcode.code
    returnCode := 0
    vendorStatus := 0 }
  else .error .product

/-- The report of an operation that has ended. -/
def Background.finished (operation : Background) : BackgroundStatus where
  inProgress := false
  percent := 100
  opcode := operation.opcode.code
  returnCode := Status.success.code
  vendorStatus := 0

end Emulator

/-- An emulated device. -/
structure Emulator where
  state : Emulator.State
  staging : Option Emulator.Staging
  background : Option Emulator.Background
  /-- The report of the last operation that has ended. -/
  lastBackground : BackgroundStatus
  /-- The count of Busy answers still to give. -/
  busyLeft : UInt32
  /-- The count of steps of transfers that were looked at. -/
  stepsSeen : Nat
  /-- The codes of all commands, the latest first. -/
  history : List UInt16
  deriving DecidableEq

namespace Emulator

/-- Where the log records of this module come from. -/
def origin : String := "cxlfw::emulator"

/-- A device that is started from a saved state. -/
def start (config : Config) (state : State) : Emulator where
  state
  staging := none
  background := none
  lastBackground := .idle
  busyLeft := config.busyReplies
  stepsSeen := 0
  history := []

/-- The gate of a device that is started from a saved state. -/
def initialGate (state : State) : Gate :=
  .flag state.busy false

/-- Whether a part of an image is waiting for the rest. -/
def transferPending (device : Emulator) : Bool :=
  device.staging.isSome

/-- The answer to a command, without a payload. -/
structure Verdict where
  status : Status
  records : List LogRecord
  /-- The device afterwards. -/
  device : Emulator

/-- The device with a background operation just begun. -/
def startBackground (device : Emulator) (opcode : Opcode) (polls : UInt32) : Emulator :=
  { device with background := some ⟨opcode, polls, polls⟩ }

/-- The background status to report, and the device after the query.  The query counts
even where the report is a fault. -/
def backgroundStatus (device : Emulator) : Except Fault BackgroundStatus × Emulator :=
  match device.background with
  | none => (.ok device.lastBackground, device)
  | some operation =>
    if 0 < operation.remaining then
      (operation.report, { device with
        background := some { operation with remaining := operation.remaining - 1 } })
    else
      (.ok operation.finished, { device with
        background := none
        lastBackground := operation.finished })

/-- The slots as the device reports them. -/
def firmwareInfo (config : Config) (device : Emulator) : FirmwareInfo where
  slotsSupported := device.state.slotCount
  activeSlot := device.state.activeSlot
  stagedSlot := device.state.stagedSlot
  onlineActivation := config.onlineActivation
  revisions := (device.state.slots.take FirmwareInfo.maxSlots).map (·.map SlotImage.revision)

/-! ## Transfers -/

/-- The offset at which a block has to come, `none` where no block may come. -/
def expectedOffset (staging : Option Staging) (opcode : Opcode) (action : Transfer.Action)
    (slot : UInt8) : Option Nat :=
  match staging, action with
  | _, .initiate => some 0
  | none, .end => some 0
  | some staged, _ =>
    if staged.opcode = opcode ∧ staged.slot = slot then
      some (staged.data.length / TransferRequest.unit)
    else none
  | none, _ => none

/-- What is staged once a block was taken in. -/
def extend (staging : Option Staging) (opcode : Opcode) (action : Transfer.Action)
    (slot : UInt8) (data : Bytes) : Staging :=
  match staging, action with
  | _, .initiate => ⟨opcode, slot, data⟩
  | none, _ => ⟨opcode, slot, data⟩
  | some staged, _ => { staged with data := staged.data ++ data }

/-- The state once a staged image is complete. -/
def commit (state : State) (staged : Staging) : State :=
  if staged.opcode = .hboTransferOsImage then
    state.setOsImage (.ofData staged.data)
  else state.setSlot staged.slot (.ofData staged.data)

/-- The name of the place of a staged image. -/
def targetText (staged : Staging) : String :=
  if staged.opcode = .hboTransferOsImage then "OS image"
  else "slot " ++ Nat.repr staged.slot.toNat

/-- The log record of a complete image. -/
def commitRecord (name : String) (staged : Staging) : LogRecord :=
  let image := SlotImage.ofData staged.data
  ⟨.debug, origin, name ++ ": committed " ++ Nat.repr staged.data.length ++ " bytes ("
    ++ image.revision ++ ") to " ++ targetText staged⟩

/-- The answer to a block that passed every check. -/
def accept (name : String) (config : Config) (opcode : Opcode) (action : Transfer.Action)
    (request : TransferRequest) (device : Emulator) : Verdict :=
  let staged := extend device.staging opcode action request.slot request.data
  let record : LogRecord := ⟨.trace, origin, name ++ ": " ++ action.text ++ " slot "
    ++ Nat.repr request.slot.toNat ++ " offset " ++ Nat.repr request.offset.toNat ++ ", "
    ++ Nat.repr staged.data.length ++ " bytes staged"⟩
  if action = .end then
    ⟨.success, [record, commitRecord name staged],
      { device with state := commit device.state staged, staging := none }.startBackground
        opcode config.processingPolls⟩
  else
    ⟨.success, [record],
      { device with staging := some staged }.startBackground opcode config.processingPolls⟩

/-- The answer to a block. -/
def step (name : String) (config : Config) (opcode : Opcode) (action : Transfer.Action)
    (request : TransferRequest) (device : Emulator) : Verdict :=
  let counted := { device with stepsSeen := device.stepsSeen + 1 }
  if config.failAtStep = some device.stepsSeen then
    ⟨config.failStatus, [⟨.debug, origin,
      name ++ ": injected failure at step " ++ Nat.repr device.stepsSeen⟩], counted⟩
  else if opcode ≠ .hboTransferOsImage ∧ device.state.accepts request.slot = false then
    ⟨.fwInvalidSlot, [], counted⟩
  else if expectedOffset device.staging opcode action request.slot
      = some request.offset.toNat then
    accept name config opcode action request counted
  else ⟨.fwTransferOutOfOrder, [], counted⟩

/-- The answer to a transfer command. -/
def transfer (name : String) (config : Config) (opcode : Opcode) (payload : Bytes)
    (device : Emulator) : Verdict :=
  match TransferRequest.parse? payload with
  | none => ⟨.invalidPayloadLength, [], device⟩
  | some request =>
    match Transfer.Action.ofCode? request.action with
    | none => ⟨.invalidParameter, [], device⟩
    | some .abort =>
      ⟨.success, [⟨.debug, origin, name ++ ": transfer aborted"⟩],
        { device with staging := none }⟩
    | some action => step name config opcode action request device

/-! ## Activations -/

/-- The answer to an activation command that passed every check. -/
def activated (name : String) (config : Config) (opcode : Opcode) (action slot : UInt8)
    (device : Emulator) : Verdict :=
  ⟨.success, [⟨.debug, origin, name ++ ": slot " ++ Nat.repr slot.toNat
      ++ " activated (action " ++ Nat.repr action.toNat ++ ")"⟩],
    device.startBackground opcode config.activationPolls⟩

/-- The answer to an activation command. -/
def activate (name : String) (config : Config) (opcode : Opcode) (payload : Bytes)
    (device : Emulator) : Verdict :=
  match payload with
  | action :: slot :: _ =>
    if device.staging.isSome then ⟨.fwTransferInProgress, [], device⟩
    else if device.state.slot? slot = none then ⟨.fwInvalidSlot, [], device⟩
    else
      match Activation.Action.ofCode? action with
      | none => ⟨.invalidParameter, [], device⟩
      | some .online =>
        if config.onlineActivation then
          activated name config opcode action slot { device with
            state := { device.state with activeSlot := slot, stagedSlot := 0 } }
        else ⟨.unsupported, [], device⟩
      | some .onNextReset =>
        activated name config opcode action slot { device with
          state := { device.state with stagedSlot := slot } }
  | _ => ⟨.invalidPayloadLength, [], device⟩

/-! ## Commands -/

/-- The answer to a command that a busy device puts off. -/
def gated (config : Config) (handle : Emulator → Verdict) (device : Emulator) : Verdict :=
  if device.background.isSome then ⟨.busy, [], device⟩
  else if 0 < device.busyLeft then
    ⟨.busy, [], { device with busyLeft := device.busyLeft - 1 }⟩
  else handle { device with busyLeft := config.busyReplies }

/-- The reaction that a verdict means. -/
def Verdict.exchange (verdict : Verdict) : Exchange Emulator where
  answer := .ok (.ok ⟨verdict.status.code, []⟩)
  records := verdict.records
  mailbox := verdict.device

/-- The reaction to a query. -/
def reply (payload : Except Fault Bytes) (device : Emulator) : Exchange Emulator where
  answer := payload.map fun payload => .ok ⟨Status.success.code, payload⟩
  records := []
  mailbox := device

/-- The reaction to a status query. -/
def replyStatus (query : StatusQuery) (device : Emulator) : Exchange Emulator :=
  reply (device.backgroundStatus.1.map query.encode) device.backgroundStatus.2

/-- The reaction to a transfer command. -/
def replyTransfer (name : String) (config : Config) (opcode : Opcode) (payload : Bytes)
    (device : Emulator) : Exchange Emulator :=
  (gated config (transfer name config opcode payload) device).exchange

/-- The reaction to an activation command. -/
def replyActivate (name : String) (config : Config) (opcode : Opcode) (payload : Bytes)
    (device : Emulator) : Exchange Emulator :=
  (gated config (activate name config opcode payload) device).exchange

/-- The reaction to a command. -/
def handle (name : String) (config : Config) (command : Command) (device : Emulator) :
    Exchange Emulator :=
  match Opcode.ofCode? command.opcode with
  | some .getBackgroundStatus => replyStatus .spec device
  | some .hboStatus => replyStatus .hbo device
  | some .getFwInfo => reply (.ok (firmwareInfo config device).encode) device
  | some .transferFw => replyTransfer name config .transferFw command.payload device
  | some .hboTransferFw => replyTransfer name config .hboTransferFw command.payload device
  | some .hboTransferOsImage =>
    replyTransfer name config .hboTransferOsImage command.payload device
  | some .activateFw => replyActivate name config .activateFw command.payload device
  | some .hboActivateFw => replyActivate name config .hboActivateFw command.payload device
  | none => (⟨.unsupported, [], device⟩ : Verdict).exchange

/-- The mailbox of an emulated device, by a clock. -/
def transport (name : String) (config : Config) (clock : Clock Emulator) :
    Transport Emulator where
  name
  submit command device :=
    handle name config command { device with history := command.opcode :: device.history }
  clock

end Emulator

end CxlFirmware
