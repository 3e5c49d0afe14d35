import CxlFirmware.Poll
import CxlFirmware.Transfer.Plan

/-!
# The course of a transfer

Each step of the plan is sent under the retry budget and then confirmed by polling
before the next one is sent.  The first failure ends the transfer with one attempt
to abort it, and so does a mock transfer after its only step.
-/

namespace CxlFirmware.Transfer

variable {σ : Type}

/-- Where the log records of this module come from. -/
def origin : String := "cxlfw::firmware::transfer"

/-- How a transfer without a failed step ended. -/
inductive Outcome where
  /-- The device took every block. -/
  | completed (blocks bytes : Nat)
  /-- The device took the first block of a mock transfer, which was then aborted; the
  text of the abort's own failure, if it failed. -/
  | mockAborted (abortError : Option String)
  deriving DecidableEq

/-- The state in which a transfer ended. -/
def Outcome.state : Outcome → State
  | completed .. => .completed
  | mockAborted _ => .aborted

/-- The workflow that sends one step and waits until the device has processed it. -/
def sendStep (transport : Transport σ) (device : String) (config : Config) (step : Step) :
    Workflow σ (Except Error Unit) := do
  Workflow.log .debug origin (device ++ ": step " ++ Nat.repr step.index ++ " "
    ++ step.action.text ++ " offset " ++ Nat.repr step.offset.toNat ++ " ("
    ++ Nat.repr step.data.length ++ " bytes)")
  let payload := TransferRequest.payload step.action config.slot step.offset step.data
  match ← Retry.withRetry transport.clock config.stepRetry
      (Mailbox.submit transport config.kind.opcode payload) with
  | .error error => return .error error
  | .ok _ =>
    match ← Poll.untilDone transport config.kind.statusQuery config.poll with
    | .error error => return .error error
    | .ok _ => return .ok ()

/-- The payload of an abort: a block of zeros. -/
def abortPayload (config : Config) : Bytes :=
  TransferRequest.payload .abort config.slot 0 (List.replicate config.blockSize 0)

/-- The check that there can be a payload of that length. -/
def reserve (config : Config) : Except Fault Unit :=
  if Bytes.capacity < TransferRequest.headerLength + config.blockSize then .error .capacity
  else .ok ()

/-- The workflow that asks the device to drop the transfer. -/
def abort (transport : Transport σ) (device : String) (config : Config) :
    Workflow σ (Except Error Unit) := do
  Workflow.log .debug origin (device ++ ": transfer " ++ State.aborting.text)
  match reserve config with
  | .error fault => Workflow.halt fault
  | .ok () =>
    match ← Retry.withRetry transport.clock config.stepRetry
        (Mailbox.submit transport config.kind.opcode (abortPayload config)) with
    | .ok _ =>
      Workflow.log .info origin (device ++ ": transfer " ++ State.aborted.text)
      return .ok ()
    | .error error =>
      Workflow.log .warn origin
        (device ++ ": abort failed, device may need a fresh transfer: " ++ error.message)
      return .error error

/-- The text of the error of an abort, if it failed. -/
def failureText : Except Error Unit → Option String
  | .ok () => none
  | .error error => some error.message

/-- What a transfer keeps in mind between two steps. -/
structure Cursor where
  state : State
  bytesSent : Nat
  /-- The greatest multiple of ten percent that was logged, divided by ten. -/
  lastDecile : Nat
  deriving DecidableEq

/-- The cursor before the first step. -/
def Cursor.start : Cursor := ⟨.idle, 0, 0⟩

/-- The workflow that logs a change of state. -/
def logState (device : String) (before after : State) : Workflow σ Unit :=
  if after = before then pure ()
  else Workflow.log .debug origin
    (device ++ ": transfer " ++ before.text ++ " -> " ++ after.text)

/-- The workflow that logs how far the transfer is, if that is a new decile. -/
def logDecile (device : String) (before after : Nat) : Workflow σ Unit :=
  if before < after then
    Workflow.log .info origin (device ++ ": " ++ Nat.repr (after * 10) ++ "% transferred")
  else pure ()

/-- The workflow that sends steps one after another, with the bytes sent. -/
def sendSteps (transport : Transport σ) (device : String) (config : Config) (plan : Plan) :
    List Step → Cursor → Workflow σ (Except Error Nat)
  | [], cursor => return .ok cursor.bytesSent
  | step :: rest, cursor => do
    logState device cursor.state (.during step.action)
    match ← sendStep transport device config step with
    | .error source =>
      Workflow.log .warn origin (device ++ ": step " ++ Nat.repr step.index ++ " ("
        ++ step.action.text ++ ") failed: " ++ source.message)
      let aborted ← abort transport device config
      return .error (.transferFailed step.index step.action source (failureText aborted))
    | .ok () =>
      let report : Progress := {
        step := step.index + 1
        totalSteps := plan.steps.length
        action := step.action
        bytesSent := cursor.bytesSent + step.data.length
        totalBytes := plan.totalBytes }
      Workflow.emit (.progressed report)
      let decile := report.percent / 10
      logDecile device cursor.lastDecile decile
      sendSteps transport device config plan rest
        ⟨.during step.action, report.bytesSent, max cursor.lastDecile decile⟩

/-- The workflow that transfers an image. -/
def run (transport : Transport σ) (device : String) (config : Config) (image : Image) :
    Workflow σ (Except Error Outcome) := do
  match config.validate with
  | .error error => return .error error
  | .ok () =>
    match config.plan image with
    | .error error => return .error error
    | .ok plan =>
      Workflow.log .info origin (device ++ ": transferring " ++ Nat.repr plan.totalBytes
        ++ " bytes to slot " ++ Nat.repr config.slot.toNat ++ " in "
        ++ Nat.repr plan.steps.length ++ " block(s) via " ++ config.kind.opcode.text
        ++ if config.mock then " (mock)" else "")
      match ← sendSteps transport device config plan plan.steps .start with
      | .error error => return .error error
      | .ok bytes =>
        if config.mock then
          Workflow.log .info origin (device ++ ": mock transfer, aborting after first block")
          let aborted ← abort transport device config
          return .ok (.mockAborted (failureText aborted))
        else
          Workflow.log .info origin (device ++ ": transfer complete, slot "
            ++ Nat.repr config.slot.toNat ++ " updated")
          return .ok (.completed plan.steps.length bytes)

end CxlFirmware.Transfer
