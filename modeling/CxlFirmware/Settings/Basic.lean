import CxlFirmware.Activation
import CxlFirmware.Emulator.Device
import CxlFirmware.Transfer.Plan

/-!
# Settings

What a configuration file can choose, in four sections.  `merge` lays one set of
choices over another, and the last definitions give the parameters that a set of
choices means, with the defaults where nothing is chosen.
-/

namespace CxlFirmware

/-- Which device to use. -/
structure DeviceSettings where
  name : Option String
  /-- The path of the file with the state of the emulated device. -/
  emulatorState : Option String
  deriving DecidableEq

/-- How to transfer an image. -/
structure TransferSettings where
  blockSize : Option Nat
  stepAttempts : Option UInt32
  stepDelayMillis : Option UInt64
  pollAttempts : Option UInt32
  pollIntervalMillis : Option UInt64
  deadlineSeconds : Option UInt64
  deriving DecidableEq

/-- How to activate a slot. -/
structure ActivationSettings where
  attempts : Option UInt32
  intervalMillis : Option UInt64
  deriving DecidableEq

/-- How the emulated device behaves. -/
structure EmulatorSettings where
  busyReplies : Option UInt32
  processingPolls : Option UInt32
  activationPolls : Option UInt32
  deriving DecidableEq

/-- A set of choices. -/
structure Settings where
  device : DeviceSettings
  transfer : TransferSettings
  activation : ActivationSettings
  emulator : EmulatorSettings
  deriving DecidableEq

namespace Settings

/-- No choice at all. -/
def unset : Settings where
  device := ⟨none, none⟩
  transfer := ⟨none, none, none, none, none, none⟩
  activation := ⟨none, none⟩
  emulator := ⟨none, none, none⟩

/-- The choices of `upper`, and those of `lower` where `upper` has none. -/
def merge (lower upper : Settings) : Settings where
  device := {
    name := upper.device.name.or lower.device.name
    emulatorState := upper.device.emulatorState.or lower.device.emulatorState }
  transfer := {
    blockSize := upper.transfer.blockSize.or lower.transfer.blockSize
    stepAttempts := upper.transfer.stepAttempts.or lower.transfer.stepAttempts
    stepDelayMillis := upper.transfer.stepDelayMillis.or lower.transfer.stepDelayMillis
    pollAttempts := upper.transfer.pollAttempts.or lower.transfer.pollAttempts
    pollIntervalMillis :=
      upper.transfer.pollIntervalMillis.or lower.transfer.pollIntervalMillis
    deadlineSeconds := upper.transfer.deadlineSeconds.or lower.transfer.deadlineSeconds }
  activation := {
    attempts := upper.activation.attempts.or lower.activation.attempts
    intervalMillis := upper.activation.intervalMillis.or lower.activation.intervalMillis }
  emulator := {
    busyReplies := upper.emulator.busyReplies.or lower.emulator.busyReplies
    processingPolls := upper.emulator.processingPolls.or lower.emulator.processingPolls
    activationPolls := upper.emulator.activationPolls.or lower.emulator.activationPolls }

/-- A budget with the chosen attempts, milliseconds and deadline. -/
def policy (default : RetryPolicy) (attempts : Option UInt32) (millis : Option UInt64)
    (deadline : Option Duration) : RetryPolicy where
  maxAttempts := attempts.getD default.maxAttempts
  delay := (millis.map Duration.ofMillis).getD default.delay
  deadline

/-- The parameters of a transfer. -/
def transferConfig (settings : Settings) (kind : Transfer.Kind) (slot : UInt8) (mock : Bool) :
    Transfer.Config :=
  let chosen := settings.transfer
  let deadline := chosen.deadlineSeconds.map Duration.ofSeconds
  { kind, slot, mock
    blockSize := chosen.blockSize.getD Transfer.Config.defaultBlockSize
    stepRetry := policy Transfer.Config.defaultStepRetry chosen.stepAttempts
      chosen.stepDelayMillis deadline
    poll := policy Transfer.Config.defaultPoll chosen.pollAttempts
      chosen.pollIntervalMillis deadline }

/-- The budget of an activation. -/
def activationPolicy (settings : Settings) : RetryPolicy :=
  policy Activation.defaultPolicy settings.activation.attempts
    settings.activation.intervalMillis none

/-- The behaviour of the emulated device. -/
def emulatorConfig (settings : Settings) : Emulator.Config :=
  let default := Emulator.Config.default
  { default with
    busyReplies := settings.emulator.busyReplies.getD default.busyReplies
    processingPolls := settings.emulator.processingPolls.getD default.processingPolls
    activationPolls := settings.emulator.activationPolls.getD default.activationPolls }

end Settings

end CxlFirmware
