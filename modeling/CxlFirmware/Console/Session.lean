import CxlFirmware.Console.Failure
import CxlFirmware.Console.Invocation
import CxlFirmware.Device
import CxlFirmware.Emulator.StateFile
import CxlFirmware.Program
import CxlFirmware.Settings.Basic
import CxlFirmware.Text.Decimal
import CxlFirmware.Text.Utf8

/-!
# Sessions

A session is an emulated device that was opened for one job.  Its state comes from a
file, if one is named, and goes back there once a job that may change it has ended.
-/

namespace CxlFirmware.Console

/-- A program that may fail. -/
abbrev Fallible := ExceptT Failure Program

/-- What a job is carried out with. -/
structure Setup where
  language : Language
  quiet : Bool
  deviceName : String
  /-- The path of the file with the state of the device. -/
  statePath : Option String
  settings : Settings
  clock : Clock Emulator

namespace Setup

/-- The name of the device where none is chosen. -/
def defaultDevice : String := "mem0"

/-- The setup of an invocation. -/
def make (language : Language) (invocation : Invocation) (settings : Settings)
    (clock : Clock Emulator) : Setup where
  language
  quiet := invocation.quiet
  deviceName := (invocation.device.or settings.device.name).getD defaultDevice
  statePath := invocation.emulatorState.or settings.device.emulatorState
  settings
  clock

/-- The program that tells the user something, unless the user wants quiet. -/
def say (setup : Setup) (mark : String) (message : Message) : Program Unit :=
  if setup.quiet then return ()
  else Program.notifyLine (mark ++ " " ++ message.text setup.language)

/-- The program that prints a message as a line of the result. -/
def print (setup : Setup) (message : Message) : Program Unit :=
  Program.printLine (message.text setup.language)

end Setup

/-- An opened device. -/
structure Session where
  device : Device Emulator
  mailbox : Emulator
  statePath : Option String

/-- The number of a device: the decimal number that its name ends with.  It is zero if
something other than digits follows the first digit, or if the number needs more than
32 bits. -/
def deviceNumber (name : String) : UInt32 :=
  let digits := name.toList.dropWhile fun c => !c.isDigit
  if digits.all Char.isDigit ∧ Text.decimal digits < UInt32.size then
    UInt32.ofNat (Text.decimal digits)
  else 0

namespace Session

variable {α : Type}

/-- Where the log records of this module come from. -/
def origin : String := "cxlfw::backend"

/-- The program that loads the state of a device from a file. -/
def loadState (path : String) : Fallible Emulator.State := do
  match ← Program.readFile path with
  | .error error =>
    throw (.unusableState ("Failed to read emulator state " ++ path ++ ": " ++ error.text))
  | .ok content =>
    match Utf8.decode? content with
    | none => throw (.unusableState ("Failed to read emulator state " ++ path
        ++ ": stream did not contain valid UTF-8"))
    | some text =>
      match Emulator.State.read? text with
      | none => throw (.unusableState ("Invalid emulator state " ++ path
          ++ ": the content is not a state"))
      | some state =>
        Program.log .debug origin ("Loaded emulator state from " ++ path)
        return state

/-- The program that finds the state of a device, which is new without a file. -/
def findState : Option String → Fallible Emulator.State
  | none => return .default
  | some path => do
    if ← Program.isPresent path then loadState path
    else
      Program.log .debug origin ("No emulator state at " ++ path ++ ", starting fresh")
      return .default

/-- The session of a device with a state. -/
def ofState (setup : Setup) (state : Emulator.State) : Session :=
  let config := setup.settings.emulatorConfig
  { device := {
      id := deviceNumber setup.deviceName
      name := setup.deviceName
      transport := Emulator.transport setup.deviceName config setup.clock
      gate := Emulator.initialGate state }
    mailbox := Emulator.start config state
    statePath := setup.statePath }

/-- The program that opens the device. -/
def start (setup : Setup) : Fallible Session := do
  return ofState setup (← findState setup.statePath)

/-- The program that writes the state of the device to its file. -/
def save (session : Session) : Program (Except Failure Unit) := do
  match session.statePath with
  | none => return .ok ()
  | some path =>
    match ← Program.writeFile path (Utf8.encode session.mailbox.state.write) with
    | .error error => return .error (.unsavedState path error)
    | .ok () =>
      Program.log .debug origin ("Saved emulator state to " ++ path)
      return .ok ()

/-- The program that saves the state after a workflow, whose own error comes before
that of the save. -/
def saveAfter (session : Session) (language : Language) (result : Except Error α) :
    Fallible (Except Error α) := do
  match ← ExceptT.lift session.save, result with
  | .ok (), result => return result
  | .error failure, .ok _ => throw failure
  | .error failure, .error error =>
    Program.log .warn origin (failure.text language)
    return .error error

/-- The program that carries out a workflow. -/
def carryOut (session : Session) (workflow : Workflow Emulator α) :
    Program (α × Session) := do
  let (result, mailbox) ← Program.ofWorkflow workflow session.mailbox
  return (result, { session with mailbox })

/-- The program that carries out a workflow on the claimed device.  A device that
cannot be claimed is a failure. -/
def claimed (session : Session) (workflow : Workflow Emulator (Except Error α)) :
    Fallible (Except Error α × Session) := do
  let (claim, session) ← session.carryOut session.device.claim
  match claim with
  | .error error => throw (.firmware (some .claimFailed) error)
  | .ok () => session.carryOut do
    let result ← workflow
    session.device.release
    return result

end Session

/-- The value of a result, whose error is a failure with a context. -/
def orFail {α : Type} (context : Message) : Except Error α → Fallible α
  | .ok a => return a
  | .error error => throw (.firmware (some context) error)

end CxlFirmware.Console
