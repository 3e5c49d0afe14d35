import CxlFirmware.Console.Reading

/-!
# Invocations

What a command line asks for.  `Invocation.read` reads a whole command line: the part
behind the subcommand is read and checked before the part in front of it is checked.
-/

namespace CxlFirmware.Console

/-- What to do. -/
inductive Job where
  | update (image : String) (slot : UInt8) (hbo osImage mock : Bool)
  | activate (slot : UInt8) (action : Activation.Action) (hbo confirmed : Bool)
  | info (json : Bool)
  | status (hbo json : Bool)
  | completions (shell : Option Shell)
  deriving DecidableEq

/-- A command line that makes sense. -/
structure Invocation where
  device : Option String
  emulatorState : Option String
  config : Option String
  /-- How often more detail was asked for. -/
  verbosity : Nat
  quiet : Bool
  job : Job
  deriving DecidableEq

namespace Job

/-- The update that choices make up.  The first of two options that exclude each other
is named first. -/
def readUpdate (choices : List Choice) : Except Misuse Job :=
  let hbo := (Choice.find? choices .hbo).getD false
  let osImage := (Choice.find? choices .osImage).getD false
  let slot : Option UInt8 := Choice.find? choices .slot
  if hbo && osImage then
    match (choices.map Choice.argument).find? fun a => a == .hbo || a == .osImage with
    | some .osImage => .error (.conflict .osImage .hbo)
    | _ => .error (.conflict .hbo .osImage)
  else
    match Choice.find? choices .image with
    | none =>
      if slot.isNone && !osImage then .error (.missingArguments [.slot, .image])
      else .error (.missingArguments [.image])
    | some image =>
      if slot.isNone && !osImage then .error (.missingArguments [.slot])
      else .ok (update image (slot.getD 0) hbo osImage
        ((Choice.find? choices .mock).getD false))

/-- The activation that choices make up. -/
def readActivate (choices : List Choice) : Except Misuse Job :=
  match Choice.find? choices .slot with
  | none => .error (.missingArguments [.slot])
  | some slot => .ok (activate slot ((Choice.find? choices .action).getD .online)
      ((Choice.find? choices .hbo).getD false)
      ((Choice.find? choices .confirmed).getD false))

/-- The job that the choices behind a subcommand make up. -/
def ofChoices (choices : List Choice) : Subcommand → Except Misuse Job
  | .updateFw => readUpdate choices
  | .activateFw => readActivate choices
  | .fwInfo => .ok (info ((Choice.find? choices .json).getD false))
  | .bgStatus => .ok (status ((Choice.find? choices .hbo).getD false)
      ((Choice.find? choices .json).getD false))
  | .completions => .ok (completions (Choice.find? choices .shell))

end Job

namespace Invocation

/-- The greatest verbosity. -/
def maxVerbosity : Nat := 255

/-- The value of an argument: what was given behind the subcommand comes before what
was given in front of it, and both before a variable. -/
def lookup (top behind : Part) (argument : Argument) : Option argument.kind.Value :=
  (Choice.find? behind.given argument).or
    ((Choice.find? top.given argument).or (Choice.find? behind.inherited argument))

/-- How often an argument was given, in the part behind the subcommand or else in the
part in front of it. -/
def countOf (top behind : Part) (argument : Argument) : Nat :=
  match Choice.count behind.given argument with
  | 0 => Choice.count top.given argument
  | n => n

/-- The invocation of a job with the arguments of both parts. -/
def make (top behind : Part) (job : Job) : Invocation where
  device := lookup top behind .device
  emulatorState := lookup top behind .emulatorState
  config := lookup top behind .config
  verbosity := min maxVerbosity (countOf top behind .verbose)
  quiet := (lookup top behind .quiet).getD false
  job

/-- What the words behind the subcommand `help` ask for. -/
def helpOn : List String → Stop
  | [] => .help .top
  | word :: rest =>
    match Subcommand.ofName? word, rest with
    | some subcommand, [] => .help (.behind subcommand)
    | some _, next :: _ => .misuse (.unknownSubcommand next)
    | none, [] => if word = "help" then .helpOnHelp else .misuse (.unknownSubcommand word)
    | none, next :: _ =>
      .misuse (.unknownSubcommand (if word = "help" then next else word))

/-- What is wrong with a command line without a subcommand. -/
def withoutSubcommand (top : Part) : Stop :=
  match top.given, top.inherited with
  | [], [] => .nothing
  | _, _ => .misuse .missingSubcommand

/-- The invocation of the words behind a subcommand, where `reading` is the part in
front of it. -/
def readBehind (environment : Environment) (reading : Reading) (subcommand : Subcommand)
    (words : List String) : Except Stop Invocation := do
  let behind ← Part.read environment (.behind subcommand) words
  let job ← Reading.checked (Job.ofChoices behind.given subcommand)
  let top ← reading.finish environment .top
  return make top behind job

/-- The invocation of the words that are left. -/
def readFrom (environment : Environment) : Reading → List String → Except Stop Invocation
  | reading, [] => do throw (withoutSubcommand (← reading.finish environment .top))
  | reading, word :: rest =>
    if reading.allowsSubcommand then
      if word = "help" then .error (helpOn rest)
      else
        match Subcommand.ofName? word with
        | some subcommand => readBehind environment reading subcommand rest
        | none => do readFrom environment (← reading.readWord .top word) rest
    else do readFrom environment (← reading.readWord .top word) rest

/-- The invocation of a command line. -/
def read (environment : Environment) (words : List String) : Except Stop Invocation :=
  readFrom environment (Reading.start .top) words

end Invocation

end CxlFirmware.Console
