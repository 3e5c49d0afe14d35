import CxlFirmware.Console.Activate
import CxlFirmware.Console.Help
import CxlFirmware.Console.Inspect
import CxlFirmware.Console.LogStyle
import CxlFirmware.Console.Update
import CxlFirmware.Settings.Loading

/-!
# Execution

What the program does with a command line.  `launch` gives the program for it together
with the style of its log, and `run` what it leaves behind on a tree of files.  Both are
told by a clock how much time passes in the loops of attempts.
-/

namespace CxlFirmware.Console

/-- Where the log records of this module come from. -/
def origin : String := "cxlfw"

/-- The job that prints a script for a shell, which the variables may tell. -/
def runCompletions (environment : Environment) (shell : Option Shell) : Fallible Unit :=
  match shell.or ((environment.value? "SHELL").bind Shell.ofPath?) with
  | none => throw (.usage .shellNeeded)
  | some shell =>
    Program.put (.result (shell.script "cxlfw" (Subcommand.all.map Subcommand.name)))

/-- The program that carries out a job. -/
def Job.run (environment : Environment) (setup : Setup) : Job → Fallible Unit
  | update image slot hbo osImage mock => Update.run setup image slot hbo osImage mock
  | activate slot action hbo confirmed => Activate.run setup slot action hbo confirmed
  | info json => Inspect.runInfo setup json
  | status hbo json => Inspect.runStatus setup hbo json
  | completions shell => runCompletions environment shell

/-- The program that loads the settings of an invocation. -/
def Invocation.loadSettings (environment : Environment) (invocation : Invocation) :
    Program Settings :=
  match invocation.config with
  | some path => Settings.loadFrom path
  | none => Settings.load environment

/-- The first log record of an invocation. -/
def Invocation.greeting (invocation : Invocation) (locale : String) : String :=
  "cxlfw v" ++ programVersion ++ " (verbose level: " ++ Nat.repr invocation.verbosity
    ++ ", locale: " ++ locale ++ ")"

/-- The program that reports a failure and gives its exit code. -/
def reportFailure (language : Language) : Except Failure Unit → Program UInt8
  | .ok () => return 0
  | .error failure => do
    Program.notifyLine ("Error: " ++ failure.text language)
    return failure.exitCode

/-- The program that complains about the faults of a written log filter. -/
def complain : List LogFilterFault → Program Unit
  | [] => return ()
  | fault :: rest => do
    Program.notifyLine ("warning: " ++ fault.text ++ ", ignoring it")
    complain rest

/-- The program of an invocation, which begins with the faults of the log filter. -/
def Invocation.program (clock : Clock Emulator) (environment : Environment) (locale : String)
    (faults : List LogFilterFault) (invocation : Invocation) : Program UInt8 := do
  let language := Language.ofLocale locale
  complain faults
  Program.log .debug origin (invocation.greeting locale)
  let settings ← invocation.loadSettings environment
  reportFailure language
    (← (invocation.job.run environment (Setup.make language invocation settings clock)).run)

/-- The program that prints a text and ends well. -/
def printed (text : String) : Program UInt8 := do
  Program.put (.result text)
  return 0

/-- The program that writes a text to the standard error and ends as misused. -/
def refused (text : String) : Program UInt8 := do
  Program.put (.notice text)
  return 2

/-- The program of a command line whose reading ended early. -/
def Stop.program : Stop → Program UInt8
  | .misuse fault =>
    refused (Text.withoutControls ("error: " ++ fault.text ++ "\n\nFor more information, try '"
      ++ Misuse.setOff "--help" ++ "'.\n"))
  | .version level => printed (level.title "-" ++ " " ++ programVersion ++ "\n")
  | .help level => printed (Help.short level)
  | .helpOnHelp => printed Help.shortOnHelp
  | .nothing => refused (Help.short .top)

/-- A program with the style of its log. -/
structure Launch where
  style : LogStyle
  program : Program UInt8

/-- The program of a command line.  A wish for help comes before everything else. -/
def launch (clock : Clock Emulator) (environment : Environment) (words : List String) :
    Launch :=
  let locale := Language.locale environment words
  if Help.isWanted words then
    ⟨.ofVerbosity false 0, printed (Help.text (.ofLocale locale) (.ofWords words))⟩
  else
    match Invocation.read environment words with
    | .error stop => ⟨.ofVerbosity false 0, stop.program⟩
    | .ok invocation =>
      let (style, faults) :=
        LogStyle.make environment invocation.quiet invocation.verbosity
      ⟨style, invocation.program clock environment locale faults⟩

/-- What a run of the program leaves behind. -/
structure Exit where
  code : UInt8
  /-- The text on the standard output. -/
  result : String
  /-- The text on the standard error. -/
  notices : String
  files : Files
  deriving DecidableEq

/-- The exit code after a fault. -/
def faultCode : UInt8 := 101

/-- What the outputs of a program and its end amount to. -/
def Exit.ofOutcome (style : LogStyle) (outcome : Outcome UInt8) : Exit :=
  let notices := String.join (outcome.outputs.map style.noticeText)
  let result := String.join (outcome.outputs.map LogStyle.resultText)
  match outcome.result with
  | .ok code => ⟨code, result, notices, outcome.files⟩
  | .error fault => ⟨faultCode, result, notices ++ fault.text ++ "\n", outcome.files⟩

/-- What a command line leaves behind on a tree of files. -/
def run (clock : Clock Emulator) (environment : Environment) (words : List String)
    (files : Files) : Exit :=
  let launched := launch clock environment words
  Exit.ofOutcome launched.style (launched.program.run files)

end CxlFirmware.Console
