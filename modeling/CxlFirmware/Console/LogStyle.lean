import CxlFirmware.Console.LogFilter
import CxlFirmware.Environment
import CxlFirmware.Program
import CxlFirmware.Text.Control

/-!
# Log style

Which log records a program shows, and as what lines.
-/

namespace CxlFirmware.Console

/-- A way to show log records. -/
structure LogStyle where
  filter : LogFilter
  /-- Whether a record is shown with its origin. -/
  showsOrigin : Bool
  deriving DecidableEq

namespace LogStyle

/-- The lightest level that the user asked for.  A quiet program shows warnings and
errors only, however much detail is asked for. -/
def threshold (quiet : Bool) (verbosity : Nat) : LogLevel :=
  if quiet then .warn
  else
    match verbosity with
    | 0 => .info
    | 1 => .debug
    | _ => .trace

/-- The style that the user asked for. -/
def ofVerbosity (quiet : Bool) (verbosity : Nat) : LogStyle where
  filter := .ofThreshold (threshold quiet verbosity)
  showsOrigin := 2 ≤ verbosity

/-- The variable with a filter of its own. -/
def filterVariable : String := "RUST_LOG"

/-- The style that the user and the variables ask for.  A filter among the variables
takes the place of the level that the user asked for.  Its faults come along. -/
def make (environment : Environment) (quiet : Bool) (verbosity : Nat) :
    LogStyle × List LogFilterFault :=
  let style := ofVerbosity quiet verbosity
  match environment.value? filterVariable with
  | none => (style, [])
  | some text =>
    let (filter, faults) := LogFilter.read text
    ({ style with filter }, faults)

/-- The name of a level, filled up to five letters. -/
def levelText (level : LogLevel) : String :=
  level.name ++ String.ofList (List.replicate (5 - level.name.length) ' ')

/-- A message whose further lines are indented. -/
def indented (message : String) : String :=
  String.ofList (message.toList.flatMap fun c =>
    if c = '\n' then ['\n', ' ', ' ', ' ', ' '] else [c])

/-- The line of a record.  Control characters in the message do not reach the reader. -/
def line (style : LogStyle) (record : LogRecord) : String :=
  Text.withoutControls ("[" ++ levelText record.level
    ++ (if style.showsOrigin then " " ++ record.origin else "")
    ++ "] " ++ indented record.message ++ "\n")

/-- What an output adds to the standard output. -/
def resultText : Output → String
  | .result text => text
  | .notice _ | .record _ | .pause _ => ""

/-- What an output adds to the standard error. -/
def noticeText (style : LogStyle) : Output → String
  | .notice text => text
  | .record record => if style.filter.admits record then style.line record else ""
  | .result _ | .pause _ => ""

end LogStyle

end CxlFirmware.Console
