import CxlFirmware.Console.Argument

/-!
# Misuse

The ways in which a command line makes no sense, each with the line that reports it.
-/

namespace CxlFirmware.Console

/-- A command line that makes no sense. -/
inductive Misuse where
  | missingValue (argument : Argument)
  | repeated (argument : Argument)
  | invalidValue (argument : Argument) (value : String) (reason : Option String)
  /-- A value for an argument that takes none. -/
  | unexpectedValue (argument : Argument) (value : String)
  | unexpectedWord (word : String)
  | unknownSubcommand (word : String)
  | missingSubcommand
  | conflict (first second : Argument)
  | missingArguments (arguments : List Argument)
  deriving DecidableEq

namespace Misuse

/-- The misuse of a value that was turned away. -/
def ofRejection (argument : Argument) (value : String) : Rejection → Misuse
  | .missing => missingValue argument
  | .invalid reason => invalidValue argument value reason

/-- The reason of a rejection after a colon, if there is one. -/
def reasonText : Option String → String
  | none => ""
  | some reason => ": " ++ reason

/-- A part of a message that is set off from the rest.  The orders around it also end
every control sequence that the text before them has left open. -/
def setOff (part : String) : String :=
  "\x1b[1m" ++ part ++ "\x1b[0m"

/-- An argument, set off. -/
def named (argument : Argument) : String :=
  "'" ++ setOff argument.text ++ "'"

/-- A word of the user, set off. -/
def quoted (word : String) : String :=
  "'" ++ setOff word ++ "'"

/-- The text of a misuse, for a terminal. -/
def text : Misuse → String
  | missingValue argument =>
    "a value is required for " ++ named argument ++ " but none was supplied"
  | repeated argument =>
    "the argument " ++ named argument ++ " cannot be used multiple times"
  | invalidValue argument value reason =>
    "invalid value " ++ quoted value ++ " for " ++ named argument ++ reasonText reason
  | unexpectedValue argument value =>
    "unexpected value " ++ quoted value ++ " for " ++ named argument
      ++ " found; no more were expected"
  | unexpectedWord word => "unexpected argument " ++ quoted word ++ " found"
  | unknownSubcommand word => "unrecognized subcommand " ++ quoted word
  | missingSubcommand =>
    quoted "cxlfw" ++ " requires a subcommand but one was not provided"
  | conflict first second =>
    "the argument " ++ named first ++ " cannot be used with " ++ named second
  | missingArguments arguments =>
    "the following required arguments were not provided:"
      ++ String.join (arguments.map fun argument => "\n  " ++ setOff argument.text)

end Misuse

end CxlFirmware.Console
