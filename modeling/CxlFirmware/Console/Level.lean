import CxlFirmware.Console.Argument

/-!
# Levels

A command line has a part in front of the subcommand and a part behind it.  `Level`
says which part a word is in, and `Level.arguments` lists what can be given there.
-/

namespace CxlFirmware.Console

/-- A subcommand. -/
inductive Subcommand where
  | updateFw
  | activateFw
  | fwInfo
  | bgStatus
  | completions
  deriving DecidableEq, Repr

namespace Subcommand

/-- The name of a subcommand. -/
def name : Subcommand → String
  | updateFw => "update-fw"
  | activateFw => "activate-fw"
  | fwInfo => "fw-info"
  | bgStatus => "bg-status"
  | completions => "completions"

/-- All subcommands. -/
def all : List Subcommand := [updateFw, activateFw, fwInfo, bgStatus, completions]

/-- The subcommand with a name. -/
def ofName? (name : String) : Option Subcommand :=
  all.find? fun subcommand => subcommand.name == name

/-- The arguments of a subcommand alone. -/
def arguments : Subcommand → List Argument
  | updateFw => [.image, .slot, .hbo, .osImage, .mock]
  | activateFw => [.slot, .action, .hbo, .confirmed]
  | fwInfo => [.json]
  | bgStatus => [.hbo, .json]
  | completions => [.shell]

end Subcommand

/-- A part of the command line. -/
inductive Level where
  /-- The part in front of the subcommand. -/
  | top
  | behind (subcommand : Subcommand)
  deriving DecidableEq

namespace Level

/-- The arguments of both parts. -/
def shared : List Argument := [
  .device, .emulatorState, .config, .language, .verbose, .quiet, .nonInteractive, .help,
  .version]

/-- The arguments of a part. -/
def arguments : Level → List Argument
  | top => shared
  | behind subcommand => subcommand.arguments ++ shared

/-- The argument of a part with a long name. -/
def ofLong? (level : Level) (name : String) : Option Argument :=
  level.arguments.find? fun argument => argument.long? == some name

/-- The argument of a part with a letter. -/
def ofLetter? (level : Level) (letter : Char) : Option Argument :=
  level.arguments.find? fun argument => argument.letter? == some letter

/-- The arguments of a part that have a place of their own. -/
def positionals (level : Level) : List Argument :=
  level.arguments.filter Argument.isPositional

/-- The name of the program with the subcommand of a part behind a mark. -/
def title (mark : String) : Level → String
  | top => "cxlfw"
  | behind subcommand => "cxlfw" ++ mark ++ subcommand.name

end Level

end CxlFirmware.Console
