/-!
# Shells

The shells that commands can be completed in.
-/

namespace CxlFirmware.Console

/-- A shell. -/
inductive Shell where
  | bash
  | elvish
  | fish
  | powershell
  | zsh
  deriving DecidableEq, Repr

namespace Shell

/-- The name of a shell. -/
def name : Shell → String
  | bash => "bash"
  | elvish => "elvish"
  | fish => "fish"
  | powershell => "powershell"
  | zsh => "zsh"

/-- All shells. -/
def all : List Shell := [bash, elvish, fish, powershell, zsh]

/-- The shell with a name. -/
def ofName? (name : String) : Option Shell :=
  all.find? fun shell => shell.name == name

/-- The last name in a path, passing over slashes and dots at its end. -/
def fileName? (path : String) : Option String :=
  ((path.splitOn "/").filter fun part => part != "" && part != ".").getLast?

/-- The shell whose program stands at a path. -/
def ofPath? (path : String) : Option Shell :=
  match fileName? path with
  | some "pwsh" => some powershell
  | some file => ofName? file
  | none => none

/-- The script that lets a shell complete the name of a subcommand of `program`. -/
def script (shell : Shell) (program : String) (subcommands : List String) : String :=
  match shell with
  | bash => "complete -W \"" ++ " ".intercalate subcommands ++ "\" " ++ program ++ "\n"
  | elvish =>
    "set edit:completion:arg-completer[" ++ program ++ "] = \x7b|@words| put "
      ++ " ".intercalate subcommands ++ " \x7d\n"
  | fish =>
    "complete -c " ++ program ++ " -f -n __fish_use_subcommand -a \""
      ++ " ".intercalate subcommands ++ "\"\n"
  | powershell =>
    "Register-ArgumentCompleter -Native -CommandName '" ++ program
      ++ "' -ScriptBlock \x7b param($word) @('" ++ "', '".intercalate subcommands
      ++ "') -like \"$word*\" \x7d\n"
  | zsh =>
    "#compdef " ++ program ++ "\n_arguments '1:command:(" ++ " ".intercalate subcommands
      ++ ")'\n"

end Shell

end CxlFirmware.Console
