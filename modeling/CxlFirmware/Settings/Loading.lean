import CxlFirmware.Environment
import CxlFirmware.Program
import CxlFirmware.Settings.Reader
import CxlFirmware.Text.Utf8

/-!
# Loading settings

Settings come from one file that is named, or else from the file of the user and,
above it, the file in the working folder.  A file that cannot be used is reported and
then passed over.
-/

namespace CxlFirmware.Settings

/-- Where the log records of this module come from. -/
def origin : String := "cxlfw::config"

/-- The path of the file in the working folder. -/
def localPath : String := "cxlfw.toml"

/-- The path of something in a folder. -/
def inFolder (folder name : String) : String :=
  if folder.endsWith "/" then folder ++ name else folder ++ "/" ++ name

/-- The folder with the configuration of the user. -/
def userFolder? (environment : Environment) : Option String :=
  match environment.value? "XDG_CONFIG_HOME", environment.nonempty? "HOME" with
  | some folder, home =>
    if folder.startsWith "/" then some folder
    else home.map fun home => inFolder home ".config"
  | none, home => home.map fun home => inFolder home ".config"

/-- The path of the file of the user. -/
def globalPath? (environment : Environment) : Option String :=
  (userFolder? environment).map fun folder => inFolder (inFolder folder "cxlfw") "config.toml"

/-- The program that warns that a file cannot be used. -/
def warnUnusable (what path reason : String) : Program (Option Settings) := do
  Program.log .warn origin ("Failed to " ++ what ++ " config file " ++ path ++ ": " ++ reason)
  return none

/-- The program that loads a file, if it is there and can be used. -/
def loadFile (path : String) : Program (Option Settings) := do
  if ← Program.isPresent path then
    match ← Program.readFile path with
    | .error error => warnUnusable "read" path error.text
    | .ok content =>
      match Utf8.decode? content with
      | none => warnUnusable "read" path "stream did not contain valid UTF-8"
      | some text =>
        match read? text with
        | none => warnUnusable "parse" path "the content is not a set of settings"
        | some settings => return some settings
  else return none

/-- The program that lays the settings of a file over others. -/
def loadOver (lower : Settings) (what path : String) : Program Settings := do
  match ← loadFile path with
  | none => return lower
  | some upper =>
    Program.log .debug origin ("Loaded " ++ what ++ " config from " ++ path)
    return lower.merge upper

/-- The program that loads the settings where no file is named. -/
def load (environment : Environment) : Program Settings := do
  let lower ← match globalPath? environment with
    | none => pure unset
    | some path => loadOver unset "global" path
  loadOver lower "local" localPath

/-- The program that loads the settings of a named file. -/
def loadFrom (path : String) : Program Settings := do
  match ← loadFile path with
  | some settings =>
    Program.log .debug origin ("Loaded config from " ++ path)
    return settings
  | none =>
    Program.log .warn origin ("Could not load config from " ++ path ++ ", using defaults")
    return unset

end CxlFirmware.Settings
