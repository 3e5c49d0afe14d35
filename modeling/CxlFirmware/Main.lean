import CxlFirmware.Console.Execution

/-!
# The program

The command line with the operating system behind it: files, the two standard outputs
and waiting, where the delays are what takes time.
-/

namespace CxlFirmware

/-- The variables that the program looks at. -/
def variableNames : List String := [
  "HOME", "XDG_CONFIG_HOME", "CXLFW_DEVICE", "CXLFW_EMULATOR_STATE", "CXLFW_LANG",
  "CXLFW_NON_INTERACTIVE", "LANGUAGE", "LC_ALL", "LC_MESSAGES", "LANG", "SHELL",
  Console.LogStyle.filterVariable]

/-- The variables that are set. -/
def readEnvironment : List String → IO Environment
  | [] => return []
  | name :: rest => do
    let others ← readEnvironment rest
    match ← IO.getEnv name with
    | none => return others
    | some value => return (name, value) :: others

/-- The failure that the operating system reported. -/
def ioErrorOf (error : IO.Error) : IoError :=
  match error with
  | .noFileOrDirectory .. => .os .notFound
  | .inappropriateType _ 21 _ => .os .isDirectory
  | .inappropriateType .. => .os .notDirectory
  | .permissionDenied _ _ _ => .plain .permissionDenied
  | error => .described .other error.toString

/-- Whether something stands at a path. -/
def lookFor (path : String) : IO Bool :=
  try
    let _ ← IO.FS.Handle.mk path .read
    return true
  catch
    | .noFileOrDirectory .. => return false
    | .inappropriateType .. => return false
    | _ => return true

/-- The content of a file. -/
def fetch (path : String) : IO (Except IoError Bytes) :=
  try
    return .ok (← IO.FS.readBinFile path).toList
  catch error => return .error (ioErrorOf error)

/-- Writes a file. -/
def store (path : String) (content : Bytes) : IO (Except IoError Unit) :=
  try
    IO.FS.writeBinFile path (ByteArray.mk content.toArray)
    return .ok ()
  catch error => return .error (ioErrorOf error)

/-- Lets an output out. -/
def deliver (style : Console.LogStyle) (output : Output) : IO Unit :=
  match output with
  | .pause duration =>
    IO.sleep (UInt32.ofNat ((duration.nanos + 999999) / 1000000))
  | output => do
    IO.print (Console.LogStyle.resultText output)
    IO.eprint (style.noticeText output)

/-- Carries out a program. -/
def perform (style : Console.LogStyle) : Program UInt8 → IO UInt8
  | .done code => return code
  | .crash fault => do
    IO.eprintln fault.text
    return Console.faultCode
  | .present path next => do perform style (next (← lookFor path))
  | .read path next => do perform style (next (← fetch path))
  | .write path content next => do perform style (next (← store path content))
  | .emit output next => do
    deliver style output
    perform style next

end CxlFirmware

/-- Carries out a command line. -/
def main (words : List String) : IO UInt32 := do
  let environment ← CxlFirmware.readEnvironment CxlFirmware.variableNames
  let launched := CxlFirmware.Console.launch .running environment words
  return (← CxlFirmware.perform launched.style launched.program).toUInt32
