import CxlFirmware.Console.Message
import CxlFirmware.Error

/-!
# Failures

Why a job failed, with the text that reports it and the exit code of the program.
-/

namespace CxlFirmware.Console

/-- Why a job failed. -/
inductive Failure where
  /-- The command line asks for something that cannot be done. -/
  | usage (message : Message)
  /-- The state of the device could not be taken from its file. -/
  | unusableState (text : String)
  /-- An operation failed, maybe with a word on what it was for. -/
  | firmware (context : Option Message) (error : Error)
  /-- The state of the device could not be written to its file. -/
  | unsavedState (path : String) (source : IoError)
  deriving DecidableEq

namespace Failure

/-- The parts of the text of a failure, from the outermost to the innermost cause. -/
def causes (language : Language) : Failure → List String
  | usage message => [message.text language]
  | unusableState text => [text]
  | firmware none error => error.message :: error.chain
  | firmware (some context) error => context.text language :: error.message :: error.chain
  | unsavedState path source => ["Failed to write emulator state " ++ path, source.text]

/-- The text of a failure. -/
def text (language : Language) (failure : Failure) : String :=
  ": ".intercalate (failure.causes language)

/-- The exit code that a failure ends the program with. -/
def exitCode : Failure → UInt8
  | usage _ => 2
  | unusableState _ => 3
  | firmware _ (.config _) => 3
  | firmware _ (.deviceBusy _) => 4
  | firmware _ _ => 1
  | unsavedState .. => 1

end Failure

end CxlFirmware.Console
