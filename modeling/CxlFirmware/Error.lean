import CxlFirmware.Duration
import CxlFirmware.IoError
import CxlFirmware.Mailbox.Status
import CxlFirmware.Transfer.Action

/-!
# Errors

The ways in which a firmware operation fails.  Each error has a message and a
chain of the messages of its causes; some carry the return code of the device, and
some say that an attempt budget ran out and not that the device refused.
-/

namespace CxlFirmware

/-- The failure of a firmware operation. -/
inductive Error where
  /-- A file could not be used. -/
  | io (source : IoError)
  /-- The exchange with the mailbox failed. -/
  | transport (opcode : Opcode) (source : IoError)
  /-- The device answered with a code other than success. -/
  | device (opcode : Opcode) (status : Status)
  /-- The device answered with retryable codes until the attempts ran out. -/
  | retriesExhausted (opcode : Opcode) (attempts : Nat) (last : Status)
  /-- The background operation was still running when the polls ran out. -/
  | pollExhausted (opcode : UInt16) (attempts : Nat) (percent : UInt8)
  /-- The next attempt would have come after the deadline. -/
  | deadlineExceeded (what : String) (limit : Duration) (attempts : Nat)
  /-- The background operation ended with a failure code. -/
  | backgroundFailed (opcode : UInt16) (status : Status)
  /-- The device was in the middle of another command. -/
  | deviceBusy (device : String)
  /-- The firmware image has no content. -/
  | emptyImage (path : String)
  /-- A step of a transfer failed, and the transfer was aborted. -/
  | transferFailed (step : Nat) (action : Transfer.Action) (source : Error)
      (abortError : Option String)
  /-- A reply was malformed. -/
  | protocol (text : String)
  /-- A setting was invalid. -/
  | config (text : String)
  deriving DecidableEq

namespace Error

/-- The message of an error. -/
def message : Error → String
  | io source => "I/O error: " ++ source.text
  | transport opcode source => "Transport error during " ++ opcode.text ++ ": " ++ source.text
  | device opcode status => opcode.text ++ " failed: " ++ status.text
  | retriesExhausted opcode attempts last =>
    opcode.text ++ " still " ++ last.text ++ " after " ++ Nat.repr attempts ++ " attempts"
  | pollExhausted opcode attempts percent =>
    "Background " ++ Hex.code opcode ++ " still running after " ++ Nat.repr attempts
      ++ " polls (" ++ Nat.repr percent.toNat ++ "% complete)"
  | deadlineExceeded what limit attempts =>
    what ++ " exceeded its " ++ limit.text ++ " deadline after " ++ Nat.repr attempts
      ++ " attempts"
  | backgroundFailed opcode status =>
    "Background operation " ++ Hex.code opcode ++ " failed: " ++ status.text
  | deviceBusy name => "Device " ++ name ++ " is busy with another operation"
  | emptyImage path => "Firmware image " ++ path ++ " is empty"
  | transferFailed step action source abortError =>
    "Firmware transfer failed at step " ++ Nat.repr step ++ " (" ++ action.text ++ "): "
      ++ source.message
      ++ match abortError with
        | some text => " (abort also failed: " ++ text ++ ")"
        | none => ""
  | protocol text => "Protocol error: " ++ text
  | config text => "Configuration error: " ++ text

/-- The messages of the causes, from the nearest to the farthest. -/
def chain : Error → List String
  | io source => [source.text]
  | transport _ source => [source.text]
  | transferFailed _ _ source _ => source.message :: source.chain
  | _ => []

/-- Whether the device asked for the command to be sent again. -/
def isRetryable : Error → Bool
  | device _ status => status.isRetryable
  | _ => false

/-- Whether an attempt budget ran out. -/
def isExhausted : Error → Bool
  | retriesExhausted .. | pollExhausted .. | deadlineExceeded .. => true
  | transferFailed _ _ source _ => source.isExhausted
  | _ => false

/-- The return code that the error carries. -/
def deviceStatus : Error → Option Status
  | device _ status => some status
  | backgroundFailed _ status => some status
  | retriesExhausted _ _ status => some status
  | transferFailed _ _ source _ => source.deviceStatus
  | _ => none

end Error

/-- The family that a pair of flags selects. -/
def Transfer.Kind.ofFlags (hbo osImage : Bool) : Except Error Transfer.Kind :=
  match hbo, osImage with
  | false, false => .ok .specDefined
  | true, false => .ok .vendorBackground
  | false, true => .ok .osImage
  | true, true => .error (.config "HBO and OS image transfers are mutually exclusive")

end CxlFirmware
