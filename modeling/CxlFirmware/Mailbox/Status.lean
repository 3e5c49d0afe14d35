import CxlFirmware.Hex

/-!
# Return codes

A device answers every command with a 16-bit code.  Codes 0 to 14 have a name and
a fixed message; every other code is kept as it is.
-/

namespace CxlFirmware

/-- The return code of a mailbox command. -/
inductive Status where
  | success
  | backgroundCommandStarted
  | invalidParameter
  | unsupported
  | internalError
  | retryRequired
  | busy
  | mediaDisabled
  | fwTransferInProgress
  | fwTransferOutOfOrder
  | fwAuthenticationFailed
  | fwInvalidSlot
  | fwAborted
  | invalidSecurityState
  | invalidPayloadLength
  /-- A code without a name. -/
  | unknown (code : UInt16)
  deriving DecidableEq, Repr

namespace Status

/-- The messages of the named codes, in the order of the codes. -/
def messages : List String := [
  "Success",
  "Background Command Started",
  "Invalid Parameter",
  "Unsupported",
  "Internal Error",
  "Retry Required",
  "Busy",
  "Media Disabled",
  "FW Transfer in Progress",
  "FW Transfer Out of Order",
  "FW Authentication Failed",
  "FW Invalid Slot",
  "FW Aborted",
  "Invalid Security State",
  "Invalid Payload Length"]

/-- The named codes, in order. -/
def named : List Status := [
  success, backgroundCommandStarted, invalidParameter, unsupported, internalError,
  retryRequired, busy, mediaDisabled, fwTransferInProgress, fwTransferOutOfOrder,
  fwAuthenticationFailed, fwInvalidSlot, fwAborted, invalidSecurityState,
  invalidPayloadLength]

/-- The meaning of a code. -/
def ofCode (code : UInt16) : Status :=
  match named[code.toNat]? with
  | some status => status
  | none => unknown code

/-- The code of a status. -/
def code : Status → UInt16
  | success => 0
  | backgroundCommandStarted => 1
  | invalidParameter => 2
  | unsupported => 3
  | internalError => 4
  | retryRequired => 5
  | busy => 6
  | mediaDisabled => 7
  | fwTransferInProgress => 8
  | fwTransferOutOfOrder => 9
  | fwAuthenticationFailed => 10
  | fwInvalidSlot => 11
  | fwAborted => 12
  | invalidSecurityState => 13
  | invalidPayloadLength => 14
  | unknown code => code

/-- Whether the same command may be sent again after a delay. -/
def isRetryable : Status → Bool
  | busy | backgroundCommandStarted => true
  | _ => false

/-- Whether the command succeeded. -/
def isSuccess (status : Status) : Bool :=
  status == success

/-- The fixed message of the code, if it has one. -/
def message (status : Status) : Option String :=
  messages[status.code.toNat]?

/-- The message, or the code where there is none. -/
def text (status : Status) : String :=
  match status.message with
  | some message => message
  | none => "Unknown error (" ++ Hex.code status.code ++ ")"

private theorem code_named :
  ∀ i : Fin named.length, (named.get i).code.toNat = i.val
  := by decide

/-- No code is lost or changed by naming it. -/
@[simp]
theorem code_ofCode (code : UInt16) :
  (ofCode code).code = code
  := by
  unfold ofCode
  split
  · rename_i status h
    obtain ⟨hlt, rfl⟩ := List.getElem?_eq_some_iff.mp h
    apply UInt16.toNat_inj.mp
    exact code_named ⟨code.toNat, hlt⟩
  · rfl

end Status

end CxlFirmware
