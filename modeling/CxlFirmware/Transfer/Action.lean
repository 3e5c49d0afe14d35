import CxlFirmware.Mailbox.Opcode

/-!
# Transfer actions

What a transfer command asks of the device, which family of commands carries it,
and the states that a transfer passes through.
-/

namespace CxlFirmware

/-- How a running background operation is asked for its status. -/
inductive StatusQuery where
  /-- The command and layout of the CXL specification. -/
  | spec
  /-- The vendor command and layout. -/
  | hbo
  deriving DecidableEq, Repr

/-- The command that asks. -/
def StatusQuery.opcode : StatusQuery → Opcode
  | spec => .getBackgroundStatus
  | hbo => .hboStatus

namespace Transfer

/-- The action field of a transfer command. -/
inductive Action where
  /-- The first block, which empties the staging area. -/
  | initiate
  /-- A block between the first and the last. -/
  | continue
  /-- The last block, after which the image is committed. -/
  | «end»
  /-- No block: the partial transfer is dropped. -/
  | abort
  deriving DecidableEq, Repr

namespace Action

/-- The byte of an action. -/
def code : Action → UInt8
  | initiate => 1
  | .continue => 2
  | .end => 3
  | abort => 4

/-- The action of a byte. -/
def ofCode? (code : UInt8) : Option Action :=
  match code.toNat with
  | 1 => some initiate
  | 2 => some .continue
  | 3 => some .end
  | 4 => some abort
  | _ => none

/-- The name of an action. -/
def text : Action → String
  | initiate => "initiate"
  | .continue => "continue"
  | .end => "end"
  | abort => "abort"

@[simp]
theorem ofCode?_code (action : Action) :
  ofCode? action.code = some action
  := by
  cases action <;> rfl

end Action

/-- A family of transfer commands. -/
inductive Kind where
  /-- Firmware through the command of the CXL specification. -/
  | specDefined
  /-- Firmware through the vendor command. -/
  | vendorBackground
  /-- An operating-system image through the vendor command. -/
  | osImage
  deriving DecidableEq, Repr

namespace Kind

/-- The transfer command of a family. -/
def opcode : Kind → Opcode
  | specDefined => .transferFw
  | vendorBackground => .hboTransferFw
  | osImage => .hboTransferOsImage

/-- The query that confirms each block. -/
def statusQuery : Kind → StatusQuery
  | specDefined => .spec
  | vendorBackground | osImage => .hbo

end Kind

/-- A state of a transfer. -/
inductive State where
  | idle
  | initiating
  | continuing
  | ending
  | completed
  | aborting
  | aborted
  deriving DecidableEq, Repr

namespace State

/-- The state while a command with the given action is on its way. -/
def during : Action → State
  | .initiate => initiating
  | .continue => continuing
  | .end => ending
  | .abort => aborting

/-- Whether nothing follows. -/
def isTerminal : State → Bool
  | completed | aborted => true
  | _ => false

/-- The name of a state. -/
def text : State → String
  | idle => "Idle"
  | initiating => "Initiating"
  | continuing => "Continuing"
  | ending => "Ending"
  | completed => "Completed"
  | aborting => "Aborting"
  | aborted => "Aborted"

end State

end Transfer

end CxlFirmware
