import CxlFirmware.Hex

/-!
# Commands

The mailbox commands that this library sends, with their 16-bit codes.
-/

namespace CxlFirmware

/-- A mailbox command. -/
inductive Opcode where
  | getBackgroundStatus
  | getFwInfo
  | transferFw
  | activateFw
  /-- The vendor query for hidden background operations. -/
  | hboStatus
  /-- The vendor transfer that runs in the background. -/
  | hboTransferFw
  /-- The vendor activation that runs in the background. -/
  | hboActivateFw
  /-- The vendor transfer of an operating-system image. -/
  | hboTransferOsImage
  deriving DecidableEq, Repr

namespace Opcode

/-- The code of a command. -/
def code : Opcode → UInt16
  | getBackgroundStatus => 0x0002
  | getFwInfo => 0x0200
  | transferFw => 0x0201
  | activateFw => 0x0202
  | hboStatus => 0xCD00
  | hboTransferFw => 0xCD01
  | hboActivateFw => 0xCD02
  | hboTransferOsImage => 0xCD04

/-- All commands. -/
def all : List Opcode := [
  getBackgroundStatus, getFwInfo, transferFw, activateFw,
  hboStatus, hboTransferFw, hboActivateFw, hboTransferOsImage]

/-- The command of a code. -/
def ofCode? (code : UInt16) : Option Opcode :=
  all.find? fun opcode => opcode.code == code

/-- The short name of a command. -/
def name : Opcode → String
  | getBackgroundStatus => "get-bg-status"
  | getFwInfo => "get-fw-info"
  | transferFw => "transfer-fw"
  | activateFw => "activate-fw"
  | hboStatus => "hbo-status"
  | hboTransferFw => "hbo-transfer-fw"
  | hboActivateFw => "hbo-activate-fw"
  | hboTransferOsImage => "hbo-transfer-os"

/-- The name and the code of a command. -/
def text (opcode : Opcode) : String :=
  opcode.name ++ " (" ++ Hex.code opcode.code ++ ")"

@[simp]
theorem ofCode?_code (opcode : Opcode) :
  ofCode? opcode.code = some opcode
  := by
  cases opcode <;> rfl

end Opcode

end CxlFirmware
