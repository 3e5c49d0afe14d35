import CxlFirmware.Bytes
import CxlFirmware.Error

/-!
# Background status

The report of a background operation and its two layouts.

The layout of the CXL specification has the flag of a running operation in bit 0 of
byte 0 and the percentage in bits 7:1, a reserved byte, and then the opcode, the
return code and the vendor status as 16-bit words.  The vendor layout is one 64-bit
word: the opcode in bits 15:0, the percentage in bits 22:16, the flag in bit 23,
the return code in bits 47:32 and the vendor status in bits 63:48.
-/

namespace CxlFirmware

/-- The report of a background operation. -/
structure BackgroundStatus where
  inProgress : Bool
  percent : UInt8
  /-- The command that started the operation. -/
  opcode : UInt16
  /-- The return code of the operation. -/
  returnCode : UInt16
  vendorStatus : UInt16
  deriving DecidableEq, Repr

namespace BackgroundStatus

/-- The report of a device on which nothing has run. -/
def idle : BackgroundStatus where
  inProgress := false
  percent := 100
  opcode := 0
  returnCode := 0
  vendorStatus := 0

/-- The meaning of the return code. -/
def status (report : BackgroundStatus) : Status :=
  .ofCode report.returnCode

/-- The length of a reply in either layout. -/
def length : Nat := 8

/-- The percentage as it is written: never above one hundred. -/
def writtenPercent (report : BackgroundStatus) : Nat :=
  min report.percent.toNat 100

/-- The reply in the layout of the specification. -/
def encodeSpec (report : BackgroundStatus) : Bytes :=
  Bytes.ofNat 1 (report.inProgress.toNat + 2 * report.writtenPercent) ++ [0]
    ++ Bytes.ofNat 2 report.opcode.toNat ++ Bytes.ofNat 2 report.returnCode.toNat
    ++ Bytes.ofNat 2 report.vendorStatus.toNat

/-- The report of a reply in the layout of the specification. -/
def decodeSpec (payload : Bytes) : Except Error BackgroundStatus :=
  match payload with
  | b0 :: _ :: b2 :: b3 :: b4 :: b5 :: b6 :: b7 :: _ => .ok {
      inProgress := b0.toNat % 2 == 1
      percent := UInt8.ofNat (b0.toNat / 2)
      opcode := UInt16.ofNat (Bytes.toNat [b2, b3])
      returnCode := UInt16.ofNat (Bytes.toNat [b4, b5])
      vendorStatus := UInt16.ofNat (Bytes.toNat [b6, b7]) }
  | _ => .error (.protocol ("background status reply too short: " ++ Nat.repr payload.length
      ++ " bytes, expected " ++ Nat.repr length))

/-- The reply in the vendor layout, as one number. -/
def vendorWord (report : BackgroundStatus) : Nat :=
  report.opcode.toNat + 0x10000 * report.writtenPercent + 0x800000 * report.inProgress.toNat
    + 0x100000000 * report.returnCode.toNat + 0x1000000000000 * report.vendorStatus.toNat

/-- The reply in the vendor layout. -/
def encodeHbo (report : BackgroundStatus) : Bytes :=
  Bytes.ofNat 8 report.vendorWord

/-- The report of a reply in the vendor layout. -/
def decodeHbo (payload : Bytes) : Except Error BackgroundStatus :=
  if payload.length < length then
    .error (.protocol ("HBO status reply too short: " ++ Nat.repr payload.length
      ++ " bytes, expected " ++ Nat.repr length))
  else
    let word := Bytes.toNat (payload.take length)
    .ok {
      inProgress := word / 0x800000 % 2 == 1
      percent := UInt8.ofNat (word / 0x10000 % 0x80)
      opcode := UInt16.ofNat (word % 0x10000)
      returnCode := UInt16.ofNat (word / 0x100000000 % 0x10000)
      vendorStatus := UInt16.ofNat (word / 0x1000000000000 % 0x10000) }

end BackgroundStatus

namespace StatusQuery

/-- The reply to a query. -/
def encode : StatusQuery → BackgroundStatus → Bytes
  | spec => BackgroundStatus.encodeSpec
  | hbo => BackgroundStatus.encodeHbo

/-- The report of a reply to a query. -/
def decode : StatusQuery → Bytes → Except Error BackgroundStatus
  | spec => BackgroundStatus.decodeSpec
  | hbo => BackgroundStatus.decodeHbo

end StatusQuery

end CxlFirmware
