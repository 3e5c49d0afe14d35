import CxlFirmware.Transfer.Action

/-!
# Progress of a transfer

What a transfer reports after each confirmed step.
-/

namespace CxlFirmware.Transfer

/-- The report after a confirmed step. -/
structure Progress where
  /-- The count of confirmed steps. -/
  step : Nat
  /-- The count of steps in the plan. -/
  totalSteps : Nat
  /-- The action of the confirmed step. -/
  action : Action
  /-- The count of confirmed bytes. -/
  bytesSent : Nat
  /-- The count of bytes in the image. -/
  totalBytes : Nat
  deriving DecidableEq

/-- The share of confirmed bytes in percent, all of it for an empty image.  The
product is taken in 64 bits, which suffice for every image that memory can hold. -/
def Progress.percent (report : Progress) : Nat :=
  if report.totalBytes = 0 then 100
  else report.bytesSent * 100 % UInt64.size / report.totalBytes

end CxlFirmware.Transfer
