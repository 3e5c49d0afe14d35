/-!
# Faults

A fault ends the program.  It is not an error that an operation returns.
-/

namespace CxlFirmware

/-- A computation without a result. -/
inductive Fault where
  /-- A division by zero. -/
  | division
  /-- A sum of durations that is too long. -/
  | durationSum
  /-- A multiple of a duration that is too long. -/
  | durationProduct
  /-- A product that does not fit its word. -/
  | product
  /-- A run of bytes that is too long for the address space. -/
  | capacity
  deriving DecidableEq, Repr

/-- The text of a fault. -/
def Fault.text : Fault → String
  | division => "attempt to divide by zero"
  | durationSum => "overflow when adding durations"
  | durationProduct => "overflow when multiplying duration by scalar"
  | product => "attempt to multiply with overflow"
  | capacity => "capacity overflow"

end CxlFirmware
