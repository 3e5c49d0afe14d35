/-!
# Log records

Every operation reports what it does in log records, each with a level, the part of
the program that it comes from, and a message.
-/

namespace CxlFirmware

/-- The weight of a log record, from the heaviest to the lightest. -/
inductive LogLevel where
  | error
  | warn
  | info
  | debug
  | trace
  deriving DecidableEq, Repr

namespace LogLevel

/-- The count of levels that are at least as heavy. -/
def rank : LogLevel → Nat
  | error => 1
  | warn => 2
  | info => 3
  | debug => 4
  | trace => 5

/-- The name of a level. -/
def name : LogLevel → String
  | error => "ERROR"
  | warn => "WARN"
  | info => "INFO"
  | debug => "DEBUG"
  | trace => "TRACE"

end LogLevel

/-- A log record. -/
structure LogRecord where
  level : LogLevel
  /-- The part of the program that wrote the record. -/
  origin : String
  message : String
  deriving DecidableEq, Repr

end CxlFirmware
