/-!
# TOML values

The values of TOML.  A table remembers how it came about, which decides whether a
later line may add to it.  The content of floating-point numbers and of dates is not
kept.
-/

namespace CxlFirmware

namespace Toml

/-- How a table came about. -/
inductive Origin where
  /-- By braces around all of its members. -/
  | closed
  /-- By a header of its own. -/
  | header
  /-- By a header of a table inside it. -/
  | implied
  /-- By a dotted key. -/
  | dotted
  deriving DecidableEq

end Toml

/-- A value of TOML. -/
inductive Toml where
  | text (content : String)
  | integer (value : Int)
  | float
  | boolean (value : Bool)
  /-- A date, a time of day, or both. -/
  | moment
  | array (items : List Toml)
  | table (origin : Toml.Origin) (members : List (String × Toml))
  /-- The tables of headers in double brackets, the latest first. -/
  | tables (elements : List (List (String × Toml)))

namespace Toml

/-- The members of a table. -/
abbrev Members := List (String × Toml)

/-- The value of a key. -/
def lookup (key : String) : Members → Option Toml
  | [] => none
  | (name, value) :: rest => if name = key then some value else lookup key rest

/-- The members with another value for a key. -/
def insert (key : String) (value : Toml) : Members → Members
  | [] => [(key, value)]
  | (name, old) :: rest =>
    if name = key then (name, value) :: rest else (name, old) :: insert key value rest

end Toml

end CxlFirmware
