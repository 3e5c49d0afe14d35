/-!
# Decimal numbers

`decimal` is the number that digits denote, and `integer` reads a whole number with or
without a sign that fits 64 bits.
-/

namespace CxlFirmware.Text

/-- The number that decimal digits denote. -/
def decimal (digits : List Char) : Nat :=
  digits.foldl (fun n c => 10 * n + (c.toNat - 48)) 0

/-- Why a text is not a whole number of 64 bits. -/
inductive NotInteger where
  | empty
  | invalidDigit
  | tooLarge
  | tooSmall
  deriving DecidableEq, Repr

/-- The text of a reason. -/
def NotInteger.text : NotInteger → String
  | empty => "cannot parse integer from empty string"
  | invalidDigit => "invalid digit found in string"
  | tooLarge => "number too large to fit in target type"
  | tooSmall => "number too small to fit in target type"

/-- The number with one more digit.  The first character that is no digit or makes the
number too long decides. -/
def appendDigit (negative : Bool) (n : Nat) (c : Char) : Except NotInteger Nat :=
  let next := 10 * n + (c.toNat - 48)
  if c.isDigit = false then .error .invalidDigit
  else if negative then if 0x8000000000000000 < next then .error .tooSmall else .ok next
  else if 0x8000000000000000 ≤ next then .error .tooLarge else .ok next

/-- The integer that a text denotes. -/
def integer (text : String) : Except NotInteger Int :=
  match text.toList with
  | [] => .error .empty
  | ['+'] | ['-'] => .error .invalidDigit
  | '-' :: digits => (digits.foldlM (appendDigit true) 0).map fun n => -(n : Int)
  | '+' :: digits => (digits.foldlM (appendDigit false) 0).map Int.ofNat
  | digits => (digits.foldlM (appendDigit false) 0).map Int.ofNat

end CxlFirmware.Text
