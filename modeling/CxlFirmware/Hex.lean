/-!
# Hexadecimal text

Numbers in base sixteen: written with a fixed count of digits, and read from digits of
either case.
-/

namespace CxlFirmware.Hex

/-- The lower-case digit of a number below sixteen. -/
def digit (n : Nat) : Char :=
  if n < 10 then Char.ofNat (48 + n) else Char.ofNat (87 + n)

/-- The upper-case digit of a number below sixteen. -/
def upperDigit (n : Nat) : Char :=
  if n < 10 then Char.ofNat (48 + n) else Char.ofNat (55 + n)

/-- The `width` lowest digits of `n`, most significant first, written with `write`. -/
def digits (write : Nat → Char) : (width : Nat) → (n : Nat) → List Char
  | 0, _ => []
  | width + 1, n => digits write width (n / 16) ++ [write (n % 16)]

/-- A 16-bit code as `0x` and four upper-case digits. -/
def code (n : UInt16) : String :=
  "0x" ++ String.ofList (digits upperDigit 4 n.toNat)

/-- A 32-bit word as eight lower-case digits. -/
def word (n : UInt32) : String :=
  String.ofList (digits digit 8 n.toNat)

/-- The value of a digit, in either case. -/
def value? (c : Char) : Option Nat :=
  if c.isDigit then some (c.toNat - 48)
  else if 'a' ≤ c ∧ c ≤ 'f' then some (c.toNat - 87)
  else if 'A' ≤ c ∧ c ≤ 'F' then some (c.toNat - 55)
  else none

/-- The number that digits denote. -/
def number (digits : List Char) : Nat :=
  digits.foldl (fun n c => 16 * n + (value? c).getD 0) 0

end CxlFirmware.Hex
