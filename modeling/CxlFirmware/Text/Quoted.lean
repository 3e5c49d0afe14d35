import CxlFirmware.Hex
import CxlFirmware.Text.Shapeless

/-!
# Quoted texts

A text between double quotes, with a backslash before a double quote and before a
backslash, letters for the common controls, and a number in braces for every other
character without a shape of its own.
-/

namespace CxlFirmware.Text

/-- The digits of a code point without zeros in front. -/
def codePoint (n : Nat) : List Char :=
  match (Hex.digits Hex.digit 6 n).dropWhile (· == '0') with
  | [] => ['0']
  | digits => digits

/-- A character between double quotes. -/
def quoteChar (c : Char) : List Char :=
  if c = '\x00' then ['\\', '0']
  else if c = '\t' then ['\\', 't']
  else if c = '\r' then ['\\', 'r']
  else if c = '\n' then ['\\', 'n']
  else if c = '\"' then ['\\', '\"']
  else if c = '\\' then ['\\', '\\']
  else if isShapeless c then ['\\', 'u', '\x7b'] ++ codePoint c.toNat ++ ['\x7d']
  else [c]

/-- A text between double quotes. -/
def quote (s : String) : String :=
  String.ofList (['\"'] ++ s.toList.flatMap quoteChar ++ ['\"'])

end CxlFirmware.Text
