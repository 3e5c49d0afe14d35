import CxlFirmware.Hex
import CxlFirmware.Json.Basic

/-!
# Writing JSON

`pretty` writes a value over several lines, each item and member on a line of its
own and two spaces further in than what holds it.
-/

namespace CxlFirmware.Json

/-- A character of a string. -/
def writeChar (c : Char) : List Char :=
  if c = '\"' then ['\\', '\"']
  else if c = '\\' then ['\\', '\\']
  else if c = '\x08' then ['\\', 'b']
  else if c = '\t' then ['\\', 't']
  else if c = '\n' then ['\\', 'n']
  else if c = '\x0c' then ['\\', 'f']
  else if c = '\r' then ['\\', 'r']
  else if c.toNat < 0x20 then ['\\', 'u'] ++ Hex.digits Hex.digit 4 c.toNat
  else [c]

/-- A string.  One that is no text is written as half of a surrogate pair. -/
def writeString (text : Option String) : List Char :=
  match text with
  | some text => ['\"'] ++ text.toList.flatMap writeChar ++ ['\"']
  | none => ['\"', '\\', 'u', 'd', '8', '0', '0', '\"']

/-- The beginning of a line at a depth. -/
def newline (depth : Nat) : List Char :=
  '\n' :: List.replicate (2 * depth) ' '

mutual

/-- A value at a depth. -/
def write (depth : Nat) : Json → List Char
  | .null => ['n', 'u', 'l', 'l']
  | .bool true => ['t', 'r', 'u', 'e']
  | .bool false => ['f', 'a', 'l', 's', 'e']
  | .natural value => (Nat.repr value).toList
  | .decimal written => written
  | .string text => writeString text
  | .array [] => ['[', ']']
  | .array (item :: items) =>
    ['['] ++ newline (depth + 1) ++ write (depth + 1) item ++ writeItems (depth + 1) items
      ++ newline depth ++ [']']
  | .object [] => ['\x7b', '\x7d']
  | .object (member :: members) =>
    ['\x7b'] ++ newline (depth + 1) ++ writeMember (depth + 1) member
      ++ writeMembers (depth + 1) members ++ newline depth ++ ['\x7d']

/-- Further items at a depth. -/
def writeItems (depth : Nat) : List Json → List Char
  | [] => []
  | item :: items => [','] ++ newline depth ++ write depth item ++ writeItems depth items

/-- A member at a depth. -/
def writeMember (depth : Nat) : Option String × Json → List Char
  | (name, value) => writeString name ++ [':', ' '] ++ write depth value

/-- Further members at a depth. -/
def writeMembers (depth : Nat) : List (Option String × Json) → List Char
  | [] => []
  | member :: members =>
    [','] ++ newline depth ++ writeMember depth member ++ writeMembers depth members

end

/-- The text of a value over several lines. -/
def pretty (value : Json) : String :=
  String.ofList (write 0 value)

end CxlFirmware.Json
