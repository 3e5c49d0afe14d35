import CxlFirmware.Json.Basic
import CxlFirmware.Json.Token

/-!
# Reading JSON

`read?` gives the value of a text that is one value of JSON with nothing around it
but space.  The functions before it read from the front of a list of tokens and give
back what is left; their first argument bounds the depth of the calls.
-/

namespace CxlFirmware.Json

mutual

/-- The value at the front of the tokens. -/
def readValue : Nat → List Token → Option (Json × List Token)
  | 0, _ => none
  | bound + 1, tokens =>
    match tokens with
    | .null :: rest => some (.null, rest)
    | .bool value :: rest => some (.bool value, rest)
    | .natural value :: rest => some (.natural value, rest)
    | .decimal written :: rest => some (.decimal written, rest)
    | .string text :: rest => some (.string text, rest)
    | .openBracket :: .closeBracket :: rest => some (.array [], rest)
    | .openBracket :: rest =>
      match readItems bound rest with
      | none => none
      | some (items, rest) => some (.array items, rest)
    | .openBrace :: .closeBrace :: rest => some (.object [], rest)
    | .openBrace :: rest =>
      match readMembers bound rest with
      | none => none
      | some (members, rest) => some (.object members, rest)
    | _ => none

/-- The items of an array that is not empty, up to its closing bracket. -/
def readItems : Nat → List Token → Option (List Json × List Token)
  | 0, _ => none
  | bound + 1, tokens =>
    match readValue bound tokens with
    | some (item, .closeBracket :: rest) => some ([item], rest)
    | some (item, .comma :: rest) =>
      match readItems bound rest with
      | none => none
      | some (items, rest) => some (item :: items, rest)
    | _ => none

/-- The members of an object that is not empty, up to its closing brace. -/
def readMembers : Nat → List Token → Option (List (Option String × Json) × List Token)
  | 0, _ => none
  | bound + 1, tokens =>
    match tokens with
    | .string name :: .colon :: rest =>
      match readValue bound rest with
      | some (value, .closeBrace :: rest) => some ([(name, value)], rest)
      | some (value, .comma :: rest) =>
        match readMembers bound rest with
        | none => none
        | some (members, rest) => some ((name, value) :: members, rest)
      | _ => none
    | _ => none

end

/-- The value of a list of tokens. -/
def ofTokens? (tokens : List Token) : Option Json :=
  match readValue (2 * tokens.length + 1) tokens with
  | some (value, []) => some value
  | _ => none

/-- The value of a text. -/
def read? (text : String) : Option Json :=
  (scan text.toList).bind ofTokens?

end CxlFirmware.Json
