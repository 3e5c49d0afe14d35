/-!
# JSON values

The values of JSON.  A string with half of a surrogate pair is no text of Unicode,
and stands as `none`.  A number is kept as a natural number when it is written with
digits alone, and as it is written otherwise.  An object keeps its members in order,
repeated names included.
-/

namespace CxlFirmware

/-- A value of JSON. -/
inductive Json where
  | null
  | bool (value : Bool)
  | natural (value : Nat)
  /-- A number with a sign, a fraction or an exponent, as it is written. -/
  | decimal (written : List Char)
  | string (text : Option String)
  | array (items : List Json)
  | object (members : List (Option String × Json))

/-- The string of a text. -/
def Json.ofText (text : String) : Json :=
  .string (some text)

/-- The object with the given names and values. -/
def Json.ofMembers (members : List (String × Json)) : Json :=
  .object (members.map fun member => (some member.1, member.2))

end CxlFirmware
