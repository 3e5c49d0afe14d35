import CxlFirmware.Json.Basic

/-!
# Records in JSON

A record is written as an object, with a member for each of its fields, and may also
be read from an array of the fields in order.  Members with other names are passed
over; a field that is given twice makes the record unreadable.
-/

namespace CxlFirmware.Json

/-- The values of the members with a name. -/
def valuesOf (name : String) (members : List (Option String × Json)) : List Json :=
  members.filterMap fun member => if member.1 = some name then some member.2 else none

/-- The value of a field among the members, `none` inside where it is missing. -/
def field? (members : List (Option String × Json)) (name : String) : Option (Option Json) :=
  match valuesOf name members with
  | [] => some none
  | [value] => some (some value)
  | _ => none

/-- The values of the fields of a record, in the order of `names`. -/
def fields? (names : List String) : Json → Option (List (Option Json))
  | .object members =>
    if members.all fun member => member.1.isSome then names.mapM (field? members) else none
  | .array items =>
    if items.length ≤ names.length then
      some (items.map some ++ List.replicate (names.length - items.length) none)
    else none
  | _ => none

/-- The value of a field that may be missing. -/
def optional {α : Type} (default : α) (read : Json → Option α) : Option Json → Option α
  | none => some default
  | some value => read value

/-- The value of a field that must be there. -/
def required {α : Type} (read : Json → Option α) : Option Json → Option α
  | none => none
  | some value => read value

/-! ## Values of fields -/

/-- A truth value. -/
def bool? : Json → Option Bool
  | .bool value => some value
  | _ => none

/-- A natural number below a limit. -/
def naturalBelow? (limit : Nat) : Json → Option Nat
  | .natural value => if value < limit then some value else none
  | _ => none

/-- A text. -/
def text? : Json → Option String
  | .string text => text
  | _ => none

/-- A list of values. -/
def list? {α : Type} (read : Json → Option α) : Json → Option (List α)
  | .array items => items.mapM read
  | _ => none

/-- A value or null. -/
def nullable? {α : Type} (read : Json → Option α) : Json → Option (Option α)
  | .null => some none
  | value => (read value).map some

end CxlFirmware.Json
