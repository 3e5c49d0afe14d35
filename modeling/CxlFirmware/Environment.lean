/-!
# Environment variables

The variables that a program is started with.
-/

namespace CxlFirmware

/-- The variables with their values. -/
abbrev Environment := List (String × String)

namespace Environment

/-- The value of a variable. -/
def value? (environment : Environment) (name : String) : Option String :=
  (environment.find? fun entry => entry.1 == name).map Prod.snd

/-- The value of a variable, if it is not empty. -/
def nonempty? (environment : Environment) (name : String) : Option String :=
  match environment.value? name with
  | some value => if value = "" then none else some value
  | none => none

end Environment

end CxlFirmware
