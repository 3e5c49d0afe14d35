/-!
# Words of a command line

A word is the separator, a long option, a cluster of short options or anything else,
by the dashes that it begins with.
-/

namespace CxlFirmware.Console

/-- A word by its shape. -/
inductive Word where
  /-- A word without a dash in front, or the dash alone. -/
  | plain (text : String)
  /-- Two dashes, after which no word is an option. -/
  | separator
  /-- A name after two dashes, with what follows an equality sign. -/
  | long (name : String) (value : Option String)
  /-- The letters after one dash. -/
  | cluster (letters : List Char)
  deriving DecidableEq

namespace Word

/-- The long option whose name, with an equality sign and a value or without, is
written in `letters`. -/
def longOf (letters : List Char) : Word :=
  long (String.ofList (letters.takeWhile (· != '=')))
    (match letters.dropWhile (· != '=') with
    | [] => none
    | _ :: value => some (String.ofList value))

/-- The shape of a text. -/
def ofText (text : String) : Word :=
  match text.toList with
  | ['-', '-'] => separator
  | '-' :: '-' :: letters => longOf letters
  | '-' :: c :: letters => cluster (c :: letters)
  | _ => plain text

end Word

end CxlFirmware.Console
