/-!
# Parts of a text

`split` takes a text apart at its separators.
-/

namespace CxlFirmware.Text

/-- The parts of a text between separators. -/
def split (separator : Char) : List Char → List (List Char)
  | [] => [[]]
  | c :: rest =>
    match split separator rest with
    | [] => [[c]]
    | part :: parts =>
      if c = separator then [] :: part :: parts else (c :: part) :: parts

end CxlFirmware.Text
