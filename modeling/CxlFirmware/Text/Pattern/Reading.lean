import CxlFirmware.Text.Pattern.Meaning
import CxlFirmware.Text.Pattern.Reader
import CxlFirmware.Text.Pattern.Size

/-!
# Reading patterns

`Pattern.read` is the pattern that a text describes: the text is taken apart, its meaning
is found, and it is refused if it would take up too much memory.
-/

namespace CxlFirmware.Text

/-- The pattern that a text describes. -/
def Pattern.read (text : String) : Except PatternError Pattern := do
  let written ← Written.read text
  let (pattern, _) ← written.meaning .plain
  if pattern.fits then return pattern else .error .tooLarge

end CxlFirmware.Text
