import CxlFirmware.Hex
import CxlFirmware.Text.CharSet
import CxlFirmware.Text.Parts

/-!
# Written tables

The tables of character properties are texts of words between blanks and line breaks:
`5F` is a code point, `41-5A` a range of them and `100-12E/2` every second one of a range.
`CharSet.table` is the set that such a text lists.  A `CharRule` makes a set out of
tables.  A `PropertyValue` is a value of a property with the names it goes by; `find?`
looks a name up without regard to case, blanks, dashes and underscores.
-/

namespace CxlFirmware.Text

namespace Unicode

/-- The code points from one code point up to another, a step apart. -/
def steps (low high step : Nat) : List Nat :=
  (List.range ((high - low) / step + 1)).map fun n => low + n * step

/-- The ranges that a word of a table stands for. -/
def rangesOf (word : List Char) : List CodeRange :=
  match (split '/' word).map fun part => (split '-' part).map Hex.number with
  | [[code]] => [⟨code, code⟩]
  | [[low, high]] => [⟨low, high⟩]
  | [[low, high], [step]] => (steps low high step).map fun code => ⟨code, code⟩
  | _ => []

/-- The words of a table. -/
def wordsOf (text : String) : List (List Char) :=
  ((split '\n' text.toList).flatMap (split ' ')).filter fun word => !word.isEmpty

end Unicode

/-- The set that a table lists. -/
def CharSet.table (text : String) : CharSet :=
  .ofRanges ((Unicode.wordsOf text).flatMap Unicode.rangesOf)

namespace Unicode

/-! ## Rules -/

/-- A rule for a set of characters.  The set is not made before it is asked for. -/
inductive CharRule where
  /-- The characters that a table lists. -/
  | table (text : String)
  /-- The characters of either of two rules. -/
  | union (first second : CharRule)
  /-- The characters of a rule that another rule does not have. -/
  | diff (first second : CharRule)

namespace CharRule

/-- The rule for all characters. -/
def everything : CharRule := table "0-D7FF E000-10FFFF"

/-- The rule for the characters of some rules. -/
def anyOf (rules : List CharRule) : CharRule := rules.foldr union (table "")

/-- The characters of a rule. -/
def chars : CharRule → CharSet
  | table text => .table text
  | union first second => first.chars.union second.chars
  | diff first second => first.chars.diff second.chars

end CharRule

/-! ## Names -/

/-- Whether a character of a name counts when names are compared. -/
def counts (c : Char) : Bool :=
  c.toNat < 0x80 && c != ' ' && c != '_' && c != '-'

/-- A name as it is compared: in lower case, without blanks, dashes and underscores, and
without a leading `is`, except that `isc` is a name of its own. -/
def looseName (name : List Char) : List Char :=
  match name.map Char.toLower with
  | 'i' :: 's' :: rest =>
    let rest := rest.filter counts
    if rest = ['c'] then ['i', 's', 'c'] else rest
  | name => name.filter counts

/-- A value of a property, or a property that a character has or has not. -/
structure PropertyValue where
  /-- The names of the value. -/
  names : List String
  /-- The rule for the characters with the value. -/
  rule : CharRule

/-- Whether a loose name is one of some names. -/
def goesBy (name : List Char) (names : List String) : Bool :=
  names.any fun known => looseName known.toList = name

/-- The value with a loose name. -/
def find? (values : List PropertyValue) (name : List Char) : Option PropertyValue :=
  values.find? fun value => goesBy name value.names

end Unicode

end CxlFirmware.Text
