import CxlFirmware.Hex
import CxlFirmware.Text.Pattern.Cursor
import CxlFirmware.Text.Pattern.Written

/-!
# Escapes

What stands behind a backslash: a character that would mean something else on its own or
is written with its number, a set of characters, or an assertion.  `Written.readEscape`
reads all of them.
-/

namespace CxlFirmware.Text

namespace Written

/-! ## Numbers of characters -/

/-- Whether a character is a digit in base sixteen. -/
def isHex (c : Char) : Bool := (Hex.value? c).isSome

/-- The character of digits in base sixteen, which stand in the stretch `digits`. -/
def ofHex (span digits : Span) (byte : Bool) (text : List Char) : Except PatternError Written :=
  let number := Hex.number text
  if number.isValidChar then .ok (literal span ⟨Char.ofNat number, byte⟩)
  else refuse .invalidHexadecimal digits

/-- Reads some number of digits. -/
def readDigits : Nat → Cursor → Except PatternError (List Char × Cursor)
  | 0, cursor => .ok ([], cursor)
  | count + 1, cursor =>
    match cursor.head? with
    | none => refuse .unfinishedEscape cursor.here
    | some c =>
      if isHex c then do
        let (digits, cursor) ← readDigits count cursor.step
        return (c :: digits, cursor)
      else refuse .invalidDigit cursor.charSpan

/-- Reads the number of a character between braces, from the opening one on. -/
def readBraces (start : Nat) (cursor : Cursor) : Except PatternError (Written × Cursor) :=
  let (digits, stop) := cursor.step.takeWhile isHex
  match stop.head? with
  | none => refuse .unfinishedEscape (stop.spanFrom cursor.place)
  | some '\x7d' =>
    let after := stop.step
    if digits.isEmpty then refuse .emptyHexadecimal (after.spanFrom cursor.place)
    else do
      let literal ← ofHex (after.spanFrom start) (stop.spanFrom (cursor.place + 1)) false digits
      return (literal, after)
  | some _ => refuse .invalidDigit stop.charSpan

/-- Reads the number of a character, which has some number of digits or stands between
braces. -/
def readNumber (start count : Nat) (cursor : Cursor) : Except PatternError (Written × Cursor) :=
  if cursor.head? = some '\x7b' then readBraces start cursor
  else do
    let (digits, after) ← readDigits count cursor
    let literal ←
      ofHex (after.spanFrom start) (after.spanFrom cursor.place) (count == 2) digits
    return (literal, after)

/-! ## Properties -/

/-- The parts of a text before and behind the first place where `mark` stands. -/
def divide? (mark : List Char) : List Char → Option (List Char × List Char)
  | [] => none
  | c :: rest =>
    if mark.isPrefixOf (c :: rest) then some ([], (c :: rest).drop mark.length)
    else (divide? mark rest).map fun (before, behind) => (c :: before, behind)

/-- The property that a name between braces asks for, and whether it asks for the
characters without the property. -/
def queryOf (name : List Char) : Unicode.Query × Bool :=
  match divide? ['!', '='] name, divide? [':'] name, divide? ['='] name with
  | some (kind, value), _, _ => (.valued kind value, true)
  | none, some (kind, value), _ => (.valued kind value, false)
  | none, none, some (kind, value) => (.valued kind value, false)
  | none, none, none => (.named name, false)

/-- Reads the name of a property. -/
def readProperty (start : Nat) (negated : Bool) (cursor : Cursor) :
    Except PatternError (Written × Cursor) :=
  match cursor.head? with
  | none => refuse .unfinishedEscape cursor.here
  | some '\x7b' =>
    let (name, stop) := cursor.step.takeWhile (· != '\x7d')
    let (query, without) := queryOf name
    if stop.rest.isEmpty then refuse .unfinishedEscape stop.here
    else .ok (property (stop.next.spanFrom start) query (negated != without), stop.next)
  | some '\\' => refuse .invalidProperty cursor.charSpan
  | some c => .ok (property (cursor.step.spanFrom start) (.named [c]) negated, cursor.step)

/-! ## Word edges -/

/-- Whether a character may stand in the name of a word edge. -/
def isEdgePart (c : Char) : Bool := c.isAlpha || c == '-'

/-- The word edge of a name. -/
def edge? (name : List Char) : Option WordEdge :=
  match String.ofList name with
  | "start" => some .start
  | "end" => some .stop
  | "start-half" => some .afterGap
  | "end-half" => some .beforeGap
  | _ => none

/-- Reads the name of a word edge between braces, from the opening one on.  Something else
between the braces is a count and belongs to what follows. -/
def readEdge (start : Nat) (cursor : Cursor) : Except PatternError (Written × Cursor) :=
  let first := cursor.step
  match first.head? with
  | none => refuse .wordEdgeOrCount (first.spanFrom start)
  | some c =>
    let (name, stop) := first.takeWhile isEdgePart
    if !isEdgePart c then .ok (assertion (cursor.spanFrom start) (.word .either), cursor)
    else if stop.head? ≠ some '\x7d' then refuse .unclosedWordEdge (stop.spanFrom cursor.place)
    else
      match edge? name with
      | some edge => .ok (assertion (stop.next.spanFrom start) (.word edge), stop.next)
      | none => refuse .unknownWordEdge (stop.spanFrom first.place)

/-! ## Single characters -/

/-- Whether a character behind a backslash stands for itself. -/
def isMark (c : Char) : Bool :=
  c.toNat < 0x80 && !c.isAlphanum && c != '<' && c != '>'

/-- The control that a letter behind a backslash stands for. -/
def control? : Char → Option Char
  | 'a' => some '\x07'
  | 'f' => some '\x0c'
  | 'n' => some '\n'
  | 'r' => some '\r'
  | 't' => some '\t'
  | 'v' => some '\x0b'
  | _ => none

/-- The set that a letter behind a backslash stands for, in upper case for the characters
outside of it. -/
def shorthand? : Char → Option (Shorthand × Bool)
  | 'd' => some (.digit, false)
  | 'D' => some (.digit, true)
  | 's' => some (.blank, false)
  | 'S' => some (.blank, true)
  | 'w' => some (.word, false)
  | 'W' => some (.word, true)
  | _ => none

/-- The assertion that a character behind a backslash stands for. -/
def assertion? : Char → Option Assertion
  | 'A' => some .textStart
  | 'z' => some .textEnd
  | 'b' => some (.word .either)
  | 'B' => some (.word .neither)
  | '<' => some (.word .start)
  | '>' => some (.word .stop)
  | _ => none

/-- Reads a character behind a backslash that stands alone. -/
def readSingle (start : Nat) (c : Char) (after : Cursor) :
    Except PatternError (Written × Cursor) :=
  let span := after.spanFrom start
  match (control? c).or (if isMark c then some c else none), shorthand? c, assertion? c with
  | some c, _, _ => .ok (literal span ⟨c, false⟩, after)
  | none, some (kind, negated), _ => .ok (shorthand span kind negated, after)
  | none, none, some kind => .ok (assertion span kind, after)
  | none, none, none => refuse .unknownEscape span

/-- Reads what begins with a backslash. -/
def readEscape (cursor : Cursor) : Except PatternError (Written × Cursor) :=
  let start := cursor.place
  let named := cursor.next
  match named.head? with
  | none => refuse .unfinishedEscape (named.spanFrom start)
  | some 'x' => readNumber start 2 named.step
  | some 'u' => readNumber start 4 named.step
  | some 'U' => readNumber start 8 named.step
  | some 'p' => readProperty start false named.step
  | some 'P' => readProperty start true named.step
  | some c =>
    if c.isDigit then refuse .backreference (named.next.spanFrom start)
    else if c = 'b' && named.next.head? = some '\x7b' then readEdge start named.next
    else readSingle start c named.next

end Written

end CxlFirmware.Text
