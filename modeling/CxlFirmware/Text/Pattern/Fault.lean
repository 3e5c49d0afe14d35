import CxlFirmware.Text.Parts

/-!
# Faults of written patterns

What may be wrong with a written pattern, and the text that says so: the pattern, with
line numbers if it has several lines, marks below the stretches at fault, and the fault.
-/

namespace CxlFirmware.Text

/-- A stretch of a written pattern, from the place `start` up to before the place `stop`. -/
structure Span where
  start : Nat
  stop : Nat
  deriving DecidableEq, Repr

/-- What is wrong with a written pattern. -/
inductive PatternFault where
  | unclosedSet
  | reversedRange
  | rangeOfSets
  | escapeInSet
  | invalidNumber
  | emptyHexadecimal
  | invalidHexadecimal
  | invalidDigit
  | unfinishedEscape
  | unknownEscape
  | danglingNegation
  | repeatedFlag
  | repeatedNegation
  | unfinishedFlags
  | unknownFlag
  | repeatedName
  | emptyName
  | invalidName
  | unclosedName
  | unclosedGroup
  | unopenedGroup
  | reversedCount
  | countWithoutNumber
  | unclosedCount
  | nothingToRepeat
  | unclosedWordEdge
  | unknownWordEdge
  | wordEdgeOrCount
  | invalidProperty
  | backreference
  | lookAround
  | nestedTooDeeply
  | notWithoutUnicode
  | brokenCharacters
  | unknownProperty
  | unknownPropertyValue
  deriving DecidableEq, Repr

/-- The text of a fault. -/
def PatternFault.text : PatternFault → String
  | unclosedSet => "unclosed character class"
  | reversedRange => "invalid character class range, the start must be <= the end"
  | rangeOfSets => "invalid range boundary, must be a literal"
  | escapeInSet => "invalid escape sequence found in character class"
  | invalidNumber => "decimal literal invalid"
  | emptyHexadecimal => "hexadecimal literal empty"
  | invalidHexadecimal => "hexadecimal literal is not a Unicode scalar value"
  | invalidDigit => "invalid hexadecimal digit"
  | unfinishedEscape =>
    "incomplete escape sequence, reached end of pattern prematurely"
  | unknownEscape => "unrecognized escape sequence"
  | danglingNegation => "dangling flag negation operator"
  | repeatedFlag => "duplicate flag"
  | repeatedNegation => "flag negation operator repeated"
  | unfinishedFlags => "expected flag but got end of regex"
  | unknownFlag => "unrecognized flag"
  | repeatedName => "duplicate capture group name"
  | emptyName => "empty capture group name"
  | invalidName => "invalid capture group character"
  | unclosedName => "unclosed capture group name"
  | unclosedGroup => "unclosed group"
  | unopenedGroup => "unopened group"
  | reversedCount =>
    "invalid repetition count range, the start must be <= the end"
  | countWithoutNumber => "repetition quantifier expects a valid decimal"
  | unclosedCount => "unclosed counted repetition"
  | nothingToRepeat => "repetition operator missing expression"
  | unclosedWordEdge =>
    "special word boundary assertion is either unclosed or contains an invalid character"
  | unknownWordEdge =>
    "unrecognized special word boundary assertion, valid choices are: start, end, "
      ++ "start-half or end-half"
  | wordEdgeOrCount =>
    "found either the beginning of a special word boundary or a bounded repetition on a "
      ++ "\\b with an opening brace, but no closing brace"
  | invalidProperty => "invalid Unicode character class"
  | backreference => "backreferences are not supported"
  | lookAround => "look-around, including look-ahead and look-behind, is not supported"
  | nestedTooDeeply => "exceed the maximum number of nested parentheses/brackets (250)"
  | notWithoutUnicode => "Unicode not allowed here"
  | brokenCharacters => "pattern can match invalid UTF-8"
  | unknownProperty => "Unicode property not found"
  | unknownPropertyValue => "Unicode property value not found"

/-- Why a text is no pattern. -/
inductive PatternError where
  /-- A fault with the stretch that it concerns, and another stretch that this one clashes
  with. -/
  | malformed (fault : PatternFault) (span : Span) (other : Option Span)
  /-- The pattern takes up too much memory. -/
  | tooLarge
  deriving DecidableEq, Repr

namespace PatternError

/-! ## Lines -/

/-- A place as a line and a column, both of them counted from zero. -/
structure Position where
  line : Nat
  column : Nat
  deriving DecidableEq, Repr

/-- The position of a place. -/
def position (pattern : List Char) (place : Nat) : Position :=
  let before := split '\n' (pattern.take place)
  ⟨before.length - 1, (before.getLastD []).length⟩

/-- A line without the carriage return at its end. -/
def chomp (line : List Char) : List Char :=
  if line.getLast? = some '\r' then line.dropLast else line

/-- The lines of a pattern.  A line break at the end begins no line. -/
def linesOf (pattern : List Char) : List (List Char) :=
  let parts := split '\n' pattern
  let last := parts.getLastD []
  (parts.dropLast.map chomp) ++ if last.isEmpty then [] else [last]

/-! ## Marks -/

/-- Some number of equal characters. -/
def fill (count : Nat) (c : Char) : String :=
  String.ofList (List.replicate count c)

/-- The marks below the columns from `start` up to `stop`, and the column behind them,
where marks have been made up to the column `done`. -/
def mark (done : Nat) (start stop : Position) : String × Nat :=
  let count := max 1 (stop.column - start.column)
  (fill (start.column - done) ' ' ++ fill count '^', max done start.column + count)

/-- The marks below the stretches of a line. -/
def marks (stretches : List (Position × Position)) : String :=
  (stretches.foldl (fun (text, done) (start, stop) =>
    let (more, done) := mark done start stop
    (text ++ more, done)) ("", 0)).1

/-- A number in a field of some width. -/
def numbered (width n : Nat) : String :=
  let digits := toString n
  fill (width - digits.length) ' ' ++ digits

/-- The lines of a pattern with the marks below their stretches.  The lines are numbered
if they have a `width` for that. -/
def marked (width : Nat) (stretches : List (Position × Position)) :
    Nat → List (List Char) → String
  | _, [] => ""
  | n, line :: lines =>
    let opening := if width = 0 then "    " else numbered width (n + 1) ++ ": "
    let here := stretches.filter fun (start, _) => start.line = n
    let below :=
      if here.isEmpty then ""
      else fill (if width = 0 then 4 else width + 2) ' ' ++ marks here ++ "\n"
    opening ++ String.ofList line ++ "\n" ++ below ++ marked width stretches (n + 1) lines

/-- The line that tells of a stretch over several lines. -/
def note (start stop : Position) : String :=
  "on line " ++ toString (start.line + 1) ++ " (column " ++ toString (start.column + 1)
    ++ ") through line " ++ toString (stop.line + 1) ++ " (column " ++ toString stop.column
    ++ ")\n"

/-- Two stretches in the order of their places. -/
def inOrder (span : Span) : Option Span → List Span
  | none => [span]
  | some other =>
    if other.start < span.start || (other.start = span.start && other.stop < span.stop)
    then [other, span] else [span, other]

/-- The pattern with marks, and notes on the stretches that cannot be marked. -/
def picture (pattern : List Char) (spans : List Span) : String :=
  let stretches := spans.map fun span => (position pattern span.start, position pattern span.stop)
  let (short, long) := stretches.partition fun (start, stop) => start.line = stop.line
  let lines := linesOf pattern
  if pattern.contains '\n' then
    let count := lines.length + if pattern.getLast? = some '\n' then 1 else 0
    let width := (toString count).length
    let border := fill 79 '~' ++ "\n"
    border ++ marked width short 0 lines ++ border
      ++ String.join (long.map fun (start, stop) => note start stop)
  else marked 0 short 0 lines

/-- The text of an error in a pattern. -/
def text (pattern : String) : PatternError → String
  | malformed fault span other =>
    "regex parse error:\n" ++ picture pattern.toList (inOrder span other)
      ++ "error: " ++ fault.text
  | tooLarge => "Compiled regex exceeds size limit of 10485760 bytes."

end PatternError

end CxlFirmware.Text
