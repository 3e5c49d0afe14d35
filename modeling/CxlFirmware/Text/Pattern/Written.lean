import CxlFirmware.Text.Pattern
import CxlFirmware.Text.Pattern.Fault
import CxlFirmware.Text.Unicode.Query

/-!
# Written patterns as trees

`Written` is a written pattern taken apart, and `WrittenSet` a set of characters between
brackets.  Every part knows its stretch of the text.  `Written.tooDeep?` finds the first
part that lies inside of too many others.
-/

namespace CxlFirmware.Text

/-! ## Leaves -/

/-- A character that stands for itself. -/
structure Literal where
  char : Char
  /-- Whether it is written as a byte of two digits. -/
  byte : Bool
  deriving DecidableEq, Repr

/-- A set of characters with a short name. -/
inductive Shorthand where
  | digit
  | blank
  | word
  deriving DecidableEq, Repr

/-- An assertion, the meaning of which may depend on flags. -/
inductive Assertion where
  | lineStart
  | lineEnd
  | textStart
  | textEnd
  | word (kind : WordEdge)
  deriving DecidableEq, Repr

/-- What changes the meaning of a pattern. -/
inductive Flag where
  /-- Case does not count. -/
  | caseless
  /-- Lines have their own starts and ends. -/
  | multiline
  /-- A period stands for line breaks as well. -/
  | dotAll
  /-- Short repetitions are preferred. -/
  | lazy
  /-- Characters outside of ASCII count. -/
  | unicode
  /-- A carriage return ends a line as well. -/
  | returned
  /-- Blank characters are left out. -/
  | spaced
  deriving DecidableEq, Repr

/-- Flags that are set or cleared. -/
abbrev FlagChanges := List (Flag × Bool)

/-! ## Sets -/

/-- An operation on two sets. -/
inductive SetOperation where
  | inter
  | diff
  | symmDiff
  deriving DecidableEq, Repr

/-- A class of characters with a name between colons. -/
inductive ClassName where
  | alnum
  | alpha
  | ascii
  | blank
  | cntrl
  | digit
  | graph
  | lower
  | print
  | punct
  | space
  | upper
  | word
  | xdigit
  deriving DecidableEq, Repr

/-- A written set of characters. -/
inductive WrittenSet where
  | empty (span : Span)
  | literal (span : Span) (literal : Literal)
  | range (span : Span) (low high : Span × Literal)
  | named (span : Span) (name : ClassName) (negated : Bool)
  | property (span : Span) (query : Unicode.Query) (negated : Bool)
  | shorthand (span : Span) (kind : Shorthand) (negated : Bool)
  | brackets (span : Span) (negated : Bool) (inner : WrittenSet)
  | union (span : Span) (parts : List WrittenSet)
  | operation (span : Span) (kind : SetOperation) (first second : WrittenSet)
  deriving Repr

/-- The stretch of a set. -/
def WrittenSet.span : WrittenSet → Span
  | empty span | literal span _ | range span _ _ | named span _ _ | property span _ _
  | shorthand span _ _ | brackets span _ _ | union span _ | operation span _ _ _ => span

/-! ## Patterns -/

/-- A written pattern. -/
inductive Written where
  | empty (span : Span)
  | literal (span : Span) (literal : Literal)
  | dot (span : Span)
  | assertion (span : Span) (kind : Assertion)
  | property (span : Span) (query : Unicode.Query) (negated : Bool)
  | shorthand (span : Span) (kind : Shorthand) (negated : Bool)
  | brackets (span : Span) (negated : Bool) (inner : WrittenSet)
  /-- Flags for the rest of the group around them. -/
  | flags (span : Span) (changes : FlagChanges)
  /-- A pattern between parentheses, with flags for it alone. -/
  | group (span : Span) (remembered : Bool) (changes : FlagChanges) (inner : Written)
  | repeated (span : Span) (inner : Written) (least : Nat) (most : Option Nat)
  | sequence (span : Span) (parts : List Written)
  | alternatives (span : Span) (parts : List Written)
  deriving Repr

/-- The stretch of a pattern. -/
def Written.span : Written → Span
  | empty span | literal span _ | dot span | assertion span _ | property span _ _
  | shorthand span _ _ | brackets span _ _ | flags span _ | group span _ _ _
  | repeated span _ _ _ | sequence span _ | alternatives span _ => span

/-! ## Depth -/

/-- The count of parts that may lie inside of each other. -/
def greatestDepth : Nat := 250

/-- A stretch that lies inside of some number of parts, if that is too many. -/
def tooDeep (depth : Nat) (span : Span) : Option Span :=
  if greatestDepth ≤ depth then some span else none

mutual

/-- The first part of a set that lies too deep, where `depth` parts are around the set. -/
def WrittenSet.tooDeep? (depth : Nat) : WrittenSet → Option Span
  | empty _ | literal _ _ | range _ _ _ | named _ _ _ | property _ _ _ | shorthand _ _ _ =>
    none
  | brackets span _ inner => (tooDeep depth span).or (inner.tooDeep? (depth + 1))
  | union span parts => (tooDeep depth span).or (WrittenSet.anyTooDeep? (depth + 1) parts)
  | operation span _ first second =>
    (tooDeep depth span).or
      ((first.tooDeep? (depth + 1)).or (second.tooDeep? (depth + 1)))

/-- The first part of some sets that lies too deep. -/
def WrittenSet.anyTooDeep? (depth : Nat) : List WrittenSet → Option Span
  | [] => none
  | part :: parts => (part.tooDeep? depth).or (WrittenSet.anyTooDeep? depth parts)

end

mutual

/-- The first part of a pattern that lies too deep, where `depth` parts are around the
pattern. -/
def Written.tooDeep? (depth : Nat) : Written → Option Span
  | empty _ | literal _ _ | dot _ | assertion _ _ | property _ _ _ | shorthand _ _ _
  | flags _ _ => none
  | brackets span _ inner => (tooDeep depth span).or (inner.tooDeep? (depth + 1))
  | group span _ _ inner => (tooDeep depth span).or (inner.tooDeep? (depth + 1))
  | repeated span inner _ _ => (tooDeep depth span).or (inner.tooDeep? (depth + 1))
  | sequence span parts => (tooDeep depth span).or (Written.anyTooDeep? (depth + 1) parts)
  | alternatives span parts => (tooDeep depth span).or (Written.anyTooDeep? (depth + 1) parts)

/-- The first part of some patterns that lies too deep. -/
def Written.anyTooDeep? (depth : Nat) : List Written → Option Span
  | [] => none
  | part :: parts => (part.tooDeep? depth).or (Written.anyTooDeep? depth parts)

end

end CxlFirmware.Text
