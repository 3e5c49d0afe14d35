import CxlFirmware.Text.CharSet
import CxlFirmware.Text.Unicode.Property

/-!
# Patterns

A pattern describes stretches of a text: regular expressions with assertions about the
places where a stretch begins and ends.  `Pattern.ends` gives the ends of the stretches
that begin at some places, and `Pattern.occursIn` asks whether there is a stretch at all.
-/

namespace CxlFirmware.Text

/-! ## Words -/

/-- The characters of words: the alphabetic ones, marks, digits, and what connects them. -/
def wordParts : CharSet :=
  (Unicode.CharRule.anyOf [Unicode.alphabetic, Unicode.joinControl,
    Unicode.ofCategories (.decimalNumber :: .connectorPunctuation :: Unicode.Category.marks)]).chars

/-- The characters of words among those of ASCII. -/
def asciiWordParts : CharSet := .table "30-39 41-5A 5F 61-7A"

/-! ## Edges -/

/-- What an assertion about words says of a place. -/
inductive WordEdge where
  /-- A word begins or ends there. -/
  | either
  /-- No word begins or ends there. -/
  | neither
  /-- A word begins there. -/
  | start
  /-- A word ends there. -/
  | stop
  /-- There is no word before it. -/
  | afterGap
  /-- There is no word behind it. -/
  | beforeGap
  deriving DecidableEq, Repr

/-- Whether an assertion about words is true where a word is or is not before the place
and behind it. -/
def WordEdge.holds (before behind : Bool) : WordEdge → Bool
  | either => before != behind
  | neither => before == behind
  | start => !before && behind
  | stop => before && !behind
  | afterGap => !before
  | beforeGap => !behind

/-- An assertion about a place in a text. -/
inductive Edge where
  | textStart
  | textEnd
  | lineStart
  | lineEnd
  /-- The start of a line, where a carriage return ends a line as well. -/
  | returnedStart
  /-- The end of a line, where a carriage return ends a line as well. -/
  | returnedEnd
  /-- An assertion about words, for which only characters of ASCII may count. -/
  | word (ascii : Bool) (kind : WordEdge)
  deriving DecidableEq, Repr

namespace Edge

/-- The character before a place. -/
def before? (text : Array Char) (place : Nat) : Option Char :=
  if place = 0 then none else text[place - 1]?

/-- Whether an assertion is true at a place. -/
def holds (text : Array Char) (place : Nat) : Edge → Bool
  | textStart => place == 0
  | textEnd => place == text.size
  | lineStart => place == 0 || before? text place == some '\n'
  | lineEnd => place == text.size || text[place]? == some '\n'
  | returnedStart =>
    place == 0 || before? text place == some '\n'
      || (before? text place == some '\r' && text[place]? != some '\n')
  | returnedEnd =>
    place == text.size || text[place]? == some '\r'
      || (text[place]? == some '\n' && before? text place != some '\r')
  | word ascii kind =>
    let parts := if ascii then asciiWordParts else wordParts
    kind.holds ((before? text place).any parts.contains) (text[place]?.any parts.contains)

end Edge

/-! ## Patterns -/

/-- A regular expression. -/
inductive Pattern where
  | empty
  | one (set : CharSet)
  | edge (kind : Edge)
  | append (first second : Pattern)
  | either (first second : Pattern)
  /-- A pattern at least and at most so many times in a row. -/
  | repeated (pattern : Pattern) (least : Nat) (most : Option Nat)
  /-- A pattern whose stretch is remembered. -/
  | group (pattern : Pattern)
  deriving DecidableEq, Repr

namespace Pattern

/-- The places that some number of steps lead to. -/
def afterSteps (step : List Nat → List Nat) : Nat → List Nat → List Nat
  | 0, places => places
  | n + 1, places => afterSteps step n (step places)

/-- The places that at most some number of steps lead to, where the places `seen` have
been reached, the ones of `places` in the last step. -/
def withinSteps (step : List Nat → List Nat) : Nat → List Nat → List Nat → List Nat
  | 0, seen, _ => seen
  | n + 1, seen, places =>
    match (step places).filter fun place => !seen.contains place with
    | [] => seen
    | fresh => withinSteps step n (seen ++ fresh) fresh

/-- The ends of the stretches that begin at some places.  More repetitions than the text
has characters lead nowhere new. -/
def ends (text : Array Char) : Pattern → List Nat → List Nat
  | empty, places => places
  | one set, places =>
    (places.filter fun place => text[place]?.any set.contains).map (· + 1)
  | edge kind, places => places.filter fun place => kind.holds text place
  | append first second, places => ends text second (ends text first places)
  | either first second, places =>
    (ends text first places ++ ends text second places).eraseDups
  | repeated pattern least most, places =>
    let further :=
      match most with
      | some most => min (most - least) text.size
      | none => text.size
    let places := afterSteps (ends text pattern) (min least (text.size + 1)) places
    withinSteps (ends text pattern) further places places
  | group pattern, places => ends text pattern places

/-- Whether a text has a stretch that a pattern describes. -/
def occursIn (pattern : Pattern) (text : String) : Bool :=
  let chars := text.toList.toArray
  !(pattern.ends chars (List.range (chars.size + 1))).isEmpty

/-! ## Construction -/

/-- Whether a pattern describes stretches without characters only. -/
def isNull : Pattern → Bool
  | empty | edge _ => true
  | one _ => false
  | append first second | either first second => first.isNull && second.isNull
  | repeated pattern _ most => pattern.isNull || most == some 0
  | group pattern => pattern.isNull

/-- The pattern of one pattern after another. -/
def ofList (patterns : List Pattern) : Pattern :=
  match patterns.filter (· != empty) with
  | [] => empty
  | pattern :: patterns => join pattern patterns
where
  /-- The pattern of one pattern and those after it. -/
  join : Pattern → List Pattern → Pattern
    | pattern, [] => pattern
    | pattern, next :: patterns => append pattern (join next patterns)

/-- The set of a pattern of one character. -/
def set? : Pattern → Option CharSet
  | one set => some set
  | _ => none

/-- The pattern of any of some patterns.  Sets of characters make up one set. -/
def anyOf (patterns : List Pattern) : Pattern :=
  match patterns.mapM set?, patterns with
  | some (set :: sets), _ => one (.unionAll (set :: sets))
  | _, [] => one .empty
  | _, pattern :: patterns => join pattern patterns
where
  /-- The pattern of one pattern or those after it. -/
  join : Pattern → List Pattern → Pattern
    | pattern, [] => pattern
    | pattern, next :: patterns => either pattern (join next patterns)

/-- The pattern of a pattern some number of times in a row.  Stretches without characters
need not be repeated. -/
def times (pattern : Pattern) (least : Nat) (most : Option Nat) : Pattern :=
  let (least, most) :=
    if pattern.isNull then (min least 1, some ((most.map (min · 1)).getD 1)) else (least, most)
  match least, most with
  | 0, some 0 => empty
  | 1, some 1 => pattern
  | least, most => repeated pattern least most

end Pattern

end CxlFirmware.Text
