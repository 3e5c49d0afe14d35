import CxlFirmware.Text.Pattern.Escape

/-!
# Sets between brackets

`WrittenSet.read` reads a set of characters between brackets: single characters and
ranges, sets with names, sets inside of sets, and operations on sets.
-/

namespace CxlFirmware.Text

/-! ## Parts -/

namespace Written

/-- A part of a pattern as a part of a set. -/
def asSet : Written → Except PatternError WrittenSet
  | literal span char => .ok (.literal span char)
  | property span query negated => .ok (.property span query negated)
  | shorthand span kind negated => .ok (.shorthand span kind negated)
  | other => refuse .escapeInSet other.span

/-- A part of a pattern as an end of a range. -/
def asEnd : Written → Except PatternError (Span × Literal)
  | literal span char => .ok (span, char)
  | other => refuse .rangeOfSets other.span

/-- Reads one character of a set, or what stands behind a backslash. -/
def readSetPart (cursor : Cursor) (c : Char) : Except PatternError (Written × Cursor) :=
  if c = '\\' then readEscape cursor
  else .ok (literal cursor.charSpan ⟨c, false⟩, cursor.next)

end Written

namespace WrittenSet

/-- The parts of a set that have been read, one after another, and their stretch. -/
structure Parts where
  span : Span
  parts : List WrittenSet

/-- The parts with one more part. -/
def Parts.push (parts : Parts) (part : WrittenSet) : Parts :=
  ⟨⟨if parts.parts.isEmpty then part.span.start else parts.span.start, part.span.stop⟩,
    parts.parts ++ [part]⟩

/-- The set of some parts. -/
def Parts.set (parts : Parts) : WrittenSet :=
  match parts.parts with
  | [] => empty parts.span
  | [part] => part
  | several => union parts.span several

/-- Reads a range, or a part of a set that no range begins with, in the set with the
opening bracket `opening`. -/
def readRange (opening : Span) (cursor : Cursor) (c : Char) :
    Except PatternError (WrittenSet × Cursor) := do
  let (low, after) ← Written.readSetPart cursor c
  let after := after.skip
  match after.head? with
  | none => refuse .unclosedSet opening
  | some '-' =>
    let second := after.second?
    if second = some ']' || second = some '-' then return (← low.asSet, after)
    else
      match after.step.head? with
      | none => refuse .unclosedSet opening
      | some c =>
        let (high, behind) ← Written.readSetPart after.step c
        let span : Span := ⟨low.span.start, high.span.stop⟩
        let low ← low.asEnd
        let high ← high.asEnd
        if low.2.char ≤ high.2.char then return (range span low high, behind)
        else refuse .reversedRange span
  | some _ => return (← low.asSet, after)

/-! ## Names -/

/-- The class of a name. -/
def className? (name : List Char) : Option ClassName :=
  match String.ofList name with
  | "alnum" => some .alnum
  | "alpha" => some .alpha
  | "ascii" => some .ascii
  | "blank" => some .blank
  | "cntrl" => some .cntrl
  | "digit" => some .digit
  | "graph" => some .graph
  | "lower" => some .lower
  | "print" => some .print
  | "punct" => some .punct
  | "space" => some .space
  | "upper" => some .upper
  | "word" => some .word
  | "xdigit" => some .xdigit
  | _ => none

/-- Reads a class with a name, if one stands at an opening bracket. -/
def readNamed? (cursor : Cursor) : Option (WrittenSet × Cursor) :=
  if cursor.startsWith "[:" then
    let negated := cursor.startsWith "[:^"
    let name := (cursor.drop (if negated then 3 else 2))
    let letters := name.rest.takeWhile (· != ':')
    let stop := name.drop letters.length
    if stop.startsWith ":]" then
      (className? letters).map fun kind =>
        (named ((stop.drop 2).spanFrom cursor.place) kind negated, stop.drop 2)
    else none
  else none

/-! ## Brackets -/

/-- A set between brackets. -/
structure Bracketed where
  span : Span
  negated : Bool
  inner : WrittenSet

/-- The opening of a set. -/
structure Opening where
  /-- The stretch of the opening itself. -/
  span : Span
  negated : Bool
  /-- What stands first in the set and would have another meaning elsewhere. -/
  parts : Parts

/-- Reads the dashes at the front of a set. -/
def readDashes (start : Nat) : Nat → Parts → Cursor → Except PatternError (Parts × Cursor)
  | 0, parts, cursor => .ok (parts, cursor)
  | fuel + 1, parts, cursor =>
    if cursor.head? = some '-' then
      let parts := parts.push (literal cursor.charSpan ⟨'-', false⟩)
      if cursor.step.rest.isEmpty then refuse .unclosedSet ⟨start, start⟩
      else readDashes start fuel parts cursor.step
    else .ok (parts, cursor)

/-- The cursor behind one character, if there is more to come. -/
def stepInside (start : Nat) (cursor : Cursor) : Except PatternError Cursor :=
  if cursor.step.rest.isEmpty then refuse .unclosedSet (cursor.step.spanFrom start)
  else .ok cursor.step

/-- Reads the opening of a set. -/
def readOpening (cursor : Cursor) : Except PatternError (Opening × Cursor) := do
  let start := cursor.place
  let first ← stepInside start cursor
  let negated := first.head? == some '^'
  let first ← if negated then stepInside start first else .ok first
  let (parts, after) ← readDashes start first.rest.length ⟨first.here, []⟩ first
  if parts.parts.isEmpty && after.head? == some ']' then
    let behind ← stepInside start after
    let parts := parts.push (literal after.charSpan ⟨']', false⟩)
    return (⟨behind.spanFrom start, negated, parts⟩, behind)
  else return (⟨after.spanFrom start, negated, parts⟩, after)

/-- The operation that is written at a cursor. -/
def operation? (cursor : Cursor) : Option SetOperation :=
  if cursor.startsWith "&&" then some .inter
  else if cursor.startsWith "--" then some .diff
  else if cursor.startsWith "~~" then some .symmDiff
  else none

/-- The set of an operation that waits for its second operand, if there is one. -/
def close (pending : Option (SetOperation × WrittenSet)) (second : WrittenSet) : WrittenSet :=
  match pending with
  | none => second
  | some (kind, first) => operation ⟨first.span.start, second.span.stop⟩ kind first second

/-- Reads the rest of a set up to its closing bracket, behind some parts and an operation
that waits for them.  The fuel bounds the count of the steps. -/
def readRest : Nat → Opening → Option (SetOperation × WrittenSet) → Parts → Cursor →
    Except PatternError (Bracketed × Cursor)
  | 0, opening, _, _, _ => refuse .unclosedSet opening.span
  | fuel + 1, opening, pending, parts, cursor => do
    let cursor := cursor.skip
    match cursor.head?, operation? cursor with
    | none, _ => refuse .unclosedSet opening.span
    | some ']', _ =>
      let span := cursor.next.spanFrom opening.span.start
      return (⟨span, opening.negated, close pending parts.set⟩, cursor.next)
    | some '[', _ =>
      let (part, cursor) ←
        match readNamed? cursor with
        | some read => Except.ok read
        | none => do
          let (inner, cursor) ← readOpening cursor
          let (set, cursor) ← readRest fuel inner none inner.parts cursor
          pure (brackets set.span set.negated set.inner, cursor)
      readRest fuel opening pending (parts.push part) cursor
    | some _, some kind =>
      let cursor := cursor.drop 2
      readRest fuel opening (some (kind, close pending parts.set)) ⟨cursor.here, []⟩ cursor
    | some c, none =>
      let (part, cursor) ← readRange opening.span cursor c
      readRest fuel opening pending (parts.push part) cursor

/-- Reads a set from its opening bracket on. -/
def read (cursor : Cursor) : Except PatternError (Bracketed × Cursor) := do
  let (opening, after) ← readOpening cursor
  readRest (cursor.rest.length + 1) opening none opening.parts after

end WrittenSet

end CxlFirmware.Text
