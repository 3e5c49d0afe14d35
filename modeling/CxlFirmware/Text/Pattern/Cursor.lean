import CxlFirmware.Text.Blank
import CxlFirmware.Text.Pattern.Fault

/-!
# Cursors

A `Cursor` stands at a place of a written pattern.  `next` goes on by one character and
`step` also over the blanks and comments after it, where these are left out.  `takeWhile`
collects characters step by step.
-/

namespace CxlFirmware.Text

/-- What is left of a written pattern. -/
structure Cursor where
  /-- The count of the characters before it. -/
  place : Nat
  rest : List Char
  /-- Whether blanks and comments are left out. -/
  spaced : Bool
  deriving DecidableEq, Repr

namespace Cursor

/-- The next character. -/
def head? (cursor : Cursor) : Option Char := cursor.rest.head?

/-- The cursor behind some characters. -/
def drop (count : Nat) (cursor : Cursor) : Cursor :=
  ⟨cursor.place + min count cursor.rest.length, cursor.rest.drop count, cursor.spaced⟩

/-- The cursor behind the next character. -/
def next (cursor : Cursor) : Cursor := cursor.drop 1

/-- The count of characters in the blanks and comments at the front, from inside of a
comment or not. -/
def gap : Bool → List Char → Nat
  | _, [] => 0
  | true, c :: rest => gap (c != '\n') rest + 1
  | false, c :: rest =>
    if isBlank c then gap false rest + 1
    else if c = '#' then gap true rest + 1
    else 0

/-- The cursor behind blanks and comments, where these are left out. -/
def skip (cursor : Cursor) : Cursor :=
  if cursor.spaced then cursor.drop (gap false cursor.rest) else cursor

/-- The cursor behind the next character and what is left out after it. -/
def step (cursor : Cursor) : Cursor := cursor.next.skip

/-- The cursor behind blanks, whether or not they are left out. -/
def skipBlanks (cursor : Cursor) : Cursor :=
  cursor.drop (cursor.rest.takeWhile isBlank).length

/-- The character behind the next one that counts.  A comment is taken to end with its
mark, and where nothing is left the very next character is given. -/
def second? (cursor : Cursor) : Option Char :=
  let rest := cursor.rest.drop 1
  let shown :=
    match rest.dropWhile isBlank with
    | '#' :: rest => rest.dropWhile isBlank
    | rest => rest
  if cursor.spaced then shown.head?.or rest.head? else rest.head?

/-- Collects characters for at most some number of steps. -/
def collect (accepts : Char → Bool) : Nat → Cursor → List Char × Cursor
  | 0, cursor => ([], cursor)
  | fuel + 1, cursor =>
    match cursor.rest with
    | [] => ([], cursor)
    | c :: _ =>
      if accepts c then
        let (chars, cursor) := collect accepts fuel cursor.step
        (c :: chars, cursor)
      else ([], cursor)

/-- The longest run of accepted characters, and the cursor behind it. -/
def takeWhile (accepts : Char → Bool) (cursor : Cursor) : List Char × Cursor :=
  collect accepts cursor.rest.length cursor

/-- Whether a text stands at the cursor. -/
def startsWith (text : String) (cursor : Cursor) : Bool :=
  text.toList.isPrefixOf cursor.rest

/-- The stretch from a place to the cursor. -/
def spanFrom (start : Nat) (cursor : Cursor) : Span := ⟨start, cursor.place⟩

/-- The stretch without characters at the cursor. -/
def here (cursor : Cursor) : Span := ⟨cursor.place, cursor.place⟩

/-- The stretch of the next character. -/
def charSpan (cursor : Cursor) : Span := ⟨cursor.place, cursor.place + 1⟩

end Cursor

/-- Refuses a stretch of a pattern. -/
def refuse {α : Type} (fault : PatternFault) (span : Span) : Except PatternError α :=
  .error (.malformed fault span none)

end CxlFirmware.Text
