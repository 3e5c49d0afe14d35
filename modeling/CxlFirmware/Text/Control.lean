import CxlFirmware.Text.Utf8

/-!
# Control characters

A terminal takes control characters as orders, and an escape character begins a whole
sequence of characters that make up one order.  `withoutControls` takes the orders out
of a text, so that what is left is what a reader sees.  White space counts as seen.
-/

namespace CxlFirmware.Text

/-! ## Classes of characters -/

/-- The character that begins a sequence. -/
def escape : Char := '\x1b'

/-- Whether a character is a line break, a tab or a form feed. -/
def isLayout (c : Char) : Bool :=
  c == '\t' || c == '\n' || c == '\x0c' || c == '\r'

/-- Whether a character is seen where no sequence is being read. -/
def isSeen (c : Char) : Bool :=
  isLayout c || (' ' ≤ c && c != '\x7f')

/-- Whether a character stands between two others in ASCII, ends included. -/
def isBetween (low high c : Char) : Bool :=
  low ≤ c && c ≤ high

/-- Whether a character that is written with several bytes has a given one among them. -/
def hasByte (byte : UInt8) (c : Char) : Bool :=
  (Utf8.encodeChar c).contains byte

/-! ## Sequences -/

/-- How far a sequence has been read. -/
inductive Sequence where
  /-- The escape character. -/
  | start
  /-- Marks after the escape character. -/
  | marks
  /-- An order with numbers, which the first letter ends. -/
  | numbered
  /-- The head of an order that comes with a text. -/
  | head
  /-- The head of such an order, with numbers. -/
  | headNumbers
  /-- The head of such an order, with marks. -/
  | headMarks
  /-- The text of an order. -/
  | body
  /-- A text for the system that the terminal belongs to, which a bell ends. -/
  | system
  deriving DecidableEq, Repr

namespace Sequence

/-- Whether line breaks, tabs and form feeds inside a sequence are carried out at once
and do not belong to it. -/
def letsLayoutThrough : Sequence → Bool
  | start | marks | numbered => true
  | head | headNumbers | headMarks | body | system => false

/-- The sequence that a character after the escape character opens, if it does not end
the sequence. -/
def opened (c : Char) : Option Sequence :=
  if c = '[' then some numbered
  else if c = ']' then some system
  else if c = 'P' then some head
  else if c = 'X' ∨ c = '^' ∨ c = '_' then some body
  else if isBetween '0' '~' c then none
  else if isBetween ' ' '/' c then some marks
  else some start

/-- The head of an order with a text after one more character. -/
def extended (whole c : Char) (mark number : Sequence) (stays : Sequence) :
    Option Sequence :=
  if isBetween '@' '~' c then some body
  else if isBetween ' ' '/' c then some mark
  else if isBetween whole '?' c then some number
  else some stays

/-- The sequence after one more character, `none` if it is over. -/
def next (sequence : Sequence) (c : Char) : Option Sequence :=
  if c = '\x18' ∨ c = '\x1a' then none
  else if c = escape then some start
  else
    match sequence with
    | start => opened c
    | marks => if isBetween '0' '~' c then none else some marks
    | numbered => if isBetween '@' '~' c then none else some numbered
    | head => extended '0' c headMarks headNumbers head
    | headNumbers => extended '<' c headMarks body headNumbers
    | headMarks => extended '0' c headMarks body headMarks
    | body => if hasByte 0x9C c then none else some body
    | system => if c = '\x07' then none else some system

end Sequence

/-! ## Texts -/

/-- Where a reader of a text is. -/
inductive Place where
  | outside
  | inside (sequence : Sequence)
  /-- Behind white space that a sequence let through.  Characters are seen up to the
  next control character, which goes on with the sequence. -/
  | paused (sequence : Sequence)
  deriving DecidableEq, Repr

namespace Place

/-- The place behind a sequence. -/
def ofSequence : Option Sequence → Place
  | none => outside
  | some sequence => inside sequence

/-- Whether a character is seen at a place. -/
def shows : Place → Char → Bool
  | outside, c => isSeen c
  | inside sequence, c => isLayout c && sequence.letsLayoutThrough
  | paused _, c => isSeen c

/-- The place behind a character. -/
def next (place : Place) (c : Char) : Place :=
  match place with
  | outside => if c = escape then inside .start else outside
  | inside sequence =>
    if place.shows c then paused sequence else ofSequence (sequence.next c)
  | paused sequence =>
    if place.shows c then if c.toNat < 0x80 then place else outside
    else ofSequence (sequence.next c)

/-- The characters of a text that are seen from a place on. -/
def visible : Place → List Char → List Char
  | _, [] => []
  | place, c :: rest =>
    if place.shows c then c :: visible (place.next c) rest else visible (place.next c) rest

end Place

/-- A text without its control characters and sequences. -/
def withoutControls (s : String) : String :=
  String.ofList (Place.outside.visible s.toList)

end CxlFirmware.Text
