/-!
# Sets of characters

A set of characters is a list of ranges of code points, in order and with gaps between
them.  `CharSet.contains` asks for a member; `union`, `inter`, `diff`, `symmDiff` and
`compl` are the operations on sets.  Surrogates are code points of no character, and
`compl` leaves them out.
-/

namespace CxlFirmware.Text

/-- The code points from `low` up to `high`, both of them included. -/
structure CodeRange where
  low : Nat
  high : Nat
  deriving DecidableEq, Repr

/-- A set of characters. -/
structure CharSet where
  ranges : List CodeRange
  deriving DecidableEq, Repr

namespace CharSet

/-- The range that begins at a code point and takes in all ranges that it touches. -/
def join : Nat → Nat → List CodeRange → List CodeRange
  | low, high, [] => [⟨low, high⟩]
  | low, high, range :: ranges =>
    if range.low ≤ high + 1 then join low (max high range.high) ranges
    else ⟨low, high⟩ :: join range.low range.high ranges

/-- The set of the characters in some ranges. -/
def ofRanges (ranges : List CodeRange) : CharSet :=
  match ranges.mergeSort fun first second => first.low ≤ second.low with
  | [] => ⟨[]⟩
  | range :: ranges => ⟨join range.low range.high ranges⟩

/-- The set without members. -/
def empty : CharSet := ⟨[]⟩

/-- The set of the characters between two characters. -/
def range (low high : Char) : CharSet := ⟨[⟨low.toNat, high.toNat⟩]⟩

/-- The set of one character. -/
def single (c : Char) : CharSet := range c c

/-- Whether ranges in order have a code point. -/
def covers (code : Nat) : List CodeRange → Bool
  | [] => false
  | range :: ranges =>
    if code < range.low then false
    else if code ≤ range.high then true
    else covers code ranges

/-- Whether a set has a code point. -/
def containsCode (set : CharSet) (code : Nat) : Bool := covers code set.ranges

/-- Whether a set has a character. -/
def contains (set : CharSet) (c : Char) : Bool := set.containsCode c.toNat

/-- The last code point. -/
def lastCode : Nat := 0x10FFFF

/-- The code points of no character. -/
def surrogates : CodeRange := ⟨0xD800, 0xDFFF⟩

/-- The ranges between ranges in order, from a code point on. -/
def gaps : Nat → List CodeRange → List CodeRange
  | start, [] => if start ≤ lastCode then [⟨start, lastCode⟩] else []
  | start, range :: ranges =>
    if start < range.low then ⟨start, range.low - 1⟩ :: gaps (range.high + 1) ranges
    else gaps (range.high + 1) ranges

/-- The members of either of two sets. -/
def union (first second : CharSet) : CharSet := ofRanges (first.ranges ++ second.ranges)

/-- The members of some sets. -/
def unionAll (sets : List CharSet) : CharSet := ofRanges (sets.flatMap ranges)

/-- The characters outside of a set. -/
def compl (set : CharSet) : CharSet := ⟨gaps 0 (ofRanges (surrogates :: set.ranges)).ranges⟩

/-- The common members of two sets. -/
def inter (first second : CharSet) : CharSet := (first.compl.union second.compl).compl

/-- The members of a set outside of another. -/
def diff (first second : CharSet) : CharSet := (first.compl.union second).compl

/-- The members of exactly one of two sets. -/
def symmDiff (first second : CharSet) : CharSet :=
  (first.diff second).union (second.diff first)

/-- The set of all characters. -/
def all : CharSet := compl empty

/-- The characters of ASCII. -/
def ascii : CharSet := range '\x00' '\x7f'

/-- Whether a set has no member. -/
def isEmpty (set : CharSet) : Bool := set.ranges.isEmpty

/-- Whether a set has characters of ASCII only. -/
def isAscii (set : CharSet) : Bool := set.ranges.all fun range => range.high < 0x80

/-- The code point of the one member of a set. -/
def member? (set : CharSet) : Option Nat :=
  match set.ranges with
  | [range] => if range.low = range.high then some range.low else none
  | _ => none

end CharSet

end CxlFirmware.Text
