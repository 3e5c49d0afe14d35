import CxlFirmware.Text.CharSet

/-!
# Ranges of byte sequences

The UTF-8 sequences of the characters in a set, as rows of byte ranges.  A row describes
all sequences that have a byte of each range in turn.
-/

namespace CxlFirmware.Text

/-- A row of byte ranges. -/
abbrev ByteRow := List (Nat × Nat)

namespace ByteRow

/-- The count of numbers that some bytes of six bits each can hold. -/
def capacity : Nat → Nat
  | 0 => 1
  | count + 1 => 64 * capacity count

/-- The row of all sequences of some continuing bytes. -/
def continuing (count : Nat) : ByteRow := List.replicate count (0x80, 0xBF)

/-- The rows of the numbers from `low` up to `high`, written with one byte that adds
`mark` and some number of continuing bytes. -/
def between : (count mark low high : Nat) → List ByteRow
  | 0, mark, low, high => [[(mark + low, mark + high)]]
  | count + 1, mark, low, high =>
    let unit := capacity (count + 1)
    let first := low / unit
    let last := high / unit
    if first = last then
      (between count 0x80 (low % unit) (high % unit)).map ((mark + first, mark + first) :: ·)
    else
      let opening :=
        if low % unit = 0 then []
        else (between count 0x80 (low % unit) (unit - 1)).map
          ((mark + first, mark + first) :: ·)
      let closing :=
        if high % unit = unit - 1 then []
        else (between count 0x80 0 (high % unit)).map ((mark + last, mark + last) :: ·)
      let start := if opening.isEmpty then first else first + 1
      let stop := if closing.isEmpty then last + 1 else last
      let middle :=
        if start < stop then [(mark + start, mark + stop - 1) :: continuing (count + 1)]
        else []
      opening ++ middle ++ closing

/-- The code points with sequences of one to four bytes, as the count of the continuing
bytes, the mark of the first byte and the first and the last code point. -/
def lengths : List (Nat × Nat × Nat × Nat) :=
  [(0, 0, 0, 0x7F), (1, 0xC0, 0x80, 0x7FF), (2, 0xE0, 0x800, 0xD7FF), (2, 0xE0, 0xE000, 0xFFFF),
    (3, 0xF0, 0x10000, 0x10FFFF)]

/-- The rows of the characters in a range. -/
def ofRange (range : CodeRange) : List ByteRow :=
  lengths.flatMap fun (count, mark, low, high) =>
    let low := max low range.low
    let high := min high range.high
    if low ≤ high then between count mark low high else []

/-- The rows of the characters in a set. -/
def ofSet (set : CharSet) : List ByteRow := set.ranges.flatMap ofRange

end ByteRow

end CxlFirmware.Text
