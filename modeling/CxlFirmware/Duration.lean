/-!
# Durations

Spans of time in nanoseconds, with whole seconds below `2 ^ 64`.  Addition and
scaling fail where the result would reach that limit.
-/

namespace CxlFirmware

/-- The first count of nanoseconds that no duration has. -/
def Duration.limit : Nat := UInt64.size * 1000000000

/-- A span of time. -/
structure Duration where
  /-- The length in nanoseconds. -/
  nanos : Nat
  /-- The whole seconds fit 64 bits. -/
  bounded : nanos < Duration.limit
  deriving DecidableEq

namespace Duration

/-- The duration of a count of nanoseconds, if it is not too long. -/
def ofNanos? (nanos : Nat) : Option Duration :=
  if h : nanos < limit then some ⟨nanos, h⟩ else none

/-- The empty duration. -/
def zero : Duration := ⟨0, by decide⟩

/-- The least duration that is not empty. -/
def tick : Duration := ⟨1, by decide⟩

/-- The longest duration. -/
def longest : Duration := ⟨limit - 1, by decide⟩

/-- The duration of a count of seconds. -/
def ofSeconds (seconds : UInt64) : Duration :=
  ⟨seconds.toNat * 1000000000, by
    have := seconds.toNat_lt
    simp only [limit, UInt64.size]
    omega⟩

/-- The duration of a count of milliseconds. -/
def ofMillis (millis : UInt64) : Duration :=
  ⟨millis.toNat * 1000000, by
    have := millis.toNat_lt
    simp only [limit, UInt64.size]
    omega⟩

/-- The whole seconds. -/
def seconds (d : Duration) : Nat :=
  d.nanos / 1000000000

/-- The nanoseconds beyond the whole seconds. -/
def subsecond (d : Duration) : Nat :=
  d.nanos % 1000000000

/-- The sum, if it is not too long. -/
def add? (d e : Duration) : Option Duration :=
  ofNanos? (d.nanos + e.nanos)

/-- The multiple, if it is not too long. -/
def scale? (d : Duration) (factor : Nat) : Option Duration :=
  ofNanos? (d.nanos * factor)

/-- The decimal digits of `n` to `width` places, without the zeros at the end. -/
def fraction (width n : Nat) : List Char :=
  let digits := (Nat.repr n).toList
  let padded := List.replicate (width - digits.length) '0' ++ digits
  (padded.reverse.dropWhile (· == '0')).reverse

/-- A whole part, a fraction of `width` places and a unit. -/
def decimal (whole width part : Nat) (unit : String) : String :=
  match fraction width part with
  | [] => Nat.repr whole ++ unit
  | digits => Nat.repr whole ++ "." ++ String.ofList digits ++ unit

/-- The text of a duration, in the largest of the units s, ms, µs and ns that it
fills at least once. -/
def text (d : Duration) : String :=
  if 0 < d.seconds then decimal d.seconds 9 d.subsecond "s"
  else if 1000000 ≤ d.nanos then decimal (d.nanos / 1000000) 6 (d.nanos % 1000000) "ms"
  else if 1000 ≤ d.nanos then decimal (d.nanos / 1000) 3 (d.nanos % 1000) "µs"
  else decimal d.nanos 0 0 "ns"

end Duration

end CxlFirmware
