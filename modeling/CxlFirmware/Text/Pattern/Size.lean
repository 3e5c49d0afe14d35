import CxlFirmware.Text.Pattern
import CxlFirmware.Text.Utf8Ranges

/-!
# The size of patterns

A pattern is looked for with two automata over bytes, one that reads a text forward and
one that reads it backward.  `Pattern.size` is the memory that such an automaton takes
up, and `Pattern.fits` asks whether both of them stay below the limit.
-/

namespace CxlFirmware.Text

/-! ## Units -/

/-- The size of a state. -/
def stateSize : Nat := 32

/-- The size of a step from a state to another on a range of bytes. -/
def stepSize : Nat := 8

/-- The size of a choice of a state. -/
def choiceSize : Nat := 4

/-! ## Sets -/

/-- The rows after the first range of a row, together with the row's first range. -/
abbrev ByteBranch := (Nat × Nat) × List ByteRow

/-- The rows by their first ranges, neighbours with the same first range together. -/
def branchesOf : List ByteRow → List ByteBranch
  | [] => []
  | [] :: rows => branchesOf rows
  | (first :: rest) :: rows =>
    match branchesOf rows with
    | (next, tails) :: branches =>
      if first = next then (next, rest :: tails) :: branches
      else (first, [rest]) :: (next, tails) :: branches
    | [] => [(first, [rest])]

/-- The steps from a state, each with its range of bytes and the number of the state that
it leads to. -/
abbrev ByteSteps := List ((Nat × Nat) × Nat)

/-- The number of a state with some steps among states that have all been numbered, and
the states with it.  The last state has number zero. -/
def numberOf (states : List ByteSteps) (steps : ByteSteps) : Nat × List ByteSteps :=
  match states.reverse.idxOf? steps with
  | some n => (n + 1, states)
  | none => (states.length + 1, steps :: states)

/-- The number of the state that accepts some rows, with the states that it needs.  Equal
states are one.  The depth is that of the rows. -/
def forwardStates : (depth : Nat) → List ByteRow → List ByteSteps → Nat × List ByteSteps
  | 0, _, states => (0, states)
  | depth + 1, rows, states =>
    let branches := branchesOf rows
    if branches.isEmpty then (0, states)
    else
      let (steps, states) := branches.foldl (fun (steps, states) (range, tails) =>
        let (target, states) := forwardStates depth tails states
        (steps ++ [(range, target)], states)) ([], states)
      numberOf states steps

/-- The count of the different beginnings of some rows. -/
def countBeginnings : (depth : Nat) → List ByteRow → Nat
  | 0, _ => 0
  | depth + 1, rows =>
    (branchesOf rows).foldl (fun count (_, tails) => count + 1 + countBeginnings depth tails) 0

/-- The count of bytes of a character. -/
def utf8Length (code : Nat) : Nat :=
  if code < 0x80 then 1 else if code < 0x800 then 2 else if code < 0x10000 then 3 else 4

/-- The size of a set.  Read backward, the beginnings of its sequences are shared, and
read forward also their ends. -/
def CharSet.size (backward : Bool) (set : CharSet) : Nat :=
  match set.member? with
  | some code => stateSize * utf8Length code
  | none =>
    if set.isEmpty then stateSize
    else if set.isAscii then 2 * stateSize + stepSize * set.ranges.length
    else
      let rows := ByteRow.ofSet set
      if backward then
        2 * stateSize + choiceSize * rows.length + stateSize * countBeginnings 4 rows
      else
        (forwardStates 4 rows []).2.foldl (fun size steps =>
          size + stateSize + stepSize * steps.length) stateSize

/-! ## Patterns -/

namespace Pattern

/-- Whether a pattern may describe stretches without characters. -/
def mayBeEmpty : Pattern → Bool
  | empty | edge _ => true
  | one set => set.isEmpty
  | append first second => first.mayBeEmpty && second.mayBeEmpty
  | either first second => first.mayBeEmpty || second.mayBeEmpty
  | repeated pattern least _ => least == 0 || pattern.mayBeEmpty
  | group pattern => pattern.mayBeEmpty

/-- The size of a pattern on its own, and as one of several alternatives. -/
structure Size where
  alone : Nat
  branch : Nat

/-- The size of what is no choice of alternatives. -/
def Size.of (size : Nat) : Size := ⟨size, size + choiceSize⟩

/-- The size of a choice of one of two states. -/
def choiceState : Nat := stateSize + 2 * choiceSize

/-- The size of a pattern of some size that is repeated. -/
def repeatedSize (mayBeEmpty : Bool) (size least : Nat) : Option Nat → Nat
  | none =>
    if least = 0 then
      if mayBeEmpty then size + 2 * choiceState + stateSize else size + choiceState
    else least * size + choiceState
  | some most =>
    if least = most then least * size
    else if least = 0 && most = 1 then size + choiceState + stateSize
    else
      (if least = 0 then stateSize else least * size) + stateSize
        + (most - least) * (size + choiceState)

/-- The size of a pattern. -/
def sizes (backward : Bool) : Pattern → Size
  | empty | edge _ => .of stateSize
  | one set => .of (set.size backward)
  | append first second => .of ((first.sizes backward).alone + (second.sizes backward).alone)
  | either first second =>
    let branches := (first.sizes backward).branch + (second.sizes backward).branch
    ⟨2 * stateSize + branches, branches⟩
  | repeated pattern least most =>
    .of (repeatedSize pattern.mayBeEmpty (pattern.sizes backward).alone least most)
  | group pattern =>
    .of ((pattern.sizes backward).alone + if backward then 0 else 2 * stateSize)

/-- The memory that an automaton for a pattern takes up.  It begins anywhere, and the
forward one remembers the whole stretch. -/
def size (backward : Bool) (pattern : Pattern) : Nat :=
  (sizes backward (if backward then pattern else group pattern)).alone
    + choiceState + 2 * stateSize

/-- The greatest size of an automaton. -/
def sizeLimit : Nat := 10485760

/-- Whether the automata for a pattern stay below the limit. -/
def fits (pattern : Pattern) : Bool :=
  pattern.size false ≤ sizeLimit && pattern.size true ≤ sizeLimit

end Pattern

end CxlFirmware.Text
