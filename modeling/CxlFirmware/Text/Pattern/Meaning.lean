import CxlFirmware.Text.Pattern.Written
import CxlFirmware.Text.Unicode.Folding

/-!
# The meaning of written patterns

`Written.meaning` is the pattern that a written pattern stands for under some flags.  It
refuses what would describe parts of characters, and properties that do not exist.
-/

namespace CxlFirmware.Text

/-! ## Flags -/

/-- How the parts of a written pattern are to be understood. -/
structure Flags where
  caseless : Bool
  /-- Whether lines have their own starts and ends. -/
  multiline : Bool
  /-- Whether a period stands for line breaks as well. -/
  dotAll : Bool
  /-- Whether only the characters of ASCII count. -/
  ascii : Bool
  /-- Whether a carriage return ends a line as well. -/
  returned : Bool
  deriving DecidableEq, Repr

namespace Flags

/-- The flags of a pattern that sets none. -/
def plain : Flags := ⟨false, false, false, false, false⟩

/-- The flags with one of them set or cleared.  Which of several stretches is preferred
and whether blanks are left out has no bearing on the meaning. -/
def set (flags : Flags) (flag : Flag) (value : Bool) : Flags :=
  match flag with
  | .caseless => { flags with caseless := value }
  | .multiline => { flags with multiline := value }
  | .dotAll => { flags with dotAll := value }
  | .unicode => { flags with ascii := !value }
  | .returned => { flags with returned := value }
  | .lazy | .spaced => flags

/-- The flags after some changes. -/
def change (flags : Flags) (changes : FlagChanges) : Flags :=
  changes.foldl (fun flags (flag, value) => flags.set flag value) flags

end Flags

/-! ## Sets of characters -/

/-- A set moved by some distance up, as far as it lies between two code points. -/
def CharSet.moved (set : CharSet) (low high : Nat) (move : Nat → Nat) : CharSet :=
  ⟨(set.inter ⟨[⟨low, high⟩]⟩).ranges.map fun range => ⟨move range.low, move range.high⟩⟩

/-- The characters that differ from a member of a set at most in case, where only the
letters of ASCII have a case. -/
def CharSet.asciiCaseless (set : CharSet) : CharSet :=
  .unionAll [set, set.moved 0x41 0x5A (· + 0x20), set.moved 0x61 0x7A (· - 0x20)]

/-- The characters of a class with a name. -/
def ClassName.chars : ClassName → CharSet
  | alnum => .table "30-39 41-5A 61-7A"
  | alpha => .table "41-5A 61-7A"
  | ascii => .table "0-7F"
  | blank => .table "9 20"
  | cntrl => .table "0-1F 7F"
  | digit => .table "30-39"
  | graph => .table "21-7E"
  | lower => .table "61-7A"
  | print => .table "20-7E"
  | punct => .table "21-2F 3A-40 5B-60 7B-7E"
  | space => .table "9-D 20"
  | upper => .table "41-5A"
  | word => asciiWordParts
  | xdigit => .table "30-39 41-46 61-66"

/-- The characters of a set with a short name. -/
def Shorthand.chars : (ascii : Bool) → Shorthand → CharSet
  | true, digit => ClassName.digit.chars
  | true, blank => ClassName.space.chars
  | true, word => asciiWordParts
  | false, digit => (Unicode.Category.rule .decimalNumber).chars
  | false, blank => Unicode.whiteSpace.chars
  | false, word => wordParts

namespace Flags

/-- A set with what differs from it in case, if case does not count. -/
def fold (flags : Flags) (set : CharSet) : CharSet :=
  if !flags.caseless then set else if flags.ascii then set.asciiCaseless else set.caseless

/-- A set or its complement.  The complement of a set of bytes has parts of characters. -/
def negate (flags : Flags) (span : Span) (negated : Bool) (set : CharSet) :
    Except PatternError CharSet :=
  if !negated then .ok set
  else if flags.ascii then .error (.malformed .brokenCharacters span none)
  else .ok set.compl

/-- A character that stands for itself.  A byte outside of ASCII is a part of one. -/
def literal (flags : Flags) (span : Span) (literal : Literal) : Except PatternError Char :=
  if flags.ascii && literal.byte && 0x80 ≤ literal.char.toNat then
    .error (.malformed .brokenCharacters span none)
  else .ok literal.char

/-- A character in a set.  A set of bytes has characters of ASCII only. -/
def literalInSet (flags : Flags) (span : Span) (char : Literal) : Except PatternError Char := do
  let c ← flags.literal span char
  if flags.ascii && 0x80 ≤ c.toNat then .error (.malformed .notWithoutUnicode span none)
  else .ok c

/-- The characters with a property, or those without it. -/
def property (flags : Flags) (span : Span) (query : Unicode.Query) (negated : Bool) :
    Except PatternError CharSet :=
  if flags.ascii then .error (.malformed .notWithoutUnicode span none)
  else
    match query.chars with
    | .ok set => flags.negate span negated (flags.fold set)
    | .error .unknownProperty => .error (.malformed .unknownProperty span none)
    | .error .unknownValue => .error (.malformed .unknownPropertyValue span none)

/-- The characters of a set with a short name, or those outside of it. -/
def shorthand (flags : Flags) (span : Span) (kind : Shorthand) (negated : Bool) :
    Except PatternError CharSet :=
  flags.negate span negated (kind.chars flags.ascii)

end Flags

/-- The set that an operation makes of two sets. -/
def SetOperation.apply (first second : CharSet) : SetOperation → CharSet
  | inter => first.inter second
  | diff => first.diff second
  | symmDiff => first.symmDiff second

mutual

/-- The characters of a written set. -/
def WrittenSet.meaning (flags : Flags) : WrittenSet → Except PatternError CharSet
  | empty _ => .ok .empty
  | literal span char => (flags.literalInSet span char).map .single
  | range _ (lowSpan, low) (highSpan, high) => do
    let low ← flags.literalInSet lowSpan low
    let high ← flags.literalInSet highSpan high
    return .range low high
  | named span name negated => flags.negate span negated (flags.fold name.chars)
  | property span query negated => flags.property span query negated
  | shorthand span kind negated => flags.shorthand span kind negated
  | brackets span negated inner => do
    flags.negate span negated (flags.fold (← inner.meaning flags))
  | union _ parts => (WrittenSet.meanings flags parts).map .unionAll
  | operation _ kind first second => do
    let first ← first.meaning flags
    let second ← second.meaning flags
    return kind.apply (flags.fold first) (flags.fold second)

/-- The characters of some written sets. -/
def WrittenSet.meanings (flags : Flags) :
    List WrittenSet → Except PatternError (List CharSet)
  | [] => .ok []
  | part :: parts => do
    let set ← part.meaning flags
    let sets ← WrittenSet.meanings flags parts
    return set :: sets

end

/-! ## Patterns -/

/-- The meaning of an assertion. -/
def Assertion.meaning (flags : Flags) : Assertion → Edge
  | lineStart =>
    if !flags.multiline then .textStart
    else if flags.returned then .returnedStart else .lineStart
  | lineEnd =>
    if !flags.multiline then .textEnd
    else if flags.returned then .returnedEnd else .lineEnd
  | textStart => .textStart
  | textEnd => .textEnd
  | word kind => .word flags.ascii kind

/-- The characters that a period stands for. -/
def Flags.dot (flags : Flags) : CharSet :=
  if flags.dotAll then .all
  else if flags.returned then (CharSet.table "A D").compl
  else (CharSet.table "A").compl

mutual

/-- The pattern that a written pattern stands for, and the flags behind it. -/
def Written.meaning (flags : Flags) : Written → Except PatternError (Pattern × Flags)
  | empty _ => .ok (.empty, flags)
  | literal span char => do
    let c ← flags.literal span char
    return (.one (flags.fold (.single c)), flags)
  | dot span =>
    if flags.ascii then .error (.malformed .brokenCharacters span none)
    else .ok (.one flags.dot, flags)
  | assertion _ kind => .ok (.edge (kind.meaning flags), flags)
  | property span query negated => do
    return (.one (← flags.property span query negated), flags)
  | shorthand span kind negated => do
    return (.one (← flags.shorthand span kind negated), flags)
  | brackets span negated inner => do
    let set ← inner.meaning flags
    return (.one (← flags.negate span negated (flags.fold set)), flags)
  | Written.flags _ changes => .ok (.empty, flags.change changes)
  | group _ remembered changes inner => do
    let (pattern, _) ← inner.meaning (flags.change changes)
    return (if remembered then .group pattern else pattern, flags)
  | repeated _ inner least most => do
    let (pattern, flags) ← inner.meaning flags
    return (pattern.times least most, flags)
  | sequence _ parts => do
    let (patterns, flags) ← Written.meanings flags parts
    return (.ofList patterns, flags)
  | alternatives _ parts => do
    let (patterns, flags) ← Written.meanings flags parts
    return (.anyOf patterns, flags)

/-- The patterns that some written patterns stand for, and the flags behind them. -/
def Written.meanings (flags : Flags) :
    List Written → Except PatternError (List Pattern × Flags)
  | [] => .ok ([], flags)
  | part :: parts => do
    let (pattern, flags) ← part.meaning flags
    let (patterns, flags) ← Written.meanings flags parts
    return (pattern :: patterns, flags)

end

end CxlFirmware.Text
