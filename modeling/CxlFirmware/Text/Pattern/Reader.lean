import CxlFirmware.Text.Pattern.Brackets
import CxlFirmware.Text.Decimal

/-!
# Written patterns

`Written.read` takes a written pattern apart, in the usual notation of regular
expressions: alternatives between bars, repetitions, sets between brackets, groups, flags,
and characters and assertions behind a backslash.  A text that is no pattern is refused
with the stretch at fault.
-/

namespace CxlFirmware.Text

namespace Written

/-! ## Repetitions -/

/-- Reads a number of times, as far as there is one, and gives the cursor behind it. -/
def readCount (cursor : Cursor) : Except PatternError Nat × Cursor :=
  let first := cursor.skipBlanks
  let (digits, stop) := first.takeWhile Char.isDigit
  let count :=
    if digits.isEmpty then refuse .countWithoutNumber (stop.spanFrom first.place)
    else if decimal digits < UInt32.size then .ok (decimal digits)
    else refuse .invalidNumber (stop.spanFrom first.place)
  (count, (stop.takeWhile isBlank).2)

/-- The cursor behind a question mark, if one stands there. -/
def skipPreference (cursor : Cursor) : Cursor :=
  if cursor.head? = some '?' then cursor.next else cursor

/-- Reads the closing brace of counts that begin at a place. -/
def closeCounts (start least : Nat) (most : Option Nat) (cursor : Cursor) :
    Except PatternError ((Nat × Option Nat) × Cursor) :=
  if cursor.head? ≠ some '\x7d' then refuse .unclosedCount (cursor.spanFrom start)
  else
    let after := skipPreference cursor.step
    if most.any (· < least) then refuse .reversedCount (after.spanFrom start)
    else .ok ((least, most), after)

/-- Reads how often a pattern is repeated, from the opening brace on. -/
def readCounts (cursor : Cursor) : Except PatternError ((Nat × Option Nat) × Cursor) :=
  let start := cursor.place
  if cursor.step.rest.isEmpty then refuse .unclosedCount (cursor.step.spanFrom start)
  else
    let (least, after) := readCount cursor.step
    match after.head? with
    | none => refuse .unclosedCount (after.spanFrom start)
    | some ',' =>
      match after.step.head? with
      | none => refuse .unclosedCount (after.step.spanFrom start)
      | some '\x7d' => do closeCounts start (← least) none after.step
      | some _ => do
        let least ← least
        let (most, after) := readCount after.step
        closeCounts start least (some (← most)) after
    | some _ => do
      let least ← least
      closeCounts start least (some least) after

/-- Reads the operator of a repetition.  A question mark behind it only says which of
several stretches is preferred. -/
def readOperator (cursor : Cursor) (c : Char) :
    Except PatternError ((Nat × Option Nat) × Cursor) :=
  match c with
  | '*' => .ok ((0, none), skipPreference cursor.next)
  | '+' => .ok ((1, none), skipPreference cursor.next)
  | '?' => .ok ((0, some 1), skipPreference cursor.next)
  | _ => readCounts cursor

/-- Whether a character begins the operator of a repetition. -/
def isOperator (c : Char) : Bool :=
  c == '*' || c == '+' || c == '?' || c == '\x7b'

/-- Reads the operator of a repetition behind the parts of a sequence, the last of which
comes first, and applies it to the last part. -/
def repeatLast (parts : List Written) (cursor : Cursor) (c : Char) :
    Except PatternError (List Written × Cursor) :=
  match parts with
  | [] | flags _ _ :: _ => refuse .nothingToRepeat cursor.here
  | part :: parts => do
    let ((least, most), after) ← readOperator cursor c
    return (repeated (after.spanFrom part.span.start) part least most :: parts, after)

/-! ## Groups -/

/-- A name of a group with its stretch. -/
abbrev GroupName := List Char × Span

/-- Whether a character may stand in the name of a group, at its front or behind it. -/
def isNamePart (first : Bool) (c : Char) : Bool :=
  c == '_' || Unicode.alphabetic.chars.contains c
    || (!first && (c == '.' || c == '[' || c == ']'
      || (Unicode.ofCategories Unicode.Category.numbers).chars.contains c))

/-- The count of the characters at the front that may stand in a name. -/
def nameLength (rest : List Char) : Nat :=
  match rest with
  | [] => 0
  | c :: rest =>
    if isNamePart true c then (rest.takeWhile (isNamePart false)).length + 1 else 0

/-- Reads the name of a group up to its closing mark. -/
def readName (names : List GroupName) (cursor : Cursor) :
    Except PatternError (List GroupName × Cursor) :=
  let stop := cursor.drop (nameLength cursor.rest)
  let span := stop.spanFrom cursor.place
  let name := cursor.rest.take (nameLength cursor.rest)
  match stop.head? with
  | none => refuse .unclosedName stop.here
  | some '>' =>
    if name.isEmpty then refuse .emptyName span
    else
      match names.find? fun (known, _) => known == name with
      | some (_, first) => .error (.malformed .repeatedName span (some first))
      | none => .ok ((name, span) :: names, stop.next)
  | some _ => refuse .invalidName stop.charSpan

/-- The flag of a letter. -/
def flag? : Char → Option Flag
  | 'i' => some .caseless
  | 'm' => some .multiline
  | 's' => some .dotAll
  | 'U' => some .lazy
  | 'u' => some .unicode
  | 'R' => some .returned
  | 'x' => some .spaced
  | _ => none

/-- A letter of a list of flags, or the dash before the flags that are cleared, with its
stretch. -/
structure FlagMark where
  /-- The flag of the letter, if it is no dash. -/
  flag : Option Flag
  span : Span

/-- The changes that a list of flags makes. -/
def changesOf (set : Bool) : List FlagMark → FlagChanges
  | [] => []
  | ⟨some flag, _⟩ :: marks => (flag, set) :: changesOf set marks
  | ⟨none, _⟩ :: marks => changesOf false marks

/-- The mark of a character in a list of flags. -/
def readMark (marks : List FlagMark) (cursor : Cursor) (c : Char) :
    Except PatternError FlagMark := do
  let flag ←
    if c = '-' then Except.ok none
    else
      match flag? c with
      | some flag => .ok (some flag)
      | none => refuse .unknownFlag cursor.charSpan
  match marks.find? fun mark => mark.flag = flag with
  | some mark =>
    let fault := if flag.isNone then PatternFault.repeatedNegation else .repeatedFlag
    .error (.malformed fault cursor.charSpan (some mark.span))
  | none => return ⟨flag, cursor.charSpan⟩

/-- Reads a list of flags up to a colon or a closing parenthesis.  The fuel bounds the
count of the steps. -/
def readFlags : Nat → List FlagMark → Cursor → Except PatternError (FlagChanges × Cursor)
  | 0, _, cursor => refuse .unfinishedFlags cursor.here
  | fuel + 1, marks, cursor =>
    match cursor.head? with
    | none => refuse .unfinishedFlags cursor.here
    | some c =>
      if c = ':' || c = ')' then
        match marks.getLast? with
        | some ⟨none, span⟩ => refuse .danglingNegation span
        | _ => .ok (changesOf true marks, cursor)
      else do
        let mark ← readMark marks cursor c
        readFlags fuel (marks ++ [mark]) cursor.next

/-- What stands behind an opening parenthesis. -/
inductive Opening where
  /-- A group, whose stretch may be remembered. -/
  | group (remembered : Bool) (changes : FlagChanges)
  /-- Flags for the rest of the group around them. -/
  | flags (changes : FlagChanges)

/-- The openings of assertions about what stands around a place. -/
def lookArounds : List String := ["?=", "?!", "?<=", "?<!"]

/-- Reads the opening of a group, from the parenthesis on. -/
def readOpening (names : List GroupName) (cursor : Cursor) :
    Except PatternError (Opening × List GroupName × Cursor) :=
  let inside := cursor.step
  match lookArounds.find? fun mark => inside.startsWith mark with
  | some mark => refuse .lookAround ((inside.drop mark.length).spanFrom cursor.place)
  | none =>
    if inside.startsWith "?P<" then do
      let (names, after) ← readName names (inside.drop 3)
      return (.group true [], names, after)
    else if inside.startsWith "?<" then do
      let (names, after) ← readName names (inside.drop 2)
      return (.group true [], names, after)
    else if inside.startsWith "?" then
      if inside.next.rest.isEmpty then refuse .unclosedGroup cursor.charSpan
      else do
        let (changes, stop) ← readFlags inside.rest.length [] inside.next
        if stop.head? = some ':' then return (.group false changes, names, stop.next)
        else if changes.isEmpty then refuse .nothingToRepeat inside.here
        else return (.flags changes, names, stop.next)
    else .ok (.group true [], names, inside)

/-- Whether blanks are left out after some changes of flags. -/
def spacedAfter (changes : FlagChanges) (spaced : Bool) : Bool :=
  (changes.lookup .spaced).getD spaced

/-! ## Patterns -/

/-- The parts of a pattern that have been read.  Of the alternatives and of the parts of
the last alternative, the last come first. -/
structure Progress where
  start : Nat
  alternatives : List Written
  /-- The place where the last alternative begins. -/
  lastStart : Nat
  parts : List Written

namespace Progress

/-- The beginning of a pattern. -/
def begin (cursor : Cursor) : Progress := ⟨cursor.place, [], cursor.place, []⟩

/-- The progress with one more part. -/
def push (progress : Progress) (part : Written) : Progress :=
  { progress with parts := part :: progress.parts }

/-- The last alternative, which ends at a cursor. -/
def last (progress : Progress) (cursor : Cursor) : Written :=
  let span := cursor.spanFrom progress.lastStart
  match progress.parts with
  | [] => .empty span
  | [part] => part
  | parts => .sequence span parts.reverse

/-- The progress behind a bar, which stands at a cursor. -/
def bar (progress : Progress) (cursor : Cursor) : Progress :=
  ⟨progress.start, progress.last cursor :: progress.alternatives, cursor.next.place, []⟩

/-- The pattern, which ends at a cursor. -/
def finish (progress : Progress) (cursor : Cursor) : Written :=
  match progress.alternatives with
  | [] => progress.last cursor
  | alternatives =>
    .alternatives (cursor.spanFrom progress.start)
      (progress.last cursor :: alternatives).reverse

end Progress

/-- Reads a character that stands for itself or for a class of places. -/
def ofChar (span : Span) : Char → Written
  | '.' => dot span
  | '^' => assertion span .lineStart
  | '$' => assertion span .lineEnd
  | c => literal span ⟨c, false⟩

/-- Reads a pattern up to the end or a closing parenthesis.  The fuel bounds the count of
the steps. -/
def readParts : Nat → List GroupName → Progress → Cursor →
    Except PatternError (Written × List GroupName × Cursor)
  | 0, names, progress, cursor => .ok (progress.finish cursor, names, cursor)
  | fuel + 1, names, progress, cursor => do
    let cursor := cursor.skip
    match cursor.head? with
    | none | some ')' => return (progress.finish cursor, names, cursor)
    | some '|' => readParts fuel names (progress.bar cursor) cursor.next
    | some '(' =>
      let (opening, names, inside) ← readOpening names cursor
      match opening with
      | .flags changes =>
        let part := flags (inside.spanFrom cursor.place) changes
        readParts fuel names (progress.push part)
          { inside with spaced := spacedAfter changes cursor.spaced }
      | .group remembered changes =>
        let inside := { inside with spaced := spacedAfter changes cursor.spaced }
        let (inner, names, stop) ← readParts fuel names (.begin inside) inside
        if stop.rest.isEmpty then refuse .unclosedGroup cursor.charSpan
        else
          let after := { stop.next with spaced := cursor.spaced }
          let part := group (after.spanFrom cursor.place) remembered changes inner
          readParts fuel names (progress.push part) after
    | some '[' =>
      let (set, after) ← WrittenSet.read cursor
      readParts fuel names (progress.push (brackets set.span set.negated set.inner)) after
    | some '\\' =>
      let (part, after) ← readEscape cursor
      readParts fuel names (progress.push part) after
    | some c =>
      if isOperator c then
        let (parts, after) ← repeatLast progress.parts cursor c
        readParts fuel names { progress with parts := parts } after
      else readParts fuel names (progress.push (ofChar cursor.charSpan c)) cursor.next

/-- Reads a written pattern. -/
def read (text : String) : Except PatternError Written := do
  let cursor : Cursor := ⟨0, text.toList, false⟩
  let (pattern, _, stop) ← readParts (cursor.rest.length + 1) [] (.begin cursor) cursor
  if !stop.rest.isEmpty then refuse .unopenedGroup stop.charSpan
  else
    match pattern.tooDeep? 0 with
    | some span => refuse .nestedTooDeeply span
    | none => return pattern

end Written

end CxlFirmware.Text
