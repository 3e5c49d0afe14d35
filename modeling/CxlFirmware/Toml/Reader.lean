import CxlFirmware.Toml.Quoted
import CxlFirmware.Toml.Scalar
import CxlFirmware.Toml.Table

/-!
# Reading TOML

`read?` gives the members of the root table of a text.  A text is a list of lines:
entries, headers of tables, and blank ones.  The readers before it take a value from
the front of a text and give back what is left.
-/

namespace CxlFirmware.Toml

/-- Whether a character is blank within a line. -/
def isBlankChar (c : Char) : Bool :=
  c == ' ' || c == '\t'

/-- The text without blanks in front. -/
def skipBlanks (cs : List Char) : List Char :=
  cs.dropWhile isBlankChar

/-- The text without blanks, ends of lines and comments in front.  The flag tells
whether the text starts inside a comment. -/
def skipLines : (comment : Bool) → List Char → List Char
  | _, [] => []
  | _, '\n' :: rest => skipLines false rest
  | _, '\r' :: '\n' :: rest => skipLines false rest
  | true, c :: rest => if isPlain c then skipLines true rest else c :: rest
  | false, c :: rest =>
    if isBlankChar c then skipLines false rest
    else if c = '#' then skipLines true rest
    else c :: rest

/-- The text after the end of a line, before which only blanks and a comment may
stand. -/
def endLine? (cs : List Char) : Option (List Char) :=
  let rest := match skipBlanks cs with
    | '#' :: comment => comment.dropWhile isPlain
    | rest => rest
  match rest with
  | [] => some []
  | '\n' :: rest => some rest
  | '\r' :: '\n' :: rest => some rest
  | _ => none

/-! ## Keys -/

/-- The first count of parts that no key has, and of brackets that are never open at
once. -/
def limit : Nat := 80

/-- Whether a character may stand in a key without quotes. -/
def isBareChar (c : Char) : Bool :=
  c.isAlphanum || c == '_' || c == '-'

/-- The part of a key at the front, and the rest. -/
def readPart (cs : List Char) : Option (String × List Char) :=
  match cs with
  | '\"' :: rest => (readBasic rest).map fun (content, rest) => (String.ofList content, rest)
  | '\'' :: rest => (readLiteral rest).map fun (content, rest) => (String.ofList content, rest)
  | cs =>
    let bare := cs.takeWhile isBareChar
    if bare.isEmpty then none else some (String.ofList bare, cs.dropWhile isBareChar)

/-- The parts of a key at the front, at most `count` of them, and the rest. -/
def readParts : (count : Nat) → List Char → Option (List String × List Char)
  | 0, _ => none
  | count + 1, cs =>
    match readPart (skipBlanks cs) with
    | none => none
    | some (part, rest) =>
      match skipBlanks rest with
      | '.' :: rest => (readParts count rest).map fun (parts, rest) => (part :: parts, rest)
      | rest => some ([part], rest)

/-- The key at the front, as the parts before the last one and the last one. -/
def readKey (cs : List Char) : Option ((List String × String) × List Char) :=
  match readParts (limit - 1) cs with
  | none => none
  | some (parts, rest) =>
    match parts.getLast? with
    | none => none
    | some key => some ((parts.dropLast, key), rest)

/-! ## Values -/

mutual

/-- The value at the front, with at most `depth` open brackets inside it. -/
def readValue : (bound depth : Nat) → List Char → Option (Toml × List Char)
  | 0, _, _ => none
  | bound + 1, depth, cs =>
    match cs with
    | '[' :: rest =>
      if depth = 0 then none
      else
        match skipLines false rest with
        | ']' :: rest => some (.array [], rest)
        | rest =>
          match readItems bound (depth - 1) rest with
          | none => none
          | some (items, rest) => some (.array items, rest)
    | '\x7b' :: rest =>
      if depth = 0 then none
      else
        match skipBlanks rest with
        | '\x7d' :: rest => some (.table .closed [], rest)
        | rest =>
          match readEntries bound (depth - 1) rest with
          | none => none
          | some (entries, rest) =>
            (addEntries [] entries).map fun members => (.table .closed members, rest)
    | '\"' :: _ => (readQuoted cs).map fun (content, rest) => (.text (String.ofList content), rest)
    | '\'' :: _ => (readQuoted cs).map fun (content, rest) => (.text (String.ofList content), rest)
    | cs => readWord cs

/-- The items of an array up to its closing bracket. -/
def readItems : (bound depth : Nat) → List Char → Option (List Toml × List Char)
  | 0, _, _ => none
  | bound + 1, depth, cs =>
    match readValue bound depth cs with
    | none => none
    | some (item, rest) =>
      match skipLines false rest with
      | ']' :: rest => some ([item], rest)
      | ',' :: rest =>
        match skipLines false rest with
        | ']' :: rest => some ([item], rest)
        | rest =>
          match readItems bound depth rest with
          | none => none
          | some (items, rest) => some (item :: items, rest)
      | _ => none

/-- The entries of a table on one line up to its closing brace. -/
def readEntries : (bound depth : Nat) → List Char → Option (List Entry × List Char)
  | 0, _, _ => none
  | bound + 1, depth, cs =>
    match readKey cs with
    | some ((path, key), '=' :: rest) =>
      match readValue bound depth (skipBlanks rest) with
      | none => none
      | some (value, rest) =>
        match skipBlanks rest with
        | '\x7d' :: rest => some ([⟨path, key, value⟩], rest)
        | ',' :: rest =>
          match readEntries bound depth rest with
          | none => none
          | some (entries, rest) => some (⟨path, key, value⟩ :: entries, rest)
        | _ => none
    | _ => none

end

/-- The entry at the front of a line, and the rest after that line. -/
def readEntry (cs : List Char) : Option (Entry × List Char) :=
  match readKey cs with
  | some ((path, key), '=' :: rest) =>
    match readValue (2 * rest.length + 2) (limit - 1) (skipBlanks rest) with
    | none => none
    | some (value, rest) => (endLine? rest).map fun rest => (⟨path, key, value⟩, rest)
  | _ => none

/-! ## Lines -/

/-- A line of a text. -/
inductive Line where
  | entry (entry : Entry)
  /-- The header of a table. -/
  | table (path : List String) (key : String)
  /-- A header in double brackets. -/
  | element (path : List String) (key : String)

/-- The header at the front of a line, after its first bracket, and the rest after
that line. -/
def readHeader (cs : List Char) : Option (Line × List Char) :=
  match cs with
  | '[' :: rest =>
    match readKey rest with
    | some ((path, key), ']' :: ']' :: rest) =>
      (endLine? rest).map fun rest => (.element path key, rest)
    | _ => none
  | cs =>
    match readKey cs with
    | some ((path, key), ']' :: rest) =>
      (endLine? rest).map fun rest => (.table path key, rest)
    | _ => none

/-- The lines of a text, blank ones left out.  The first argument bounds their count. -/
def readLines : (bound : Nat) → List Char → Option (List Line)
  | 0, _ => none
  | bound + 1, cs =>
    match skipLines false cs with
    | [] => some []
    | '[' :: rest =>
      match readHeader rest with
      | none => none
      | some (line, rest) => (readLines bound rest).map (line :: ·)
    | cs =>
      match readEntry cs with
      | none => none
      | some (entry, rest) => (readLines bound rest).map (.entry entry :: ·)

/-- The entries at the front of a list of lines, and the lines from the next header
on. -/
def splitEntries : List Line → List Entry × List Line
  | .entry entry :: rest =>
    let (entries, rest) := splitEntries rest
    (entry :: entries, rest)
  | lines => ([], lines)

/-- The members of a root table with those that headers and their entries add.  The
first argument bounds the count of headers. -/
def addSections : (bound : Nat) → List Line → Members → Option Members
  | 0, _, _ => none
  | _, [], root => some root
  | bound + 1, .table path key :: rest, root => do
    let (entries, rest) := splitEntries rest
    addSections bound rest (← changeAt (openTable key entries) path root)
  | bound + 1, .element path key :: rest, root => do
    let (entries, rest) := splitEntries rest
    addSections bound rest (← changeAt (openElement key entries) path root)
  | _ + 1, .entry _ :: _, _ => none

/-- The root table of a list of lines. -/
def ofLines? (lines : List Line) : Option Members := do
  let (entries, rest) := splitEntries lines
  addSections (rest.length + 1) rest (← addEntries [] entries)

/-- The members of the root table of a text, which may begin with a byte order
mark. -/
def read? (text : String) : Option Members :=
  let cs := match text.toList with
    | '\uFEFF' :: rest => rest
    | cs => cs
  (readLines (cs.length + 1) cs).bind ofLines?

end CxlFirmware.Toml
