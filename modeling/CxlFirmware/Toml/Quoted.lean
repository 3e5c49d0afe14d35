import CxlFirmware.Hex

/-!
# Quoted texts of TOML

The four kinds of quoted texts: between single or double quotes, on one line or,
with the quote three times, over several lines.  Each reader starts after the opening
quotes and gives the text and what follows the closing quotes.
-/

namespace CxlFirmware.Toml

/-- Whether a character may stand on a line as it is: a tab, or any character that is
no control of ASCII. -/
def isPlain (c : Char) : Bool :=
  c == '\t' || (decide (0x20 ≤ c.toNat) && c.toNat != 0x7F)

/-- The text with a character in front. -/
def push (c : Char) : Option (List Char × List Char) → Option (List Char × List Char)
  | none => none
  | some (read, rest) => some (c :: read, rest)

/-- The character that a letter after a backslash stands for. -/
def ofEscape? (c : Char) : Option Char :=
  match c with
  | 'b' => some '\x08'
  | 'f' => some '\x0c'
  | 'n' => some '\n'
  | 'r' => some '\r'
  | 't' => some '\t'
  | '\"' => some '\"'
  | '\\' => some '\\'
  | _ => none

/-- The character whose number hexadecimal digits denote. -/
def ofHex? (digits : List Char) : Option Char := do
  let values ← digits.mapM Hex.value?
  let number := values.foldl (fun n value => 16 * n + value) 0
  if number.isValidChar then return Char.ofNat number else none

/-- The text in single quotes on one line. -/
def readLiteral : List Char → Option (List Char × List Char)
  | [] => none
  | '\'' :: rest => some ([], rest)
  | c :: rest => if isPlain c then push c (readLiteral rest) else none

/-- The text in double quotes on one line. -/
def readBasic : List Char → Option (List Char × List Char)
  | [] => none
  | '\"' :: rest => some ([], rest)
  | '\\' :: 'u' :: a :: b :: c :: d :: rest =>
    match ofHex? [a, b, c, d] with
    | some char => push char (readBasic rest)
    | none => none
  | '\\' :: 'U' :: a :: b :: c :: d :: e :: f :: g :: h :: rest =>
    match ofHex? [a, b, c, d, e, f, g, h] with
    | some char => push char (readBasic rest)
    | none => none
  | '\\' :: c :: rest =>
    match ofEscape? c with
    | some char => push char (readBasic rest)
    | none => none
  | c :: rest => if c != '\\' && isPlain c then push c (readBasic rest) else none

/-- The text after its opening quotes, without the end of a line at its front. -/
def dropFirstNewline (cs : List Char) : List Char :=
  match cs with
  | '\n' :: rest => rest
  | '\r' :: '\n' :: rest => rest
  | cs => cs

/-- What a run of at least three closing quotes means: up to two more of them belong
to the text. -/
def closeLong (quote : Char) (rest : List Char) : List Char × List Char :=
  match rest with
  | a :: b :: more =>
    if a = quote then
      if b = quote then ([quote, quote], more) else ([quote], b :: more)
    else ([], a :: b :: more)
  | [a] => if a = quote then ([quote], []) else ([], [a])
  | [] => ([], [])

/-- The text in single quotes over several lines. -/
def readLongLiteral : List Char → Option (List Char × List Char)
  | [] => none
  | '\'' :: '\'' :: '\'' :: rest => some (closeLong '\'' rest)
  | '\r' :: '\n' :: rest => push '\n' (readLongLiteral rest)
  | c :: rest => if c = '\n' ∨ isPlain c then push c (readLongLiteral rest) else none

/-- Where a text over several lines is passed over. -/
inductive Skip where
  /-- Nowhere. -/
  | nothing
  /-- After a backslash, up to the end of the line. -/
  | toLineEnd
  /-- After such an end of a line, up to the next character that is not blank. -/
  | blanks
  deriving DecidableEq

/-- The text in double quotes over several lines. -/
def readLongBasic : Skip → List Char → Option (List Char × List Char)
  | _, [] => none
  | .toLineEnd, ' ' :: rest => readLongBasic .toLineEnd rest
  | .toLineEnd, '\t' :: rest => readLongBasic .toLineEnd rest
  | .toLineEnd, '\n' :: rest => readLongBasic .blanks rest
  | .toLineEnd, '\r' :: '\n' :: rest => readLongBasic .blanks rest
  | .toLineEnd, _ :: _ => none
  | .blanks, ' ' :: rest => readLongBasic .blanks rest
  | .blanks, '\t' :: rest => readLongBasic .blanks rest
  | .blanks, '\n' :: rest => readLongBasic .blanks rest
  | .blanks, '\r' :: '\n' :: rest => readLongBasic .blanks rest
  | _, '\"' :: '\"' :: '\"' :: rest => some (closeLong '\"' rest)
  | _, '\r' :: '\n' :: rest => push '\n' (readLongBasic .nothing rest)
  | _, '\\' :: 'u' :: a :: b :: c :: d :: rest =>
    match ofHex? [a, b, c, d] with
    | some char => push char (readLongBasic .nothing rest)
    | none => none
  | _, '\\' :: 'U' :: a :: b :: c :: d :: e :: f :: g :: h :: rest =>
    match ofHex? [a, b, c, d, e, f, g, h] with
    | some char => push char (readLongBasic .nothing rest)
    | none => none
  | _, '\\' :: c :: rest =>
    match ofEscape? c with
    | some char => push char (readLongBasic .nothing rest)
    | none =>
      if c = ' ' ∨ c = '\t' then readLongBasic .toLineEnd rest
      else if c = '\n' then readLongBasic .blanks rest
      else if c = '\r' then
        match rest with
        | '\n' :: rest => readLongBasic .blanks rest
        | _ => none
      else none
  | _, c :: rest =>
    if c = '\n' ∨ (c ≠ '\\' ∧ isPlain c) then push c (readLongBasic .nothing rest) else none

/-- The quoted text of any kind at the front, and the rest. -/
def readQuoted (cs : List Char) : Option (List Char × List Char) :=
  match cs with
  | '\"' :: '\"' :: '\"' :: rest => readLongBasic .nothing (dropFirstNewline rest)
  | '\"' :: rest => readBasic rest
  | '\'' :: '\'' :: '\'' :: rest => readLongLiteral (dropFirstNewline rest)
  | '\'' :: rest => readLiteral rest
  | _ => none

end CxlFirmware.Toml
