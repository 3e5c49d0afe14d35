import CxlFirmware.Hex
import CxlFirmware.Text.Decimal

/-!
# Tokens of JSON

`scan` splits a text into the tokens of JSON.  It reads one character after another;
`step` is its transition and `finish` says what the end of the text completes.
-/

namespace CxlFirmware.Json

/-- A token of JSON. -/
inductive Token where
  | openBrace
  | closeBrace
  | openBracket
  | closeBracket
  | colon
  | comma
  | null
  | bool (value : Bool)
  | natural (value : Nat)
  | decimal (written : List Char)
  | string (text : Option String)
  deriving DecidableEq

namespace Token

/-- The punctuation mark of a character. -/
def ofMark? (c : Char) : Option Token :=
  match c with
  | '\x7b' => some openBrace
  | '\x7d' => some closeBrace
  | '[' => some openBracket
  | ']' => some closeBracket
  | ':' => some colon
  | ',' => some comma
  | _ => none

/-- The token of a word. -/
def ofWord? (word : List Char) : Option Token :=
  if word = ['n', 'u', 'l', 'l'] then some null
  else if word = ['t', 'r', 'u', 'e'] then some (bool true)
  else if word = ['f', 'a', 'l', 's', 'e'] then some (bool false)
  else none

/-! ## Numbers -/

/-- Whether digits are not empty and have no zero in front of another digit. -/
def isWhole (digits : List Char) : Bool :=
  match digits with
  | [] => false
  | '0' :: rest => rest.isEmpty
  | _ => true

/-- Whether the rest of a number is an exponent or nothing. -/
def isExponent (cs : List Char) : Bool :=
  match cs with
  | [] => true
  | c :: rest =>
    let digits := match rest with
      | '+' :: digits => digits
      | '-' :: digits => digits
      | digits => digits
    (c == 'e' || c == 'E') && !digits.isEmpty && digits.all Char.isDigit

/-- Whether the rest of a number is a fraction or nothing, with an exponent or not. -/
def isFraction (cs : List Char) : Bool :=
  match cs with
  | '.' :: rest =>
    !(rest.takeWhile Char.isDigit).isEmpty && isExponent (rest.dropWhile Char.isDigit)
  | cs => isExponent cs

/-- The characters without a sign in front. -/
def unsigned (cs : List Char) : List Char :=
  match cs with
  | '-' :: rest => rest
  | cs => cs

/-- The token of the characters of a number. -/
def ofNumber? (cs : List Char) : Option Token :=
  let whole := (unsigned cs).takeWhile Char.isDigit
  let rest := (unsigned cs).dropWhile Char.isDigit
  if isWhole whole && isFraction rest then
    if cs.all Char.isDigit then some (natural (Text.decimal cs)) else some (decimal cs)
  else none

/-! ## Strings -/

/-- Whether a code point is the first half of a surrogate pair. -/
def isHigh (n : Nat) : Bool :=
  decide (0xD800 ≤ n) && decide (n < 0xDC00)

/-- Whether a code point is the second half of a surrogate pair. -/
def isLow (n : Nat) : Bool :=
  decide (0xDC00 ≤ n) && decide (n < 0xE000)

/-- The characters of code points, each surrogate pair standing for one character. -/
def assemble : List Nat → Option (List Char)
  | [] => some []
  | high :: rest =>
    if isHigh high then
      match rest with
      | low :: rest =>
        if isLow low then
          (assemble rest).map
            (Char.ofNat (0x10000 + (high - 0xD800) * 0x400 + (low - 0xDC00)) :: ·)
        else none
      | [] => none
    else if isLow high then none
    else (assemble rest).map (Char.ofNat high :: ·)

/-- The code point that a letter after a backslash stands for. -/
def ofEscape? (c : Char) : Option Nat :=
  match c with
  | '\"' => some 0x22
  | '\\' => some 0x5C
  | '/' => some 0x2F
  | 'b' => some 0x08
  | 'f' => some 0x0C
  | 'n' => some 0x0A
  | 'r' => some 0x0D
  | 't' => some 0x09
  | _ => none

/-- The token of the code points of a string. -/
def ofPoints (points : List Nat) : Token :=
  string ((assemble points).map String.ofList)

end Token

/-! ## Scanning -/

/-- What the scanner is in the middle of.  What was read of it stands with the
latest first. -/
inductive Mode where
  /-- Nothing. -/
  | between
  | word (read : List Char)
  | number (read : List Char)
  | string (read : List Nat)
  /-- A string, after a backslash. -/
  | escape (read : List Nat)
  /-- A string, in the digits of a code point. -/
  | point (read : List Nat) (left value : Nat)

/-- Whether a character may stand in a number. -/
def isNumeric (c : Char) : Bool :=
  c.isDigit || c == '+' || c == '-' || c == '.' || c == 'e' || c == 'E'

/-- Whether a character may stand between two tokens. -/
def isSpace (c : Char) : Bool :=
  c == ' ' || c == '\n' || c == '\t' || c == '\r'

/-- The transition between two tokens. -/
def stepBetween (c : Char) : Option (Mode × List Token) :=
  if isSpace c then some (.between, [])
  else if c = '\"' then some (.string [], [])
  else if c.isDigit || c == '-' then some (.number [c], [])
  else if c.isLower then some (.word [c], [])
  else (Token.ofMark? c).map fun token => (.between, [token])

/-- The transition after a token that ends before the next character. -/
def stepAfter (token : Option Token) (c : Char) : Option (Mode × List Token) :=
  match token, stepBetween c with
  | some token, some (mode, tokens) => some (mode, token :: tokens)
  | _, _ => none

/-- The transition of the scanner. -/
def step : Mode → Char → Option (Mode × List Token)
  | .between, c => stepBetween c
  | .word read, c =>
    if c.isLower then some (.word (c :: read), [])
    else stepAfter (Token.ofWord? read.reverse) c
  | .number read, c =>
    if isNumeric c then some (.number (c :: read), [])
    else stepAfter (Token.ofNumber? read.reverse) c
  | .string read, c =>
    if c = '\"' then some (.between, [Token.ofPoints read.reverse])
    else if c = '\\' then some (.escape read, [])
    else if c.toNat < 0x20 then none
    else some (.string (c.toNat :: read), [])
  | .escape read, c =>
    if c = 'u' then some (.point read 3 0, [])
    else (Token.ofEscape? c).map fun point => (.string (point :: read), [])
  | .point read left value, c =>
    match Hex.value? c, left with
    | none, _ => none
    | some digit, 0 => some (.string ((16 * value + digit) :: read), [])
    | some digit, left + 1 => some (.point read left (16 * value + digit), [])

/-- The tokens that the end of the text completes. -/
def finish : Mode → Option (List Token)
  | .between => some []
  | .word read => (Token.ofWord? read.reverse).map fun token => [token]
  | .number read => (Token.ofNumber? read.reverse).map fun token => [token]
  | .string _ | .escape _ | .point .. => none

/-- The tokens of the rest of a text. -/
def scanFrom : Mode → List Char → Option (List Token)
  | mode, [] => finish mode
  | mode, c :: rest =>
    match step mode c with
    | none => none
    | some (mode, tokens) => (scanFrom mode rest).map (tokens ++ ·)

/-- The tokens of a text. -/
def scan (text : List Char) : Option (List Token) :=
  scanFrom .between text

end CxlFirmware.Json
