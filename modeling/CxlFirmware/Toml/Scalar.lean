import CxlFirmware.Toml.Basic

/-!
# Words of TOML

Numbers, truth values, dates and times stand as words without quotes.  `ofWord?` is
the value of a word; `isDate` and `isTime` tell the two words that make one moment
when a space stands between them.
-/

namespace CxlFirmware.Toml

/-- Whether a character may stand in a word. -/
def isWordChar (c : Char) : Bool :=
  c.isAlphanum || c == '_' || c == '+' || c == '-' || c == '.' || c == ':'

/-! ## Integers -/

/-- The value of a digit in a base up to sixteen. -/
def digitValue? (base : Nat) (c : Char) : Option Nat :=
  let value :=
    if c.isDigit then c.toNat - 48
    else if 'a' ≤ c ∧ c ≤ 'f' then c.toNat - 87
    else if 'A' ≤ c ∧ c ≤ 'F' then c.toNat - 55
    else base
  if value < base then some value else none

/-- Whether digits are not empty and underscores stand only between two of them. -/
def isGrouped (base : Nat) : List Char → Bool
  | [] => false
  | [c] => (digitValue? base c).isSome
  | c :: '_' :: rest => (digitValue? base c).isSome && isGrouped base rest
  | c :: rest => (digitValue? base c).isSome && isGrouped base rest

/-- The number that digits denote, underscores left out. -/
def digitsValue (base : Nat) (cs : List Char) : Nat :=
  cs.foldl (fun n c =>
    match digitValue? base c with
    | some digit => base * n + digit
    | none => n) 0

/-- Whether the digits of a whole number are grouped and have no zero in front. -/
def isWhole (cs : List Char) : Bool :=
  match cs with
  | '0' :: rest => rest.isEmpty
  | cs => isGrouped 10 cs

/-- The integer with a value, if it fits 64 bits. -/
def ofInt? (value : Int) : Option Toml :=
  if -0x8000000000000000 ≤ value ∧ value < 0x8000000000000000 then some (.integer value)
  else none

/-- The integer of digits in a base. -/
def ofBase? (base : Nat) (cs : List Char) : Option Toml :=
  if isGrouped base cs then ofInt? (digitsValue base cs) else none

/-- Whether a word begins with a minus sign. -/
def isNegative (word : List Char) : Bool :=
  word.head? == some '-'

/-- A word without a sign in front. -/
def unsigned (word : List Char) : List Char :=
  match word with
  | '+' :: rest => rest
  | '-' :: rest => rest
  | word => word

/-- The integer of a word. -/
def integer? (word : List Char) : Option Toml :=
  match word with
  | '0' :: 'x' :: digits => ofBase? 16 digits
  | '0' :: 'o' :: digits => ofBase? 8 digits
  | '0' :: 'b' :: digits => ofBase? 2 digits
  | word =>
    if isWhole (unsigned word) then
      let value : Int := digitsValue 10 (unsigned word)
      ofInt? (if isNegative word then -value else value)
    else none

/-! ## Floating-point numbers -/

/-- The least number that no finite double is near to. -/
def doubleLimit : Nat := Nat.pow 2 1024 - Nat.pow 2 970

/-- Whether `digits * 10 ^ exponent` is too large for a double. -/
def overflows (digits : Nat) (exponent : Int) : Bool :=
  let magnitude : Int := (Nat.repr digits).length + exponent
  if digits = 0 ∨ magnitude < 300 then false
  else if 320 < magnitude then true
  else if 0 ≤ exponent then decide (doubleLimit ≤ digits * Nat.pow 10 exponent.toNat)
  else decide (doubleLimit * Nat.pow 10 (-exponent).toNat ≤ digits)

/-- The exponent that the end of a word denotes. -/
def exponent? (cs : List Char) : Option Int :=
  match cs with
  | [] => some 0
  | c :: rest =>
    if (c == 'e' || c == 'E') && isGrouped 10 (unsigned rest) then
      let value : Int := digitsValue 10 (unsigned rest)
      some (if isNegative rest then -value else value)
    else none

/-- Whether a character may stand in the digits of a number. -/
def isDigitOrBar (c : Char) : Bool :=
  c.isDigit || c == '_'

/-- The digits after the point and the exponent of the end of a word. -/
def fraction? (cs : List Char) : Option (List Char × Int) :=
  match cs with
  | '.' :: rest =>
    let digits := rest.takeWhile isDigitOrBar
    if isGrouped 10 digits then
      (exponent? (rest.dropWhile isDigitOrBar)).map fun exponent =>
        (digits.filter Char.isDigit, exponent)
    else none
  | [] => none
  | cs => (exponent? cs).map fun exponent => ([], exponent)

/-- The floating-point number of a word.  One that is too large has no value, unless
it is negative. -/
def float? (word : List Char) : Option Toml :=
  let whole := (unsigned word).takeWhile isDigitOrBar
  if unsigned word = ['i', 'n', 'f'] ∨ unsigned word = ['n', 'a', 'n'] then some .float
  else if isWhole whole then
    match fraction? ((unsigned word).dropWhile isDigitOrBar) with
    | none => none
    | some (digits, exponent) =>
      if !isNegative word
          && overflows (digitsValue 10 (whole ++ digits)) (exponent - digits.length) then none
      else some .float
  else none

/-! ## Dates and times -/

/-- The number of two digits. -/
def twoDigits? (a b : Char) : Option Nat :=
  if a.isDigit && b.isDigit then some (digitsValue 10 [a, b]) else none

/-- The count of days in a month. -/
def daysIn (year month : Nat) : Nat :=
  if month = 2 then
    if year % 4 = 0 ∧ (year % 100 ≠ 0 ∨ year % 400 = 0) then 29 else 28
  else if month = 4 ∨ month = 6 ∨ month = 9 ∨ month = 11 then 30
  else 31

/-- Whether a word is a date. -/
def isDate (word : List Char) : Bool :=
  match word with
  | [a, b, c, d, '-', e, f, '-', g, h] =>
    match twoDigits? a b, twoDigits? c d, twoDigits? e f, twoDigits? g h with
    | some century, some year, some month, some day =>
      decide (1 ≤ month) && decide (month ≤ 12) && decide (1 ≤ day)
        && decide (day ≤ daysIn (100 * century + year) month)
    | _, _, _, _ => false
  | _ => false

/-- Whether the end of a word is a difference to universal time. -/
def isOffset (cs : List Char) : Bool :=
  match cs with
  | ['Z'] => true
  | ['z'] => true
  | [sign, a, b, ':', c, d] =>
    match twoDigits? a b, twoDigits? c d with
    | some hour, some minute =>
      (sign == '+' || sign == '-') && decide (hour < 24) && decide (minute < 60)
    | _, _ => false
  | _ => false

/-- Whether the end of a word is nothing or, where it may come, an offset. -/
def isTimeEnd (offset : Bool) (cs : List Char) : Bool :=
  cs.isEmpty || (offset && isOffset cs)

/-- Whether a word is a time of day, with an offset where one may come. -/
def isTime (offset : Bool) (word : List Char) : Bool :=
  match word with
  | a :: b :: ':' :: c :: d :: ':' :: e :: f :: rest =>
    match twoDigits? a b, twoDigits? c d, twoDigits? e f with
    | some hour, some minute, some second =>
      decide (hour < 24) && decide (minute < 60) && decide (second ≤ 60)
        && match rest with
          | '.' :: rest =>
            !(rest.takeWhile Char.isDigit).isEmpty
              && isTimeEnd offset (rest.dropWhile Char.isDigit)
          | rest => isTimeEnd offset rest
    | _, _, _ => false
  | _ => false

/-- Whether a word is a date, a time of day, or both with a letter between them. -/
def isMoment (word : List Char) : Bool :=
  isDate word || isTime false word
    || (isDate (word.take 10)
      && match word.drop 10 with
        | c :: rest => (c == 'T' || c == 't') && isTime true rest
        | [] => false)

/-! ## Words -/

/-- The value of a word. -/
def ofWord? (word : List Char) : Option Toml :=
  if word = ['t', 'r', 'u', 'e'] then some (.boolean true)
  else if word = ['f', 'a', 'l', 's', 'e'] then some (.boolean false)
  else if isMoment word then some .moment
  else
    match float? word with
    | some value => some value
    | none => integer? word

/-- The value of the word at the front, and the rest of the text. -/
def readWord (cs : List Char) : Option (Toml × List Char) :=
  let word := cs.takeWhile isWordChar
  let rest := cs.dropWhile isWordChar
  match rest with
  | ' ' :: more =>
    if isDate word && isTime true (more.takeWhile isWordChar) then
      some (.moment, more.dropWhile isWordChar)
    else (ofWord? word).map fun value => (value, rest)
  | _ => (ofWord? word).map fun value => (value, rest)

end CxlFirmware.Toml
