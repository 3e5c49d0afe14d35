import CxlFirmware.Bytes

/-!
# UTF-8

Characters as byte sequences.  `scalars` reads a byte sequence from the front;
where no character can start or continue, it gives one `none` for the bytes that
did begin a character and goes on with the byte that broke it.  `decode?` accepts
only well-formed sequences, and `decodeLossy` puts the replacement character in
place of each ill-formed part.
-/

namespace CxlFirmware.Utf8

/-- The bytes of one character. -/
def encodeChar (c : Char) : Bytes :=
  let n := c.toNat
  if n < 0x80 then [UInt8.ofNat n]
  else if n < 0x800 then [UInt8.ofNat (0xC0 + n / 64), UInt8.ofNat (0x80 + n % 64)]
  else if n < 0x10000 then
    [UInt8.ofNat (0xE0 + n / 4096), UInt8.ofNat (0x80 + n / 64 % 64), UInt8.ofNat (0x80 + n % 64)]
  else
    [UInt8.ofNat (0xF0 + n / 262144), UInt8.ofNat (0x80 + n / 4096 % 64),
      UInt8.ofNat (0x80 + n / 64 % 64), UInt8.ofNat (0x80 + n % 64)]

/-- The bytes of a text. -/
def encode (s : String) : Bytes :=
  s.toList.flatMap encodeChar

/-- Whether a byte lies in a range. -/
def within (low high : Nat) (b : UInt8) : Bool :=
  decide (low ≤ b.toNat) && decide (b.toNat ≤ high)

/-- Whether a byte continues a character. -/
def continues (b : UInt8) : Bool :=
  within 0x80 0xBF b

/-- Whether `b` may follow the first byte of a three-byte character. -/
def second3 (lead b : UInt8) : Bool :=
  if lead.toNat = 0xE0 then within 0xA0 0xBF b
  else if lead.toNat = 0xED then within 0x80 0x9F b
  else continues b

/-- Whether `b` may follow the first byte of a four-byte character. -/
def second4 (lead b : UInt8) : Bool :=
  if lead.toNat = 0xF0 then within 0x90 0xBF b
  else if lead.toNat = 0xF4 then within 0x80 0x8F b
  else continues b

/-- The six payload bits of a continuing byte. -/
def low6 (b : UInt8) : Nat :=
  b.toNat % 64

/-- The characters of a byte sequence, `none` standing for each ill-formed part. -/
def scalars : Bytes → List (Option Char)
  | [] => []
  | a :: rest =>
    if a.toNat < 0x80 then some (Char.ofNat a.toNat) :: scalars rest
    else if within 0xC2 0xDF a then
      match rest with
      | b :: rest =>
        if continues b then some (Char.ofNat (a.toNat % 32 * 64 + low6 b)) :: scalars rest
        else none :: scalars (b :: rest)
      | [] => [none]
    else if within 0xE0 0xEF a then
      match rest with
      | b :: c :: rest =>
        if second3 a b then
          if continues c then
            some (Char.ofNat (a.toNat % 16 * 4096 + low6 b * 64 + low6 c)) :: scalars rest
          else none :: scalars (c :: rest)
        else none :: scalars (b :: c :: rest)
      | [b] => if second3 a b then [none] else none :: scalars [b]
      | [] => [none]
    else if within 0xF0 0xF4 a then
      match rest with
      | b :: c :: d :: rest =>
        if second4 a b then
          if continues c then
            if continues d then
              some (Char.ofNat (a.toNat % 8 * 262144 + low6 b * 4096 + low6 c * 64 + low6 d))
                :: scalars rest
            else none :: scalars (d :: rest)
          else none :: scalars (c :: d :: rest)
        else none :: scalars (b :: c :: d :: rest)
      | [b, c] =>
        if second4 a b then if continues c then [none] else none :: scalars [c]
        else none :: scalars [b, c]
      | [b] => if second4 a b then [none] else none :: scalars [b]
      | [] => [none]
    else none :: scalars rest

/-- The character that stands for an ill-formed part. -/
def replacement : Char := Char.ofNat 0xFFFD

/-- The characters of a byte sequence, each ill-formed part replaced. -/
def decodeLossy (bytes : Bytes) : List Char :=
  (scalars bytes).map fun scalar => scalar.getD replacement

/-- The text of a well-formed byte sequence. -/
def decode? (bytes : Bytes) : Option String :=
  ((scalars bytes).mapM id).map String.ofList

end CxlFirmware.Utf8
