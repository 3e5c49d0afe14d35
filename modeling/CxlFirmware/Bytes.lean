/-!
# Little-endian words

Fixed-width numbers as byte sequences, least significant byte first.  `ofNat`
writes a number into a given count of bytes, dropping what does not fit, and
`toNat` reads a byte sequence back.
-/

namespace CxlFirmware

/-- The type of wire data. -/
abbrev Bytes := List UInt8

namespace Bytes

/-- The `width` lowest bytes of `n`, least significant first. -/
def ofNat : (width : Nat) → (n : Nat) → Bytes
  | 0, _ => []
  | width + 1, n => UInt8.ofNat n :: ofNat width (n / 256)

/-- The number a byte sequence denotes, least significant byte first. -/
def toNat : Bytes → Nat
  | [] => 0
  | b :: rest => b.toNat + 256 * toNat rest

/-- The first number that does not fit `width` bytes. -/
def limit : (width : Nat) → Nat
  | 0 => 1
  | width + 1 => 256 * limit width

/-- The greatest count of bytes in one piece of memory. -/
def capacity : Nat := 0x7fffffffffffffff

@[simp]
theorem length_ofNat (width n : Nat) :
  (ofNat width n).length = width
  := by
  induction width generalizing n with
  | zero => rfl
  | succ width ih => simp [ofNat, ih]

theorem toNat_ofNat (width n : Nat) :
  toNat (ofNat width n) = n % limit width
  := by
  induction width generalizing n with
  | zero => simp [ofNat, toNat, limit, Nat.mod_one]
  | succ width ih => simp [ofNat, toNat, limit, ih, Nat.mod_mul]

theorem toNat_lt (bytes : Bytes) :
  toNat bytes < limit bytes.length
  := by
  induction bytes with
  | nil => simp [toNat, limit]
  | cons b rest ih =>
    have hb : b.toNat < 256 := b.toNat_lt
    simp only [toNat, List.length_cons, limit]
    omega

/-- Writing back what was read gives the bytes themselves. -/
theorem ofNat_toNat (bytes : Bytes) :
  ofNat bytes.length (toNat bytes) = bytes
  := by
  induction bytes with
  | nil => rfl
  | cons b rest ih =>
    have hb : b.toNat < 256 := b.toNat_lt
    have hdiv : (b.toNat + 256 * toNat rest) / 256 = toNat rest := by omega
    have hmod : UInt8.ofNat (b.toNat + 256 * toNat rest) = b := by
      apply UInt8.toNat_inj.mp
      simp
    simp only [List.length_cons, ofNat, toNat, hdiv, hmod, ih]

end Bytes

end CxlFirmware
