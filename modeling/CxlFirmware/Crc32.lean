import CxlFirmware.Bytes

/-!
# CRC-32

The checksum of IEEE 802.3, reflected: polynomial `0xEDB88320`, all bits set at
the start and inverted at the end.
-/

namespace CxlFirmware.Crc32

/-- The reflected generator polynomial. -/
def polynomial : UInt32 := 0xEDB88320

/-- The register after shifting out one bit. -/
def shift (register : UInt32) : UInt32 :=
  if register &&& 1 = 1 then (register >>> 1) ^^^ polynomial else register >>> 1

/-- The register after taking in one byte. -/
def update (register : UInt32) (byte : UInt8) : UInt32 :=
  shift (shift (shift (shift (shift (shift (shift (shift (register ^^^ byte.toUInt32))))))))

/-- The checksum of a byte sequence. -/
def checksum (bytes : Bytes) : UInt32 :=
  bytes.foldl update 0xFFFFFFFF ^^^ 0xFFFFFFFF

end CxlFirmware.Crc32
