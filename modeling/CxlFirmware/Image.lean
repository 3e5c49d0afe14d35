import CxlFirmware.Bytes
import CxlFirmware.Error
import CxlFirmware.Fault

/-!
# Firmware images

The content of a firmware image, which is never empty.
-/

namespace CxlFirmware

/-- A firmware image. -/
structure Image where
  data : Bytes
  /-- The path of the file that the image was read from, if any. -/
  source : Option String
  nonempty : data ≠ []

namespace Image

/-- The image with a content, which has `name` in the error for an empty one. -/
def make (data : Bytes) (source : Option String) (name : String) : Except Error Image :=
  if h : data = [] then .error (.emptyImage name) else .ok ⟨data, source, h⟩

/-- The image of a byte sequence. -/
def ofBytes (data : Bytes) : Except Error Image :=
  make data none "<memory>"

/-- The image of a file whose content was read or could not be read. -/
def ofFile (path : String) : Except IoError Bytes → Except Error Image
  | .error error => .error (.io error)
  | .ok data => make data (some path) path

/-- The count of bytes. -/
def size (image : Image) : Nat :=
  image.data.length

theorem size_pos (image : Image) :
  0 < image.size
  := List.length_pos_iff.mpr image.nonempty

/-- The count of blocks that carry the image. -/
def blockCount (image : Image) (blockSize : Nat) : Except Fault Nat :=
  if blockSize = 0 then .error .division
  else .ok ((image.size + blockSize - 1) / blockSize)

end Image

end CxlFirmware
