import CxlFirmware.Bytes
import CxlFirmware.Transfer.Action

/-!
# Transfer requests

The payload of a transfer command: the action, the slot, two reserved bytes, the
offset as a 32-bit little-endian word, 120 reserved bytes, and the block.  The
offset counts units of 128 bytes.
-/

namespace CxlFirmware

/-- The content of a transfer command. -/
structure TransferRequest where
  action : UInt8
  slot : UInt8
  /-- The position of the block, in units of `TransferRequest.unit` bytes. -/
  offset : UInt32
  data : Bytes
  deriving DecidableEq

namespace TransferRequest

/-- The count of bytes before the block. -/
def headerLength : Nat := 128

/-- The count of bytes that one step of the offset stands for. -/
def unit : Nat := 128

/-- The payload of a request. -/
def encode (request : TransferRequest) : Bytes :=
  [request.action, request.slot, 0, 0] ++ Bytes.ofNat 4 request.offset.toNat
    ++ List.replicate 120 0 ++ request.data

/-- The request of a payload that holds a whole header. -/
def parse? (payload : Bytes) : Option TransferRequest :=
  match payload with
  | action :: slot :: _ :: _ :: rest =>
    if payload.length < headerLength then none
    else some {
      action, slot
      offset := UInt32.ofNat (Bytes.toNat (rest.take 4))
      data := payload.drop headerLength }
  | _ => none

@[simp]
theorem length_encode (request : TransferRequest) :
  request.encode.length = headerLength + request.data.length
  := by
  simp [encode, headerLength]
  omega

/-- The payload of `action` on `slot`, with a block at `offset`. -/
def payload (action : Transfer.Action) (slot : UInt8) (offset : UInt32) (data : Bytes) : Bytes :=
  encode { action := action.code, slot, offset, data }

end TransferRequest

end CxlFirmware
