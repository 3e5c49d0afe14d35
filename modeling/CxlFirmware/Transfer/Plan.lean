import CxlFirmware.Image
import CxlFirmware.Mailbox.TransferRequest
import CxlFirmware.Retry

/-!
# Transfer plans

The steps that carry an image to a device: blocks of one size in order, each with
an action and an offset.  The first block initiates, the last one ends, and those
between continue; a single block ends at once.  A mock plan has the first block
alone, which initiates, so that nothing is ever committed.
-/

namespace CxlFirmware.Transfer

/-- One block of a transfer. -/
structure Step where
  /-- The position in the plan, from zero. -/
  index : Nat
  action : Action
  /-- The position in the image, in units of `TransferRequest.unit` bytes. -/
  offset : UInt32
  data : Bytes
  deriving DecidableEq

/-- The steps of a transfer, in order. -/
structure Plan where
  steps : List Step
  /-- The count of bytes in the whole image. -/
  totalBytes : Nat
  deriving DecidableEq

/-- The check of a block size. -/
def validateBlockSize (blockSize : Nat) : Except Error Unit :=
  if blockSize = 0 ∨ blockSize % TransferRequest.unit ≠ 0 then
    .error (.config ("block size " ++ Nat.repr blockSize ++ " must be a positive multiple of "
      ++ Nat.repr TransferRequest.unit))
  else .ok ()

/-- The offset field of a position in the image. -/
def offsetOf (position : Nat) : Except Error UInt32 :=
  if position / TransferRequest.unit < UInt32.size then
    .ok (UInt32.ofNat (position / TransferRequest.unit))
  else .error (.config ("offset " ++ Nat.repr position ++ " does not fit the offset field"))

/-- The first `count` blocks of `size` bytes. -/
def blocks (size : Nat) : (count : Nat) → (data : Bytes) → List Bytes
  | 0, _ => []
  | count + 1, data => data.take size :: blocks size count (data.drop size)

namespace Plan

/-- The action of a step in a plan whose last step is `last`. -/
def actionAt (last index : Nat) : Action :=
  if index = last then .end
  else if index = 0 then .initiate
  else .continue

/-- The steps of consecutive blocks, the first of which is number `index`. -/
def number (blockSize last : Nat) : (index : Nat) → List Bytes → Except Error (List Step)
  | _, [] => .ok []
  | index, data :: rest =>
    match offsetOf (index * blockSize) with
    | .error error => .error error
    | .ok offset =>
      match number blockSize last (index + 1) rest with
      | .error error => .error error
      | .ok steps => .ok (⟨index, actionAt last index, offset, data⟩ :: steps)

/-- The plan that carries a whole image. -/
def whole (image : Image) (blockSize : Nat) : Except Error Plan :=
  match validateBlockSize blockSize with
  | .error error => .error error
  | .ok () =>
    let count := (image.size + blockSize - 1) / blockSize
    match number blockSize (count - 1) 0 (blocks blockSize count image.data) with
    | .error error => .error error
    | .ok steps => .ok ⟨steps, image.size⟩

/-- The plan that only tries the first block. -/
def mock (image : Image) (blockSize : Nat) : Except Error Plan :=
  match validateBlockSize blockSize with
  | .error error => .error error
  | .ok () => .ok ⟨[⟨0, .initiate, 0, image.data.take blockSize⟩], image.size⟩

end Plan

/-- The parameters of a transfer. -/
structure Config where
  kind : Kind
  slot : UInt8
  /-- The count of bytes in a block. -/
  blockSize : Nat
  /-- Whether to abort after the first confirmed block. -/
  mock : Bool
  /-- The budget for sending one step. -/
  stepRetry : RetryPolicy
  /-- The budget for confirming one step. -/
  poll : RetryPolicy
  deriving DecidableEq

namespace Config

/-- The block size where none is chosen. -/
def defaultBlockSize : Nat := 128

/-- The budget for sending one step where none is chosen. -/
def defaultStepRetry : RetryPolicy := ⟨50, .ofMillis 10, none⟩

/-- The budget for confirming one step where none is chosen. -/
def defaultPoll : RetryPolicy := ⟨100, .ofMillis 10, none⟩

/-- The parameters for a kind and a slot, with nothing else chosen. -/
def new (kind : Kind) (slot : UInt8) : Config where
  kind
  slot
  blockSize := defaultBlockSize
  mock := false
  stepRetry := defaultStepRetry
  poll := defaultPoll

/-- The check of the parameters. -/
def validate (config : Config) : Except Error Unit := do
  validateBlockSize config.blockSize
  config.stepRetry.validate
  config.poll.validate

/-- The plan that the parameters ask for. -/
def plan (config : Config) (image : Image) : Except Error Plan :=
  if config.mock then Plan.mock image config.blockSize
  else Plan.whole image config.blockSize

end Config

end CxlFirmware.Transfer
