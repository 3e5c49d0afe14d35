import CxlFirmware.Proofs.Codec
import CxlFirmware.Proofs.Emulator.Reaction

/-!
# The layout of a transfer request

The payload of a transfer command holds its request and nothing else.  A request is read back
from its payload, and a payload that is read is written back as `TransferRequest.cleared` has
it: as it was, but for the bytes of the header that are `Reserved`.  What is shorter than a
header is no request, for the reader as for an emulated device.
-/

namespace CxlFirmware

/-- The first four codes are those of the actions. -/
theorem Transfer.Action.exists_code {code : UInt8} (hpos : 1 ≤ code) (hle : code ≤ 4) :
  ∃ action : Transfer.Action, action.code = code
  := by
  rw [UInt8.le_iff_toNat_le] at hpos hle
  have hfour : code.toNat = 1 ∨ code.toNat = 2 ∨ code.toNat = 3 ∨ code.toNat = 4 := by
    change 1 ≤ code.toNat at hpos
    change code.toNat ≤ 4 at hle
    omega
  rcases hfour with h | h | h | h
  · use .initiate
    apply UInt8.toNat_inj.mp
    exact h.symm
  · use .continue
    apply UInt8.toNat_inj.mp
    exact h.symm
  · use .end
    apply UInt8.toNat_inj.mp
    exact h.symm
  · use .abort
    apply UInt8.toNat_inj.mp
    exact h.symm

theorem Transfer.Action.code_injective {action action' : Transfer.Action}
    (h : action.code = action'.code) :
  action = action'
  := by
  apply Option.some.inj
  rw [← ofCode?_code action, h, ofCode?_code]

namespace TransferRequest

/-! ## Reserved bytes -/

/-- The byte at a position is reserved: it comes between the slot and the offset, or between
the offset and the block. -/
def Reserved (position : Nat) : Prop :=
  2 ≤ position ∧ position ≤ 3 ∨ 8 ≤ position ∧ position ≤ 127

instance : DecidablePred Reserved :=
  fun _ => inferInstanceAs (Decidable (_ ∨ _))

/-- Bytes that begin at a position of a payload, the reserved ones among them cleared. -/
def clearedFrom (position : Nat) (bytes : Bytes) : Bytes :=
  bytes.mapIdx fun i b => if Reserved (position + i) then 0 else b

/-- A payload with its reserved bytes cleared. -/
def cleared (payload : Bytes) : Bytes :=
  clearedFrom 0 payload

theorem clearedFrom_append (position : Nat) (bytes bytes' : Bytes) :
  clearedFrom position (bytes ++ bytes')
    = clearedFrom position bytes ++ clearedFrom (position + bytes.length) bytes'
  := by
  rw [clearedFrom, List.mapIdx_append]
  simp only [clearedFrom, Nat.add_assoc, Nat.add_comm bytes.length]

/-- Where every byte is reserved, zeros remain. -/
theorem clearedFrom_of_reserved {position : Nat} {bytes : Bytes}
    (h : ∀ i < bytes.length, Reserved (position + i)) :
  clearedFrom position bytes = List.replicate bytes.length 0
  := by
  apply List.ext_getElem
  · simp [clearedFrom]
  · intro i hi hi'
    rw [List.length_replicate] at hi'
    simp [clearedFrom, h i hi']

/-- Where no byte is reserved, all of them remain. -/
theorem clearedFrom_of_free {position : Nat} {bytes : Bytes}
    (h : ∀ i < bytes.length, ¬ Reserved (position + i)) :
  clearedFrom position bytes = bytes
  := by
  apply List.ext_getElem
  · simp [clearedFrom]
  · intro i hi hi'
    simp [clearedFrom, h i hi']

/-- Nothing is cleared exactly when all reserved bytes are zero. -/
theorem cleared_eq_self_iff {payload : Bytes} (h : headerLength ≤ payload.length) :
  cleared payload = payload ↔ ∀ position, Reserved position → payload[position]? = some 0
  := by
  rw [cleared, clearedFrom, List.mapIdx_eq_iff]
  constructor
  · intro hsame position hreserved
    have hinside : position < payload.length := by
      apply Nat.lt_of_lt_of_le _ h
      rcases hreserved with ⟨-, hle⟩ | ⟨-, hle⟩
      · exact Nat.lt_of_le_of_lt hle (by decide)
      · exact Nat.lt_of_le_of_lt hle (by decide)
    have hbyte := hsame position
    rw [List.getElem?_eq_getElem hinside, Option.map_some, Nat.zero_add,
      if_pos hreserved] at hbyte
    rw [List.getElem?_eq_getElem hinside, hbyte]
  · intro hzero position
    rw [Nat.zero_add]
    by_cases hreserved : Reserved position
    · simp [hzero position hreserved, hreserved]
    · simp [hreserved]

/-! ## Reading and writing back -/

/-- A payload with a whole header is read, and written back with its reserved bytes cleared. -/
theorem encode_of_length {payload : Bytes} (h : headerLength ≤ payload.length) :
  ∃ request, parse? payload = some request ∧ payload[0]? = some request.action
    ∧ request.encode = cleared payload
  := by
  match payload, h with
  | b0 :: b1 :: b2 :: b3 :: b4 :: b5 :: b6 :: b7 :: rest, h =>
      have hlong : 120 ≤ rest.length := by
        simp only [headerLength, List.length_cons] at h
        omega
      have hoffset : Bytes.toNat [b4, b5, b6, b7] < UInt32.size :=
        Bytes.toNat_lt [b4, b5, b6, b7]
      refine ⟨⟨b0, b1, UInt32.ofNat (Bytes.toNat [b4, b5, b6, b7]), rest.drop 120⟩, ?_, rfl, ?_⟩
      · exact if_neg (Nat.not_lt.mpr h)
      · have hpadding : (rest.take 120).length = 120 := List.length_take_of_le hlong
        have hword : Bytes.ofNat 4 (Bytes.toNat [b4, b5, b6, b7]) = [b4, b5, b6, b7] :=
          Bytes.ofNat_toNat [b4, b5, b6, b7]
        have hparts : b0 :: b1 :: b2 :: b3 :: b4 :: b5 :: b6 :: b7 :: rest
            = [b0, b1] ++ ([b2, b3] ++ ([b4, b5, b6, b7]
              ++ (rest.take 120 ++ rest.drop 120))) := by
          rw [List.take_append_drop]
          rfl
        rw [hparts, cleared]
        repeat rw [clearedFrom_append]
        rw [@clearedFrom_of_free _ [b0, b1], @clearedFrom_of_reserved _ [b2, b3],
          @clearedFrom_of_free _ [b4, b5, b6, b7], @clearedFrom_of_reserved _ (rest.take 120),
          clearedFrom_of_free, hpadding, encode, UInt32.toNat_ofNat_of_lt' hoffset, hword]
        · simp
        all_goals
          intro i hi
          simp only [List.length_cons, List.length_nil, hpadding] at hi ⊢
          simp only [Reserved]
          omega

/-- What is shorter than a header is not read. -/
theorem parse?_of_short {payload : Bytes} (h : payload.length < headerLength) :
  parse? payload = none
  := by
  unfold parse?
  split
  · exact if_pos h
  · rfl

end TransferRequest

/-- An emulated device that puts nothing off refuses what is shorter than a header, and holds
what it held before. -/
theorem Emulator.submit_short (name : String) (config : Config) (clock : Clock Emulator)
    (kind : Transfer.Kind) {payload : Bytes}
    (hshort : payload.length < TransferRequest.headerLength) {device : Emulator}
    (hidle : ¬ device.IsBusy) :
  let reaction := (transport name config clock).submit ⟨kind.opcode.code, payload⟩ device
  reaction.answer = .ok (.ok ⟨Status.invalidPayloadLength.code, []⟩)
    ∧ device.Keeps reaction.mailbox
  := by
  intro reaction
  have hnoted : ¬ (device.noted kind.opcode).IsBusy := hidle
  have hreaction : reaction
      = (transfer name config kind.opcode payload
        ((device.noted kind.opcode).ready config)).exchange := by
    apply (submit_transfer name config kind payload device).trans
    apply replyTransfer_of_idle hnoted
  rw [hreaction, transfer, TransferRequest.parse?_of_short hshort]
  exact ⟨rfl, rfl, rfl⟩

namespace TransferRequest

/-- The payload of a transfer command determines its request.  A request takes the header and
its block and is read back, so that requests with one payload are equal.  A payload that is
read is written back with its reserved bytes cleared, and as it was when they are zero.  A
shorter payload is not read, and refused by an emulated device that puts nothing off. -/
theorem payload_determines_request :
  (∀ action slot offset data,
      (payload action slot offset data).length = 128 + data.length
        ∧ parse? (payload action slot offset data) = some ⟨action.code, slot, offset, data⟩)
    ∧ (∀ (bytes : Bytes) code, 128 ≤ bytes.length → bytes[0]? = some code → 1 ≤ code → code ≤ 4 →
        ∃ action request, parse? bytes = some request
          ∧ action.code = code ∧ request.action = code
          ∧ payload action request.slot request.offset request.data = cleared bytes
          ∧ (payload action request.slot request.offset request.data = bytes
            ↔ ∀ position, Reserved position → bytes[position]? = some 0))
    ∧ (∀ action slot offset data action' slot' offset' data',
        payload action slot offset data = payload action' slot' offset' data' →
        action = action' ∧ slot = slot' ∧ offset = offset' ∧ data = data')
    ∧ ∀ bytes : Bytes, bytes.length < 128 → parse? bytes = none
        ∧ ∀ name config clock (kind : Transfer.Kind) (device : Emulator),
          device.background = none → device.busyLeft = 0 →
          let reaction := (Emulator.transport name config clock).submit
            ⟨kind.opcode.code, bytes⟩ device
          reaction.answer = .ok (.ok ⟨Status.invalidPayloadLength.code, []⟩)
            ∧ reaction.mailbox.state = device.state ∧ reaction.mailbox.staging = device.staging
  := by
  refine ⟨fun action slot offset data => ?_, fun bytes code hlong hcode hpos hle => ?_,
    fun action slot offset data action' slot' offset' data' h => ?_, fun bytes hshort => ?_⟩
  · exact ⟨length_encode _, parse?_encode _⟩
  · obtain ⟨action, rfl⟩ := Transfer.Action.exists_code hpos hle
    obtain ⟨request, hparse, haction, hencode⟩ := encode_of_length hlong
    have hsame : request.action = action.code := by
      rw [haction] at hcode
      exact Option.some.inj hcode
    have hpayload : payload action request.slot request.offset request.data = cleared bytes := by
      rw [← hencode, payload, ← hsame]
    refine ⟨action, request, hparse, rfl, hsame, hpayload, ?_⟩
    rw [hpayload]
    apply cleared_eq_self_iff hlong
  · have hrequest := encode_injective h
    simp only [TransferRequest.mk.injEq] at hrequest
    obtain ⟨hcode, hslot, hoffset, hdata⟩ := hrequest
    exact ⟨Transfer.Action.code_injective hcode, hslot, hoffset, hdata⟩
  · refine ⟨parse?_of_short hshort, fun name config clock kind device hbackground hleft => ?_⟩
    have hidle := Emulator.not_isBusy.mpr ⟨hbackground, hleft⟩
    obtain ⟨hanswer, hkeeps⟩ := Emulator.submit_short name config clock kind hshort hidle
    exact ⟨hanswer, hkeeps.state, hkeeps.staging⟩

/-- A payload of threes is read as the end of a transfer and written back without the threes of
its header that mean nothing, two requests at different offsets have different payloads, and a
new device refuses a single byte. -/
theorem payload_determines_request_threes :
  (∃ request, parse? (List.replicate 130 3) = some request
      ∧ payload .end request.slot request.offset request.data
        = [3, 3, 0, 0, 3, 3, 3, 3] ++ List.replicate 120 0 ++ [3, 3])
    ∧ payload .end 2 0 [] ≠ payload .end 2 1 []
    ∧ ((Emulator.transport "mem0" .default .still).submit ⟨Opcode.transferFw.code, [3]⟩
        (.start .default .default)).answer = .ok (.ok ⟨Status.invalidPayloadLength.code, []⟩)
  := by
  obtain ⟨-, hlong, hinjective, hshort⟩ := payload_determines_request
  refine ⟨?_, fun h => ?_, ?_⟩
  · obtain ⟨action, request, hparse, hcode, -, hpayload, -⟩ :=
      hlong (List.replicate 130 3) 3 (by simp) rfl (by decide) (by decide)
    obtain rfl : action = .end := Transfer.Action.code_injective hcode
    refine ⟨request, hparse, ?_⟩
    rw [hpayload]
    decide +kernel
  · obtain ⟨-, -, hoffset, -⟩ := hinjective _ _ _ _ _ _ _ _ h
    cases hoffset
  · exact ((hshort [3] (by decide)).2 "mem0" .default .still .specDefined (.start .default .default)
      rfl rfl).1

end TransferRequest

end CxlFirmware
