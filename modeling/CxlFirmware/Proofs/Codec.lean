import CxlFirmware.Mailbox.BackgroundStatus
import CxlFirmware.Mailbox.FirmwareInfo
import CxlFirmware.Mailbox.TransferRequest

/-!
# Payloads that are read back

A device reads the request that the host wrote into a transfer command, and the host reads
the report that a device wrote into the reply to a status query, in either layout, and the
slots that it wrote into the reply to a query for them.
-/

namespace CxlFirmware

namespace Bytes

/-- A word of two bytes is read back. -/
theorem ofNat_toNat_two (n : UInt16) :
  UInt16.ofNat (toNat (ofNat 2 n.toNat)) = n
  := by
  rw [toNat_ofNat]
  apply UInt16.toNat_inj.mp
  have hn : n.toNat < 65536 := n.toNat_lt
  simp [limit]

/-- A word of four bytes is read back. -/
theorem ofNat_toNat_four (n : UInt32) :
  UInt32.ofNat (toNat (ofNat 4 n.toNat)) = n
  := by
  rw [toNat_ofNat]
  apply UInt32.toNat_inj.mp
  have hn : n.toNat < 4294967296 := n.toNat_lt
  simp [limit]

end Bytes

namespace TransferRequest

/-- A device reads the request that was written. -/
theorem parse?_encode (request : TransferRequest) :
  parse? request.encode = some request
  := by
  have hlength : ¬ request.encode.length < headerLength := by
    rw [length_encode]
    omega
  have hdata : request.encode.drop headerLength = request.data := by
    rw [encode]
    apply List.drop_left'
    simp [headerLength]
  have hoffset : ((Bytes.ofNat 4 request.offset.toNat ++ List.replicate 120 0
      ++ request.data).take 4) = Bytes.ofNat 4 request.offset.toNat := by
    rw [List.append_assoc]
    apply List.take_left'
    simp
  change (if request.encode.length < headerLength then none else some ⟨request.action,
    request.slot, UInt32.ofNat (Bytes.toNat ((Bytes.ofNat 4 request.offset.toNat
      ++ List.replicate 120 0 ++ request.data).take 4)), request.encode.drop headerLength⟩)
    = some request
  rw [if_neg hlength, hoffset, hdata, Bytes.ofNat_toNat_four]

theorem encode_injective {request request' : TransferRequest}
    (h : request.encode = request'.encode) :
  request = request'
  := by
  have hparse := parse?_encode request
  rw [h, parse?_encode] at hparse
  exact (Option.some.inj hparse).symm

end TransferRequest

namespace BackgroundStatus

/-- The report as it is read back: with a percentage of at most one hundred. -/
def written (report : BackgroundStatus) : BackgroundStatus :=
  { report with percent := UInt8.ofNat report.writtenPercent }

theorem toNat_written (report : BackgroundStatus) :
  report.written.percent.toNat = report.writtenPercent
  := by
  apply UInt8.toNat_ofNat_of_lt'
  exact Nat.lt_of_le_of_lt (Nat.min_le_right _ _) (by decide)

/-- A percentage of at most one hundred is read back unchanged. -/
theorem written_of_le {report : BackgroundStatus} (h : report.percent.toNat ≤ 100) :
  report.written = report
  := by
  rw [written, writtenPercent, Nat.min_eq_left h, UInt8.ofNat_toNat]

theorem toNat_beq_one (flag : Bool) :
  (flag.toNat == 1) = flag
  := by
  cases flag with
  | false => rfl
  | true => rfl

/-- The width of each field of a reply. -/
theorem field_bounds (report : BackgroundStatus) :
  report.inProgress.toNat ≤ 1 ∧ report.writtenPercent ≤ 100 ∧ report.opcode.toNat < 65536
    ∧ report.returnCode.toNat < 65536 ∧ report.vendorStatus.toNat < 65536
  := ⟨Bool.toNat_le _, Nat.min_le_right _ _, report.opcode.toNat_lt, report.returnCode.toNat_lt,
    report.vendorStatus.toNat_lt⟩

theorem decodeSpec_encodeSpec (report : BackgroundStatus) :
  decodeSpec report.encodeSpec = .ok report.written
  := by
  obtain ⟨hflag, hpercent, -⟩ := report.field_bounds
  have hbyte : (UInt8.ofNat (report.inProgress.toNat + 2 * report.writtenPercent)).toNat
      = report.inProgress.toNat + 2 * report.writtenPercent := by
    apply UInt8.toNat_ofNat_of_lt'
    change _ < 256
    omega
  have hmod : (report.inProgress.toNat + 2 * report.writtenPercent) % 2
      = report.inProgress.toNat := by
    omega
  have hdiv : (report.inProgress.toNat + 2 * report.writtenPercent) / 2
      = report.writtenPercent := by
    omega
  change Except.ok (BackgroundStatus.mk _ _ (UInt16.ofNat (Bytes.toNat (Bytes.ofNat 2 _)))
    (UInt16.ofNat (Bytes.toNat (Bytes.ofNat 2 _)))
    (UInt16.ofNat (Bytes.toNat (Bytes.ofNat 2 _)))) = _
  rw [hbyte, hmod, hdiv]
  simp only [Bytes.ofNat_toNat_two, toNat_beq_one]
  rfl

theorem toNat_encodeHbo (report : BackgroundStatus) :
  Bytes.toNat report.encodeHbo = report.vendorWord
  := by
  obtain ⟨hflag, hpercent, hopcode, hreturn, hvendor⟩ := report.field_bounds
  rw [encodeHbo, Bytes.toNat_ofNat]
  apply Nat.mod_eq_of_lt
  simp only [vendorWord, Bytes.limit]
  omega

theorem decodeHbo_encodeHbo (report : BackgroundStatus) :
  decodeHbo report.encodeHbo = .ok report.written
  := by
  have hlength : report.encodeHbo.length = length := Bytes.length_ofNat 8 _
  obtain ⟨hflag, hpercent, hopcode, hreturn, hvendor⟩ := report.field_bounds
  have hword : Bytes.toNat (report.encodeHbo.take length) = report.vendorWord := by
    rw [List.take_of_length_le (Nat.le_of_eq hlength), toNat_encodeHbo]
  have hinProgress : report.vendorWord / 0x800000 % 2 = report.inProgress.toNat := by
    rw [vendorWord]
    omega
  have hwritten : report.vendorWord / 0x10000 % 0x80 = report.writtenPercent := by
    rw [vendorWord]
    omega
  have hopcode' : report.vendorWord % 0x10000 = report.opcode.toNat := by
    rw [vendorWord]
    omega
  have hreturn' : report.vendorWord / 0x100000000 % 0x10000 = report.returnCode.toNat := by
    rw [vendorWord]
    omega
  have hvendor' : report.vendorWord / 0x1000000000000 % 0x10000 = report.vendorStatus.toNat := by
    rw [vendorWord]
    omega
  rw [decodeHbo, if_neg (Nat.not_lt.mpr (Nat.le_of_eq hlength.symm)), hword]
  simp only [hinProgress, hwritten, hopcode', hreturn', hvendor', toNat_beq_one,
    UInt16.ofNat_toNat]
  rfl

end BackgroundStatus

/-- The host reads the report that was written. -/
theorem StatusQuery.decode_encode (query : StatusQuery) (report : BackgroundStatus) :
  query.decode (query.encode report) = .ok report.written
  := by
  cases query with
  | spec => exact BackgroundStatus.decodeSpec_encodeSpec report
  | hbo => exact BackgroundStatus.decodeHbo_encodeHbo report

namespace FirmwareInfo

/-- The slots as they are read back: the running and the staged slot in three bits, and of
each reported slot the revision as its field holds it. -/
def written (info : FirmwareInfo) : FirmwareInfo where
  slotsSupported := info.slotsSupported
  activeSlot := UInt8.ofNat (info.activeSlot.toNat % 8)
  stagedSlot := UInt8.ofNat (info.stagedSlot.toNat % 8)
  onlineActivation := info.onlineActivation
  revisions := (List.range (min info.slotsSupported.toNat maxSlots)).map fun i =>
    readRevision (writeRevision info.revisions[i]?.join)

/-- The revision fields, with an empty one for each slot that is missing. -/
def fields (info : FirmwareInfo) : Bytes :=
  (List.range maxSlots).flatMap fun i => writeRevision info.revisions[i]?.join

/-- What comes before the revision fields. -/
def header (info : FirmwareInfo) : Bytes :=
  [info.slotsSupported,
    UInt8.ofNat (info.activeSlot.toNat % 8 + 8 * (info.stagedSlot.toNat % 8)),
    UInt8.ofNat info.onlineActivation.toNat]
    ++ List.replicate (revisionStart - 3) 0

theorem length_writeRevision (revision : Option String) :
  (writeRevision revision).length = revisionLength
  := by
  have hlength : ((Utf8.encode (revision.getD "")).take revisionLength).length
      ≤ revisionLength := List.length_take_le _ _
  rw [writeRevision, List.length_append, List.length_replicate]
  omega

/-- Empty fields are zeros, so the zeros at the end of a reply are empty fields. -/
theorem flatMap_append_replicate (revisions : List (Option String)) (count : Nat) :
  let written := (revisions.take count).flatMap writeRevision
  written ++ List.replicate (count * revisionLength - written.length) 0
    = (List.range count).flatMap fun i => writeRevision revisions[i]?.join
  := by
  induction count generalizing revisions with
  | zero => simp
  | succ count ih =>
      rw [List.range_succ_eq_map, List.flatMap_cons, List.flatMap_map]
      cases revisions with
      | nil =>
          have hempty : writeRevision none = List.replicate revisionLength 0 := rfl
          have hrest := ih []
          simp only [List.take_nil, List.flatMap_nil, List.length_nil, List.nil_append,
            Nat.sub_zero, List.getElem?_nil, Option.join_none] at hrest ⊢
          rw [← hrest, hempty, Nat.succ_mul, Nat.add_comm, ← List.replicate_append_replicate]
      | cons revision revisions =>
          have hlength := length_writeRevision revision
          have hcount : (count + 1) * revisionLength
              - (writeRevision revision ++ (revisions.take count).flatMap writeRevision).length
              = count * revisionLength - ((revisions.take count).flatMap writeRevision).length := by
            rw [List.length_append, hlength, Nat.succ_mul]
            omega
          simp only [List.take_succ_cons, List.flatMap_cons, List.append_assoc, hcount]
          exact congrArg (writeRevision revision ++ ·) (ih revisions)

/-- A part of a sequence of parts of one width is found at its place. -/
theorem take_drop_flatMap {part : Nat → Bytes} {width count i : Nat}
    (hwidth : ∀ i, (part i).length = width) (hi : i < count) :
  (((List.range count).flatMap part).drop (i * width)).take width = part i
  := by
  induction count generalizing part i with
  | zero => cases hi
  | succ count ih =>
      rw [List.range_succ_eq_map, List.flatMap_cons, List.flatMap_map]
      cases i with
      | zero =>
          rw [Nat.zero_mul, List.drop_zero]
          exact List.take_left' (hwidth 0)
      | succ i =>
          have hplace : (i + 1) * width = (part 0).length + i * width := by
            rw [hwidth, Nat.succ_mul, Nat.add_comm]
          rw [hplace, List.drop_length_add_append]
          exact ih (fun i => hwidth (i + 1)) (Nat.lt_of_succ_lt_succ hi)

theorem length_fields (info : FirmwareInfo) :
  info.fields.length = maxSlots * revisionLength
  := by
  simp [fields, maxSlots, List.range_succ, length_writeRevision]
  omega

theorem encode_eq (info : FirmwareInfo) :
  info.encode = info.header ++ info.fields
  := by
  rw [encode, header, fields, ← flatMap_append_replicate,
    List.append_assoc _ _ (List.replicate _ _)]

theorem length_encode (info : FirmwareInfo) :
  info.encode.length = length
  := by
  rw [encode_eq, List.length_append, length_fields]
  rfl

/-- Three bits hold a number below eight. -/
theorem ofNat_mod_eight {n : UInt8} (h : n < 8) :
  UInt8.ofNat (n.toNat % 8) = n
  := by
  have hlt : n.toNat < 8 := UInt8.lt_iff_toNat_lt.mp h
  rw [Nat.mod_eq_of_lt hlt, UInt8.ofNat_toNat]

/-- The field of each slot is found at its place. -/
theorem field_encode (info : FirmwareInfo) {i : Nat} (hi : i < maxSlots) :
  (info.encode.drop (revisionStart + i * revisionLength)).take revisionLength
    = writeRevision info.revisions[i]?.join
  := by
  have hheader : info.header.length = revisionStart := rfl
  rw [encode_eq, ← hheader, List.drop_length_add_append]
  exact take_drop_flatMap (fun i => length_writeRevision _) hi

/-- The host reads the slots that a device wrote. -/
theorem decode_encode (info : FirmwareInfo) :
  decode info.encode = .ok info.written
  := by
  have hselected : (UInt8.ofNat (info.activeSlot.toNat % 8 + 8 * (info.stagedSlot.toNat % 8))).toNat
      = info.activeSlot.toNat % 8 + 8 * (info.stagedSlot.toNat % 8) := by
    apply UInt8.toNat_ofNat_of_lt'
    change _ < 256
    omega
  have hflag : ((UInt8.ofNat info.onlineActivation.toNat).toNat % 2 == 1)
      = info.onlineActivation := by
    cases info.onlineActivation <;> rfl
  have hactive : (info.activeSlot.toNat % 8 + 8 * (info.stagedSlot.toNat % 8)) % 8
      = info.activeSlot.toNat % 8 := by
    omega
  have hstaged : (info.activeSlot.toNat % 8 + 8 * (info.stagedSlot.toNat % 8)) / 8 % 8
      = info.stagedSlot.toNat % 8 := by
    omega
  have hrevisions : ((List.range (min info.slotsSupported.toNat maxSlots)).map fun i =>
      readRevision ((info.encode.drop (revisionStart + i * revisionLength)).take revisionLength))
      = info.written.revisions := by
    apply List.map_congr_left
    intro i hi
    rw [field_encode info (Nat.lt_of_lt_of_le (List.mem_range.mp hi) (Nat.min_le_right _ _))]
  change (if info.encode.length < length then _ else Except.ok (FirmwareInfo.mk _ _ _ _ _)) = _
  rw [length_encode, if_neg (Nat.lt_irrefl _), hselected, hflag, hactive, hstaged, hrevisions]
  rfl

end FirmwareInfo

end CxlFirmware
