import CxlFirmware.Proofs.Emulator.History

/-!
# Integrity of stored images

What a complete transfer leaves in the target on an emulated device with any history.  It is
the image, unless the image is sent as a single block and the rest of an earlier transfer is
still staged: such a block does not drop the rest, but is put behind it.  The rest is then the
short image of an earlier mock transfer to the same target that could not be aborted.
-/

namespace CxlFirmware.Emulator

open Scenario (Job JobResult)
open Transfer (Plan completed?)

variable {name : String} {config : Config} {clock : Clock Emulator} {transfer : Transfer.Config}
  {image : Image}

/-- The record of an image differs from that of a short rest before the image. -/
theorem ofData_append_ne {rest data : Bytes} (hpos : 0 < rest.length)
    (hshort : rest.length < TransferRequest.unit) :
  SlotImage.ofData (rest ++ data) ≠ .ofData data
  := by
  intro h
  have hsize := congrArg (fun image => image.size.toNat) h
  simp only [SlotImage.ofData, List.length_append, UInt64.toNat_ofNat'] at hsize
  rw [TransferRequest.unit] at hshort
  omega

section

variable {history : List Job} {before done : Emulator} {steps : List Transfer.Step}
  (hcarries : Transfer.Carries transfer.blockSize 0 steps image.data)
  (htakes : TakesAll transfer steps before done)
include hcarries htakes

/-- Steps that carry an image leave it in the target, if there are several of them or nothing
was staged before. -/
theorem target_of_takes (h : transfer.blockSize < image.size ∨ before.transferPending = false) :
  done.state.target transfer = some (.ofData image.data)
  := by
  have hcontent : before.state.Allows transfer
      ∧ done.state = before.state.store transfer (.ofData image.data) := by
    rcases h with hmany | hidle
    · obtain ⟨hallows, -, hstate⟩ := content_of_many hcarries htakes hmany
      exact ⟨hallows, hstate⟩
    · rw [transferPending, Option.isSome_eq_false_iff, Option.isNone_iff_eq_none] at hidle
      obtain ⟨hallows, -, hstate⟩ := content_of_idle hcarries htakes hidle
      exact ⟨hallows, hstate⟩
  obtain ⟨hallows, hstate⟩ := hcontent
  rw [hstate]
  apply State.target_store hallows

/-- A single step leaves the image behind the short rest that was staged before, and that
rest is the image of a mock transfer. -/
theorem rest_of_takes (hstaged : Staged history before)
    (h : ¬ (transfer.blockSize < image.size ∨ before.transferPending = false)) :
  ∃ earlier rest, Job.transfer earlier rest ∈ history ∧ earlier.mock = true
    ∧ rest.size < TransferRequest.unit ∧ earlier.kind = transfer.kind
    ∧ earlier.slot = transfer.slot
    ∧ done.state.target transfer = some (.ofData (rest.data ++ image.data))
  := by
  obtain ⟨hsingle, hpending⟩ := not_or.mp h
  obtain ⟨hallows, -, hcases⟩ := content_of_single hcarries htakes (Nat.not_lt.mp hsingle)
  rcases hcases with ⟨hnone, -⟩ | ⟨staged, hsome, hshort, hstate⟩
  · rw [transferPending, hnone] at hpending
    exact absurd rfl hpending
  · rcases hstaged _ hsome with hlong | ⟨earlier, rest, hjob, hmock, hrest, hsame⟩
    · exact absurd hshort (Nat.not_lt.mpr hlong)
    · obtain ⟨hopcode, hslot, rfl⟩ := Staging.mk.inj hsame
      use earlier, rest, hjob, hmock, hrest, (kind_of_opcode hopcode).symm, hslot.symm
      rw [hstate]
      apply State.target_store hallows

end

/-- The job of a transfer leaves the mailbox that the transfer leaves. -/
theorem mailbox_job_transfer {σ : Type} (device : Device σ) (transfer : Transfer.Config)
    (image : Image) (m : σ) :
  ((Job.transfer transfer image).run device m).mailbox
    = (Transfer.run device.transport device.name transfer image m).mailbox
  := by
  rw [Job.run]
  cases h : (Transfer.run device.transport device.name transfer image m).result with
  | error fault => rw [Workflow.bind_of_fault h]
  | ok result =>
      rw [Workflow.bind_of_ok h]
      rfl

/-- The device after one more job. -/
theorem after_append (device : Device Emulator) (mailbox : Emulator) (jobs : List Job) (job : Job) :
  after device mailbox (jobs ++ [job]) = (job.run device (after device mailbox jobs)).mailbox
  := by
  rw [after, List.foldl_append]
  rfl

/-- After any history of jobs, a complete transfer leaves its image in the target exactly when
it sends several blocks or nothing was staged before.  Otherwise the history holds a mock
transfer of an image shorter than a unit to the same target, and the image is stored behind
that one. -/
theorem target_of_completed (hfail : config.failStatus.code ≠ Status.success.code)
    {device : Device Emulator} (hdevice : device.transport = transport device.name config clock)
    (state : State) (history : List Job) {blocks bytes : Nat}
    (hcompleted : (Transfer.run device.transport device.name transfer image
      (after device (start config state) history)).result = .ok (.ok (.completed blocks bytes))) :
  ((after device (start config state) (history ++ [.transfer transfer image])).state.target
        transfer = some (.ofData image.data)
      ↔ transfer.blockSize < image.size
        ∨ (after device (start config state) history).transferPending = false)
    ∧ (¬ (transfer.blockSize < image.size
        ∨ (after device (start config state) history).transferPending = false) →
      ∃ earlier rest, Job.transfer earlier rest ∈ history ∧ earlier.mock = true
        ∧ rest.size < TransferRequest.unit ∧ earlier.kind = transfer.kind
        ∧ earlier.slot = transfer.slot
        ∧ (after device (start config state) (history ++ [.transfer transfer image])).state.target
          transfer = some (.ofData (rest.data ++ image.data)))
  := by
  have hstaged := staged_after (.inr hfail) hdevice state history
  rw [after_append, mailbox_job_transfer]
  generalize after device (start config state) history = before at hcompleted hstaged
  rw [hdevice] at hcompleted ⊢
  obtain ⟨plan, hplan, hmock, htakes⟩ := takesAll_of_completed (.inr hfail) hcompleted
  generalize (Transfer.run _ _ _ _ _).mailbox = done at htakes
  have hcarries := transfer.plan_carries hplan hmock
  constructor
  · constructor
    · intro himage
      by_contra hother
      obtain ⟨earlier, rest, -, -, hshort, -, -, htarget⟩ := rest_of_takes hcarries htakes hstaged
        hother
      have hpos : 0 < rest.data.length := List.length_pos_iff.mpr rest.nonempty
      rw [htarget] at himage
      exact ofData_append_ne hpos hshort (Option.some.inj himage)
    · exact target_of_takes hcarries htakes
  · exact rest_of_takes hcarries htakes hstaged

/-- A new device with the default behaviour. -/
def fresh : Device Emulator :=
  ⟨0, "mem0", transport "mem0" .default .still, initialGate .default⟩

/-- The transfer to the second slot with nothing else chosen. -/
def toSecondSlot : Transfer.Config :=
  .new .specDefined 2

/-- A mock transfer of five bytes that is neither confirmed nor aborted in time, and a status
query after it. -/
def stranded : List Job :=
  [.transfer { toSecondSlot with
      mock := true, stepRetry := ⟨1, .zero, none⟩, poll := ⟨1, .zero, none⟩ }
    ⟨[1, 2, 3, 4, 5], none, nofun⟩,
  .background .spec]

/-- An image of two blocks. -/
def twoBlocks : Image :=
  ⟨List.replicate 128 1 ++ [2], none, nofun⟩

theorem target_of_completed_two_blocks :
  completed? (Transfer.run fresh.transport fresh.name toSecondSlot twoBlocks
      (after fresh (start .default .default) stranded)).result = some (2, 129)
    ∧ (after fresh (start .default .default) stranded).transferPending = true
    ∧ (after fresh (start .default .default)
      (stranded ++ [.transfer toSecondSlot twoBlocks])).state.target toSecondSlot
      = some (.ofData twoBlocks.data)
  := by
  have hcompleted : completed? (Transfer.run fresh.transport fresh.name toSecondSlot twoBlocks
      (after fresh (start .default .default) stranded)).result = some (2, 129) := by
    decide +kernel
  have hpending : (after fresh (start .default .default) stranded).transferPending = true := by
    decide +kernel
  have hfail : Config.default.failStatus.code ≠ Status.success.code := by
    decide
  have hdevice : fresh.transport = transport fresh.name .default .still := rfl
  obtain ⟨hiff, -⟩ := target_of_completed hfail hdevice .default stranded
    (Transfer.completed?_eq_some.mp hcompleted)
  have hmany : toSecondSlot.blockSize < twoBlocks.size := by
    decide +kernel
  exact ⟨hcompleted, hpending, hiff.mpr (.inl hmany)⟩

/-- Behind a stranded rest, a complete transfer of two bytes does not leave them in its slot. -/
theorem target_after_stranded :
  completed? (Transfer.run fresh.transport fresh.name toSecondSlot ⟨[0xaa, 0xbb], none, nofun⟩
      (after fresh (start .default .default) stranded)).result = some (1, 2)
    ∧ (after fresh (start .default .default)
      (stranded ++ [.transfer toSecondSlot ⟨[0xaa, 0xbb], none, nofun⟩])).state.target toSecondSlot
      ≠ some (.ofData [0xaa, 0xbb])
  := by
  decide +kernel

end CxlFirmware.Emulator
