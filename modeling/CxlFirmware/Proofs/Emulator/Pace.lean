import CxlFirmware.Proofs.Emulator.Staging

/-!
# The pace of a device

A device that is ready for a block answers the commands of a step in one way only: it puts
the block off as often as it is told to be busy, takes it, and reports it as running for as
many queries as it is told to process a block.  Then it is ready for another one.
-/

namespace CxlFirmware

open Transfer (Step Carries Plan)

namespace Emulator

variable {name : String} {config : Config} {clock : Clock Emulator} {transfer : Transfer.Config}
  {step : Step} {device : Emulator} {opcode : Opcode} {payload : Bytes}
  {handle : Emulator → Verdict}

/-! ## The answers of a device -/

/-- The answer that puts a command off. -/
def busyAnswer : Answer :=
  .ok (.ok ⟨Status.busy.code, []⟩)

theorem isRetryable_busyAnswer : busyAnswer.IsRetryable
  := ⟨_, rfl, rfl⟩

/-- The answer to a query for a percentage that cannot be computed. -/
def overflowAnswer : Answer :=
  .error .product

theorem replicate_append_cons {α : Type} (count : Nat) (a : α) (rest : List α) :
  List.replicate count a ++ a :: rest = List.replicate (count + 1) a ++ rest
  := by
  rw [List.replicate_succ', List.append_assoc]
  rfl

/-- A device without a background operation that is still busy puts a command off. -/
theorem submit_busy (hgates : Gates name config opcode payload handle)
    (hbackground : device.background = none) (hleft : 0 < device.busyLeft) :
  (transport name config clock).submit ⟨opcode.code, payload⟩ device
    = ⟨busyAnswer, [], { device.noted opcode with busyLeft := device.busyLeft - 1 }⟩
  := by
  have hgated : gated config handle (device.noted opcode)
      = ⟨.busy, [], { device.noted opcode with busyLeft := device.busyLeft - 1 }⟩ :=
    gated_of_busyLeft hbackground hleft
  rw [hgates, hgated]
  rfl

/-- It does so as often as it is still busy. -/
theorem yields_busy (hgates : Gates name config opcode payload handle) (device : Emulator)
    (hbackground : device.background = none) :
  (transport name config clock).Yields device
    ((List.replicate device.busyLeft.toNat busyAnswer).map (.mk ⟨opcode.code, payload⟩))
    { device with
      busyLeft := 0
      history := List.replicate device.busyLeft.toNat opcode.code ++ device.history }
  := by
  generalize hcount : device.busyLeft.toNat = count
  induction count generalizing device with
  | zero =>
      have hzero : device.busyLeft = 0 := UInt32.toNat_inj.mp hcount
      cases device
      cases hzero
      apply Transport.Yields.nil
  | succ count ih =>
      have hleft : 0 < device.busyLeft := by
        rw [UInt32.lt_iff_toNat_lt, hcount]
        apply Nat.succ_pos
      have hnext : (device.busyLeft - 1).toNat = count := by
        rw [UInt32.toNat_sub_of_le _ _ hleft, hcount]
        rfl
      rw [← replicate_append_cons, List.replicate_succ, List.map_cons]
      apply Transport.Yields.cons_of (submit_busy hgates hbackground hleft)
      apply ih { device.noted opcode with busyLeft := device.busyLeft - 1 }
      · exact hbackground
      · exact hnext

/-- The device that handles a command, once it has put it off as often as it is busy. -/
def handling (config : Config) (opcode : Opcode) (device : Emulator) : Emulator :=
  { device with
    busyLeft := config.busyReplies
    history := List.replicate (device.busyLeft.toNat + 1) opcode.code ++ device.history }

theorem unmoved_handling (config : Config) (opcode : Opcode) (device : Emulator) :
  Unmoved device (device.handling config opcode)
  := ⟨⟨rfl, rfl⟩, rfl, rfl⟩

/-- Then it handles the command. -/
theorem yields_handled (hgates : Gates name config opcode payload handle) (device : Emulator)
    (hbackground : device.background = none) :
  (transport name config clock).Yields device
    ((List.replicate device.busyLeft.toNat busyAnswer
        ++ [(handle (device.handling config opcode)).exchange.answer]).map
      (.mk ⟨opcode.code, payload⟩))
    (handle (device.handling config opcode)).device
  := by
  apply (yields_busy hgates device hbackground).concat
  generalize hready : ({ device with busyLeft := 0, history := _ } : Emulator) = ready
  have hhandling : (ready.noted opcode).ready config = device.handling config opcode := by
    rw [← hready]
    simp only [noted, Emulator.ready, handling, List.replicate_succ, List.cons_append]
  have hidle : ¬ (ready.noted opcode).IsBusy := by
    rw [← hready]
    exact not_isBusy.mpr ⟨hbackground, rfl⟩
  have hsubmit : (transport name config clock).submit ⟨opcode.code, payload⟩ ready
      = (handle (device.handling config opcode)).exchange := by
    rw [hgates, gated_of_idle hidle, hhandling]
  apply Transport.Yields.cons_of hsubmit
  apply Transport.Yields.nil

section

variable {operation : Background}

/-- A query takes a running operation one further, and is answered with its report. -/
theorem submit_running (name : String) (config : Config) (query : StatusQuery)
    (hbackground : device.background = some operation) (hleft : 0 < operation.remaining) :
  (transport name config clock).submit ⟨query.opcode.code, []⟩ device
    = ⟨operation.report.map fun report => .ok ⟨Status.success.code, query.encode report⟩, [],
      { device.noted query.opcode with
        background := some { operation with remaining := operation.remaining - 1 } }⟩
  := by
  rw [submit_status]
  exact replyStatus_of_running query hbackground hleft

/-- One that has been asked too often cannot be reported. -/
theorem submit_overflow (name : String) (config : Config) (query : StatusQuery)
    (hbackground : device.background = some operation) (hleft : 0 < operation.remaining)
    (hasked : shownPolls ≤ operation.asked) :
  ∃ after, (transport name config clock).submit ⟨query.opcode.code, []⟩ device
    = ⟨overflowAnswer, [], after⟩
  := by
  rw [submit_running name config query hbackground hleft, Background.report_of_le hasked]
  exact ⟨_, rfl⟩

/-- While queries are left to an operation, and it has not been asked too often, it is reported
as running. -/
theorem yields_running (name : String) (config : Config) (query : StatusQuery)
    (device : Emulator) (hbackground : device.background = some operation) {count : Nat}
    (hleft : count ≤ operation.remaining.toNat) (hshown : operation.asked + count ≤ shownPolls) :
  ∃ (polls : List Answer) (left : UInt32), polls.length = count
    ∧ left.toNat + count = operation.remaining.toNat
    ∧ ({ operation with remaining := left } : Background).asked = operation.asked + count
    ∧ (∀ answer ∈ polls, query.IsPending answer)
    ∧ (transport name config clock).Yields device (polls.map (.mk ⟨query.opcode.code, []⟩))
      { device with
        background := some { operation with remaining := left }
        history := List.replicate count query.opcode.code ++ device.history }
  := by
  induction count generalizing device operation with
  | zero =>
      cases device
      cases hbackground
      exact ⟨[], operation.remaining, rfl, rfl, rfl, nofun, .nil _⟩
  | succ count ih =>
      have hpos : 0 < operation.remaining := by
        rw [UInt32.lt_iff_toNat_lt]
        exact Nat.lt_of_lt_of_le (Nat.succ_pos count) hleft
      have hsub : (operation.remaining - 1).toNat = operation.remaining.toNat - 1 :=
        UInt32.toNat_sub_of_le _ _ hpos
      have hnext := Background.asked_next hpos (by omega)
      obtain ⟨percent, hreport, -⟩ := Background.report_of_lt (show operation.asked < _ by omega)
      have hsubmit := @submit_running clock device operation name config query hbackground hpos
      rw [hreport] at hsubmit
      obtain ⟨polls, left, hlength, hsum, hasked, hpending, hpath⟩ := ih { device.noted query.opcode
        with background := some { operation with remaining := operation.remaining - 1 } } rfl
        (by change count ≤ (operation.remaining - 1).toNat; omega) (by omega)
      have hsum' : left.toNat + count = (operation.remaining - 1).toNat := hsum
      use .ok (.ok ⟨Status.success.code,
        query.encode ⟨true, percent, operation.opcode.code, 0, 0⟩⟩) :: polls, left
      refine ⟨?_, by omega, hasked.trans (by omega), ?_, ?_⟩
      · rw [List.length_cons, hlength]
      · intro answer hanswer
        rcases List.mem_cons.mp hanswer with rfl | hanswer
        · exact .inr ⟨_, ⟨_, rfl, rfl, query.decode_encode _⟩, rfl⟩
        · exact hpending answer hanswer
      · rw [← replicate_append_cons, List.map_cons]
        exact Transport.Yields.cons_of hsubmit hpath

end

/-- Then the operation has ended with success. -/
theorem yields_finished (name : String) (config : Config) (query : StatusQuery)
    (device : Emulator) {operation : Background}
    (hbackground : device.background = some operation) (hzero : operation.remaining = 0) :
  ∃ finished, query.IsConfirmed finished
    ∧ (transport name config clock).Yields device [⟨⟨query.opcode.code, []⟩, finished⟩]
      { device with
        background := none
        lastBackground := operation.finished
        history := query.opcode.code :: device.history }
  := by
  have hsubmit : (transport name config clock).submit ⟨query.opcode.code, []⟩ device
      = ⟨.ok (.ok ⟨Status.success.code, query.encode operation.finished⟩), [],
        { device.noted query.opcode with
          background := none
          lastBackground := operation.finished }⟩ := by
    rw [submit_status]
    exact replyStatus_of_finished query hbackground hzero
  use .ok (.ok ⟨Status.success.code, query.encode operation.finished⟩)
  constructor
  · exact ⟨_, ⟨_, rfl, rfl, query.decode_encode operation.finished⟩, rfl, rfl⟩
  · apply Transport.Yields.cons_of hsubmit
    apply Transport.Yields.nil

/-! ## The course of a step on a device -/

/-- The device is ready for another block. -/
structure Waiting (config : Config) (device : Emulator) : Prop where
  background : device.background = none
  busyLeft : device.busyLeft = config.busyReplies

/-- A block that may be written and comes where it has to come passes every check. -/
theorem step_eq_accept (name : String) (device : Emulator) (hfail : config.failAtStep = none)
    (htarget : device.state.Allows transfer)
    (hoffset : expectedOffset device.staging transfer.kind.opcode step.action transfer.slot
      = some step.offset.toNat) :
  Emulator.step name config transfer.kind.opcode step.action
      ⟨step.action.code, transfer.slot, step.offset, step.data⟩ device
    = accept name config transfer.kind.opcode step.action
      ⟨step.action.code, transfer.slot, step.offset, step.data⟩
      { device with stepsSeen := device.stepsSeen + 1 }
  := by
  have haccepts : ¬ (transfer.kind.opcode ≠ .hboTransferOsImage
      ∧ device.state.accepts transfer.slot = false) := by
    rintro ⟨hopcode, hreject⟩
    rcases htarget with hkind | haccepts
    · exact opcode_ne_osImage.mp hopcode hkind
    · cases hreject.symm.trans haccepts
  have hinjected : config.failAtStep ≠ some device.stepsSeen := by
    rw [hfail]
    apply (Option.some_ne_none _).symm
  rw [Emulator.step, if_neg hinjected, if_neg haccepts, if_pos hoffset]

/-- A device that is ready puts a block off as often as it is told to, and then takes it and
begins to process it. -/
theorem yields_taken (name : String) (hwaiting : Waiting config device)
    (hfail : config.failAtStep = none)
    (haction : step.action ≠ .abort) (htarget : device.state.Allows transfer)
    (hoffset : expectedOffset device.staging transfer.kind.opcode step.action transfer.slot
      = some step.offset.toNat) :
  ∃ (taken : Answer) (after : Emulator), taken.IsSuccess
    ∧ (transport name config clock).Yields device
      ((List.replicate config.busyReplies.toNat busyAnswer ++ [taken]).map
        (.mk (transfer.command step))) after
    ∧ Takes transfer step device after
    ∧ after.background
      = some ⟨transfer.kind.opcode, config.processingPolls, config.processingPolls⟩
    ∧ after.busyLeft = config.busyReplies
    ∧ after.history = List.replicate (config.busyReplies.toNat + 1) transfer.kind.opcode.code
      ++ device.history
  := by
  have hhandled : (transport name config clock).Yields device _ _ := yields_handled
    (gates_transfer name config transfer.kind
      (TransferRequest.payload step.action transfer.slot step.offset step.data)) device
    hwaiting.background
  have hkeeps := (unmoved_handling config transfer.kind.opcode device).toKeeps
  obtain ⟨records, after, haccept, htakes, hrunning, hleft, hhistory, -⟩ := accept_takes name config
    (device.handling config transfer.kind.opcode) htarget hoffset
  have hstep := step_eq_accept name (device.handling config transfer.kind.opcode) hfail htarget
    hoffset
  rw [transfer_block haction, hstep, haccept, hwaiting.busyLeft] at hhandled
  refine ⟨_, after, ⟨_, rfl, rfl⟩, hhandled, htakes.of_keeps hkeeps, hrunning, hleft, ?_⟩
  rw [hhistory, handling, hwaiting.busyLeft]

theorem Background.asked_begun (opcode : Opcode) (total : UInt32) :
  (⟨opcode, total, total⟩ : Background).asked = 0
  := by
  rw [Background.asked, UInt32.sub_self]
  rfl

/-- A device that has begun to process something reports it as running for as many queries as it
is told to, and then as ended, unless these are too many to report. -/
theorem yields_confirmed (name : String) (query : StatusQuery) {total : UInt32}
    (hbackground : device.background = some ⟨opcode, total, total⟩)
    (hshown : total.toNat ≤ shownPolls) :
  ∃ (polls : List Answer) (finished : Answer) (after : Emulator),
    polls.length = total.toNat ∧ (∀ answer ∈ polls, query.IsPending answer)
    ∧ query.IsConfirmed finished
    ∧ (transport name config clock).Yields device
      ((polls ++ [finished]).map (.mk ⟨query.opcode.code, []⟩)) after
    ∧ Keeps device after ∧ after.background = none ∧ after.busyLeft = device.busyLeft
    ∧ after.history = List.replicate (total.toNat + 1) query.opcode.code ++ device.history
  := by
  obtain ⟨polls, left, hlength, hsum, -, hpending, hrunning⟩ := yields_running name config query
    device hbackground (Nat.le_refl _) (by rw [Background.asked_begun, Nat.zero_add]; exact hshown)
  have hzero : left = 0 := by
    apply UInt32.toNat_inj.mp
    rw [UInt32.toNat_zero]
    omega
  obtain ⟨finished, hconfirmed, hfinished⟩ := yields_finished name config query
    { device with
      background := some ⟨opcode, total, left⟩
      history := List.replicate total.toNat query.opcode.code ++ device.history }
    rfl hzero
  refine ⟨polls, finished, _, hlength, hpending, hconfirmed, hrunning.concat hfinished,
    ⟨rfl, rfl⟩, rfl, rfl, ?_⟩
  rw [List.replicate_succ, List.cons_append]

/-- If they are too many, the device reports it as running for as many queries as it can, and the
next query ends the program. -/
theorem yields_overflow (name : String) (query : StatusQuery) {total : UInt32}
    (hbackground : device.background = some ⟨opcode, total, total⟩)
    (hlong : shownPolls < total.toNat) :
  ∃ (polls : List Answer) (after : Emulator), polls.length = shownPolls
    ∧ (∀ answer ∈ polls, query.IsPending answer)
    ∧ (transport name config clock).Yields device
      ((polls ++ [overflowAnswer]).map (.mk ⟨query.opcode.code, []⟩)) after
  := by
  obtain ⟨polls, left, hlength, hsum, hasked, hpending, hrunning⟩ := yields_running name config
    query device hbackground (Nat.le_of_lt hlong) (by simp [Background.asked_begun])
  rw [Background.asked_begun, Nat.zero_add] at hasked
  have hsum' : left.toNat + shownPolls = total.toNat := hsum
  have hpos : 0 < left := by
    rw [UInt32.lt_iff_toNat_lt, UInt32.toNat_zero]
    omega
  obtain ⟨after, hsubmit⟩ := @submit_overflow clock { device with
    background := some ⟨opcode, total, left⟩
    history := List.replicate shownPolls query.opcode.code ++ device.history } _ name config query
    rfl hpos (Nat.le_of_eq hasked.symm)
  use polls, after, hlength, hpending
  exact hrunning.concat (Transport.Yields.cons_of hsubmit (.nil _))

/-! ## Loops within their budgets -/

section

variable {policy : RetryPolicy} {total : UInt32} (hdeadline : policy.deadline = none)
include hdeadline

/-- A command that is put off less often than it is tried is submitted with success. -/
theorem submit_of_busy {busy : UInt32} {taken : Answer} {after : Emulator}
    (hbusy : busy < policy.maxAttempts)
    (hpath : (transport name config clock).Yields device
      ((List.replicate busy.toNat busyAnswer ++ [taken]).map (.mk ⟨opcode.code, payload⟩)) after)
    (hsuccess : taken.IsSuccess) :
  ∃ reply trace, (Retry.withRetry (transport name config clock).clock policy
    (Mailbox.submit (transport name config clock) opcode payload)).Gives device (.ok (.ok reply))
    trace (List.replicate busy.toNat policy.delay) after
  := by
  have hlength : (List.replicate busy.toNat busyAnswer).length < policy.maxAttempts.toNat := by
    rw [List.length_replicate]
    exact UInt32.lt_iff_toNat_lt.mp hbusy
  obtain ⟨reply, hsubmit⟩ := Mailbox.submit_of_yields opcode payload
    (RetryPolicy.validate_of_lt hbusy) (RetryPolicy.inTime_of_none hdeadline _) hpath
    (fun answer hanswer => List.eq_of_mem_replicate hanswer ▸ isRetryable_busyAnswer) hsuccess
    hlength
  rw [List.length_replicate] at hsubmit
  exact ⟨reply, _, hsubmit⟩

/-- What a device has begun to process is confirmed if it is asked for more often than that, unless
these are too many queries to report. -/
theorem untilDone_of_shown (name : String) (query : StatusQuery)
    (hbackground : device.background = some ⟨opcode, total, total⟩)
    (hshown : total.toNat ≤ shownPolls) (hpolls : total < policy.maxAttempts) :
  ∃ report trace after, (Poll.untilDone (transport name config clock) query policy).Gives device
      (.ok (.ok report)) trace (List.replicate total.toNat policy.delay) after
    ∧ Keeps device after ∧ after.background = none ∧ after.busyLeft = device.busyLeft
    ∧ after.history = List.replicate (total.toNat + 1) query.opcode.code ++ device.history
  := by
  obtain ⟨polls, finished, after, hlength, hpending, hconfirmed, hpath, hkept⟩ :=
    yields_confirmed name query hbackground hshown
  obtain ⟨report, hconfirm⟩ := Poll.untilDone_of_yields query (RetryPolicy.validate_of_lt hpolls)
    (RetryPolicy.inTime_of_none hdeadline _) hpath hpending hconfirmed
    (by rw [hlength]; exact UInt32.lt_iff_toNat_lt.mp hpolls)
  rw [hlength] at hconfirm
  exact ⟨report, _, after, hconfirm, hkept⟩

/-- If they are too many, and it is asked for as often, that ends the program. -/
theorem untilDone_of_overflow (name : String) (query : StatusQuery)
    (hbackground : device.background = some ⟨opcode, total, total⟩)
    (hlong : shownPolls < total.toNat) (hpolls : shownPolls < policy.maxAttempts.toNat) :
  (Poll.untilDone (transport name config clock) query policy device).result = .error .product
  := by
  obtain ⟨polls, after, hlength, hpending, hpath⟩ := yields_overflow name query hbackground hlong
  exact Poll.untilDone_of_fault query (RetryPolicy.validate_of_pos (Nat.zero_lt_of_lt hpolls))
    (RetryPolicy.inTime_of_none hdeadline _) hpath hpending (hlength ▸ hpolls)

end

end Emulator

end CxlFirmware
