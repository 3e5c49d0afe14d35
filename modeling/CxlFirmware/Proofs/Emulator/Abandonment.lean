import CxlFirmware.Proofs.Emulator.Agreement
import CxlFirmware.Proofs.Emulator.Settled
import CxlFirmware.Proofs.Transfer.Cause

/-!
# Abandoned transfers

What is staged once a transfer to a new device has failed.  A device that does not take a
block processes nothing, so it takes the abort and drops what is staged.  A device that takes
a block and is still processing it when the polls give up puts the abort off as well, and
keeps what is staged, unless the block was the last one.
-/

namespace CxlFirmware

open Transfer (Step Plan)

namespace Emulator

variable {name : String} {config : Config} {clock : Clock Emulator} {transfer : Transfer.Config}
  {step : Step} {steps : List Step} {before after device : Emulator} {trace : List Submission}
  {delays : List Duration} {source : Error}

/-! ## Steps that are done -/

/-- A device takes a step that is submitted, or does nothing. -/
theorem submitted_cases (haction : step.action ≠ .abort)
    (h : Transfer.Submitted (transport name config clock) transfer step before after) :
  Takes transfer step before after ∨ Unmoved before after
  := by
  obtain ⟨waited, taken, hpath, hwaits, htaken⟩ := h
  rw [List.map_append] at hpath
  obtain ⟨between, hwaited, hfinal⟩ := hpath.split
  have hunmoved := unmoved_of_answers hwaited hwaits
  obtain ⟨-, hend⟩ := hfinal.uncons
  cases hend
  rcases (effect_submit name config clock (transfer.command step) between).order_cases
      (transfer.order?_command step) with ⟨hunmoved', -⟩ | ⟨habort, -⟩ | ⟨-, -, htakes⟩
  · exact .inr (hunmoved.trans hunmoved')
  · exact absurd habort haction
  · exact .inl (Takes.of_keeps hunmoved.toKeeps
      ⟨htakes.target, htakes.offset, htakes.state, htakes.staging⟩)

/-- Polls leave the content of a device as it is. -/
theorem keeps_of_polls {polls : List Answer}
    (h : (transport name config clock).Yields before (polls.map (.mk transfer.statusCommand))
      after) :
  Keeps before after
  := by
  apply keeps_of_status h
  intro s hs
  obtain ⟨answer, -, rfl⟩ := List.mem_map.mp hs
  rfl

/-- A settled device that processes nothing is so again once steps are done. -/
theorem idle_of_sent (hvalid : transfer.validate = .ok ())
    (h : Transfer.Sent (transport name config clock) transfer steps before trace delays after)
    (hsettled : Settled config before) (hidle : before.background = none) :
  Settled config after ∧ after.background = none
  := by
  induction h with
  | nil device => exact ⟨hsettled, hidle⟩
  | cons hdone _ ih =>
      obtain ⟨between, polls, last, ⟨_, _, hpath, -⟩, hpolls, hlast⟩ := hdone.yields hvalid
      apply ih ((hsettled.yields hpath).yields hpolls)
      exact idle_of_confirmed (hsettled.yields hpath) hpolls hlast

/-! ## Aborts -/

section

variable {abortError : Option String}

/-- A device that is free takes the abort at once. -/
theorem submit_abort_taken (name : String) (config : Config) (transfer : Transfer.Config)
    (hbackground : device.background = none) (hfree : device.busyLeft = 0) :
  let reaction := (transport name config clock).submit transfer.abortCommand device
  reaction.answer.IsSuccess ∧ reaction.mailbox.staging = none
  := by
  have hidle : ¬ (device.noted transfer.kind.opcode).IsBusy := not_isBusy.mpr ⟨hbackground, hfree⟩
  rw [Transfer.Config.abortCommand, submit_transfer, replyTransfer_of_idle hidle,
    Transfer.abortPayload, transfer_abort]
  constructor
  · exact ⟨_, rfl, rfl⟩
  · rfl

/-- A device that processes nothing takes the abort, if it is sent often enough. -/
theorem dropped_of_idle (hvalid : transfer.validate = .ok ())
    (hbusy : config.busyReplies < transfer.stepRetry.maxAttempts)
    (hdeadline : transfer.stepRetry.deadline = none) (hsettled : Settled config before)
    (hidle : before.background = none)
    (h : Transfer.Abandoned (transport name config clock) transfer abortError before after) :
  abortError = none ∧ after.staging = none
  := by
  obtain ⟨outcome, trace, delays, hgives, rfl⟩ := h
  rw [Transfer.submitAbort_of_reserved (Transfer.reserved_of_gives hgives)] at hgives
  obtain ⟨-, hretry, -⟩ := transfer.validate_eq_ok hvalid
  -- As long as it is busy, the device puts the abort off; then it drops what is staged.
  have hwaited : (transport name config clock).Yields before _ _ := yields_busy
    (gates_transfer name config transfer.kind (Transfer.abortPayload transfer)) before hidle
  generalize hready : ({ before with busyLeft := 0, history := _ } : Emulator) = ready at hwaited
  have hbackground : ready.background = none := by
    rw [← hready]
    exact hidle
  have hfree : ready.busyLeft = 0 := by
    rw [← hready]
  obtain ⟨htaken, hnone⟩ := submit_abort_taken name config transfer hbackground hfree
  have hpath := hwaited.concat (.single ready transfer.abortCommand)
  have hlength : (List.replicate before.busyLeft.toNat busyAnswer).length
      < transfer.stepRetry.maxAttempts.toNat := by
    rw [List.length_replicate]
    exact Nat.lt_of_le_of_lt (UInt32.le_iff_toNat_le.mp hsettled.busyLeft)
      (UInt32.lt_iff_toNat_lt.mp hbusy)
  obtain ⟨reply, hreply⟩ := Mailbox.submit_of_yields transfer.kind.opcode _ hretry
    (RetryPolicy.inTime_of_none hdeadline _) hpath
    (fun answer hanswer => List.eq_of_mem_replicate hanswer ▸ isRetryable_busyAnswer)
    htaken hlength
  cases hgives.result_eq.symm.trans hreply.result_eq
  rw [← hgives.mailbox_eq]
  constructor
  · rfl
  · exact (congrArg staging hreply.mailbox_eq).trans hnone

/-- A device that processes something puts the abort off. -/
theorem kept_of_running (hvalid : transfer.validate = .ok ())
    (hrunning : before.background.isSome)
    (h : Transfer.Abandoned (transport name config clock) transfer abortError before after) :
  abortError ≠ none ∧ Unmoved before after
  := by
  obtain ⟨waited, last, hpath, hlast⟩ := h.yields hvalid
  obtain ⟨hunmoved, hanswers⟩ := put_off_of_running hpath hrunning (by
    intro s hs
    obtain ⟨answer, -, rfl⟩ := List.mem_map.mp hs
    exact ⟨transfer.kind, _, rfl⟩)
  constructor
  · have hbusy : last = busyAnswer := hanswers ⟨transfer.abortCommand, last⟩ (by simp)
    rw [Ne, hlast, hbusy]
    exact not_isSuccess_busy
  · exact hunmoved

end

/-! ## What is staged after a failure -/

/-- When a step is not confirmed, the polls gave up while the device was processing something:
the step, which it has taken, or what it was processing before. -/
theorem unconfirmed_cases (hvalid : transfer.validate = .ok ())
    (haction : step.action ≠ .abort) (hsettled : Settled config before)
    (h : Transfer.Unconfirmed (transport name config clock) transfer step source before after) :
  source.IsTimeout ∧ after.background.isSome
    ∧ (Takes transfer step before after ∨ Keeps before after ∧ before.background.isSome)
  := by
  obtain ⟨between, polls, last, hsubmitted, hpolls, hnone, hsource⟩ := h.yields hvalid
  have hsettled' : Settled config between := by
    obtain ⟨_, _, hpath, -⟩ := hsubmitted
    exact hsettled.yields hpath
  obtain ⟨hrunning, hrunning'⟩ := running_of_unconfirmed hsettled' hpolls hnone
  have hkeeps := keeps_of_polls hpolls
  constructor
  -- The answer of a settled device is pending or a confirmation, so only a timeout is left.
  · apply hsource.resolve_right
    rintro ⟨_, hanswer, ⟨receipt, rfl⟩, hpending, hconfirmed⟩
    exact (answer_of_poll hsettled' hpolls hanswer).elim hpending hconfirmed
  constructor
  · exact hrunning'
  · rcases submitted_cases haction hsubmitted with htakes | hunmoved
    · exact .inl (htakes.keeps hkeeps)
    · right
      rw [← hunmoved.background]
      exact ⟨hunmoved.toKeeps.trans hkeeps, hrunning⟩

/-- Behind a block that is taken, something is staged unless it was the last one. -/
theorem Takes.staging_eq_none (h : Takes transfer step before after) :
  after.staging = none ↔ step.action = .end
  := by
  rw [h.staging]
  split
  · simp [*]
  · simp [*]

/-- A transfer to a new device fails at a step that the device does not take, or at one that
the device has taken and does not confirm in time.  In the first case the abort succeeds,
provided that it is sent often enough, and nothing is staged.  In the second case the abort
fails, and the device keeps what is staged, unless the step was the last one. -/
theorem staged_after_failure (name : String) (host : String) (image : Image) (state : State)
    (hbusy : config.busyReplies < transfer.stepRetry.maxAttempts)
    (hdeadline : transfer.stepRetry.deadline = none) {i : Nat} {action : Transfer.Action}
    {abortError : Option String}
    (h : (Transfer.run (transport name config clock) host transfer image
      (start config state)).result = .ok (.error (.transferFailed i action source abortError))) :
  let after := (Transfer.run (transport name config clock) host transfer image
    (start config state)).mailbox
  ∃ plan step m₁ m₂, transfer.plan image = .ok plan
    ∧ Transfer.Reached (transport name config clock) transfer plan step (start config state) m₁
    ∧ step.index = i ∧ step.action = action
    ∧ ((Transfer.Unsubmitted (transport name config clock) transfer step source m₁ m₂
        ∧ abortError = none ∧ after.transferPending = false)
      ∨ (Transfer.Unconfirmed (transport name config clock) transfer step source m₁ m₂
        ∧ source.IsTimeout ∧ abortError ≠ none
        ∧ (after.transferPending = false ↔ action = .end)))
  := by
  intro after
  rcases Transfer.failed_cases h with ⟨-, text, herror⟩
    | ⟨plan, step, m₁, m₂, source', abortError', hvalid, hplan, hreached, hcause, habandoned,
        herror⟩
  · cases herror
  · cases herror
    refine ⟨plan, step, m₁, m₂, hplan, hreached, rfl, rfl, ?_⟩
    obtain ⟨steps, rest, trace, delays, hsteps, hsent⟩ := hreached
    have haction : step.action ≠ .abort := by
      apply transfer.plan_action_ne_abort hplan
      rw [hsteps]
      apply List.mem_append_right
      apply List.mem_cons_self
    -- Each step before was confirmed, so nothing is processed when the failing step is sent.
    obtain ⟨hsettled, hidle⟩ := idle_of_sent hvalid hsent (settled_start config state) rfl
    rcases hcause with hcause | hcause
    · left
      obtain ⟨answers, hpath, hanswers⟩ := hcause.yields hvalid
      have hunmoved := unmoved_of_answers hpath hanswers
      obtain ⟨hsuccess, hnone⟩ := dropped_of_idle hvalid hbusy hdeadline (hsettled.yields hpath)
        (hunmoved.background.trans hidle) habandoned
      refine ⟨hcause, hsuccess, ?_⟩
      rw [transferPending, hnone]
      rfl
    · right
      obtain ⟨htimeout, hrunning, hcases⟩ := unconfirmed_cases hvalid haction hsettled hcause
      obtain ⟨herror, hunmoved⟩ := kept_of_running hvalid hrunning habandoned
      refine ⟨hcause, htimeout, herror, ?_⟩
      rcases hcases with htakes | ⟨-, hbefore⟩
      · rw [transferPending, Option.isSome_eq_false_iff, Option.isNone_iff_eq_none,
          hunmoved.staging, htakes.staging_eq_none]
      · rw [hidle] at hbefore
        cases hbefore

/-- A device that refuses the second step. -/
def refusing : Config :=
  { Config.default with failAtStep := some 1 }

theorem staged_after_failure_refusing :
  let run := Transfer.run (transport "mem0" refusing .still) "mem0" (.new .specDefined 2)
    ⟨List.replicate 128 1 ++ [2], none, nofun⟩ (start refusing .default)
  run.result = .ok (.error (.transferFailed 1 .end (.device .transferFw .internalError) none))
    ∧ run.mailbox.transferPending = false
  := by
  intro run
  have hresult : Transfer.failure? run.result
      = some (1, .end, .device .transferFw .internalError, none) := by
    decide +kernel
  have hresult := Transfer.failure?_eq_some.mp hresult
  obtain ⟨plan, step, m₁, m₂, -, -, -, -, hcases⟩ := staged_after_failure "mem0" "mem0"
    ⟨List.replicate 128 1 ++ [2], none, nofun⟩ .default (by decide) rfl hresult
  constructor
  · exact hresult
  · rcases hcases with ⟨-, -, hdropped⟩ | ⟨-, -, hfailed, -⟩
    · exact hdropped
    · exact absurd rfl hfailed

/-- A transfer that polls once for each step. -/
def hasty : Transfer.Config :=
  { Transfer.Config.new .specDefined 2 with
    stepRetry := ⟨3, .zero, none⟩
    poll := ⟨1, .zero, none⟩ }

/-- A device that needs two polls for a block keeps it staged after a transfer that polls once,
although the transfer is aborted. -/
theorem staged_after_one_poll :
  let run := Transfer.run (transport "mem0" .default .still) "mem0" hasty
    ⟨List.replicate 128 1 ++ [2], none, nofun⟩ (start .default .default)
  Config.default.busyReplies < hasty.stepRetry.maxAttempts ∧ hasty.stepRetry.deadline = none
    ∧ Transfer.failure? run.result = some (0, .initiate, .pollExhausted 0x0201 1 0,
      some "transfer-fw (0x0201) still Busy after 3 attempts")
    ∧ run.mailbox.transferPending = true
  := by
  decide +kernel

end Emulator

end CxlFirmware
