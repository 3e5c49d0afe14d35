import CxlFirmware.Proofs.ActivationPhases
import CxlFirmware.Proofs.Emulator.Agreement
import CxlFirmware.Proofs.Emulator.Operation

/-!
# Activations of an emulated device

A device that processes nothing looks at an activation once it is no longer busy.  It takes the
activation if nothing is staged, the slot is filled, and the slot runs after the next reset or the
device needs none; otherwise it refuses it, for the first of these that does not hold.  Within the
budget of the host, the activation comes to what the device makes of it, unless it is processed for
too many polls: then it ends the program.
-/

namespace CxlFirmware.Emulator

open Activation (Request)

variable {name host : String} {config : Config} {clock : Clock Emulator} {device : Emulator}
  {policy : RetryPolicy} {request : Request}

/-- An activation that does not wait for a reset is one at once. -/
theorem eq_online {action : Activation.Action} (h : action ≠ .onNextReset) :
  action = .online
  := by
  cases action with
  | online => rfl
  | onNextReset => exact absurd rfl h

/-- What the device makes of a request, once it is no longer busy. -/
def activation (name : String) (config : Config) (request : Request) (device : Emulator) :
    Verdict :=
  activate name config request.kind.opcode (Activation.encode request.action.code request.slot)
    (device.handling config request.kind.opcode)

/-- What is staged comes before the slot, and the slot before the reset. -/
theorem activation_of_staged (hstaging : device.staging ≠ none) :
  activation name config request device
    = ⟨.fwTransferInProgress, [], device.handling config request.kind.opcode⟩
  := activate_of_staged _ (Option.isSome_iff_ne_none.mpr hstaging)

theorem activation_of_empty (hstaging : device.staging = none)
    (hslot : device.state.slot? request.slot = none) :
  activation name config request device
    = ⟨.fwInvalidSlot, [], device.handling config request.kind.opcode⟩
  := activate_of_empty _ hstaging hslot

theorem activation_of_unsupported (hstaging : device.staging = none)
    (hslot : device.state.slot? request.slot ≠ none)
    (hunsupported : ¬ (request.action = .onNextReset ∨ config.onlineActivation = true)) :
  activation name config request device
    = ⟨.unsupported, [], device.handling config request.kind.opcode⟩
  := by
  obtain ⟨haction, honline⟩ := not_or.mp hunsupported
  rw [activation, eq_online haction]
  exact activate_of_unsupported hstaging hslot (eq_false_of_ne_true honline)

/-- With nothing against it, the device takes the request and begins to process it. -/
theorem activation_of_supported (hstaging : device.staging = none)
    (hslot : device.state.slot? request.slot ≠ none)
    (hsupported : request.action = .onNextReset ∨ config.onlineActivation = true) :
  ∃ records after, activation name config request device = ⟨.success, records, after⟩
    ∧ after.state = device.state.activate request.slot request.action
    ∧ after.staging = device.staging
    ∧ after.background
      = some ⟨request.kind.opcode, config.activationPolls, config.activationPolls⟩
  := by
  obtain ⟨records, hactivated⟩ := @activate_of_supported name config request.kind.opcode
    (device.handling config request.kind.opcode) request.action request.slot hstaging hslot
    hsupported
  exact ⟨records, _, hactivated, rfl, rfl, rfl⟩

/-- The commands with which the host gets there. -/
theorem yields_activation (name : String) (config : Config) (request : Request)
    (hbackground : device.background = none) :
  (transport name config clock).Yields device
    ((List.replicate device.busyLeft.toNat busyAnswer
        ++ [(activation name config request device).exchange.answer]).map (.mk request.command))
    (activation name config request device).device
  := yields_handled (gates_activation name config request.kind _) device hbackground

section

variable (hbackground : device.background = none) (hdeadline : policy.deadline = none)
  (hbusy : device.busyLeft < policy.maxAttempts)
include hbackground hdeadline hbusy

/-- An activation fails with the code with which the device refuses it. -/
theorem run_of_refused {status : Status}
    (hrefused : activation name config request device
      = ⟨status, [], device.handling config request.kind.opcode⟩)
    (hnamed : Status.ofCode status.code = status) (hcode : status.code ≠ 0)
    (hother : status.code ≠ 6 ∧ status.code ≠ 1) (host : String) :
  let run := Activation.run (transport name config clock) host policy request device
  run.result = .ok (.error (.device request.kind.opcode status))
    ∧ run.mailbox.state = device.state ∧ run.mailbox.staging = device.staging
  := by
  intro run
  have hvalid := RetryPolicy.validate_of_lt hbusy
  have hpath : (transport name config clock).Yields _ _ _ :=
    yields_activation name config request hbackground
  rw [hrefused] at hpath
  have hunmoved := unmoved_handling config request.kind.opcode device
  have hputsOff : ¬ Answer.PutsOff (.ok (.ok ⟨status.code, []⟩)) := by
    rintro (⟨payload, h⟩ | ⟨payload, h⟩)
    · exact hother.1 (Response.mk.inj (Except.ok.inj (Except.ok.inj h))).1
    · exact hother.2 (Response.mk.inj (Except.ok.inj (Except.ok.inj h))).1
  have hlength : (List.replicate device.busyLeft.toNat busyAnswer).length
      < policy.maxAttempts.toNat := by
    rw [List.length_replicate]
    exact UInt32.lt_iff_toNat_lt.mp hbusy
  have hsubmit := Mailbox.submit_of_refused hvalid (RetryPolicy.inTime_of_none hdeadline _) hpath
    (fun answer hanswer => Answer.isRetryable_iff.mp
      (List.eq_of_mem_replicate hanswer ▸ isRetryable_busyAnswer))
    ⟨[], rfl⟩ hcode hputsOff hlength
  rw [hnamed] at hsubmit
  have hrun := Activation.run_of_unsent hvalid host hsubmit
  refine ⟨hrun.result_eq, ?_, ?_⟩
  · exact (congrArg state hrun.mailbox_eq).trans hunmoved.state
  · exact (congrArg staging hrun.mailbox_eq).trans hunmoved.staging

/-- An activation that the device takes is submitted with success. -/
theorem gives_of_activated (clock : Clock Emulator) {records : List LogRecord} {after : Emulator}
    (htaken : activation name config request device = ⟨.success, records, after⟩) :
  ∃ reply trace delays, (Activation.submitRequest (transport name config clock) policy
    request).Gives device (.ok (.ok reply)) trace delays after
  := by
  have hpath : (transport name config clock).Yields _ _ _ :=
    yields_activation name config request hbackground
  rw [htaken] at hpath
  obtain ⟨reply, trace, hsubmit⟩ := submit_of_busy hdeadline hbusy hpath ⟨_, rfl, rfl⟩
  exact ⟨reply, trace, _, hsubmit⟩

/-- An activation that the device takes is confirmed, and leaves the device as it took it. -/
theorem run_of_activated {records : List LogRecord} {after : Emulator}
    (hshown : config.activationPolls.toNat ≤ shownPolls)
    (hpolls : config.activationPolls < policy.maxAttempts)
    (htaken : activation name config request device = ⟨.success, records, after⟩)
    (hrunning : after.background
      = some ⟨request.kind.opcode, config.activationPolls, config.activationPolls⟩)
    (host : String) :
  let run := Activation.run (transport name config clock) host policy request device
  (∃ report, run.result = .ok (.ok report)) ∧ run.mailbox.state = after.state
    ∧ run.mailbox.staging = after.staging
  := by
  intro run
  have hvalid := RetryPolicy.validate_of_lt hbusy
  obtain ⟨reply, trace, delays, hsubmit⟩ :=
    gives_of_activated hbackground hdeadline hbusy clock htaken
  obtain ⟨report, trace', later, hconfirm, hkeeps, -⟩ :=
    untilDone_of_shown hdeadline name request.kind.statusQuery hrunning hshown hpolls
  have hrun := Activation.run_of_sent hvalid host hsubmit hconfirm
  refine ⟨⟨report, hrun.result_eq⟩, ?_, ?_⟩
  · exact (congrArg state hrun.mailbox_eq).trans hkeeps.state
  · exact (congrArg staging hrun.mailbox_eq).trans hkeeps.staging

/-- If it is processed for too many polls, it ends the program. -/
theorem run_of_unreported {records : List LogRecord} {after : Emulator}
    (hlong : shownPolls < config.activationPolls.toNat)
    (hpolls : config.activationPolls < policy.maxAttempts)
    (htaken : activation name config request device = ⟨.success, records, after⟩)
    (hrunning : after.background
      = some ⟨request.kind.opcode, config.activationPolls, config.activationPolls⟩)
    (host : String) :
  (Activation.run (transport name config clock) host policy request device).result
    = .error .product
  := by
  have hvalid := RetryPolicy.validate_of_lt hbusy
  obtain ⟨reply, trace, delays, hsubmit⟩ :=
    gives_of_activated hbackground hdeadline hbusy clock htaken
  have hfault : (Activation.confirmRequest (transport name config clock) policy request
      after).result = .error .product :=
    untilDone_of_overflow hdeadline name request.kind.statusQuery hrunning hlong
      (Nat.lt_trans hlong (UInt32.lt_iff_toNat_lt.mp hpolls))
  have hrun := Activation.run_of_sent hvalid host hsubmit (.self _ after)
  exact hrun.result_eq.trans hfault

end

/-- On a device that processes nothing, an activation without a deadline, whose budget exceeds the
count of busy replies and of polls, succeeds exactly when nothing is staged, the slot is filled,
the slot runs after the next reset or the device can activate it without one, and the polls are not
too many to be reported.  Then the slot runs at once and none is left for the next reset, or it is
the one for the next reset, and nothing else of the lasting state is changed.  With too many polls
the activation ends the program.  Otherwise the device refuses it, for what is staged before the
slot and for the slot before the reset, and neither the lasting state nor what is staged is
changed. -/
theorem activation_succeeds_iff (name host : String) (config : Config) (request : Request)
    (hbackground : device.background = none) (hdeadline : policy.deadline = none)
    (hbusy : device.busyLeft < policy.maxAttempts)
    (hpolls : config.activationPolls < policy.maxAttempts) :
  let run := Activation.run (transport name config clock) host policy request device
  let filled := ∃ index, request.slot.toNat = index + 1 ∧ device.state.Filled index
  let supported := request.action = .onNextReset ∨ config.onlineActivation = true
  let refused := fun status : Status =>
    run.result = .ok (.error (.device request.kind.opcode status))
      ∧ run.mailbox.state = device.state ∧ run.mailbox.staging = device.staging
  ((∃ report, run.result = .ok (.ok report)) ↔ (device.staging = none ∧ filled ∧ supported)
      ∧ config.activationPolls.toNat ≤ shownPolls)
    ∧ ((∃ report, run.result = .ok (.ok report)) → run.mailbox.staging = none
      ∧ run.mailbox.state = match request.action with
        | .online => { device.state with activeSlot := request.slot, stagedSlot := 0 }
        | .onNextReset => { device.state with stagedSlot := request.slot })
    ∧ (device.staging ≠ none → refused .fwTransferInProgress)
    ∧ (device.staging = none → ¬ filled → refused .fwInvalidSlot)
    ∧ (device.staging = none → filled → ¬ supported → refused .unsupported)
    ∧ (device.staging = none → filled → supported →
      shownPolls < config.activationPolls.toNat → run.result = .error .product)
  := by
  intro run filled supported refused
  have hfilled : filled ↔ device.state.slot? request.slot ≠ none := by
    rw [Option.ne_none_iff_isSome, State.isSome_slot?]
  have hstaged : device.staging ≠ none → refused .fwTransferInProgress := by
    intro hstaging
    apply run_of_refused hbackground hdeadline hbusy (activation_of_staged hstaging) rfl
    · decide
    · decide
  have hempty : device.staging = none → ¬ filled → refused .fwInvalidSlot := by
    intro hstaging hslot
    have hnone := not_not.mp (mt hfilled.mpr hslot)
    apply run_of_refused hbackground hdeadline hbusy (activation_of_empty hstaging hnone) rfl
    · decide
    · decide
  have hunsupported : device.staging = none → filled → ¬ supported → refused .unsupported := by
    intro hstaging hslot hreset
    have hsome := hfilled.mp hslot
    apply run_of_refused hbackground hdeadline hbusy
      (activation_of_unsupported hstaging hsome hreset) rfl
    · decide
    · decide
  have htaken : device.staging = none → filled → supported →
      config.activationPolls.toNat ≤ shownPolls →
      (∃ report, run.result = .ok (.ok report))
        ∧ run.mailbox.state = device.state.activate request.slot request.action
        ∧ run.mailbox.staging = device.staging := by
    intro hstaging hslot hsupported hshown
    obtain ⟨records, after, hactivated, hstate, hkept, hrunning⟩ :=
      @activation_of_supported name config device request hstaging (hfilled.mp hslot) hsupported
    rw [← hstate, ← hkept]
    exact run_of_activated hbackground hdeadline hbusy hshown hpolls hactivated hrunning host
  have hoverflow : device.staging = none → filled → supported →
      shownPolls < config.activationPolls.toNat → run.result = .error .product := by
    intro hstaging hslot hsupported hlong
    obtain ⟨records, after, hactivated, -, -, hrunning⟩ :=
      @activation_of_supported name config device request hstaging (hfilled.mp hslot) hsupported
    exact run_of_unreported hbackground hdeadline hbusy hlong hpolls hactivated hrunning host
  have hsucceeds : (∃ report, run.result = .ok (.ok report))
      → (device.staging = none ∧ filled ∧ supported)
        ∧ config.activationPolls.toNat ≤ shownPolls := by
    rintro ⟨report, hreport⟩
    have hother {status : Status} : ¬ refused status := by
      rintro ⟨herror, -⟩
      cases hreport.symm.trans herror
    have hstaging : device.staging = none := not_not.mp (mt hstaged hother)
    have hslot : filled := not_not.mp (mt (hempty hstaging) hother)
    have hsupported : supported := not_not.mp (mt (hunsupported hstaging hslot) hother)
    refine ⟨⟨hstaging, hslot, hsupported⟩, Nat.le_of_not_lt fun hlong => ?_⟩
    cases hreport.symm.trans (hoverflow hstaging hslot hsupported hlong)
  refine ⟨⟨hsucceeds, ?_⟩, ?_, hstaged, hempty, hunsupported, hoverflow⟩
  · rintro ⟨⟨hstaging, hslot, hsupported⟩, hshown⟩
    exact (htaken hstaging hslot hsupported hshown).1
  · intro hreport
    obtain ⟨⟨hstaging, hslot, hsupported⟩, hshown⟩ := hsucceeds hreport
    obtain ⟨-, hstate, hstaging'⟩ := htaken hstaging hslot hsupported hshown
    exact ⟨hstaging'.trans hstaging, hstate⟩

/-- A state of four slots, the first two of which are filled. -/
def twoFilled : State :=
  { State.default with
    slots := [some ⟨"emu-1.0.0", 0, 0⟩, some ⟨"emu-2.0.0", 0, 0⟩, none, none] }

/-- Three attempts are enough for a device that is busy twice and runs for two polls. -/
theorem activation_succeeds_iff_hesitant :
  let policy : RetryPolicy := ⟨3, .ofMillis 10, none⟩
  let run := fun slot => Activation.run (transport "mem0" hesitant .still) "mem0" policy
    ⟨.specDefined, .online, slot⟩ (start hesitant twoFilled)
  (∃ report, (run 2).result = .ok (.ok report))
    ∧ (run 2).mailbox.state = { twoFilled with activeSlot := 2 }
    ∧ (run 3).result = .ok (.error (.device .activateFw .fwInvalidSlot))
  := by
  intro policy run
  have hbusy : (start hesitant twoFilled).busyLeft < policy.maxAttempts := by decide
  have hpolls : hesitant.activationPolls < policy.maxAttempts := by decide
  obtain ⟨hsucceeds, hstate, -⟩ := @activation_succeeds_iff .still _ _ "mem0" "mem0" hesitant
    ⟨.specDefined, .online, 2⟩ rfl rfl hbusy hpolls
  obtain ⟨-, -, -, hempty, -⟩ := @activation_succeeds_iff .still _ _ "mem0" "mem0" hesitant
    ⟨.specDefined, .online, 3⟩ rfl rfl hbusy hpolls
  have hreport := hsucceeds.mpr ⟨⟨rfl, ⟨1, rfl, _, rfl⟩, .inr rfl⟩, by decide⟩
  refine ⟨hreport, (hstate hreport).2, (hempty rfl ?_).1⟩
  rintro ⟨index, hindex, image, himage⟩
  obtain rfl : index = 2 := Nat.succ.inj hindex.symm
  cases himage

/-- An activation within its budget ends the program on a device that processes it for one query
more than it can report. -/
theorem activation_overflows :
  let policy : RetryPolicy := ⟨42949675, .zero, none⟩
  let run := Activation.run (transport "mem0" .protracted .still) "mem0" policy
    ⟨.specDefined, .online, 1⟩ (start .protracted .default)
  (start .protracted .default).busyLeft < policy.maxAttempts
    ∧ Config.protracted.activationPolls < policy.maxAttempts
    ∧ State.default.Filled 0 ∧ Config.protracted.onlineActivation = true
    ∧ run.result = .error .product
  := by
  intro policy run
  have hbusy : (start .protracted .default).busyLeft < policy.maxAttempts := by decide
  have hpolls : Config.protracted.activationPolls < policy.maxAttempts := by decide
  obtain ⟨records, after, hactivated, -, -, hrunning⟩ := @activation_of_supported "mem0"
    .protracted (start .protracted .default) ⟨.specDefined, .online, 1⟩ rfl (by decide) (.inr rfl)
  refine ⟨hbusy, hpolls, ⟨_, rfl⟩, rfl, ?_⟩
  exact run_of_unreported rfl rfl hbusy (by decide) hpolls hactivated hrunning "mem0"

end CxlFirmware.Emulator
