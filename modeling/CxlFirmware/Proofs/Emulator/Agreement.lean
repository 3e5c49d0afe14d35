import CxlFirmware.Device
import CxlFirmware.Proofs.Emulator.Pace

/-!
# Host and device in agreement

A transfer to a new device is complete exactly when the budget of a step exceeds the count of
its busy replies, the budget for confirming a step exceeds the count of its polls, which are
not too many to be reported, and the target may be written.  A complete one changes the target
and nothing else of the lasting state, and its commands and delays are known in advance.  With
too many polls it ends the program.
-/

namespace CxlFirmware

open Transfer (Step Plan Carries)

/-! ## Claimed devices -/

section

variable {σ α : Type} {device : Device σ} {work : Workflow σ (Except Error α)}

/-- A claim on a device that is not busy only adds log records. -/
theorem Device.quiet_claimed (hgate : device.gate.isActive = .ok false) :
  (device.claimed work).quiet = work.quiet
  := by
  rw [claimed, claim, hgate]
  simp only [Workflow.quiet_bind, Workflow.quiet_log, Workflow.quiet_pure, release, pure_bind,
    bind_pure]

theorem Device.result_claimed (hgate : device.gate.isActive = .ok false) (m : σ) :
  (device.claimed work m).result = (work m).result
  := by
  rw [← Workflow.result_quiet, quiet_claimed hgate, Workflow.result_quiet]

/-- Claimed work comes to what the work comes to. -/
theorem Device.gives_claimed (hgate : device.gate.isActive = .ok false) {m m' : σ}
    {result : Except Fault (Except Error α)} {trace : List Submission} {delays : List Duration} :
  (device.claimed work).Gives m result trace delays m' ↔ work.Gives m result trace delays m'
  := by
  rw [← Workflow.Gives.quiet_iff, quiet_claimed hgate, Workflow.Gives.quiet_iff]

end

namespace Emulator

variable {name : String} {config : Config} {clock : Clock Emulator} {transfer : Transfer.Config}
  {step : Step} {steps : List Step} {device : Emulator} {image : Image} {state : State}
  {index : Nat} {data : Bytes}

/-! ## The place of a block -/

/-- What has to be staged before block number `index` of a transfer. -/
def Expects (transfer : Transfer.Config) (index : Nat) (device : Emulator) : Prop :=
  match index with
  | 0 => device.staging = none
  | index + 1 => ∃ staged, device.staging = some ⟨transfer.kind.opcode, transfer.slot, staged⟩
      ∧ staged.length = (index + 1) * transfer.blockSize

/-- The next block comes where it has to come. -/
theorem offset_of_carries {rest : List Step}
    (hcarries : Carries transfer.blockSize index (step :: rest) data)
    (hexpects : Expects transfer index device) :
  expectedOffset device.staging transfer.kind.opcode step.action transfer.slot
    = some step.offset.toNat
  := by
  cases index with
  | zero =>
      rw [hexpects]
      cases hcarries with
      | last hoffset hpos hlength =>
          rw [hoffset, Nat.zero_mul]
          rfl
      | more hoffset hlength hrest =>
          rw [hoffset, Nat.zero_mul]
          rfl
  | succ index =>
      obtain ⟨staged, hstaging, hstaged⟩ := hexpects
      rw [hstaging]
      cases hcarries with
      | last hoffset hpos hlength => simp [expectedOffset, hoffset, hstaged]
      | more hoffset hlength hrest => simp [expectedOffset, hoffset, hstaged]

/-- A block that is taken leaves staged what the one after it expects. -/
theorem expects_of_takes {offset : UInt32} {block : Bytes} {after : Emulator}
    (hlength : block.length = transfer.blockSize) (hexpects : Expects transfer index device)
    (htakes : Takes transfer ⟨index, if index = 0 then .initiate else .continue, offset, block⟩
      device after) :
  Expects transfer (index + 1) after ∧ after.state = device.state
  := by
  have hstaging := htakes.staging
  have hstate := htakes.state
  cases index with
  | zero =>
      rw [if_neg (by simp), if_pos rfl, extend_initiate] at hstaging
      rw [if_neg (by simp)] at hstate
      constructor
      · use block, hstaging
        rw [hlength, Nat.zero_add, Nat.one_mul]
      · exact hstate
  | succ index =>
      obtain ⟨staged, hbefore, hstaged⟩ := hexpects
      rw [if_neg (by simp), if_neg (Nat.succ_ne_zero index), hbefore] at hstaging
      rw [if_neg (by simp)] at hstate
      constructor
      · use staged ++ block, hstaging
        rw [List.length_append, hstaged, hlength, Nat.succ_mul (index + 1)]
      · exact hstate

/-! ## The course of a transfer on a device -/

/-- The delays while a device takes a block. -/
def pauses (config : Config) (transfer : Transfer.Config) : List Duration :=
  List.replicate config.busyReplies.toNat transfer.stepRetry.delay
    ++ List.replicate config.processingPolls.toNat transfer.poll.delay

/-- The codes of the commands with which a device takes a block, the latest first. -/
def commands (config : Config) (transfer : Transfer.Config) : List UInt16 :=
  List.replicate (config.processingPolls.toNat + 1) transfer.kind.statusQuery.opcode.code
    ++ List.replicate (config.busyReplies.toNat + 1) transfer.kind.opcode.code

section

variable (hfail : config.failAtStep = none)
include hfail

section

variable (hretry : transfer.stepRetry.deadline = none) (hpoll : transfer.poll.deadline = none)
  (hbusy : config.busyReplies < transfer.stepRetry.maxAttempts)
  (hpolls : config.processingPolls < transfer.poll.maxAttempts)
  (hshown : config.processingPolls.toNat ≤ shownPolls)
include hretry hpoll hbusy hpolls hshown

/-- Within its budgets, a step is done on a device that is ready for its block. -/
theorem stepDone_of_waiting (name : String) (hwaiting : Waiting config device)
    (haction : step.action ≠ .abort) (htarget : device.state.Allows transfer)
    (hoffset : expectedOffset device.staging transfer.kind.opcode step.action transfer.slot
      = some step.offset.toNat) :
  ∃ trace after, Transfer.StepDone (transport name config clock) transfer step device trace
      (pauses config transfer) after
    ∧ Takes transfer step device after ∧ Waiting config after
    ∧ after.history = commands config transfer ++ device.history
  := by
  obtain ⟨taken, between, hsuccess, hsent, htakes, hbackground, hleft, hhistory⟩ := yields_taken
    name hwaiting hfail haction htarget hoffset
  obtain ⟨reply, trace, hsubmit⟩ := submit_of_busy hretry hbusy hsent hsuccess
  obtain ⟨report, trace', after, hconfirm, hkeeps, hnone, hleft', hhistory'⟩ :=
    untilDone_of_shown hpoll name transfer.kind.statusQuery hbackground hshown hpolls
  refine ⟨_, after, .mk hsubmit hconfirm, htakes.keeps hkeeps, ⟨hnone, hleft'.trans hleft⟩, ?_⟩
  rw [hhistory', hhistory, commands, List.append_assoc]

/-- Within its budgets, the steps of a transfer are done on a device that is ready for the
first of them. -/
theorem sent_of_waiting (name : String) (hcarries : Carries transfer.blockSize index steps data)
    (hwaiting : Waiting config device) (htarget : device.state.Allows transfer)
    (hexpects : Expects transfer index device) :
  ∃ trace after, Transfer.Sent (transport name config clock) transfer steps device trace
      (List.replicate steps.length (pauses config transfer)).flatten after
    ∧ TakesAll transfer steps device after ∧ Waiting config after
    ∧ after.history = (List.replicate steps.length (commands config transfer)).flatten
      ++ device.history
  := by
  -- A step that is done leaves the device ready, and staged what the next step expects.
  induction hcarries generalizing device with
  | last hoffset hpos hlength =>
      obtain ⟨trace, after, hdone, htakes, hready, hhistory⟩ := stepDone_of_waiting
        hfail hretry hpoll hbusy hpolls hshown name hwaiting (by simp) htarget
        (offset_of_carries (.last hoffset hpos hlength) hexpects)
      use trace ++ [], after
      constructor
      · exact .cons hdone (.nil after)
      · refine ⟨.cons htakes (.nil after), hready, ?_⟩
        rw [hhistory, List.length_singleton, List.replicate_one, List.flatten_singleton]
  | @more index offset block data rest hoffset hlength hrest ih =>
      have haction : (if index = 0 then Transfer.Action.initiate else .continue) ≠ .abort := by
        split
        · nofun
        · nofun
      obtain ⟨trace, between, hdone, htakes, hready, hhistory⟩ := stepDone_of_waiting
        hfail hretry hpoll hbusy hpolls hshown name hwaiting haction htarget
        (offset_of_carries (.more hoffset hlength hrest) hexpects)
      obtain ⟨hnext, hstate⟩ := expects_of_takes hlength hexpects htakes
      rw [← hstate] at htarget
      obtain ⟨trace', after, hsent, htakes', hready', hhistory'⟩ := ih hready htarget hnext
      use trace ++ trace', after
      constructor
      · exact .cons hdone hsent
      · refine ⟨.cons htakes htakes', hready', ?_⟩
        rw [hhistory', hhistory, List.length_cons, List.replicate_succ', List.flatten_append,
          List.flatten_singleton, List.append_assoc]

/-- Within its budgets, a transfer to a new device is complete. -/
theorem run_of_budgets (name host : String) {plan : Plan} (hplan : transfer.plan image = .ok plan)
    (hmock : transfer.mock = false) (htarget : state.Allows transfer) :
  ∃ trace after, (Transfer.run (transport name config clock) host transfer image).Gives
      (start config state) (.ok (.ok (.completed plan.steps.length image.size))) trace
      (List.replicate plan.steps.length (pauses config transfer)).flatten after
    ∧ after.state = state.store transfer (.ofData image.data) ∧ after.staging = none
    ∧ after.background = none
    ∧ after.history = (List.replicate plan.steps.length (commands config transfer)).flatten
  := by
  have hcarries := transfer.plan_carries hplan hmock
  have hvalid : transfer.validate = .ok () := by
    rw [Transfer.Config.validate, transfer.plan_blockSize hplan,
      RetryPolicy.validate_of_lt hbusy, RetryPolicy.validate_of_lt hpolls]
    rfl
  have hwaiting : Waiting config (start config state) := ⟨rfl, rfl⟩
  obtain ⟨trace, after, hsent, htakes, hready, hhistory⟩ := sent_of_waiting hfail hretry hpoll
    hbusy hpolls hshown name hcarries hwaiting htarget rfl
  obtain ⟨-, hnone, hstate⟩ := content_of_idle hcarries htakes rfl
  have hrun := Transfer.run_of_sent host hvalid hplan hmock hsent
  rw [transfer.plan_byteCount hplan hmock] at hrun
  rw [start, List.append_nil] at hhistory
  exact ⟨trace, after, hrun, hstate, hnone, hready.background, hhistory⟩

end

/-- If a block is processed for too many polls, and the budgets reach as far as that, the transfer
ends the program. -/
theorem run_of_overflow (name host : String) {plan : Plan} (hplan : transfer.plan image = .ok plan)
    (hmock : transfer.mock = false) (hretry : transfer.stepRetry.deadline = none)
    (hpoll : transfer.poll.deadline = none)
    (hbusy : config.busyReplies < transfer.stepRetry.maxAttempts)
    (htarget : state.Allows transfer) (hlong : shownPolls < config.processingPolls.toNat)
    (hpolls : shownPolls < transfer.poll.maxAttempts.toNat) :
  (Transfer.run (transport name config clock) host transfer image (start config state)).result
    = .error .product
  := by
  have hpollValid : transfer.poll.validate = .ok () :=
    RetryPolicy.validate_of_pos (Nat.zero_lt_of_lt hpolls)
  have hvalid : transfer.validate = .ok () := by
    rw [Transfer.Config.validate, transfer.plan_blockSize hplan,
      RetryPolicy.validate_of_lt hbusy, hpollValid]
    rfl
  have hcarries := transfer.plan_carries hplan hmock
  obtain ⟨step, rest, hsteps⟩ := List.exists_cons_of_ne_nil (transfer.plan_ne_nil hplan)
  have haction : step.action ≠ .abort := by
    apply transfer.plan_action_ne_abort hplan
    rw [hsteps]
    apply List.mem_cons_self
  rw [hsteps] at hcarries
  have hwaiting : Waiting config (start config state) := ⟨rfl, rfl⟩
  have hexpects : Expects transfer 0 (start config state) := rfl
  -- The first block is taken, and then asked after once too often.
  obtain ⟨taken, between, hsuccess, hsent, -, hbackground, -⟩ := yields_taken name hwaiting
    hfail haction htarget (offset_of_carries hcarries hexpects)
  obtain ⟨reply, trace, hsubmit⟩ := submit_of_busy hretry hbusy hsent hsuccess
  have hfault : (Transfer.confirmStep (transport name config clock) transfer between).result
      = .error .product :=
    untilDone_of_overflow hpoll name transfer.kind.statusQuery hbackground hlong hpolls
  have hconfirm := Workflow.Gives.self (Transfer.confirmStep (transport name config clock) transfer)
    between
  rw [hfault] at hconfirm
  exact (Transfer.run_of_fault host hvalid hplan hsteps (.nil _)
    (.confirm hsubmit hconfirm)).result_eq

/-- A transfer to a new device is complete only within its budgets. -/
theorem budgets_of_completed {host : String} {blocks bytes : Nat}
    (h : (Transfer.run (transport name config clock) host transfer image
      (start config state)).result = .ok (.ok (.completed blocks bytes))) :
  config.busyReplies < transfer.stepRetry.maxAttempts
    ∧ config.processingPolls < transfer.poll.maxAttempts ∧ state.Allows transfer
    ∧ config.processingPolls.toNat ≤ shownPolls
  := by
  obtain ⟨-, plan, groups, hplan, hgroups, hpath⟩ := Transfer.groups_of_completed h
  cases hsteps : plan.steps with
  | nil => exact absurd hsteps (transfer.plan_ne_nil hplan)
  | cons step rest =>
      have hfirst : plan.steps[0]? = some step := by
        rw [hsteps]
        rfl
      obtain ⟨-, -, haction⟩ := transfer.plan_step hplan hfirst
      rw [hsteps] at hgroups
      cases hgroups with
      | cons hgroup hgroups =>
          obtain ⟨after, hfirst, -⟩ := hpath.split
          have htakes := takes_of_group (.inl hfail) haction hfirst hgroup
          obtain ⟨_, _, rfl, ⟨waited, last, rfl, hwaited, hwaits, hlast⟩,
            ⟨polls, final, rfl, hpolled, hpolls, hfinal⟩⟩ := hgroup
          obtain ⟨between, hsent, hstatus⟩ := hfirst.split
          -- The device has only one way to answer the commands of the first step.
          obtain ⟨taken, between', hsuccess, hsent', -, hbackground, -, -⟩ := yields_taken
            name ⟨rfl, rfl⟩ hfail haction htakes.target htakes.offset
          obtain ⟨rfl, -, rfl⟩ := hsent.repeated_unique
            (Mailbox.judges transfer.kind.opcode).exclusive hsent' hwaits
            (fun answer hanswer => List.eq_of_mem_replicate hanswer ▸ isRetryable_busyAnswer)
            hlast hsuccess
          have hshown : config.processingPolls.toNat ≤ shownPolls := by
            by_contra hlong
            obtain ⟨polls', after', -, hpending, hoverflow⟩ := @yields_overflow config clock between
              _ name transfer.kind.statusQuery _ hbackground (Nat.lt_of_not_le hlong)
            have hends : ∀ answer, transfer.kind.statusQuery.IsPending answer →
                ¬ (transfer.kind.statusQuery.IsConfirmed answer ∨ answer = overflowAnswer) := by
              rintro answer hwait (hconfirmed | rfl)
              · exact (Poll.judges transfer.kind.statusQuery).exclusive answer hwait hconfirmed
              · exact transfer.kind.statusQuery.not_isPending_fault .product hwait
            obtain ⟨-, rfl, -⟩ := hstatus.repeated_unique hends hoverflow hpolls hpending
              (.inl hfinal) (.inr rfl)
            exact transfer.kind.statusQuery.not_isConfirmed_fault .product hfinal
          obtain ⟨polls', finished, after', hlength, hpending, hconfirmed, hstatus', -⟩ :=
            yields_confirmed name transfer.kind.statusQuery hbackground hshown
          obtain ⟨rfl, -, -⟩ := hstatus.repeated_unique
            (Poll.judges transfer.kind.statusQuery).exclusive hstatus' hpolls hpending hfinal
            hconfirmed
          rw [List.length_replicate] at hwaited
          rw [hlength] at hpolled
          exact ⟨UInt32.lt_iff_toNat_lt.mpr hwaited, UInt32.lt_iff_toNat_lt.mpr hpolled,
            htakes.target, hshown⟩

end

/-! ## How many commands there are -/

theorem count_flatten_replicate (codes : List UInt16) (code : UInt16) (count : Nat) :
  (List.replicate count codes).flatten.count code = count * codes.count code
  := by
  rw [List.count_flatten, List.map_replicate, List.sum_replicate_nat]

theorem opcode_ne_status (transfer : Transfer.Config) :
  transfer.kind.opcode.code ≠ transfer.kind.statusQuery.opcode.code
  := by
  intro h
  apply transfer.opcode_ne_statusCommand []
  rw [h]
  rfl

/-- A device takes each block with one transfer command more than it puts off. -/
theorem count_commands_transfer (config : Config) (transfer : Transfer.Config) :
  (commands config transfer).count transfer.kind.opcode.code = config.busyReplies.toNat + 1
  := by
  rw [commands, List.count_append, List.count_replicate_self, List.count_eq_zero.mpr, Nat.zero_add]
  intro h
  exact opcode_ne_status transfer (List.eq_of_mem_replicate h)

/-- It is queried once more than it reports the block as running. -/
theorem count_commands_status (config : Config) (transfer : Transfer.Config) :
  (commands config transfer).count transfer.kind.statusQuery.opcode.code
    = config.processingPolls.toNat + 1
  := by
  rw [commands, List.count_append, List.count_replicate_self, List.count_eq_zero.mpr, Nat.add_zero]
  intro h
  exact opcode_ne_status transfer (List.eq_of_mem_replicate h).symm

/-! ## Agreement -/

/-- A transfer to a new device that is not busy is complete exactly when its budgets exceed
the counts of busy replies and of polls, the polls are not too many to be reported, and the
device may write the target.  Then the lasting state has the image in the target and is otherwise
the same, nothing is staged or processed, and the device has been sent as many commands, with as
many delays between them, as its blocks need.  With too many polls, the transfer ends the program
as soon as its budget for them goes as far. -/
theorem claimed_transfer_completed_iff {plan : Plan} (hfail : config.failAtStep = none)
    (hidle : state.busy = false) (hplan : transfer.plan image = .ok plan)
    (hmock : transfer.mock = false) (hretry : transfer.stepRetry.deadline = none)
    (hpoll : transfer.poll.deadline = none) (id : UInt32) (name : String) :
  let device : Device Emulator := ⟨id, name, transport name config clock, initialGate state⟩
  let run := device.claimed (Transfer.run device.transport device.name transfer image)
    (start config state)
  let completed := run.result = .ok (.ok (.completed plan.steps.length image.size))
  (completed ↔ config.busyReplies < transfer.stepRetry.maxAttempts
      ∧ config.processingPolls < transfer.poll.maxAttempts ∧ state.Allows transfer
      ∧ config.processingPolls.toNat ≤ shownPolls)
    ∧ (completed →
      run.mailbox.state = state.store transfer (.ofData image.data)
      ∧ run.mailbox.staging = none ∧ run.mailbox.background = none
      ∧ run.mailbox.history
        = (List.replicate plan.steps.length (commands config transfer)).flatten
      ∧ run.mailbox.history.count transfer.kind.opcode.code
        = plan.steps.length * (config.busyReplies.toNat + 1)
      ∧ run.mailbox.history.count transfer.kind.statusQuery.opcode.code
        = plan.steps.length * (config.processingPolls.toNat + 1)
      ∧ run.sleeps = (List.replicate plan.steps.length (pauses config transfer)).flatten)
    ∧ (config.busyReplies < transfer.stepRetry.maxAttempts → state.Allows transfer →
      shownPolls < config.processingPolls.toNat →
      shownPolls < transfer.poll.maxAttempts.toNat → run.result = .error .product)
  := by
  intro device run completed
  have hgate : device.gate.isActive = .ok false := by
    change (initialGate state).isActive = .ok false
    rw [initialGate, hidle]
    rfl
  have hresult : run.result = (Transfer.run device.transport device.name transfer image
      (start config state)).result :=
    Device.result_claimed hgate _
  refine ⟨⟨?_, ?_⟩, ?_, ?_⟩
  · intro hcompleted
    exact budgets_of_completed hfail (hresult.symm.trans hcompleted)
  · rintro ⟨hbusy, hpolls, htarget, hshown⟩
    obtain ⟨trace, after, hrun, -⟩ := run_of_budgets hfail hretry hpoll hbusy hpolls hshown name
      name hplan hmock htarget
    exact hresult.trans hrun.result_eq
  · intro hcompleted
    obtain ⟨hbusy, hpolls, htarget, hshown⟩ :=
      budgets_of_completed hfail (hresult.symm.trans hcompleted)
    obtain ⟨trace, after, hrun, hstate, hstaging, hbackground, hhistory⟩ := run_of_budgets
      hfail hretry hpoll hbusy hpolls hshown name name hplan hmock htarget
    obtain ⟨-, -, hsleeps, hmailbox⟩ := (Device.gives_claimed hgate).mpr hrun
    have hafter : run.mailbox = after := hmailbox
    rw [hafter, hhistory, count_flatten_replicate, count_flatten_replicate,
      count_commands_transfer, count_commands_status]
    exact ⟨hstate, hstaging, hbackground, rfl, rfl, rfl, hsleeps⟩
  · intro hbusy htarget hlong hpolls
    exact hresult.trans (run_of_overflow hfail name name hplan hmock hretry hpoll hbusy htarget
      hlong hpolls)

/-- A device that is busy twice before it takes a block. -/
def hesitant : Config :=
  { Config.default with busyReplies := 2, processingPolls := 3 }

/-- A transfer with budgets that are just enough for it. -/
def patient : Transfer.Config :=
  { Transfer.Config.new .specDefined 2 with
    stepRetry := ⟨3, .ofMillis 10, none⟩
    poll := ⟨4, .ofMillis 20, none⟩ }

theorem claimed_transfer_just_enough :
  let run := Device.claimed ⟨0, "mem0", transport "mem0" hesitant .still, initialGate .default⟩
    (Transfer.run (transport "mem0" hesitant .still) "mem0" patient
      ⟨List.replicate 128 1 ++ [2], none, nofun⟩) (start hesitant .default)
  run.result = .ok (.ok (.completed 2 129))
    ∧ run.mailbox.state = State.default.store patient (.ofData (List.replicate 128 1 ++ [2]))
    ∧ run.mailbox.history.count Opcode.transferFw.code = 6
    ∧ run.sleeps.length = 10
  := by
  have hfail : hesitant.failAtStep = none := rfl
  have hidle : State.default.busy = false := rfl
  have hplan : patient.plan ⟨List.replicate 128 1 ++ [2], none, nofun⟩
      = .ok ⟨[⟨0, .initiate, 0, List.replicate 128 1⟩, ⟨1, .end, 1, [2]⟩], 129⟩ := by
    decide +kernel
  have hagrees := @claimed_transfer_completed_iff hesitant .still patient _ _ _ hfail hidle hplan
    rfl rfl rfl 0 "mem0"
  dsimp only at hagrees ⊢
  obtain ⟨hiff, hcompleted, -⟩ := hagrees
  have hresult := hiff.mpr ⟨by decide, by decide, .inr (by decide), by decide⟩
  obtain ⟨hstate, -, -, -, hcount, -, hsleeps⟩ := hcompleted hresult
  refine ⟨hresult, hstate, hcount, ?_⟩
  rw [hsleeps]
  rfl

/-- A device that processes a block for one more query than it can report. -/
def sluggish : Config :=
  { Config.default with processingPolls := 42949674 }

/-- A transfer with a budget of polls that exceeds even that. -/
def untiring : Transfer.Config :=
  { Transfer.Config.new .specDefined 2 with
    stepRetry := ⟨1, .zero, none⟩
    poll := ⟨42949675, .zero, none⟩ }

/-- The transfer is within its budgets, and ends the program all the same. -/
theorem claimed_transfer_overflows :
  let run := Device.claimed ⟨0, "mem0", transport "mem0" sluggish .still, initialGate .default⟩
    (Transfer.run (transport "mem0" sluggish .still) "mem0" untiring ⟨[2], none, nofun⟩)
    (start sluggish .default)
  sluggish.busyReplies < untiring.stepRetry.maxAttempts
    ∧ sluggish.processingPolls < untiring.poll.maxAttempts ∧ State.default.Allows untiring
    ∧ run.result = .error .product
  := by
  intro run
  have hplan : untiring.plan ⟨[2], none, nofun⟩ = .ok ⟨[⟨0, .end, 0, [2]⟩], 1⟩ := by
    decide +kernel
  have hbusy : sluggish.busyReplies < untiring.stepRetry.maxAttempts := by
    decide
  have htarget : State.default.Allows untiring := .inr (by decide)
  have hresult : run.result = (Transfer.run (transport "mem0" sluggish .still) "mem0" untiring
      ⟨[2], none, nofun⟩ (start sluggish .default)).result :=
    Device.result_claimed rfl _
  refine ⟨hbusy, by decide, htarget, hresult.trans ?_⟩
  exact run_of_overflow rfl "mem0" "mem0" hplan rfl rfl rfl hbusy htarget (by decide) (by decide)

end Emulator

end CxlFirmware
