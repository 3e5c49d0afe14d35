import CxlFirmware.Proofs.Emulator.Confinement
import CxlFirmware.Proofs.Transfer.Progress

/-!
# Mock transfers

A mock transfer sends the first block as one that initiates, and an abort, but neither a block
that continues nor one that ends.  So no device commits anything of it, whatever it has been
through before.  Once its only step is done, it reports so, aborts, and ends as a mock
transfer, whether the abort succeeds or not.
-/

namespace CxlFirmware

namespace Emulator

variable {clock : Clock Emulator}

/-- The order neither continues nor ends a transfer. -/
def Order.IsTentative (order : Order) : Prop :=
  order.action = .initiate ∨ order.action = .abort

/-- Such an order leaves the lasting state as it is. -/
theorem Order.IsTentative.state {name : String} {config : Config} {command : Command}
    {order : Order} (h : order.IsTentative) (horder : command.order? = some order)
    (device : Emulator) :
  ((transport name config clock).submit command device).mailbox.state = device.state
  := by
  have hend : order.step.action ≠ .end := by
    intro hend
    rcases h with hinitiate | habort
    · cases hinitiate.symm.trans hend
    · cases habort.symm.trans hend
  rcases (effect_submit name config clock command device).order_cases horder with
    ⟨hunmoved, -⟩ | ⟨-, -, hstate, -⟩ | ⟨-, -, htakes⟩
  · exact hunmoved.state
  · exact hstate
  · rw [htakes.state, if_neg hend]

end Emulator

namespace Transfer

open Emulator (Order)

variable {σ : Type} {config : Config} {image : Image} {plan : Plan} {command : Command}
  {clock : Clock Emulator}

/-! ## The only step -/

/-- The only step of a mock transfer. -/
def Config.trial (config : Config) (image : Image) : Step :=
  ⟨0, .initiate, 0, image.data.take config.blockSize⟩

theorem Config.plan_eq_ok_of_mock (hmock : config.mock = true) :
  config.plan image = .ok plan
    ↔ validateBlockSize config.blockSize = .ok () ∧ plan = ⟨[config.trial image], image.size⟩
  := by
  rw [Config.plan, if_pos hmock, Plan.mock]
  cases validateBlockSize config.blockSize with
  | error error => simp
  | ok _ =>
      simp only [Except.ok.injEq, true_and, trial]
      exact eq_comm

/-- The order in an abort. -/
theorem Config.order?_abortCommand (config : Config) :
  config.abortCommand.order?
    = some ⟨config.kind, .abort, config.slot, 0, List.replicate config.blockSize 0⟩
  := config.order?_command ⟨0, .abort, 0, List.replicate config.blockSize 0⟩

/-- A mock transfer asks for the status, or sends an order that neither continues nor ends a
transfer. -/
theorem Config.Sends.tentative (hmock : config.mock = true) (h : config.Sends image command) :
  command = config.statusCommand ∨ ∃ order, command.order? = some order ∧ order.IsTentative
  := by
  rcases h with hstatus | rfl | ⟨plan, step, hplan, hstep, rfl⟩
  · exact .inl hstatus
  · exact .inr ⟨_, config.order?_abortCommand, .inr rfl⟩
  · obtain ⟨-, rfl⟩ := (config.plan_eq_ok_of_mock hmock).mp hplan
    obtain rfl := List.mem_singleton.mp hstep
    exact .inr ⟨_, config.order?_command _, .inl rfl⟩

/-- Its transfer commands initiate or abort. -/
theorem tentative_of_submitted (hmock : config.mock = true) (transport : Transport σ)
    (device : String) (m : σ) {s : Submission}
    (hs : s ∈ (run transport device config image m).submissions)
    (hopcode : s.command.opcode = config.kind.opcode.code) :
  ∃ order, s.command.order? = some order ∧ order.IsTentative
  := by
  obtain ⟨-, hsends⟩ := follows_run transport device config image m
  rcases (hsends s hs).tentative hmock with hstatus | horder
  · exfalso
    apply config.opcode_ne_statusCommand s.command.payload
    rw [← hopcode, ← hstatus]
  · exact horder

/-! ## The course of a mock transfer -/

section

variable {transport : Transport σ} {m m' : σ} {trace : List Submission} {delays : List Duration}
  (hmock : config.mock = true) (hvalid : config.validate = .ok ()) (device : String)
include hmock hvalid

/-- A mock transfer whose step is done reports it.  It aborts, and ends the program only where the
abort has no payload, cannot be told whether it is late, or gets a fault. -/
theorem mock_of_done
    (hdone : StepDone transport config (config.trial image) m trace delays m') :
  let transferred := run transport device config image m
  transferred.reports = [⟨1, 1, .initiate, (image.data.take config.blockSize).length, image.size⟩]
    ∧ (reserve config = .ok () → transport.Times config.stepRetry → transferred.Answered →
      ∃ outcome aborts, Aborts transport config m' outcome aborts
        ∧ transferred.result = .ok (.ok (.mockAborted (errorText outcome)))
        ∧ transferred.submissions = trace ++ aborts)
  := by
  intro transferred
  have hplan : config.plan image = .ok ⟨[config.trial image], image.size⟩ :=
    (config.plan_eq_ok_of_mock hmock).mpr ⟨(config.validate_eq_ok hvalid).1, rfl⟩
  have hsent := Sent.cons hdone (.nil m')
  rw [List.append_nil, List.append_nil] at hsent
  constructor
  · rw [reports_run_of_sent hvalid hplan device hsent]
    simp only [reportsOf, Cursor.report, Cursor.start, Config.trial, Nat.zero_add]
    rfl
  · intro hreserved hretry hanswered
    refine (run_of_noFailure device hvalid hplan ⟨_, hsent⟩).2 hmock ?_
    cases houtcome : (submitAbort transport config m').result with
    | ok outcome =>
        have habort := Workflow.Gives.self (submitAbort transport config) m'
        rw [houtcome] at habort
        exact ⟨_, (run_of_mock device hvalid hplan hmock hsent habort).result_eq⟩
    | error fault =>
        -- A fault of the abort would be among the answers of the run.
        obtain ⟨s, hs, hfault⟩ := submitAbort_relays hvalid hretry hreserved m' fault houtcome
        have habort := Workflow.Gives.self (submitAbort transport config) m'
        rw [houtcome] at habort
        have hrun := run_of_mock_fault device hvalid hplan hmock hsent habort
        obtain ⟨receipt, hreceipt⟩ := hanswered s (by
          rw [show transferred.submissions = _ from hrun.submissions_eq]
          exact List.mem_append_right _ hs)
        cases hfault.symm.trans hreceipt

/-- A mock transfer whose step stops reports nothing. -/
theorem mock_of_stops {stop : Except Fault Error}
    (hstop : StepStops transport config (config.trial image) m stop trace delays m') :
  (run transport device config image m).reports = []
  := by
  have hplan : config.plan image = .ok ⟨[config.trial image], image.size⟩ :=
    (config.plan_eq_ok_of_mock hmock).mpr ⟨(config.validate_eq_ok hvalid).1, rfl⟩
  exact reports_run_of_stops hvalid hplan device rfl (.nil m) hstop

end

/-- A device keeps its lasting state through a mock transfer, however that ends. -/
theorem state_of_mock (hmock : config.mock = true) (image : Image) (device name : String)
    (behaviour : Emulator.Config) (before : Emulator) :
  (run (Emulator.transport name behaviour clock) device config image before).mailbox.state
    = before.state
  := by
  have hkeeps : ∀ command, config.Sends image command → ∀ later : Emulator,
      later.state = before.state →
      ((Emulator.transport name behaviour clock).submit command later).mailbox.state
        = before.state := by
    intro command hsends later hlater
    rw [← hlater]
    rcases hsends.tentative hmock with rfl | ⟨order, horder, htentative⟩
    · exact (Emulator.submit_status_keeps config.kind.statusQuery [] later).state
    · exact htentative.state horder later
  apply (follows_run (Emulator.transport name behaviour clock) device config image).preserves hkeeps
  rfl

/-- A mock transfer, whatever the mailbox, sends no transfer commands but those that initiate
or abort.  When its step is done, there is exactly one report, the loop of an abort comes
last, and the transfer ends as a mock transfer that tells the error of that loop, if there is
one, unless the program ends: where the payload of the abort is too long, the end of a delay
cannot be told, or an answer is a fault.  When its step stops, there is no report.  A device keeps
its lasting state through it, whatever it has been through before and however the transfer
ends. -/
theorem mock_never_commits (hmock : config.mock = true) (image : Image) (device : String) :
  (∀ (σ : Type) (transport : Transport σ) (m : σ),
      ∀ s ∈ (run transport device config image m).submissions,
        s.command.opcode = config.kind.opcode.code →
        ∃ order, s.command.order? = some order
          ∧ (order.action = .initiate ∨ order.action = .abort))
    ∧ (config.validate = .ok () → ∀ (σ : Type) (transport : Transport σ) (m : σ),
      let transferred := run transport device config image m
      (∀ trace delays m', StepDone transport config (config.trial image) m trace delays m' →
        transferred.reports
            = [⟨1, 1, .initiate, (image.data.take config.blockSize).length, image.size⟩]
          ∧ (reserve config = .ok () → transport.Times config.stepRetry → transferred.Answered →
            ∃ outcome aborts, Aborts transport config m' outcome aborts
              ∧ transferred.result = .ok (.ok (.mockAborted (errorText outcome)))
              ∧ transferred.submissions = trace ++ aborts))
      ∧ ∀ stop trace delays m', StepStops transport config (config.trial image) m stop trace
          delays m' → transferred.reports = [])
    ∧ ∀ (name : String) (behaviour : Emulator.Config) (clock : Clock Emulator) (before : Emulator),
      (run (Emulator.transport name behaviour clock) device config image before).mailbox.state
        = before.state
  := by
  constructor
  · intro σ transport m s hs hopcode
    exact tentative_of_submitted hmock transport device m hs hopcode
  constructor
  · intro hvalid σ transport m transferred
    constructor
    · intro trace delays m' hdone
      exact mock_of_done hmock hvalid device hdone
    · intro stop trace delays m' hstop
      exact mock_of_stops hmock hvalid device hstop
  · intro name behaviour clock before
    exact state_of_mock hmock image device name behaviour before

/-- A mock transfer to the second slot. -/
def trialOfSecondSlot : Config :=
  { Config.new .specDefined 2 with mock := true }

/-- A new device reports the block of a mock transfer once, and keeps its state. -/
theorem mock_never_commits_fresh :
  let image : Image := ⟨[0xaa, 0xbb], none, nofun⟩
  let transferred := run (Emulator.transport "mem0" .default .still) "mem0" trialOfSecondSlot image
    (Emulator.start .default .default)
  transferred.reports = [⟨1, 1, .initiate, 2, 2⟩]
    ∧ (∃ abortError, transferred.result = .ok (.ok (.mockAborted abortError)))
    ∧ transferred.mailbox.state = .default
  := by
  intro image transferred
  have hreported : transferred.reports ≠ [] := by
    decide +kernel
  obtain ⟨-, hcourse, hstate⟩ := @mock_never_commits trialOfSecondSlot rfl image "mem0"
  obtain ⟨hdone, hstops⟩ := hcourse rfl Emulator (Emulator.transport "mem0" .default .still)
    (Emulator.start .default .default)
  rcases stepDone_or_stepStops (Emulator.transport "mem0" .default .still) trialOfSecondSlot
      (trialOfSecondSlot.trial image) (Emulator.start .default .default) with
    ⟨trace, delays, m', h⟩ | ⟨stop, trace, delays, m', h⟩
  · obtain ⟨hreports, haborts⟩ := hdone trace delays m' h
    have hanswered : transferred.Answered := by
      decide +kernel
    obtain ⟨outcome, aborts, -, hresult, -⟩ := haborts rfl (Transport.times_of_none _ rfl) hanswered
    exact ⟨hreports, ⟨errorText outcome, hresult⟩, hstate "mem0" .default .still _⟩
  · exact absurd (hstops stop trace delays m' h) hreported

end Transfer

end CxlFirmware
