import CxlFirmware.Proofs.Emulator.Staging
import CxlFirmware.Scenario

/-!
# Histories of an emulated device

`Emulator.after` is the device that jobs leave behind, one after another, whether they
succeed or fail.  What is staged in it is of some length, or it is the short image of a mock
transfer among the jobs: only the first block of such a transfer is shorter than the unit of
offsets and is not committed at once.
-/

namespace CxlFirmware

open Transfer (Step Plan Carries)
open Scenario (Job JobResult)

/-! ## The commands of a job -/

/-- The command is a transfer command. -/
def Opcode.Transfers (opcode : Opcode) : Prop :=
  ∃ kind : Transfer.Kind, opcode = kind.opcode

/-- A job may send the command.  No job but a transfer sends transfer commands. -/
def Scenario.Job.Sends : Job → Command → Prop
  | transfer config image => config.Sends image
  | _ => fun command => ∃ opcode payload, command = ⟨Opcode.code opcode, payload⟩
    ∧ ¬ opcode.Transfers

section

variable {σ : Type} {transport : Transport σ} {allowed : Command → Prop}

theorem StatusQuery.not_transfers (query : StatusQuery) :
  ¬ query.opcode.Transfers
  := by
  rintro ⟨kind, h⟩
  cases query <;> cases kind <;> cases h

theorem Activation.not_transfers (kind : Activation.Kind) :
  ¬ kind.opcode.Transfers
  := by
  rintro ⟨kind', h⟩
  cases kind <;> cases kind' <;> cases h

/-- An activation sends its command and the status query. -/
theorem Activation.follows_run (device : String) (policy : RetryPolicy) (request : Request)
    (hactivate : allowed ⟨request.kind.opcode.code, encode request.action.code request.slot⟩)
    (hstatus : allowed ⟨request.kind.statusQuery.opcode.code, []⟩) :
  (run transport device policy request).Follows transport allowed
  := by
  rw [run]
  cases policy.validate with
  | error error => apply Workflow.Follows.pure
  | ok _ =>
      apply Workflow.Follows.of_quiet
      simp only [Workflow.quiet_bind, Workflow.quiet_log, pure_bind]
      apply Workflow.Follows.bind
      · apply Workflow.Follows.quiet
        apply Mailbox.follows_submit_withRetry _ _ _ hactivate
      · intro outcome
        cases outcome with
        | error error => apply Workflow.Follows.pure
        | ok reply =>
            apply Workflow.Follows.quiet
            apply Workflow.Follows.bind
            · apply Poll.follows_untilDone _ _ hstatus
            · intro outcome
              cases outcome with
              | error error => apply Workflow.Follows.pure
              | ok report =>
                  apply Workflow.Follows.of_quiet
                  simp only [Workflow.quiet_bind, Workflow.quiet_log, pure_bind]
                  apply Workflow.Follows.pure

theorem Device.follows_firmwareInfo (device : Device σ)
    (hinfo : allowed ⟨Opcode.getFwInfo.code, []⟩) :
  device.firmwareInfo.Follows device.transport allowed
  := by
  apply Workflow.Follows.bind
  · apply Mailbox.follows_submit _ _ hinfo
  · intro outcome
    cases outcome with
    | error error => apply Workflow.Follows.pure
    | ok payload =>
        dsimp only
        cases FirmwareInfo.decode payload with
        | error error => apply Workflow.Follows.pure
        | ok info =>
            apply Workflow.Follows.of_quiet
            dsimp only
            simp only [Workflow.quiet_bind, Workflow.quiet_log, pure_bind]
            apply Workflow.Follows.pure

/-- A job sends its commands and no others. -/
theorem Scenario.Job.follows_run (device : Device σ) (job : Job) :
  (job.run device).Follows device.transport job.Sends
  := by
  cases job with
  | transfer config image =>
      apply Workflow.Follows.bind
      · apply Transfer.follows_run
      · intro result
        apply Workflow.Follows.pure
  | activate policy request =>
      apply Workflow.Follows.bind
      · apply Activation.follows_run
        · exact ⟨_, _, rfl, Activation.not_transfers request.kind⟩
        · exact ⟨_, _, rfl, request.kind.statusQuery.not_transfers⟩
      · intro result
        apply Workflow.Follows.pure
  | info =>
      apply Workflow.Follows.bind
      · apply device.follows_firmwareInfo
        use Opcode.getFwInfo, [], rfl
        rintro ⟨kind, h⟩
        cases kind <;> cases h
      · intro result
        apply Workflow.Follows.pure
  | background query =>
      apply Workflow.Follows.bind
      · apply Poll.follows_queryStatus
        exact ⟨_, _, rfl, query.not_transfers⟩
      · intro result
        apply Workflow.Follows.pure
  | name => apply Workflow.Follows.pure

end

namespace Emulator

variable {name : String} {config : Config} {clock : Clock Emulator}

/-! ## What is staged after a command -/

theorem staging_gated {handle : Emulator → Verdict}
    (h : ∀ device, (handle device).device.staging = device.staging) (device : Emulator) :
  (gated config handle device).device.staging = device.staging
  := by
  rw [gated]
  split
  · rfl
  · split
    · rfl
    · apply h

/-- An activation changes nothing of what is staged. -/
theorem staging_activate (opcode : Opcode) (payload : Bytes) (device : Emulator) :
  (activate name config opcode payload device).device.staging = device.staging
  := by
  unfold activate
  split
  · split
    · rfl
    · split
      · rfl
      · split
        · rfl
        · split
          · rfl
          · rfl
        · rfl
  · rfl

/-- No command but a transfer command changes what is staged. -/
theorem staging_submit {opcode : Opcode} (hopcode : ¬ opcode.Transfers) (payload : Bytes)
    (device : Emulator) :
  ((transport name config clock).submit ⟨opcode.code, payload⟩ device).mailbox.staging
    = device.staging
  := by
  cases opcode with
  | getBackgroundStatus => exact (submit_status_keeps .spec payload device).staging
  | hboStatus => exact (submit_status_keeps .hbo payload device).staging
  | getFwInfo => rfl
  | activateFw => exact staging_gated (staging_activate _ _) (device.noted .activateFw)
  | hboActivateFw => exact staging_gated (staging_activate _ _) (device.noted .hboActivateFw)
  | transferFw => exact absurd ⟨.specDefined, rfl⟩ hopcode
  | hboTransferFw => exact absurd ⟨.vendorBackground, rfl⟩ hopcode
  | hboTransferOsImage => exact absurd ⟨.osImage, rfl⟩ hopcode

/-- What is staged has at least the length of a unit, or it is the short image of a mock
transfer among the jobs. -/
def Staged (jobs : List Job) (device : Emulator) : Prop :=
  ∀ staged, device.staging = some staged → TransferRequest.unit ≤ staged.data.length
    ∨ ∃ transfer image, Job.transfer transfer image ∈ jobs ∧ transfer.mock = true
      ∧ image.size < TransferRequest.unit
      ∧ staged = ⟨transfer.kind.opcode, transfer.slot, image.data⟩

theorem Staged.mono {jobs jobs' : List Job} {device : Emulator} (h : Staged jobs device)
    (hjobs : jobs ⊆ jobs') :
  Staged jobs' device
  := by
  intro staged hstaged
  rcases h staged hstaged with hlong | ⟨transfer, image, hjob, hmock, hshort, hdata⟩
  · exact .inl hlong
  · exact .inr ⟨transfer, image, hjobs hjob, hmock, hshort, hdata⟩

theorem Staged.of_staging_eq {jobs : List Job} {device device' : Emulator}
    (h : Staged jobs device) (hstaging : device'.staging = device.staging) :
  Staged jobs device'
  := by
  intro staged hstaged
  rw [hstaging] at hstaged
  exact h staged hstaged

theorem Staged.of_none {jobs : List Job} {device : Emulator} (h : device.staging = none) :
  Staged jobs device
  := by
  intro staged hstaged
  cases h.symm.trans hstaged

theorem length_le_extend (staging : Option Staging) (opcode : Opcode) (action : Transfer.Action)
    (slot : UInt8) (data : Bytes) :
  data.length ≤ (extend staging opcode action slot data).data.length
  := by
  unfold extend
  split
  · exact Nat.le_refl _
  · exact Nat.le_refl _
  · rw [List.length_append]
    exact Nat.le_add_left _ _

/-! ## What is staged after a job -/

variable {jobs : List Job} {device : Emulator} {transfer : Transfer.Config} {image : Image}

/-- A step of a transfer among the jobs stages what it may. -/
theorem staged_submit_step (hfail : config.Refuses)
    (hjob : Job.transfer transfer image ∈ jobs) {plan : Plan}
    (hplan : transfer.plan image = .ok plan) {step : Step} (hstep : step ∈ plan.steps)
    (h : Staged jobs device) :
  Staged jobs ((transport name config clock).submit (transfer.command step) device).mailbox
  := by
  have haction : step.action ≠ .abort := transfer.plan_action_ne_abort hplan step hstep
  rcases submit_step_cases name hfail haction device rfl with
    ⟨-, htakes⟩ | ⟨-, hkeeps⟩
  · by_cases hend : step.action = .end
    · apply Staged.of_none
      rw [htakes.staging, if_pos hend]
    · intro staged hstaged
      rw [htakes.staging, if_neg hend] at hstaged
      obtain rfl := Option.some.inj hstaged
      rcases transfer.plan_step_data hplan hstep with hend' | hlong
        | ⟨hmock, hshort, hinitiate, hdata⟩
      · exact absurd hend' hend
      · exact .inl (Nat.le_trans hlong (length_le_extend _ _ _ _ _))
      · right
        use transfer, image, hjob, hmock, hshort
        rw [hinitiate, hdata, extend_initiate]
  · exact h.of_staging_eq hkeeps.staging

/-- A command of a job stages what it may. -/
theorem staged_of_sends (hfail : config.Refuses) {job : Job}
    (hjob : job ∈ jobs) {command : Command} (hcommand : job.Sends command)
    (h : Staged jobs device) :
  Staged jobs ((transport name config clock).submit command device).mailbox
  := by
  cases job with
  | transfer transfer image =>
      rcases hcommand with rfl | rfl | ⟨plan, step, hplan, hstep, rfl⟩
      · apply h.of_staging_eq
        exact (submit_status_keeps _ _ _).staging
      · rcases (submit_abort_cases name config transfer device rfl).2 with hnone | hsame
        · exact Staged.of_none hnone
        · exact h.of_staging_eq hsame
      · exact staged_submit_step hfail hjob hplan hstep h
  | _ =>
      obtain ⟨opcode, payload, rfl, hopcode⟩ := hcommand
      exact h.of_staging_eq (staging_submit hopcode payload device)

/-- The device that jobs leave behind, one after another. -/
def after (device : Device Emulator) (mailbox : Emulator) (jobs : List Job) : Emulator :=
  jobs.foldl (fun mailbox job => (job.run device mailbox).mailbox) mailbox

/-- After every history of jobs, what is staged is long, or it is the short image of a mock
transfer of the history. -/
theorem staged_after (hfail : config.Refuses)
    {device : Device Emulator} (hdevice : device.transport = transport device.name config clock)
    (state : State) (jobs : List Job) :
  Staged jobs (after device (start config state) jobs)
  := by
  -- The jobs so far are generalized: a rest may come from any of them.
  have hjobs : ∀ earlier mailbox, Staged earlier mailbox →
      Staged (earlier ++ jobs) (after device mailbox jobs) := by
    induction jobs with
    | nil =>
        intro earlier mailbox h
        rw [List.append_nil]
        exact h
    | cons job jobs ih =>
        intro earlier mailbox h
        rw [List.append_cons]
        apply ih
        apply (job.follows_run device).preserves
        · intro command hcommand mailbox hmailbox
          rw [hdevice]
          exact staged_of_sends hfail (List.mem_append_right _ List.mem_cons_self) hcommand
            hmailbox
        · exact h.mono (List.subset_append_left _ _)
  exact hjobs [] _ (Staged.of_none rfl)

end Emulator

end CxlFirmware
