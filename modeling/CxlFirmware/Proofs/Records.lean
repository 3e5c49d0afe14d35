import CxlFirmware.Emulator.Device
import CxlFirmware.Proofs.Transfer.Progress
import CxlFirmware.Scenario
import CxlFirmware.Script

/-!
# The log records of jobs

What a job logs, apart from what it exchanges and reports.  A workflow that `Logs` records of a
kind logs nothing else, whatever the mailbox.  A job logs no record of a claim: each of its
records comes from another part of the program, or the mailbox wrote it.  A mailbox is `Discreet`
if it writes no such record either, and both scripted and emulated mailboxes are.
-/

namespace CxlFirmware

open Workflow (Emits Writes)

variable {σ α β : Type}

/-- The event is of the kind, if it is a log record. -/
def Event.Logs (kind : LogRecord → Prop) : Event → Prop
  | logged record => kind record
  | exchanged _ _ | slept _ | progressed _ => True

theorem Event.IsOf.logs {kind : LogRecord → Prop} {event : Event} (h : event.IsOf kind) :
  event.Logs kind
  := by
  cases event with
  | logged record => exact h
  | exchanged command answer => trivial
  | slept duration => trivial
  | progressed report => trivial

namespace Workflow

variable {kind : LogRecord → Prop} {x : Workflow σ α}

/-- The workflow logs only records of the kind, whatever the mailbox. -/
def Logs (kind : LogRecord → Prop) (x : Workflow σ α) : Prop :=
  x.Emits (Event.Logs kind)

theorem Writes.logs (hx : x.Writes kind) :
  x.Logs kind
  := hx.mono fun _ => Event.IsOf.logs

namespace Logs

protected theorem pure (a : α) :
  (pure a : Workflow σ α).Logs kind
  := Emits.pure a

theorem log {level : LogLevel} {origin message : String} (h : kind ⟨level, origin, message⟩) :
  (log level origin message : Workflow σ Unit).Logs kind
  := Emits.emit h

theorem progress (report : Transfer.Progress) :
  (emit (.progressed report) : Workflow σ Unit).Logs kind
  := Emits.emit trivial

protected theorem bind {f : α → Workflow σ β} (hx : x.Logs kind) (hf : ∀ a, (f a).Logs kind) :
  (x >>= f).Logs kind
  := Emits.bind hx hf

end Logs

end Workflow

open Workflow (Logs)

/-! ## Jobs -/

section

variable {transport : Transport σ} {kind : LogRecord → Prop}

namespace Transfer

theorem logs_logState (hown : ∀ level message, kind ⟨level, origin, message⟩) (device : String)
    (before after : State) :
  (logState device before after : Workflow σ Unit).Logs kind
  := by
  unfold logState
  split
  · apply Logs.pure
  · apply Logs.log
    apply hown

theorem logs_logDecile (hown : ∀ level message, kind ⟨level, origin, message⟩) (device : String)
    (before after : Nat) :
  (logDecile device before after : Workflow σ Unit).Logs kind
  := by
  unfold logDecile
  split
  · apply Logs.log
    apply hown
  · apply Logs.pure

variable (hcovers : transport.Covers kind) (hown : ∀ level message, kind ⟨level, origin, message⟩)
include hcovers hown

theorem logs_abort (device : String) (config : Config) :
  (abort transport device config).Logs kind
  := by
  apply Writes.logs
  apply writes_abort hcovers
  · apply hown
  · apply hown
  · intro text
    apply hown

/-- Steps that are sent one after another log records of the transfer and of its loops. -/
theorem logs_sendSteps (device : String) (config : Config) (plan : Plan) (steps : List Step)
    (cursor : Cursor) :
  (sendSteps transport device config plan steps cursor).Logs kind
  := by
  induction steps generalizing cursor with
  | nil => apply Logs.pure
  | cons step rest ih =>
      unfold sendSteps
      apply Logs.bind (logs_logState hown _ _ _)
      intro _
      apply Logs.bind
      · apply Writes.logs
        apply writes_sendStep hcovers
        apply hown
      · intro outcome
        cases outcome with
        | error source =>
            apply Logs.bind (Logs.log (hown _ _))
            intro _
            apply Logs.bind (logs_abort hcovers hown device config)
            intro aborted
            apply Logs.pure
        | ok _ =>
            apply Logs.bind (Logs.progress _)
            intro _
            apply Logs.bind (logs_logDecile hown _ _ _)
            intro _
            apply ih

/-- So does a transfer. -/
theorem logs_run (device : String) (config : Config) (image : Image) :
  (run transport device config image).Logs kind
  := by
  unfold run
  split
  · apply Logs.pure
  · split
    · apply Logs.pure
    · apply Logs.bind (Logs.log (hown _ _))
      intro _
      apply Logs.bind (logs_sendSteps hcovers hown _ _ _ _ _)
      intro outcome
      cases outcome with
      | error error => apply Logs.pure
      | ok bytes =>
          dsimp only
          split
          · apply Logs.bind (Logs.log (hown _ _))
            intro _
            apply Logs.bind (logs_abort hcovers hown device config)
            intro aborted
            apply Logs.pure
          · apply Logs.bind (Logs.log (hown _ _))
            intro _
            apply Logs.pure

end Transfer

/-- An activation writes how it begins and ends, and what its loops write. -/
theorem Activation.writes_run (hcovers : transport.Covers kind)
    (hown : ∀ level message, kind ⟨level, origin, message⟩) (device : String)
    (policy : RetryPolicy) (request : Request) :
  (run transport device policy request).Writes kind
  := by
  unfold run
  split
  · apply Writes.pure
  · apply Writes.bind (Writes.log (hown _ _))
    intro _
    apply Writes.bind
    · apply Retry.writes_withRetry hcovers _ _ (Mailbox.writes_submit hcovers _ _)
    · intro outcome
      cases outcome with
      | error error => apply Writes.pure
      | ok reply =>
          apply Writes.bind (Poll.writes_untilDone hcovers _ _)
          intro outcome
          cases outcome with
          | error error => apply Writes.pure
          | ok report =>
              apply Writes.bind (Writes.log (hown _ _))
              intro _
              apply Writes.pure

end

theorem Device.writes_firmwareInfo {kind : LogRecord → Prop} {device : Device σ}
    (hcovers : device.transport.Covers kind)
    (hown : ∀ level message, kind ⟨level, firmwareOrigin, message⟩) :
  device.firmwareInfo.Writes kind
  := by
  unfold firmwareInfo
  apply Writes.bind (Mailbox.writes_submit hcovers _ _)
  intro outcome
  cases outcome with
  | error error => apply Writes.pure
  | ok payload =>
      dsimp only
      split
      · apply Writes.pure
      · apply Writes.bind (Writes.log (hown _ _))
        intro _
        apply Writes.pure

/-! ## Records of claims -/

/-- The record is no record of a claim, or the mailbox itself wrote it. -/
def Transport.Foreign (transport : Transport σ) (record : LogRecord) : Prop :=
  record.origin ≠ Device.origin
    ∨ ∃ command m, record ∈ (transport.submit command m).records

theorem Transport.foreign_of_origin {transport : Transport σ} {level : LogLevel}
    {origin message : String} (h : origin ≠ Device.origin) :
  transport.Foreign ⟨level, origin, message⟩
  := .inl h

theorem Transport.covers_foreign (transport : Transport σ) :
  transport.Covers transport.Foreign
  := by
  constructor
  · intro command m record hrecord
    right
    use command, m, hrecord
  · intro record hroutine
    left
    rcases hroutine.origin with h | h | h
    all_goals
      rw [h]
      decide

/-- The mailbox itself writes no record like those of claims. -/
def Transport.Discreet (transport : Transport σ) : Prop :=
  ∀ command m, ∀ record ∈ (transport.submit command m).records, record.origin ≠ Device.origin

/-- With a discreet mailbox no record of another part is like those of claims. -/
theorem Transport.Discreet.origin_ne {transport : Transport σ} (hdiscreet : transport.Discreet)
    {record : LogRecord} (h : transport.Foreign record) :
  record.origin ≠ Device.origin
  := by
  rcases h with h | ⟨command, m, hrecord⟩
  · exact h
  · exact hdiscreet command m record hrecord

/-- A job logs no record of a claim. -/
theorem Scenario.Job.logs_run (device : Device σ) (job : Job) :
  (job.run device).Logs device.transport.Foreign
  := by
  have hcovers := device.transport.covers_foreign
  cases job with
  | transfer config image =>
      apply Logs.bind
      · apply Transfer.logs_run hcovers
        intro level message
        apply Transport.foreign_of_origin
        decide
      · intro result
        apply Logs.pure
  | activate policy request =>
      apply Logs.bind
      · apply Writes.logs
        apply Activation.writes_run hcovers
        intro level message
        apply Transport.foreign_of_origin
        decide
      · intro result
        apply Logs.pure
  | info =>
      apply Logs.bind
      · apply Writes.logs
        apply Device.writes_firmwareInfo hcovers
        intro level message
        apply Transport.foreign_of_origin
        decide
      · intro result
        apply Logs.pure
  | background query =>
      apply Logs.bind
      · apply Writes.logs
        apply Poll.writes_queryStatus hcovers
      · intro result
        apply Logs.pure
  | name => apply Logs.pure

/-! ## Discreet mailboxes -/

theorem Script.discreet (name : String) :
  (transport name).Discreet
  := by
  intro command script
  rw [records_submit]
  nofun

namespace Emulator

/-- Each record of the verdict comes from the emulated device. -/
def Verdict.Owned (verdict : Verdict) : Prop :=
  ∀ record ∈ verdict.records, record.origin = origin

variable (name : String) (config : Config) (opcode : Opcode) (payload : Bytes) (device : Emulator)

theorem owned_accept (action : Transfer.Action) (request : TransferRequest) :
  (accept name config opcode action request device).Owned
  := by
  intro record hrecord
  unfold accept at hrecord
  split at hrecord
  · rcases List.mem_cons.mp hrecord with rfl | hrecord
    · rfl
    · obtain rfl := List.mem_singleton.mp hrecord
      rfl
  · obtain rfl := List.mem_singleton.mp hrecord
    rfl

theorem owned_step (action : Transfer.Action) (request : TransferRequest) :
  (step name config opcode action request device).Owned
  := by
  unfold step
  split
  · intro record hrecord
    obtain rfl := List.mem_singleton.mp hrecord
    rfl
  · split
    · nofun
    · split
      · apply owned_accept
      · nofun

theorem owned_transfer :
  (transfer name config opcode payload device).Owned
  := by
  unfold transfer
  split
  · nofun
  · split
    · nofun
    · intro record hrecord
      obtain rfl := List.mem_singleton.mp hrecord
      rfl
    · apply owned_step

theorem owned_activated (action slot : UInt8) :
  (activated name config opcode action slot device).Owned
  := by
  intro record hrecord
  obtain rfl := List.mem_singleton.mp hrecord
  rfl

theorem owned_activate :
  (activate name config opcode payload device).Owned
  := by
  unfold activate
  split
  · split
    · nofun
    · split
      · nofun
      · split
        · nofun
        · split
          · apply owned_activated
          · nofun
        · apply owned_activated
  · nofun

theorem owned_gated {handle : Emulator → Verdict} (h : ∀ device, (handle device).Owned) :
  (gated config handle device).Owned
  := by
  unfold gated
  split
  · nofun
  · split
    · nofun
    · apply h

/-- What an emulated device logs comes from the emulated device. -/
theorem discreet (clock : Clock Emulator) :
  (transport name config clock).Discreet
  := by
  intro command device record hrecord
  have howned : record.origin = origin := by
    change record ∈ (handle name config command _).records at hrecord
    unfold handle at hrecord
    split at hrecord
    · cases hrecord
    · cases hrecord
    · cases hrecord
    · exact owned_gated config _ (owned_transfer name config _ _) record hrecord
    · exact owned_gated config _ (owned_transfer name config _ _) record hrecord
    · exact owned_gated config _ (owned_transfer name config _ _) record hrecord
    · exact owned_gated config _ (owned_activate name config _ _) record hrecord
    · exact owned_gated config _ (owned_activate name config _ _) record hrecord
    · cases hrecord
  rw [howned]
  decide

end Emulator
end CxlFirmware
