import CxlFirmware.Bytes
import CxlFirmware.Duration
import CxlFirmware.Fault
import CxlFirmware.IoError
import CxlFirmware.Log
import CxlFirmware.Transfer.Progress

/-!
# Workflows

A workflow sends commands to a mailbox and leaves a trace of events: the commands
with their answers, the delays, the log records and the progress reports, in the
order in which they happened.  A mailbox is any state with a reaction to every
command, so the same workflow runs against a scripted list of answers and against
an emulated device.  The reaction may be a fault, which ends the program.  A clock
tells the loops of attempts how much time has passed.
-/

namespace CxlFirmware

/-- What is sent to a mailbox. -/
structure Command where
  opcode : UInt16
  payload : Bytes
  deriving DecidableEq

/-- What a device answers. -/
structure Response where
  status : UInt16
  payload : Bytes
  deriving DecidableEq

/-- What comes back for a command: what the device answers, or the failure of the
exchange. -/
abbrev Receipt := Except IoError Response

/-- What becomes of a command: something comes back, or the program ends. -/
abbrev Answer := Except Fault Receipt

/-- The reaction of a mailbox to a command. -/
structure Exchange (σ : Type) where
  answer : Answer
  /-- The log records that the mailbox itself writes. -/
  records : List LogRecord
  /-- The mailbox afterwards. -/
  mailbox : σ

/-- The time that an attempt ends at, since the loop of attempts began: it depends on
the delay between two attempts, the mailbox at the beginning and the number of the
attempt. -/
abbrev Clock (σ : Type) := Duration → σ → Nat → Duration

namespace Clock

variable {σ : Type}

/-- The clock that only just moves, whatever happens. -/
def still : Clock σ :=
  fun _ _ _ => .tick

/-- The clock by which delays take their time, and nothing else does. -/
def running : Clock σ :=
  fun delay _ number =>
    ((delay.scale? (number - 1)).bind Duration.tick.add?).getD .longest

end Clock

/-- A mailbox with the states `σ`. -/
structure Transport (σ : Type) where
  name : String
  submit : Command → σ → Exchange σ
  clock : Clock σ := .still

/-- Something that happens in a workflow. -/
inductive Event where
  | exchanged (command : Command) (answer : Answer)
  | slept (duration : Duration)
  | logged (record : LogRecord)
  | progressed (report : Transfer.Progress)

/-- What a run of a workflow leaves behind. -/
structure Run (σ α : Type) where
  result : Except Fault α
  mailbox : σ
  events : List Event

/-- A computation with a mailbox. -/
def Workflow (σ α : Type) := σ → Run σ α

namespace Workflow

variable {σ α β : Type}

/-- The workflow that does nothing. -/
protected def pure (a : α) : Workflow σ α :=
  fun mailbox => ⟨.ok a, mailbox, []⟩

/-- One workflow after another. -/
protected def bind (first : Workflow σ α) (next : α → Workflow σ β) : Workflow σ β :=
  fun mailbox =>
    match first mailbox with
    | ⟨.error fault, mailbox, events⟩ => ⟨.error fault, mailbox, events⟩
    | ⟨.ok a, mailbox, events⟩ =>
      let rest := next a mailbox
      ⟨rest.result, rest.mailbox, events ++ rest.events⟩

instance : Monad (Workflow σ) where
  pure := Workflow.pure
  bind := Workflow.bind

/-- The workflow that ends the program. -/
def halt (fault : Fault) : Workflow σ α :=
  fun mailbox => ⟨.error fault, mailbox, []⟩

/-- The workflow that goes on with what is read off the mailbox. -/
def inspect (read : σ → β) (next : β → Workflow σ α) : Workflow σ α :=
  fun mailbox => next (read mailbox) mailbox

/-- The workflow in which one event happens. -/
def emit (event : Event) : Workflow σ Unit :=
  fun mailbox => ⟨.ok (), mailbox, [event]⟩

/-- The workflow that waits. -/
def sleep (duration : Duration) : Workflow σ Unit :=
  emit (.slept duration)

/-- The workflow that writes a log record. -/
def log (level : LogLevel) (origin message : String) : Workflow σ Unit :=
  emit (.logged ⟨level, origin, message⟩)

/-- The workflow that sends one command. -/
def exchange (transport : Transport σ) (command : Command) : Workflow σ Receipt :=
  fun mailbox =>
    let reaction := transport.submit command mailbox
    ⟨reaction.answer, reaction.mailbox,
      .exchanged command reaction.answer :: reaction.records.map .logged⟩

@[simp]
theorem pure_apply (a : α) (mailbox : σ) :
  (pure a : Workflow σ α) mailbox = ⟨.ok a, mailbox, []⟩
  := rfl

instance : LawfulMonad (Workflow σ) := LawfulMonad.mk' _
  (by
    intro α x
    funext mailbox
    change Workflow.bind x Workflow.pure mailbox = x mailbox
    unfold Workflow.bind Workflow.pure
    split
    · rename_i h
      exact h.symm
    · rename_i h
      simp [h])
  (by
    intro α β a f
    funext mailbox
    change Workflow.bind (Workflow.pure a) f mailbox = f a mailbox
    simp [Workflow.bind, Workflow.pure])
  (by
    intro α β γ x f g
    funext mailbox
    change Workflow.bind (Workflow.bind x f) g mailbox
      = Workflow.bind x (fun a => Workflow.bind (f a) g) mailbox
    unfold Workflow.bind
    cases hx : x mailbox with
    | mk result mailbox₁ events₁ =>
      cases result with
      | error fault => simp
      | ok a =>
        cases hf : f a mailbox₁ with
        | mk result mailbox₂ events₂ =>
          cases result with
          | error fault => simp [hf]
          | ok b => simp [hf])

end Workflow

end CxlFirmware
