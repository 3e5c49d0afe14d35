import CxlFirmware.Proofs.Codec
import CxlFirmware.Transfer.Sequence

/-!
# Commands of the vendor

A query, a transfer and an activation of the specification each have a counterpart among the
commands of the vendor.  Reports, errors and outcomes are `Renamed` when the second one names
the counterpart wherever the first one names a command, and they are otherwise the same.
-/

namespace CxlFirmware

/-- The counterpart of a command of the specification. -/
def Opcode.vendor : Opcode → Opcode
  | getBackgroundStatus => hboStatus
  | transferFw => hboTransferFw
  | activateFw => hboActivateFw
  | opcode => opcode

/-- The reports are of a command and of its counterpart, and otherwise the same. -/
def BackgroundStatus.Renamed (report report' : BackgroundStatus) : Prop :=
  ∃ opcode : Opcode, report.opcode = opcode.code
    ∧ report' = { report with opcode := opcode.vendor.code }

mutual

/-- The errors name a command and its counterpart, and are otherwise the same. -/
inductive Error.Renamed : Error → Error → Prop
  | transport (opcode : Opcode) (source : IoError) :
      Renamed (.transport opcode source) (.transport opcode.vendor source)
  | device (opcode : Opcode) (status : Status) :
      Renamed (.device opcode status) (.device opcode.vendor status)
  | retriesExhausted (opcode : Opcode) (attempts : Nat) (last : Status) :
      Renamed (.retriesExhausted opcode attempts last)
        (.retriesExhausted opcode.vendor attempts last)
  | pollExhausted (opcode : Opcode) (attempts : Nat) (percent : UInt8) :
      Renamed (.pollExhausted opcode.code attempts percent)
        (.pollExhausted opcode.vendor.code attempts percent)
  | retriesLate (opcode : Opcode) (limit : Duration) (attempts : Nat) :
      Renamed (.deadlineExceeded opcode.text limit attempts)
        (.deadlineExceeded opcode.vendor.text limit attempts)
  | pollsLate (opcode : Opcode) (limit : Duration) (attempts : Nat) :
      Renamed (.deadlineExceeded ("polling " ++ opcode.text) limit attempts)
        (.deadlineExceeded ("polling " ++ opcode.vendor.text) limit attempts)
  | backgroundFailed (opcode : Opcode) (status : Status) :
      Renamed (.backgroundFailed opcode.code status) (.backgroundFailed opcode.vendor.code status)
  | transferFailed (step : Nat) (action : Transfer.Action) {source source' : Error}
      {abortError abortError' : Option String} (hsource : Renamed source source')
      (habort : MessageRenamed abortError abortError') :
      Renamed (.transferFailed step action source abortError)
        (.transferFailed step action source' abortError')
  | config (text : String) : Renamed (.config text) (.config text)

/-- The texts are the messages of errors that name a command and its counterpart, or there is
none. -/
inductive Error.MessageRenamed : Option String → Option String → Prop
  | none : MessageRenamed none none
  | some {error error' : Error} (h : Renamed error error') :
      MessageRenamed (some error.message) (some error'.message)

end

/-- The transfers ended alike, up to the error of an abort. -/
inductive Transfer.Outcome.Renamed : Outcome → Outcome → Prop
  | completed (blocks bytes : Nat) : Renamed (.completed blocks bytes) (.completed blocks bytes)
  | mockAborted {abortError abortError' : Option String}
      (h : Error.MessageRenamed abortError abortError') :
      Renamed (.mockAborted abortError) (.mockAborted abortError')

/-- The results are the same fault, values that are related by `done`, or errors that are
renamed. -/
inductive ResultRenamed {α β : Type} (done : α → β → Prop) :
    Except Fault (Except Error α) → Except Fault (Except Error β) → Prop
  | fault (fault : Fault) : ResultRenamed done (.error fault) (.error fault)
  | value {a : α} {b : β} (h : done a b) : ResultRenamed done (.ok (.ok a)) (.ok (.ok b))
  | error {error error' : Error} (h : error.Renamed error') :
      ResultRenamed done (.ok (.error error)) (.ok (.error error'))

/-- Reports that are renamed are read back as such. -/
theorem BackgroundStatus.Renamed.written {report report' : BackgroundStatus}
    (h : report.Renamed report') :
  report.written.Renamed report'.written
  := by
  obtain ⟨opcode, hopcode, rfl⟩ := h
  exact ⟨opcode, hopcode, rfl⟩

end CxlFirmware
