import CxlFirmware.Settings.Basic
import CxlFirmware.Toml.Reader

/-!
# Reading settings

The settings of a text of TOML.  A section is a table, or an array with the values of
all of its fields in order.  Sections, and the fields of a table, may be missing, and
those with other names are passed over.
-/

namespace CxlFirmware.Settings

/-- The values of the fields of a section.  A moment has the shape of a section
without any of the fields. -/
def fields? (names : List String) : Toml → Option (List (Option Toml))
  | .table _ members => some (names.map fun name => Toml.lookup name members)
  | .array items => inOrder items
  | .tables elements => inOrder (elements.reverse.map (Toml.table .header))
  | .moment => some (names.map fun _ => none)
  | _ => none
where
  /-- The values of an array with enough of them. -/
  inOrder (items : List Toml) : Option (List (Option Toml)) :=
    if names.length ≤ items.length then some ((items.take names.length).map some) else none

/-- A text, if there is a value. -/
def text? : Option Toml → Option (Option String)
  | none => some none
  | some (.text content) => some (some content)
  | some _ => none

/-- A natural number below a limit, if there is a value. -/
def naturalBelow? (limit : Nat) : Option Toml → Option (Option Nat)
  | none => some none
  | some (.integer value) =>
    if 0 ≤ value ∧ value < limit then some (some value.toNat) else none
  | some _ => none

/-- A number of 32 bits, if there is a value. -/
def word? (value : Option Toml) : Option (Option UInt32) :=
  (naturalBelow? UInt32.size value).map fun number => number.map UInt32.ofNat

/-- A number of 64 bits, if there is a value. -/
def longWord? (value : Option Toml) : Option (Option UInt64) :=
  (naturalBelow? UInt64.size value).map fun number => number.map UInt64.ofNat

/-- The section that says which device to use. -/
def device? (value : Toml) : Option DeviceSettings := do
  match ← fields? ["name", "emulator_state"] value with
  | [name, emulatorState] =>
    return { name := ← text? name, emulatorState := ← text? emulatorState }
  | _ => none

/-- The section that says how to transfer an image. -/
def transfer? (value : Toml) : Option TransferSettings := do
  match ← fields? ["block_size", "step_attempts", "step_delay_ms", "poll_attempts",
      "poll_interval_ms", "deadline_secs"] value with
  | [blockSize, stepAttempts, stepDelay, pollAttempts, pollInterval, deadline] =>
    return {
      blockSize := ← naturalBelow? UInt64.size blockSize
      stepAttempts := ← word? stepAttempts
      stepDelayMillis := ← longWord? stepDelay
      pollAttempts := ← word? pollAttempts
      pollIntervalMillis := ← longWord? pollInterval
      deadlineSeconds := ← longWord? deadline }
  | _ => none

/-- The section that says how to activate a slot. -/
def activation? (value : Toml) : Option ActivationSettings := do
  match ← fields? ["attempts", "interval_ms"] value with
  | [attempts, interval] =>
    return { attempts := ← word? attempts, intervalMillis := ← longWord? interval }
  | _ => none

/-- The section that says how the emulated device behaves. -/
def emulator? (value : Toml) : Option EmulatorSettings := do
  match ← fields? ["busy_replies", "processing_polls", "activation_polls"] value with
  | [busyReplies, processingPolls, activationPolls] =>
    return {
      busyReplies := ← word? busyReplies
      processingPolls := ← word? processingPolls
      activationPolls := ← word? activationPolls }
  | _ => none

/-- A section that may be missing. -/
def section? {α : Type} (default : α) (read : Toml → Option α) : Option Toml → Option α
  | none => some default
  | some value => read value

/-- The settings of the root table. -/
def ofMembers? (members : Toml.Members) : Option Settings := do
  let value := fun name => Toml.lookup name members
  return {
    device := ← section? unset.device device? (value "device")
    transfer := ← section? unset.transfer transfer? (value "transfer")
    activation := ← section? unset.activation activation? (value "activate")
    emulator := ← section? unset.emulator emulator? (value "emulator") }

/-- The settings of a text. -/
def read? (text : String) : Option Settings :=
  (Toml.read? text).bind ofMembers?

end CxlFirmware.Settings
