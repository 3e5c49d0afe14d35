import Mathlib.Logic.Basic
import CxlFirmware.Proofs.Settings

/-!
# Layers of settings

Settings are laid over one another field by field.  `layered` says that this is associative with
the empty settings as its unit, what the files of the user and of the working folder contribute
to the settings that are loaded and how often loading warns, and that the parameters of a run are
the defaults with every chosen value in its own places.
-/

namespace CxlFirmware

/-! ## Warnings -/

/-- The record of a warning. -/
def Output.warning? : Output → Option LogRecord
  | .record entry => if entry.level = .warn then some entry else none
  | _ => none

/-- The warnings among outputs. -/
def Output.warnings (outputs : List Output) : List LogRecord :=
  outputs.filterMap warning?

namespace Program

variable {α β : Type} {files : Files}

/-- The program ends with a value, changes no files and warns `count` times. -/
structure Warns (program : Program α) (files : Files) (value : α) (count : Nat) : Prop where
  ends : program.Ends files value files
  count_warnings : (Output.warnings (program.run files).outputs).length = count

/-- The outputs of one program come before those of the next. -/
theorem outputs_bind {program : Program α} {next : α → Program β} {a : α} {files' : Files}
    (hresult : (program.run files).result = .ok a) (hfiles : (program.run files).files = files') :
  ((program >>= next).run files).outputs
    = (program.run files).outputs ++ ((next a).run files').outputs
  := by
  change ((program.bind next).run files).outputs = _
  induction program generalizing files with
  | done value =>
      obtain rfl : value = a := Except.ok.inj hresult
      obtain rfl : files = files' := hfiles
      rfl
  | crash fault => cases hresult
  | present path rest ih => exact ih _ hresult hfiles
  | read path rest ih => exact ih _ hresult hfiles
  | write path content rest ih =>
      simp only [run, Program.bind] at hresult hfiles ⊢
      cases hwrite : files.write path content with
      | error error =>
          simp only [hwrite] at hresult hfiles ⊢
          exact ih _ hresult hfiles
      | ok written =>
          simp only [hwrite] at hresult hfiles ⊢
          exact ih _ hresult hfiles
  | emit output rest ih =>
      have hrest := ih hresult hfiles
      simp only [run, Program.bind, hrest, List.cons_append]

namespace Warns

protected theorem pure (value : α) (files : Files) :
  (pure value : Program α).Warns files value 0
  := ⟨.pure value files, rfl⟩

/-- The warnings of one program are added to those of the next. -/
protected theorem bind {program : Program α} {next : α → Program β} {a : α} {b : β}
    {first second : Nat} (h : program.Warns files a first)
    (hnext : (next a).Warns files b second) :
  (program >>= next).Warns files b (first + second)
  := by
  constructor
  · exact h.ends.bind hnext.ends
  · rw [outputs_bind h.ends.result h.ends.leaves, Output.warnings, List.filterMap_append,
      List.length_append]
    exact congrArg₂ (· + ·) h.count_warnings hnext.count_warnings

/-- A part without a warning leaves the count as it is. -/
theorem bind_silent {program : Program α} {next : α → Program β} {a : α} {b : β} {count : Nat}
    (h : program.Warns files a count) (hnext : (next a).Warns files b 0) :
  (program >>= next).Warns files b count
  := h.bind hnext

theorem silent_bind {program : Program α} {next : α → Program β} {a : α} {b : β} {count : Nat}
    (h : program.Warns files a 0) (hnext : (next a).Warns files b count) :
  (program >>= next).Warns files b count
  := by
  rw [← Nat.zero_add count]
  exact h.bind hnext

theorem isPresent (path : String) (files : Files) :
  (Program.isPresent path).Warns files (files.present path) 0
  := ⟨.isPresent path files, rfl⟩

theorem readFile (path : String) (files : Files) :
  (Program.readFile path).Warns files (files.read path) 0
  := ⟨.readFile path files, rfl⟩

theorem debug (origin message : String) (files : Files) :
  (Program.log .debug origin message).Warns files () 0
  := ⟨.log _ _ _ _, rfl⟩

theorem warn (origin message : String) (files : Files) :
  (Program.log .warn origin message).Warns files () 1
  := ⟨.log _ _ _ _, rfl⟩

end Warns

end Program

/-- A file that can be read is there. -/
theorem Files.present_of_read {files : Files} {path : String} {content : Bytes}
    (h : files.read path = .ok content) :
  files.present path = true
  := by
  unfold read at h
  unfold present
  split at h
  · cases h
  · cases h
  · cases h
  · rename_i htarget
    rw [htarget]

namespace Settings

open Program (Warns)

/-! ## Fields -/

/-- The fields of settings. -/
inductive Field where
  | name
  | emulatorState
  | blockSize
  | stepAttempts
  | stepDelayMillis
  | pollAttempts
  | pollIntervalMillis
  | deadlineSeconds
  | attempts
  | intervalMillis
  | busyReplies
  | processingPolls
  | activationPolls

namespace Field

/-- All fields. -/
def all : List Field :=
  [name, emulatorState, blockSize, stepAttempts, stepDelayMillis, pollAttempts,
    pollIntervalMillis, deadlineSeconds, attempts, intervalMillis, busyReplies, processingPolls,
    activationPolls]

/-- The type of a field. -/
abbrev Value : Field → Type
  | .name | .emulatorState => String
  | .blockSize => Nat
  | .stepDelayMillis | .pollIntervalMillis | .deadlineSeconds | .intervalMillis => UInt64
  | .stepAttempts | .pollAttempts | .attempts | .busyReplies | .processingPolls
  | .activationPolls => UInt32

/-- What settings choose for a field. -/
def get (settings : Settings) : (field : Field) → Option field.Value
  | .name => settings.device.name
  | .emulatorState => settings.device.emulatorState
  | .blockSize => settings.transfer.blockSize
  | .stepAttempts => settings.transfer.stepAttempts
  | .stepDelayMillis => settings.transfer.stepDelayMillis
  | .pollAttempts => settings.transfer.pollAttempts
  | .pollIntervalMillis => settings.transfer.pollIntervalMillis
  | .deadlineSeconds => settings.transfer.deadlineSeconds
  | .attempts => settings.activation.attempts
  | .intervalMillis => settings.activation.intervalMillis
  | .busyReplies => settings.emulator.busyReplies
  | .processingPolls => settings.emulator.processingPolls
  | .activationPolls => settings.emulator.activationPolls

theorem get_unset (field : Field) :
  field.get unset = none
  := by
  cases field <;> rfl

/-- The upper choice counts where there is one. -/
theorem get_merge (lower upper : Settings) (field : Field) :
  field.get (lower.merge upper) = (field.get upper).or (field.get lower)
  := by
  cases field <;> rfl

end Field

/-- Settings are determined by their fields. -/
theorem ext_fields {settings settings' : Settings}
    (h : ∀ field : Field, field.get settings = field.get settings') :
  settings = settings'
  := by
  obtain ⟨⟨name, emulatorState⟩, ⟨blockSize, stepAttempts, stepDelay, pollAttempts, pollInterval,
    deadline⟩, ⟨attempts, interval⟩, ⟨busyReplies, processingPolls, activationPolls⟩⟩ := settings
  obtain rfl : name = _ := h .name
  obtain rfl : emulatorState = _ := h .emulatorState
  obtain rfl : blockSize = _ := h .blockSize
  obtain rfl : stepAttempts = _ := h .stepAttempts
  obtain rfl : stepDelay = _ := h .stepDelayMillis
  obtain rfl : pollAttempts = _ := h .pollAttempts
  obtain rfl : pollInterval = _ := h .pollIntervalMillis
  obtain rfl : deadline = _ := h .deadlineSeconds
  obtain rfl : attempts = _ := h .attempts
  obtain rfl : interval = _ := h .intervalMillis
  obtain rfl : busyReplies = _ := h .busyReplies
  obtain rfl : processingPolls = _ := h .processingPolls
  obtain rfl : activationPolls = _ := h .activationPolls
  rfl

theorem merge_assoc (lowest middle highest : Settings) :
  (lowest.merge middle).merge highest = lowest.merge (middle.merge highest)
  := by
  apply ext_fields
  intro field
  simp only [Field.get_merge, Option.or_assoc]

theorem unset_merge (settings : Settings) :
  unset.merge settings = settings
  := by
  apply ext_fields
  intro field
  rw [Field.get_merge, Field.get_unset, Option.or_none]

theorem merge_unset (settings : Settings) :
  settings.merge unset = settings
  := by
  apply ext_fields
  intro field
  rw [Field.get_merge, Field.get_unset, Option.none_or]

/-! ## Files with settings -/

/-- The settings of a file, if it can be read and parsed. -/
def at? (files : Files) (path : String) : Option Settings :=
  match files.read path with
  | .error _ => none
  | .ok content => (Utf8.decode? content).bind read?

/-- A file that is there without settings that can be used. -/
def IsUnusable (files : Files) (path : String) : Prop :=
  files.present path = true ∧ at? files path = none

instance (files : Files) (path : String) : Decidable (IsUnusable files path) :=
  inferInstanceAs (Decidable (files.present path = true ∧ at? files path = none))

/-- The count of warnings that a file causes. -/
def warningsAt (files : Files) (path : String) : Nat :=
  if IsUnusable files path then 1 else 0

theorem warningsAt_of_absent {files : Files} {path : String} (h : files.present path = false) :
  at? files path = none ∧ warningsAt files path = 0
  := by
  constructor
  · unfold at?
    split
    · rfl
    · rename_i hread
      cases (Files.present_of_read hread).symm.trans h
  · apply if_neg
    rintro ⟨hthere, -⟩
    cases hthere.symm.trans h

theorem warningsAt_of_unusable {files : Files} {path : String} (h : files.present path = true)
    (hnone : at? files path = none) :
  warningsAt files path = 1
  := if_pos ⟨h, hnone⟩

theorem warningsAt_of_usable {files : Files} {path : String} {settings : Settings}
    (h : at? files path = some settings) :
  warningsAt files path = 0
  := by
  apply if_neg
  rintro ⟨-, hnone⟩
  cases h.symm.trans hnone

/-! ## Loading -/

theorem warnUnusable_warns (what path reason : String) (files : Files) :
  (warnUnusable what path reason).Warns files none 1
  := by
  rw [warnUnusable]
  exact .bind_silent (.warn origin _ files) (.pure none files)

/-- A file gives its settings, with a warning where they cannot be used. -/
theorem loadFile_warns (files : Files) (path : String) :
  (loadFile path).Warns files (at? files path) (warningsAt files path)
  := by
  rw [loadFile]
  apply Warns.silent_bind (.isPresent path files)
  cases hpresent : files.present path with
  | false =>
      obtain ⟨hnone, hcount⟩ := warningsAt_of_absent hpresent
      rw [hnone, hcount]
      exact .pure none files
  | true =>
      have hunusable : ∀ what reason, at? files path = none →
          (warnUnusable what path reason).Warns files (at? files path)
            (warningsAt files path) := by
        intro what reason hnone
        rw [warningsAt_of_unusable hpresent hnone, hnone]
        exact warnUnusable_warns what path reason files
      apply Warns.silent_bind (.readFile path files)
      cases hread : files.read path with
      | error error =>
          apply hunusable
          rw [at?, hread]
      | ok content =>
          have hat : at? files path = (Utf8.decode? content).bind read? := by
            rw [at?, hread]
          cases htext : Utf8.decode? content with
          | none =>
              simp only [htext]
              apply hunusable
              rw [hat, htext, Option.bind_none]
          | some text =>
              rw [htext, Option.bind_some] at hat
              cases hsettings : read? text with
              | none =>
                  simp only [htext, hsettings]
                  exact hunusable _ _ (hat.trans hsettings)
              | some settings =>
                  have hsome := hat.trans hsettings
                  simp only [htext, hsettings]
                  rw [warningsAt_of_usable hsome, hsome]
                  exact .pure (some settings) files

/-- A file is laid over other settings, and leaves them as they are if it cannot be used. -/
theorem loadOver_warns (lower : Settings) (what path : String) (files : Files) :
  (loadOver lower what path).Warns files (lower.merge ((at? files path).getD unset))
    (warningsAt files path)
  := by
  rw [loadOver]
  apply Warns.bind_silent (loadFile_warns files path)
  cases at? files path with
  | none =>
      rw [Option.getD_none, merge_unset]
      exact .pure lower files
  | some upper => exact .silent_bind (.debug origin _ files) (.pure (lower.merge upper) files)

/-- The settings of the user's file, if there can be one. -/
def global (environment : Environment) (files : Files) : Settings :=
  ((globalPath? environment).bind (at? files)).getD unset

/-- The settings of the file in the working folder. -/
def localSettings (files : Files) : Settings :=
  (at? files localPath).getD unset

/-- The two files are laid over one another, each with its own warning. -/
theorem load_warns (environment : Environment) (files : Files) :
  (load environment).Warns files
    ((unset.merge (global environment files)).merge (localSettings files))
    ((globalPath? environment).elim 0 (warningsAt files) + warningsAt files localPath)
  := by
  rw [load, global]
  cases globalPath? environment with
  | none =>
      rw [Option.bind_none, Option.getD_none, merge_unset]
      exact .bind (.pure unset files) (loadOver_warns unset _ _ files)
  | some path => exact .bind (loadOver_warns unset _ path files) (loadOver_warns _ _ _ files)

/-- A named file gives its settings, or none with a warning more than its own. -/
theorem loadFrom_warns (files : Files) (path : String) :
  (loadFrom path).Warns files ((at? files path).getD unset)
    (if (at? files path).isSome then 0 else if files.present path then 2 else 1)
  := by
  rw [loadFrom]
  have hfile := loadFile_warns files path
  cases hat : at? files path with
  | none =>
      have hcount : warningsAt files path + 1 = if files.present path then 2 else 1 := by
        cases hpresent : files.present path with
        | false => rw [(warningsAt_of_absent hpresent).2]; rfl
        | true => rw [warningsAt_of_unusable hpresent hat]; rfl
      rw [hat] at hfile
      simp only [Option.isSome_none, Bool.false_eq_true, if_false, ← hcount]
      apply Warns.bind hfile
      exact .bind_silent (.warn origin _ files) (.pure unset files)
  | some settings =>
      rw [warningsAt_of_usable hat, hat] at hfile
      apply Warns.silent_bind hfile
      exact .silent_bind (.debug origin _ files) (.pure settings files)

/-! ## Parameters -/

/-- All that settings mean for a run. -/
structure Parameters where
  transfer : Transfer.Config
  activation : RetryPolicy
  emulator : Emulator.Config

/-- The parameters of a run with settings. -/
def parameters (settings : Settings) (kind : Transfer.Kind) (slot : UInt8) (mock : Bool) :
    Parameters :=
  ⟨settings.transferConfig kind slot mock, settings.activationPolicy, settings.emulatorConfig⟩

/-- The parameters where nothing is chosen. -/
def Parameters.default (kind : Transfer.Kind) (slot : UInt8) (mock : Bool) : Parameters where
  transfer := {
    kind, slot, mock
    blockSize := Transfer.Config.defaultBlockSize
    stepRetry := Transfer.Config.defaultStepRetry
    poll := Transfer.Config.defaultPoll }
  activation := Activation.defaultPolicy
  emulator := Emulator.Config.default

/-- The parameters with a chosen value in its places. -/
def Field.put : (field : Field) → field.Value → Parameters → Parameters
  | .name, _, p | .emulatorState, _, p => p
  | .blockSize, size, p => { p with transfer.blockSize := size }
  | .stepAttempts, count, p => { p with transfer.stepRetry.maxAttempts := count }
  | .stepDelayMillis, millis, p => { p with transfer.stepRetry.delay := .ofMillis millis }
  | .pollAttempts, count, p => { p with transfer.poll.maxAttempts := count }
  | .pollIntervalMillis, millis, p => { p with transfer.poll.delay := .ofMillis millis }
  | .deadlineSeconds, seconds, p =>
    { p with
      transfer.stepRetry.deadline := some (.ofSeconds seconds)
      transfer.poll.deadline := some (.ofSeconds seconds) }
  | .attempts, count, p => { p with activation.maxAttempts := count }
  | .intervalMillis, millis, p => { p with activation.delay := .ofMillis millis }
  | .busyReplies, count, p => { p with emulator.busyReplies := count }
  | .processingPolls, count, p => { p with emulator.processingPolls := count }
  | .activationPolls, count, p => { p with emulator.activationPolls := count }

/-- The parameters with what settings choose for a field, as they are if that is nothing. -/
def putChosen (settings : Settings) (p : Parameters) (field : Field) : Parameters :=
  match field.get settings with
  | none => p
  | some value => field.put value p

/-- What is put for a field, with the value before it where nothing is chosen. -/
theorem putChosen_eq (settings : Settings) (p : Parameters) (field : Field) :
  settings.putChosen p field = match field with
    | .name | .emulatorState => p
    | .blockSize =>
      { p with transfer.blockSize := settings.transfer.blockSize.getD p.transfer.blockSize }
    | .stepAttempts =>
      { p with
        transfer.stepRetry.maxAttempts :=
          settings.transfer.stepAttempts.getD p.transfer.stepRetry.maxAttempts }
    | .stepDelayMillis =>
      { p with
        transfer.stepRetry.delay :=
          (settings.transfer.stepDelayMillis.map .ofMillis).getD p.transfer.stepRetry.delay }
    | .pollAttempts =>
      { p with
        transfer.poll.maxAttempts :=
          settings.transfer.pollAttempts.getD p.transfer.poll.maxAttempts }
    | .pollIntervalMillis =>
      { p with
        transfer.poll.delay :=
          (settings.transfer.pollIntervalMillis.map .ofMillis).getD p.transfer.poll.delay }
    | .deadlineSeconds =>
      let deadline := settings.transfer.deadlineSeconds.map Duration.ofSeconds
      { p with
        transfer.stepRetry.deadline := deadline.or p.transfer.stepRetry.deadline
        transfer.poll.deadline := deadline.or p.transfer.poll.deadline }
    | .attempts =>
      { p with
        activation.maxAttempts := settings.activation.attempts.getD p.activation.maxAttempts }
    | .intervalMillis =>
      { p with
        activation.delay :=
          (settings.activation.intervalMillis.map .ofMillis).getD p.activation.delay }
    | .busyReplies =>
      { p with emulator.busyReplies := settings.emulator.busyReplies.getD p.emulator.busyReplies }
    | .processingPolls =>
      { p with
        emulator.processingPolls :=
          settings.emulator.processingPolls.getD p.emulator.processingPolls }
    | .activationPolls =>
      { p with
        emulator.activationPolls :=
          settings.emulator.activationPolls.getD p.emulator.activationPolls }
  := by
  rw [putChosen]
  cases field with
  | name => split <;> rfl
  | emulatorState => split <;> rfl
  | _ =>
      simp only [Field.get]
      split
      all_goals
        rename_i hchosen
        simp only [hchosen]
        rfl

/-- The parameters are the defaults with every chosen value in its places. -/
theorem parameters_eq (settings : Settings) (kind : Transfer.Kind) (slot : UInt8) (mock : Bool) :
  settings.parameters kind slot mock
    = Field.all.foldl settings.putChosen (.default kind slot mock)
  := by
  have hdeadline : ∀ deadline : Option Duration, deadline.or none = deadline :=
    fun _ => Option.or_none
  simp only [Field.all, List.foldl, putChosen_eq, Parameters.default,
    Transfer.Config.defaultStepRetry, Transfer.Config.defaultPoll, hdeadline]
  rfl

/-- Settings are laid over one another.  This is associative, with the empty settings as its
unit.  The settings that are loaded are those of the user's file under those of the file in the
working folder, field by field, and each file that is there but of no use adds a warning and no
settings.  A named file gives its settings without a warning; one that is missing gives none with
one warning, and one of no use with two.  The parameters of a run are the defaults with every
chosen value in its own places. -/
theorem layered (environment : Environment) (files : Files) :
  (∀ lowest middle highest : Settings,
      (lowest.merge middle).merge highest = lowest.merge (middle.merge highest))
    ∧ (∀ settings : Settings, unset.merge settings = settings ∧ settings.merge unset = settings)
    ∧ (∀ path, (files.present path = false → at? files path = none ∧ warningsAt files path = 0)
        ∧ (files.present path = true → at? files path = none → warningsAt files path = 1)
        ∧ ∀ settings, at? files path = some settings → warningsAt files path = 0)
    ∧ (∃ settings, (load environment).Warns files settings
          ((globalPath? environment).elim 0 (warningsAt files) + warningsAt files localPath)
        ∧ settings = (unset.merge (global environment files)).merge (localSettings files)
        ∧ ∀ field : Field, field.get settings
          = (field.get (localSettings files)).or (field.get (global environment files)))
    ∧ (∀ path, (loadFrom path).Warns files ((at? files path).getD unset)
        (if (at? files path).isSome then 0 else if files.present path then 2 else 1))
    ∧ ∀ settings kind slot mock, parameters settings kind slot mock
        = Field.all.foldl settings.putChosen (.default kind slot mock)
  := by
  refine ⟨merge_assoc, fun settings => ⟨unset_merge settings, merge_unset settings⟩,
    fun path => ⟨warningsAt_of_absent, warningsAt_of_unusable, fun _ => warningsAt_of_usable⟩,
    ⟨_, load_warns environment files, rfl, fun field => ?_⟩, loadFrom_warns files, parameters_eq⟩
  rw [Field.get_merge, unset_merge]

/-- A user's file that sets the attempts of a step counts where the file in the working folder
is broken, with one warning.  The broken file on its own causes two, and a missing one one. -/
theorem layered_over_broken :
  let files : Files := ⟨["w"], [(["w", "cxlfw.toml"], .file [0x5B]), (["h"], .folder),
    (["h", ".config"], .folder), (["h", ".config", "cxlfw"], .folder),
    (["h", ".config", "cxlfw", "config.toml"],
      .file (Utf8.encode "[transfer]\nstep_attempts = 5"))]⟩
  (load [("HOME", "/h")]).Warns files { unset with transfer.stepAttempts := some 5 } 1
    ∧ (loadFrom "cxlfw.toml").Warns files unset 2
    ∧ (loadFrom "c.toml").Warns files unset 1
  := by
  intro files
  obtain ⟨-, -, hwarnings, ⟨_, hload, rfl, -⟩, hfrom, -⟩ := layered [("HOME", "/h")] files
  have hpath : globalPath? [("HOME", "/h")] = some "/h/.config/cxlfw/config.toml" := by
    decide +kernel
  have hsettings : at? files "/h/.config/cxlfw/config.toml"
      = some { unset with transfer.stepAttempts := some 5 } := by
    decide +kernel
  have hbroken : at? files "cxlfw.toml" = none := by decide +kernel
  have hthere : files.present "cxlfw.toml" = true := by decide +kernel
  have hmissing : files.present "c.toml" = false := by decide +kernel
  obtain ⟨-, hone, -⟩ := hwarnings "cxlfw.toml"
  obtain ⟨-, -, hnone⟩ := hwarnings "/h/.config/cxlfw/config.toml"
  obtain ⟨habsent, -, -⟩ := hwarnings "c.toml"
  refine ⟨?_, ?_, ?_⟩
  · rw [global, hpath, localSettings, localPath, hbroken, Option.elim_some, hone hthere hbroken,
      hnone _ hsettings, Option.bind_some, hsettings] at hload
    exact hload
  · have hwarns := hfrom "cxlfw.toml"
    rw [hbroken, hthere] at hwarns
    exact hwarns
  · have hwarns := hfrom "c.toml"
    rw [(habsent hmissing).1, hmissing] at hwarns
    exact hwarns

end Settings

end CxlFirmware
