import CxlFirmware.Program
import CxlFirmware.Proofs.Traffic

/-!
# What programs leave behind

`program.Comes files outcome files'` says that on some files a program comes to a result, leaves
other files behind and writes nothing to the standard output; `program.Ends files value files'`
says that the result is a value.  It has a rule for each way to build a program, and rules for
programs that may fail.
-/

namespace CxlFirmware

/-- The output is no text to the standard output. -/
def Output.IsAside : Output → Prop
  | .result _ => False
  | _ => True

namespace Program

variable {α β ε : Type}

/-- One program after another runs from the end of the first, unless that is a fault. -/
theorem run_bind (program : Program α) (next : α → Program β) (files : Files) :
  (program >>= next).run files = match (program.run files).result with
    | .error fault => ⟨.error fault, (program.run files).files, (program.run files).outputs⟩
    | .ok a =>
      let rest := (next a).run (program.run files).files
      ⟨rest.result, rest.files, (program.run files).outputs ++ rest.outputs⟩
  := by
  change (program.bind next).run files = _
  induction program generalizing files with
  | done value => rfl
  | crash fault => rfl
  | present path rest ih => exact ih _ files
  | read path rest ih => exact ih _ files
  | write path content rest ih =>
      rw [Program.bind, run, run]
      cases files.write path content with
      | error error => exact ih _ files
      | ok written => exact ih _ written
  | emit output rest ih =>
      rw [Program.bind, run, run, ih]
      cases (rest.run files).result with
      | error fault => rfl
      | ok a => rfl

/-- From `files`, the program comes to a result and leaves `files'` behind, without a text to
the standard output. -/
structure Comes (program : Program α) (files : Files) (outcome : Except Fault α)
    (files' : Files) : Prop where
  result : (program.run files).result = outcome
  leaves : (program.run files).files = files'
  aside : ∀ output ∈ (program.run files).outputs, output.IsAside

/-- It ends with a value. -/
abbrev Ends (program : Program α) (files : Files) (value : α) (files' : Files) : Prop :=
  program.Comes files (.ok value) files'

namespace Comes

variable {program program' : Program α} {next : α → Program β} {a : α}
  {outcome : Except Fault α} {files files₁ files' : Files}

/-- A program does as another one that runs as it does. -/
theorem of_run (h : program.Comes files outcome files')
    (hrun : program'.run files₁ = program.run files) :
  program'.Comes files₁ outcome files'
  := by
  constructor <;> rw [hrun]
  · exact h.result
  · exact h.leaves
  · exact h.aside

/-- One program after another, from the end of the first. -/
protected theorem bind {outcome : Except Fault β} (h : program.Ends files a files₁)
    (hnext : (next a).Comes files₁ outcome files') :
  (program >>= next).Comes files outcome files'
  := by
  obtain ⟨hresult, rfl, haside⟩ := h
  constructor
  · rw [run_bind, hresult]
    exact hnext.result
  · rw [run_bind, hresult]
    exact hnext.leaves
  · rw [run_bind, hresult]
    intro output houtput
    rcases List.mem_append.mp houtput with houtput | houtput
    · exact haside output houtput
    · exact hnext.aside output houtput

/-- Nothing comes after a fault. -/
theorem bind_fault {fault : Fault} (h : program.Comes files (.error fault) files') :
  (program >>= next).Comes files (.error fault) files'
  := by
  obtain ⟨hresult, rfl, haside⟩ := h
  constructor
  · rw [run_bind, hresult]
  · rw [run_bind, hresult]
  · rw [run_bind, hresult]
    exact haside

end Comes

namespace Ends

variable {files files₁ files' : Files}

protected theorem pure (value : α) (files : Files) :
  (pure value : Program α).Ends files value files
  := ⟨rfl, rfl, nofun⟩

/-- An output beside the standard output changes nothing. -/
theorem emit {program : Program α} {output : Output} {value : α} (houtput : output.IsAside)
    (h : program.Ends files value files') :
  (emit output program).Ends files value files'
  := by
  constructor
  · exact h.result
  · exact h.leaves
  · intro other hother
    rcases List.mem_cons.mp hother with rfl | hother
    · exact houtput
    · exact h.aside other hother

/-- One program after another ends as the second does. -/
protected theorem bind {program : Program α} {next : α → Program β} {a : α} {b : β}
    (h : program.Ends files a files₁) (hnext : (next a).Ends files₁ b files') :
  (program >>= next).Ends files b files'
  := Comes.bind h hnext

/-! ## The operations on files -/

theorem isPresent (path : String) (files : Files) :
  (isPresent path).Ends files (files.present path) files
  := ⟨rfl, rfl, nofun⟩

theorem readFile (path : String) (files : Files) :
  (readFile path).Ends files (files.read path) files
  := ⟨rfl, rfl, nofun⟩

theorem writeFile {path : String} {content : Bytes} (h : files.write path content = .ok files') :
  (writeFile path content).Ends files (.ok ()) files'
  := by
  apply (Ends.pure (Except.ok ()) files').of_run
  rw [Program.writeFile, run, h]
  rfl

theorem writeFile_failed {path : String} {content : Bytes} {error : IoError}
    (h : files.write path content = .error error) :
  (Program.writeFile path content).Ends files (.error error) files
  := by
  apply (Ends.pure (Except.error error) files).of_run
  rw [Program.writeFile, run, h]
  rfl

/-! ## Outputs -/

theorem notifyLine (text : String) (files : Files) :
  (notifyLine text).Ends files () files
  := .emit trivial (.pure () files)

theorem log (level : LogLevel) (origin message : String) (files : Files) :
  (log level origin message).Ends files () files
  := .emit trivial (.pure () files)

theorem replay (events : List Event) (files : Files) :
  (replay events).Ends files () files
  := by
  induction events with
  | nil => exact .pure () files
  | cons event events ih =>
      cases event with
      | exchanged command answer => exact ih
      | progressed report => exact ih
      | logged record => exact .emit trivial ih
      | slept duration => exact .emit trivial ih

/-- A workflow that comes to a value changes no files. -/
theorem ofWorkflow {σ : Type} {workflow : Workflow σ α} {m : σ} {value : α}
    (h : (workflow m).result = .ok value) (files : Files) :
  (ofWorkflow workflow m).Ends files (value, (workflow m).mailbox) files
  := by
  apply Ends.bind (.replay _ _)
  rw [h]
  exact .pure _ files

/-! ## Programs that may fail -/

section

variable {program : ExceptT ε Program α} {next : α → ExceptT ε Program β} {a : α} {error : ε}
  {outcome : Except ε β}

/-- A program that may fail goes on after its first part. -/
theorem andThen (h : program.run.Ends files (.ok a) files₁)
    (hnext : (next a).run.Ends files₁ outcome files') :
  (program >>= next).run.Ends files outcome files'
  := Ends.bind h hnext

/-- It fails where its first part does. -/
theorem orElse (h : program.run.Ends files (.error error) files') :
  (program >>= next).run.Ends files (.error error) files'
  := Ends.bind h (.pure _ _)

theorem throw (error : ε) (files : Files) :
  (throw error : ExceptT ε Program α).run.Ends files (.error error) files
  := .pure _ files

theorem succeed (a : α) (files : Files) :
  (pure a : ExceptT ε Program α).run.Ends files (.ok a) files
  := .pure _ files

theorem lift {program : Program α} (h : program.Ends files a files') :
  (liftM program : ExceptT ε Program α).run.Ends files (.ok a) files'
  := Ends.bind h (.pure _ _)

end

end Ends

/-! ## Faults -/

namespace Comes

variable {files files₁ files' : Files} {fault : Fault}

protected theorem crash (fault : Fault) (files : Files) :
  (crash fault : Program α).Comes files (.error fault) files
  := ⟨rfl, rfl, nofun⟩

/-- A workflow that ends the program changes no files either. -/
theorem ofWorkflow {σ : Type} {workflow : Workflow σ α} {m : σ}
    (h : (workflow m).result = .error fault) (files : Files) :
  (ofWorkflow workflow m).Comes files (.error fault) files
  := by
  apply Comes.bind (.replay _ _)
  rw [h]
  exact .crash fault files

/-- A program that may fail goes on after its first part. -/
theorem andThen {program : ExceptT ε Program α} {next : α → ExceptT ε Program β} {a : α}
    {outcome : Except Fault (Except ε β)} (h : program.run.Ends files (.ok a) files₁)
    (hnext : (next a).run.Comes files₁ outcome files') :
  (program >>= next).run.Comes files outcome files'
  := Comes.bind h hnext

theorem orElse {program : ExceptT ε Program α} {next : α → ExceptT ε Program β}
    (h : program.run.Comes files (.error fault) files') :
  (program >>= next).run.Comes files (.error fault) files'
  := bind_fault h

theorem lift {program : Program α} (h : program.Comes files (.error fault) files') :
  (liftM program : ExceptT ε Program α).run.Comes files (.error fault) files'
  := bind_fault h

end Comes

end Program

end CxlFirmware
