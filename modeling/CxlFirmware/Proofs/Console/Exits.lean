import CxlFirmware.Console.Execution
import CxlFirmware.Proofs.Activation
import CxlFirmware.Proofs.Console.Session
import CxlFirmware.Proofs.Settings

/-!
# Exits

`Exits job files code files'` says that on some files a job ends with an exit code and leaves
other files behind.  `Session.work` is what updates and activations have in common: where the
device cannot be claimed, the files stay as they are, and otherwise the state of the device is
saved, whatever the result of the work.
-/

namespace CxlFirmware.Console

open Program (Comes Ends)

/-! ## Exits -/

/-- The program ended with an exit code, left files behind and wrote nothing to the standard
output. -/
structure Exit.Leaves (exit : Exit) (code : UInt8) (files : Files) : Prop where
  code : exit.code = code
  files : exit.files = files
  silent : exit.result = ""

/-- The exit code of a job that has come to a result. -/
def codeOf : Except Fault (Except Failure Unit) → UInt8
  | .ok (.ok ()) => 0
  | .ok (.error failure) => failure.exitCode
  | .error _ => faultCode

theorem exitCode_of_operational {error : Error} (h : error.IsOperational)
    (context : Option Message) :
  (Failure.firmware context error).exitCode = 1
  := by
  cases error with
  | config text => cases h
  | deviceBusy name => cases h
  | _ => rfl

/-- From `files`, the job ends with an exit code and leaves `files'` behind, without a text to
the standard output. -/
def Exits (job : Fallible Unit) (files : Files) (code : UInt8) (files' : Files) : Prop :=
  ∃ outcome, job.run.Comes files outcome files' ∧ codeOf outcome = code

section

variable {α : Type} {program : Fallible α} {next : α → Fallible Unit} {files files₁ files' : Files}
  {code : UInt8} {a : α} {failure : Failure} {fault : Fault}

/-- A job goes on after its first part. -/
theorem Exits.andThen (h : program.run.Ends files (.ok a) files₁)
    (hnext : Exits (next a) files₁ code files') :
  Exits (program >>= next) files code files'
  := by
  obtain ⟨outcome, hcomes, hcode⟩ := hnext
  exact ⟨outcome, Comes.andThen h hcomes, hcode⟩

/-- It ends where its first part fails. -/
theorem Exits.orElse (h : program.run.Ends files (.error failure) files') :
  Exits (program >>= next) files failure.exitCode files'
  := ⟨_, Ends.orElse h, rfl⟩

/-- Or where its first part ends the program. -/
theorem Exits.crash (h : program.run.Comes files (.error fault) files') :
  Exits (program >>= next) files faultCode files'
  := ⟨_, Comes.orElse h, rfl⟩

end

/-- Outputs beside the standard output have no text there. -/
theorem join_resultText {outputs : List Output} (h : ∀ output ∈ outputs, output.IsAside) :
  String.join (outputs.map LogStyle.resultText) = ""
  := by
  induction outputs with
  | nil => rfl
  | cons output outputs ih =>
      have haside := h output List.mem_cons_self
      have hempty : LogStyle.resultText output = "" := by
        cases output with
        | result text => cases haside
        | _ => rfl
      rw [List.map_cons, String.join_cons, hempty,
        ih fun output houtput => h output (List.mem_cons_of_mem _ houtput)]
      rfl

theorem Exit.leaves_of_ends (style : LogStyle) {program : Program UInt8} {files files' : Files}
    {code : UInt8} (h : program.Ends files code files') :
  (Exit.ofOutcome style (program.run files)).Leaves code files'
  := by
  rw [Exit.ofOutcome, h.result]
  exact ⟨rfl, h.leaves, join_resultText h.aside⟩

theorem Exit.leaves_of_fault (style : LogStyle) {program : Program UInt8} {files files' : Files}
    {fault : Fault} (h : program.Comes files (.error fault) files') :
  (Exit.ofOutcome style (program.run files)).Leaves faultCode files'
  := by
  rw [Exit.ofOutcome, h.result]
  exact ⟨rfl, h.leaves, join_resultText h.aside⟩

theorem complain_ends (faults : List LogFilterFault) (files : Files) :
  (complain faults).Ends files () files
  := by
  induction faults with
  | nil => exact .pure _ _
  | cons fault rest ih => exact .bind (.notifyLine _ _) ih

theorem reportFailure_ends (language : Language) (outcome : Except Failure Unit) (files : Files) :
  (reportFailure language outcome).Ends files (codeOf (.ok outcome)) files
  := by
  cases outcome with
  | ok _ => exact .pure _ _
  | error failure => exact .bind (.notifyLine _ _) (.pure _ _)

theorem Invocation.loadSettings_ends (environment : Environment) (invocation : Invocation)
    (files : Files) :
  ∃ settings, (invocation.loadSettings environment).Ends files settings files
  := by
  rw [loadSettings]
  cases invocation.config with
  | none => exact Settings.load_ends environment files
  | some path => exact Settings.loadFrom_ends path files

/-- A command line leaves behind what its job does. -/
theorem run_leaves {clock : Clock Emulator} {environment : Environment} {words : List String}
    {files files' : Files} {invocation : Invocation} {settings : Settings} {code : UInt8}
    (hhelp : Help.isWanted words = false)
    (hread : Invocation.read environment words = .ok invocation)
    (hsettings : (invocation.loadSettings environment).Ends files settings files)
    (hjob : Exits (invocation.job.run environment (Setup.make
      (.ofLocale (Language.locale environment words)) invocation settings clock)) files code
      files') :
  (run clock environment words files).Leaves code files'
  := by
  obtain ⟨outcome, hcomes, rfl⟩ := hjob
  simp only [run, launch, hhelp, hread]
  cases outcome with
  | ok outcome =>
      apply Exit.leaves_of_ends
      exact .bind (complain_ends _ _) (.bind (.log _ _ _ _) (.bind hsettings
        (.bind hcomes (reportFailure_ends _ _ _))))
  | error fault =>
      apply Exit.leaves_of_fault
      exact .bind (complain_ends _ _) (.bind (.log _ _ _ _) (.bind hsettings
        (.bind_fault hcomes)))

/-! ## Work on a device -/

theorem Setup.say_ends (setup : Setup) (mark : String) (message : Message) (files : Files) :
  (setup.say mark message).Ends files () files
  := by
  rw [say]
  split
  · exact .pure _ _
  · exact .notifyLine _ _

namespace Session

variable {α : Type} {setup : Setup} {state : Emulator.State} {files : Files}

theorem carryOut_ends (session : Session) {workflow : Workflow Emulator α} {a : α}
    (h : (workflow session.mailbox).result = .ok a) (files : Files) :
  (session.carryOut workflow).Ends files
    (a, { session with mailbox := (workflow session.mailbox).mailbox }) files
  := .bind (.ofWorkflow h files) (.pure _ _)

theorem carryOut_crashes (session : Session) {workflow : Workflow Emulator α} {fault : Fault}
    (h : (workflow session.mailbox).result = .error fault) (files : Files) :
  (session.carryOut workflow).Comes files (.error fault) files
  := .bind_fault (.ofWorkflow h files)

/-- A device that is not busy can be claimed. -/
theorem carryOut_claim (hidle : state.busy = false) (files : Files) :
  ((ofState setup state).carryOut (ofState setup state).device.claim).Ends files
    (.ok (), ofState setup state) files
  := by
  have hclaim : ∃ events, (ofState setup state).device.claim (ofState setup state).mailbox
      = ⟨.ok (.ok ()), (ofState setup state).mailbox, events⟩ := by
    simp only [Device.claim, ofState, Emulator.initialGate, Gate.isActive, hidle]
    exact ⟨_, rfl⟩
  obtain ⟨events, hclaim⟩ := hclaim
  have hclaimed := carryOut_ends (ofState setup state) (congrArg Run.result hclaim) files
  rw [hclaim] at hclaimed
  exact hclaimed

/-- A device that is not busy is claimed for a workflow. -/
theorem claimed_ends (hidle : state.busy = false) {workflow : Workflow Emulator (Except Error α)}
    {result : Except Error α}
    (hresult : (workflow (ofState setup state).mailbox).result = .ok result) (files : Files) :
  let mailbox := (workflow (ofState setup state).mailbox).mailbox
  ((ofState setup state).claimed workflow).run.Ends files
    (.ok (result, { ofState setup state with mailbox })) files
  := by
  intro mailbox
  have hwork : ∃ events, (do
        let result ← workflow
        (ofState setup state).device.release
        return result) (ofState setup state).mailbox
      = ⟨.ok result, mailbox, events⟩ := by
    rw [Workflow.bind_of_ok hresult]
    exact ⟨_, rfl⟩
  obtain ⟨events', hwork⟩ := hwork
  have hworked := carryOut_ends (ofState setup state) (congrArg Run.result hwork) files
  rw [hwork] at hworked
  rw [claimed]
  exact .andThen (.lift (carryOut_claim hidle files)) (.lift hworked)

/-- Where the workflow ends the program, no files change. -/
theorem claimed_crashes (hidle : state.busy = false)
    {workflow : Workflow Emulator (Except Error α)} {fault : Fault}
    (hresult : (workflow (ofState setup state).mailbox).result = .error fault) (files : Files) :
  ((ofState setup state).claimed workflow).run.Comes files (.error fault) files
  := by
  have hwork : ((do
        let result ← workflow
        (ofState setup state).device.release
        return result) (ofState setup state).mailbox).result = .error fault := by
    rw [Workflow.bind_of_fault hresult]
  rw [claimed]
  exact .andThen (.lift (carryOut_claim hidle files)) (.lift (carryOut_crashes _ hwork files))

/-- A busy device is not claimed. -/
theorem claimed_busy (hbusy : state.busy = true) (workflow : Workflow Emulator (Except Error α))
    (files : Files) :
  ((ofState setup state).claimed workflow).run.Ends files
    (.error (.firmware (some .claimFailed) (.deviceBusy setup.deviceName))) files
  := by
  have hclaim : (ofState setup state).device.claim
      = pure (.error (.deviceBusy setup.deviceName)) := by
    simp only [Device.claim, ofState, Emulator.initialGate, Gate.isActive, hbusy]
  rw [claimed, hclaim]
  exact .andThen (.lift (carryOut_ends _ rfl files)) (.throw _ _)

/-- The exit code after work with a result. -/
def codeAfter (context : Message) (result : Except Error α) (saved : Except IoError Files) :
    UInt8 :=
  match result with
  | .error error => (Failure.firmware (some context) error).exitCode
  | .ok _ => if saved.isOk then 0 else 1

/-- After the work on a device, its state is saved, whatever the result. -/
theorem exits_of_saveAfter (session : Session) (language : Language) (context : Message)
    (result : Except Error α) {next : α → Fallible Unit}
    (hnext : ∀ a files, (next a).run.Ends files (.ok ()) files) (files : Files) :
  let saved := savedIn files session.mailbox.state session.statePath
  Exits (do next (← orFail context (← session.saveAfter language result))) files
    (codeAfter context result saved) (saved.toOption.getD files)
  := by
  intro saved
  cases hsaved : saved with
  | ok files' =>
      have hafter : (session.saveAfter language result).run.Ends files (.ok result) files' :=
        .andThen (.lift (save_ends hsaved)) (.succeed _ _)
      apply Exits.andThen hafter
      cases result with
      | error error => exact .orElse (.throw _ _)
      | ok a => exact .andThen (.succeed _ _) ⟨_, hnext a files', rfl⟩
  | error error =>
      obtain ⟨path, -, hsave⟩ := save_fails hsaved
      cases result with
      | error error =>
          have hafter : (session.saveAfter language (.error error : Except Error α)).run.Ends files
              (.ok (.error error)) files :=
            .andThen (.lift hsave) (.andThen (.lift (.log _ _ _ _)) (.succeed _ _))
          exact .andThen hafter (.orElse (.throw _ _))
      | ok a =>
          have hafter : (session.saveAfter language (.ok a : Except Error α)).run.Ends files
              (.error (.unsavedState path error)) files :=
            .andThen (.lift hsave) (.throw _ _)
          exact .orElse hafter

/-- The state that a device is claimed with, or the exit code where its file cannot be used or
it is busy. -/
def claimable (files : Files) (statePath : Option String) : Except UInt8 Emulator.State :=
  match stateIn? files statePath with
  | none => .error 3
  | some state => if state.busy then .error 4 else .ok state

/-- The job that opens and claims a device, works on it and saves its state. -/
def work (setup : Setup) (before : Program Unit)
    (workflow : Session → Workflow Emulator (Except Error α)) (context : Message)
    (after : α → Program Unit) : Fallible Unit := do
  let session ← start setup
  before
  let (result, session) ← session.claimed (workflow session)
  after (← orFail context (← session.saveAfter setup.language result))

variable {before : Program Unit} {context : Message} {after : α → Program Unit}
  {workflow : Session → Workflow Emulator (Except Error α)}

/-- A device that cannot be opened or claimed stays as it is. -/
theorem exits_of_unclaimable {code : UInt8} (h : claimable files setup.statePath = .error code)
    (hbefore : before.Ends files () files) :
  Exits (work setup before workflow context after) files code files
  := by
  rcases start_ends setup files with ⟨state, hstate, hstart⟩ | ⟨hnone, text, hstart⟩
  · rw [claimable, hstate] at h
    cases hbusy : state.busy with
    | false => simp [hbusy] at h
    | true =>
        simp only [hbusy, if_true] at h
        obtain rfl := Except.error.inj h
        exact .andThen hstart (.andThen (.lift hbefore) (.orElse (claimed_busy hbusy _ files)))
  · rw [claimable, hnone] at h
    obtain rfl := Except.error.inj h
    exact .orElse hstart

theorem of_claimable (h : claimable files setup.statePath = .ok state) :
  stateIn? files setup.statePath = some state ∧ state.busy = false
  := by
  rw [claimable] at h
  split at h
  · cases h
  · rename_i state' hstate
    split at h
    · cases h
    · rename_i hidle
      obtain rfl := Except.ok.inj h
      exact ⟨hstate, eq_false_of_ne_true hidle⟩

/-- Where the work on a device ends the program, no files change. -/
theorem exits_of_fault (h : claimable files setup.statePath = .ok state)
    (hbefore : before.Ends files () files) {fault : Fault}
    (hresult : (workflow (ofState setup state) (ofState setup state).mailbox).result
      = .error fault) :
  Exits (work setup before workflow context after) files faultCode files
  := by
  obtain ⟨hstate, hidle⟩ := of_claimable h
  refine .andThen (start_of_stateIn? hstate) (.andThen (.lift hbefore) ?_)
  exact .crash (claimed_crashes hidle hresult files)

/-- A device that can be claimed is worked on, and then its state is saved. -/
theorem exits_of_claimable (h : claimable files setup.statePath = .ok state)
    (hbefore : before.Ends files () files) {result : Except Error α}
    (hresult : (workflow (ofState setup state) (ofState setup state).mailbox).result = .ok result)
    (hafter : ∀ a files, (after a).Ends files () files) :
  let mailbox := (workflow (ofState setup state) (ofState setup state).mailbox).mailbox
  let saved := savedIn files mailbox.state setup.statePath
  Exits (work setup before workflow context after) files (codeAfter context result saved)
    (saved.toOption.getD files)
  := by
  obtain ⟨hstate, hidle⟩ := of_claimable h
  refine .andThen (start_of_stateIn? hstate) (.andThen (.lift hbefore) ?_)
  refine .andThen (claimed_ends hidle hresult files) ?_
  exact exits_of_saveAfter _ setup.language context result
    (fun a files => .lift (hafter a files)) files

end Session

end CxlFirmware.Console
