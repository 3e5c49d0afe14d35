import CxlFirmware.Proofs.Console.Exits
import CxlFirmware.Proofs.Emulator.Agreement
import CxlFirmware.Proofs.Emulator.Results
import CxlFirmware.Proofs.Settings

/-!
# How updates and activations end

`Update.checked` and `Activate.checked` are the checks before the work on a device, in order,
with the exit code of the first one that fails.  A command line that fails one of them leaves
all files as they are; behind them, the state of the device is written back, whatever comes of
the work, unless it ends the program.
-/

namespace CxlFirmware.Console

section

variable {ε ε' α β : Type} {x : Except ε α} {a : α} {b : β}

theorem bind_eq_ok {f : α → Except ε β} (h : (x >>= f) = .ok b) :
  ∃ a, x = .ok a ∧ f a = .ok b
  := by
  cases x with
  | error error => cases h
  | ok a => exact ⟨a, rfl, h⟩

theorem mapError_eq_ok {f : ε → ε'} (h : x.mapError f = .ok a) :
  x = .ok a
  := by
  cases x with
  | error error => cases h
  | ok a' =>
      obtain rfl : a' = a := Except.ok.inj h
      rfl

theorem toOption_eq_some (h : x.toOption = some a) :
  x = .ok a
  := by
  cases x with
  | error error => cases h
  | ok a' =>
      obtain rfl : a' = a := Option.some.inj h
      rfl

end

/-! ## Updates -/

namespace Update

variable {setup : Setup} {slot : UInt8} {hbo osImage mock : Bool} {config : Transfer.Config}
  {image : Image} {files : Files}

/-- The checks of an update: its parameters, the image and the device.  The first one that
fails gives the exit code. -/
def checked (setup : Setup) (path : String) (slot : UInt8) (hbo osImage mock : Bool)
    (files : Files) : Except UInt8 (Transfer.Config × Image × Emulator.State) := do
  let config ← (configOf setup slot hbo osImage mock).mapError fun _ => 3
  let image ← (Image.ofFile path (files.read path)).mapError fun _ => 1
  let state ← Session.claimable files setup.statePath
  return (config, image, state)

/-- The parameters are valid ones of the settings, or the error is one of the settings. -/
theorem configOf_cases (setup : Setup) (slot : UInt8) (hbo osImage mock : Bool) :
  (∃ kind, configOf setup slot hbo osImage mock
        = .ok (setup.settings.transferConfig kind slot mock)
      ∧ (setup.settings.transferConfig kind slot mock).validate = .ok ())
    ∨ ∃ text, configOf setup slot hbo osImage mock = .error (.config text)
  := by
  have hrest : ∀ kind, Transfer.Kind.ofFlags hbo osImage = .ok kind →
      configOf setup slot hbo osImage mock
        = (setup.settings.transferConfig kind slot mock).validate.bind fun _ =>
          .ok (setup.settings.transferConfig kind slot mock) := by
    intro kind hkind
    rw [configOf, hkind]
    rfl
  cases hkind : Transfer.Kind.ofFlags hbo osImage with
  | error error =>
      right
      rw [Transfer.Kind.ofFlags.eq_def] at hkind
      split at hkind
      all_goals cases hkind
      exact ⟨_, rfl⟩
  | ok kind =>
      rw [hrest kind hkind]
      cases hvalid : (setup.settings.transferConfig kind slot mock).validate with
      | error error =>
          obtain ⟨text, rfl⟩ := Transfer.config_of_validate hvalid
          exact .inr ⟨text, rfl⟩
      | ok _ => exact .inl ⟨kind, rfl, hvalid⟩

theorem loadImage_ends {path : String} (h : Image.ofFile path (files.read path) = .ok image) :
  (loadImage path).run.Ends files (.ok image) files
  := by
  rw [loadImage]
  refine .andThen (.lift (.log _ _ _ _)) (.andThen (.lift (.readFile path files)) ?_)
  rw [h]
  exact .andThen (.succeed _ _) (.andThen (.lift (.log _ _ _ _)) (.succeed _ _))

theorem loadImage_fails {path : String} {error : Error}
    (h : Image.ofFile path (files.read path) = .error error) :
  (loadImage path).run.Ends files (.error (.firmware (some (.loadImageFailed path)) error)) files
    ∧ (Failure.firmware (some (.loadImageFailed path)) error).exitCode = 1
  := by
  constructor
  · rw [loadImage]
    refine .andThen (.lift (.log _ _ _ _)) (.andThen (.lift (.readFile path files)) ?_)
    rw [h]
    exact .orElse (.throw _ _)
  · cases hcontent : files.read path with
    | error source =>
        rw [hcontent] at h
        obtain rfl := Except.error.inj h
        rfl
    | ok content =>
        rw [hcontent, Image.ofFile, Image.make] at h
        split at h
        · obtain rfl := Except.error.inj h
          rfl
        · cases h

theorem announce_ends (hvalid : config.validate = .ok ()) (image : Image) (files : Files) :
  (announce setup config image).Ends files () files
  := by
  obtain ⟨hsize, -, -⟩ := config.validate_eq_ok hvalid
  obtain ⟨hpositive, -⟩ := Transfer.validateBlockSize_eq_ok hsize
  rw [announce, Image.blockCount, if_neg hpositive.ne']
  split
  · exact .pure _ _
  · exact setup.say_ends _ _ _

theorem conclude_ends (setup : Setup) (outcome : Transfer.Outcome) (files : Files) :
  (conclude setup outcome).Ends files () files
  := by
  cases outcome with
  | completed blocks bytes => exact setup.say_ends _ _ files
  | mockAborted abortError =>
      cases abortError with
      | none => exact setup.say_ends _ _ files
      | some error => exact .bind (.log _ _ _ _) (setup.say_ends _ _ files)

/-- An update that fails a check leaves all files as they are. -/
theorem exits_of_unchecked {path : String} {code : UInt8}
    (h : checked setup path slot hbo osImage mock files = .error code) :
  Exits (run setup path slot hbo osImage mock) files code files
  := by
  rw [checked] at h
  rw [run]
  rcases configOf_cases setup slot hbo osImage mock with ⟨kind, hconfig, hvalid⟩
    | ⟨text, hconfig⟩
  · rw [hconfig] at h ⊢
    refine .andThen (.lift (setup.say_ends _ _ files)) ?_
    cases himage : Image.ofFile path (files.read path) with
    | error error =>
        obtain ⟨hload, hcode⟩ := loadImage_fails himage
        rw [himage] at h
        obtain rfl := Except.error.inj h
        rw [← hcode]
        exact .orElse hload
    | ok image =>
        rw [himage] at h
        refine .andThen (loadImage_ends himage) ?_
        cases hclaim : Session.claimable files setup.statePath with
        | ok state =>
            rw [hclaim] at h
            cases h
        | error code' =>
            rw [hclaim] at h
            obtain rfl := Except.error.inj h
            exact Session.exits_of_unclaimable hclaim (announce_ends hvalid image files)
  · rw [hconfig] at h ⊢
    obtain rfl := Except.error.inj h
    exact ⟨_, Program.Ends.throw _ _, rfl⟩

theorem of_checked {path : String} {state : Emulator.State}
    (h : checked setup path slot hbo osImage mock files = .ok (config, image, state)) :
  configOf setup slot hbo osImage mock = .ok config
    ∧ ((∃ kind, config = setup.settings.transferConfig kind slot mock)
      ∧ config.validate = .ok ())
    ∧ Image.ofFile path (files.read path) = .ok image
    ∧ Session.claimable files setup.statePath = .ok state
  := by
  obtain ⟨config', hconfig, h⟩ := bind_eq_ok h
  obtain ⟨image', himage, h⟩ := bind_eq_ok h
  obtain ⟨state', hclaim, h⟩ := bind_eq_ok h
  obtain ⟨⟩ := Except.ok.inj h
  replace hconfig := mapError_eq_ok hconfig
  refine ⟨hconfig, ?_, mapError_eq_ok himage, hclaim⟩
  rcases configOf_cases setup slot hbo osImage mock with ⟨kind, hchosen, hvalid⟩ | ⟨text, hfailed⟩
  · obtain rfl := Except.ok.inj (hchosen.symm.trans hconfig)
    exact ⟨⟨kind, rfl⟩, hvalid⟩
  · cases hfailed.symm.trans hconfig

section

variable {path : String} {state : Emulator.State} {plan : Transfer.Plan}
  (h : checked setup path slot hbo osImage mock files = .ok (config, image, state))
  (hplan : config.plan image = .ok plan)
include h hplan

/-- An update that passes the checks ends well exactly when the transfer does and the state of
the device can be written. -/
theorem exits_of_checked {result : Except Error Transfer.Outcome} :
  let session := Session.ofState setup state
  let work := Transfer.run session.device.transport session.device.name config image
    session.mailbox
  let saved := Session.savedIn files work.mailbox.state setup.statePath
  work.result = .ok result →
    Exits (run setup path slot hbo osImage mock) files
      (if result.isOk && saved.isOk then 0 else 1) (saved.toOption.getD files)
  := by
  intro session work saved hresult
  obtain ⟨hconfig, ⟨-, hvalid⟩, himage, hclaim⟩ := of_checked h
  have hcode : (if result.isOk && saved.isOk then 0 else 1)
      = Session.codeAfter .transferFailed result saved := by
    cases result with
    | error error =>
        obtain ⟨i, action, source, abortError, rfl⟩ :=
          Transfer.run_fails session.device.name hvalid hplan hresult
        rfl
    | ok outcome => rfl
  rw [run, hconfig, hcode]
  refine .andThen (.lift (setup.say_ends _ _ files)) (.andThen (loadImage_ends himage) ?_)
  exact Session.exits_of_claimable hclaim (announce_ends hvalid image files) hresult
    (conclude_ends setup)

omit hplan in
/-- A transfer that ends the program leaves all files as they are. -/
theorem exits_of_fault {fault : Fault} :
  let session := Session.ofState setup state
  let work := Transfer.run session.device.transport session.device.name config image
    session.mailbox
  work.result = .error fault → Exits (run setup path slot hbo osImage mock) files faultCode files
  := by
  intro session work hfault
  obtain ⟨hconfig, ⟨-, hvalid⟩, himage, hclaim⟩ := of_checked h
  rw [run, hconfig]
  refine .andThen (.lift (setup.say_ends _ _ files)) (.andThen (loadImage_ends himage) ?_)
  exact Session.exits_of_fault hclaim (announce_ends hvalid image files) hfault

/-- The transfer comes to a result, if its blocks can be allocated and its clock does not run
for ages, and no block is asked after too often. -/
theorem result_of_checked
    (hclock : ∀ delay device number, (setup.clock delay device number).seconds < 2 ^ 63)
    (hreserved : Transfer.reserve config = .ok ())
    (hshown : setup.settings.emulatorConfig.processingPolls.toNat ≤ Emulator.shownPolls
      ∨ config.poll.maxAttempts.toNat ≤ Emulator.shownPolls) :
  let session := Session.ofState setup state
  ∃ result, (Transfer.run session.device.transport session.device.name config image
    session.mailbox).result = .ok result
  := by
  intro session
  obtain ⟨-, ⟨⟨kind, rfl⟩, hvalid⟩, -, -⟩ := of_checked h
  have htimely (delay : Duration) (device : Emulator) :=
    setup.settings.transferConfig_timely kind slot mock (hclock delay device)
  exact Emulator.transfer_attains hvalid (fun device => (htimely _ device).1)
    (fun device => (htimely _ device).2) hshown hplan hreserved session.device.name
    (Emulator.rests_start _ state)

end

end Update

/-! ## Activations -/

namespace Activate

variable {setup : Setup} {slot : UInt8} {action : Activation.Action} {hbo confirmed : Bool}
  {files : Files}

/-- The checks of an activation: its confirmation and the device.  The first one that fails
gives the exit code. -/
def checked (setup : Setup) (confirmed : Bool) (files : Files) : Except UInt8 Emulator.State :=
  if confirmed then Session.claimable files setup.statePath else .error 2

/-- An activation that fails a check leaves all files as they are. -/
theorem exits_of_unchecked {code : UInt8} (h : checked setup confirmed files = .error code) :
  Exits (run setup slot action hbo confirmed) files code files
  := by
  rw [checked] at h
  cases confirmed with
  | false =>
      obtain rfl := Except.error.inj h
      exact ⟨_, Program.Ends.throw _ _, rfl⟩
  | true => exact Session.exits_of_unclaimable h (setup.say_ends _ _ files)

section

variable {state : Emulator.State} (h : checked setup confirmed files = .ok state)
include h

theorem of_checked :
  confirmed = true ∧ Session.claimable files setup.statePath = .ok state
  := by
  rw [checked] at h
  cases confirmed with
  | false => cases h
  | true => exact ⟨rfl, h⟩

/-- An activation that passes the checks fails for its settings where they allow no attempt.
Otherwise it ends well exactly when the slot is activated and the state of the device can be
written. -/
theorem exits_of_checked {result : Except Error BackgroundStatus} :
  let session := Session.ofState setup state
  let policy := setup.settings.activationPolicy
  let work := Activation.run session.device.transport session.device.name policy
    (requestOf slot action hbo) session.mailbox
  let saved := Session.savedIn files work.mailbox.state setup.statePath
  work.result = .ok result →
    Exits (run setup slot action hbo confirmed) files
      (if policy.maxAttempts = 0 then 3 else if result.isOk && saved.isOk then 0 else 1)
      (saved.toOption.getD files)
  := by
  intro session policy work saved hresult
  obtain ⟨rfl, hclaim⟩ := of_checked h
  obtain ⟨hunset, hcause⟩ := Activation.run_fails session.device.transport session.device.name
    policy (requestOf slot action hbo) hresult
  have hcode : (if policy.maxAttempts = 0 then 3 else if result.isOk && saved.isOk then 0 else 1)
      = Session.codeAfter (.activateFailed slot) result saved := by
    by_cases hzero : policy.maxAttempts = 0
    · obtain ⟨text, rfl⟩ := hunset hzero
      rw [if_pos hzero]
      rfl
    · rw [if_neg hzero]
      cases result with
      | error error => exact (exitCode_of_operational (hcause hzero error rfl) _).symm
      | ok report => rfl
  rw [hcode]
  exact Session.exits_of_claimable hclaim (setup.say_ends _ _ files) hresult
    fun _ files => setup.say_ends _ _ files

/-- An activation that ends the program leaves all files as they are. -/
theorem exits_of_fault {fault : Fault} :
  let session := Session.ofState setup state
  let work := Activation.run session.device.transport session.device.name
    setup.settings.activationPolicy (requestOf slot action hbo) session.mailbox
  work.result = .error fault → Exits (run setup slot action hbo confirmed) files faultCode files
  := by
  intro session work hfault
  obtain ⟨rfl, hclaim⟩ := of_checked h
  exact Session.exits_of_fault hclaim (setup.say_ends _ _ files) hfault

omit h in
/-- The activation comes to a result, if it is not asked after too often. -/
theorem result_of_polls (setup : Setup) (state : Emulator.State)
    (request : Activation.Request)
    (hshown : setup.settings.emulatorConfig.activationPolls.toNat ≤ Emulator.shownPolls
      ∨ setup.settings.activationPolicy.maxAttempts.toNat ≤ Emulator.shownPolls) :
  let session := Session.ofState setup state
  ∃ result, (Activation.run session.device.transport session.device.name
    setup.settings.activationPolicy request session.mailbox).result = .ok result
  := by
  intro session
  exact Emulator.activation_attains (Transport.times_of_none _ rfl) hshown session.device.name
    request (Emulator.rests_start _ state)

end

end Activate

/-! ## Command lines -/

/-- The command line of an update or of an activation, without a word for help, writes nothing
to the standard output, and its exit code is that of the first check that fails.  Where one
fails, all files stay as they are.  Behind the checks, if the work on the device comes to a
result, the state of the device after it is saved, whatever the result; the exit code then tells
whether both went well, and whether the settings allow an attempt to activate.  The work comes
to a result, or else ends the program and leaves all files as they are: it does not, if no
operation is asked after more often than it can be reported and, for an update, the clock does
not run for ages and the blocks can be allocated. -/
theorem exit_of_checks (clock : Clock Emulator) (environment : Environment) (words : List String)
    (files : Files) {invocation : Invocation} (hhelp : Help.isWanted words = false)
    (hread : Invocation.read environment words = .ok invocation) :
  ∃ settings, ((invocation.loadSettings environment).run files).result = .ok settings
    ∧ let setup := Setup.make (.ofLocale (Language.locale environment words)) invocation settings
        clock
      let exit := run clock environment words files
      (∀ path slot hbo osImage mock, invocation.job = .update path slot hbo osImage mock →
        (∀ code, Update.checked setup path slot hbo osImage mock files = .error code →
          exit.Leaves code files)
        ∧ ∀ config image state plan,
          Update.checked setup path slot hbo osImage mock files = .ok (config, image, state) →
          config.plan image = .ok plan →
          let session := Session.ofState setup state
          let work := Transfer.run session.device.transport session.device.name config image
            session.mailbox
          let saved := Session.savedIn files work.mailbox.state setup.statePath
          (∀ result, work.result = .ok result →
            exit.Leaves (if result.isOk && saved.isOk then 0 else 1) (saved.toOption.getD files))
          ∧ (∀ fault, work.result = .error fault → exit.Leaves faultCode files)
          ∧ ((∀ delay device number, (clock delay device number).seconds < 2 ^ 63) →
            Transfer.reserve config = .ok () →
            (settings.emulatorConfig.processingPolls.toNat ≤ Emulator.shownPolls
              ∨ config.poll.maxAttempts.toNat ≤ Emulator.shownPolls) →
            ∃ result, work.result = .ok result))
      ∧ ∀ slot action hbo confirmed, invocation.job = .activate slot action hbo confirmed →
        (∀ code, Activate.checked setup confirmed files = .error code → exit.Leaves code files)
        ∧ ∀ state, Activate.checked setup confirmed files = .ok state →
          let session := Session.ofState setup state
          let policy := settings.activationPolicy
          let work := Activation.run session.device.transport session.device.name policy
            (Activate.requestOf slot action hbo) session.mailbox
          let saved := Session.savedIn files work.mailbox.state setup.statePath
          (∀ result, work.result = .ok result → exit.Leaves
            (if policy.maxAttempts = 0 then 3 else if result.isOk && saved.isOk then 0 else 1)
            (saved.toOption.getD files))
          ∧ (∀ fault, work.result = .error fault → exit.Leaves faultCode files)
          ∧ ((settings.emulatorConfig.activationPolls.toNat ≤ Emulator.shownPolls
              ∨ policy.maxAttempts.toNat ≤ Emulator.shownPolls) →
            ∃ result, work.result = .ok result)
  := by
  obtain ⟨settings, hsettings⟩ := invocation.loadSettings_ends environment files
  refine ⟨settings, hsettings.result, ?_⟩
  intro setup exit
  have hleaves : ∀ {code files'}, Exits (invocation.job.run environment setup) files code files' →
      exit.Leaves code files' := fun h => run_leaves hhelp hread hsettings h
  constructor
  · intro path slot hbo osImage mock hjob
    rw [hjob] at hleaves
    constructor
    · intro code hchecked
      exact hleaves (Update.exits_of_unchecked hchecked)
    · intro config image state plan hchecked hplan
      refine ⟨fun result hresult => ?_, fun fault hfault => ?_, ?_⟩
      · exact hleaves (Update.exits_of_checked hchecked hplan hresult)
      · exact hleaves (Update.exits_of_fault hchecked hfault)
      · exact Update.result_of_checked hchecked hplan
  · intro slot action hbo confirmed hjob
    rw [hjob] at hleaves
    constructor
    · intro code hchecked
      exact hleaves (Activate.exits_of_unchecked hchecked)
    · intro state hchecked
      refine ⟨fun result hresult => ?_, fun fault hfault => ?_, ?_⟩
      · exact hleaves (Activate.exits_of_checked hchecked hresult)
      · exact hleaves (Activate.exits_of_fault hchecked hfault)
      · exact Activate.result_of_polls setup state (Activate.requestOf slot action hbo)

/-- The checks are passed with some values if they give these. -/
theorem Update.checked_of_values {checked : Except UInt8 (Transfer.Config × Image × Emulator.State)}
    {config : Transfer.Config} {data : Bytes} {source : Option String} {state : Emulator.State}
    (hdata : data ≠ [])
    (h : checked.toOption.map (fun passed =>
      (passed.1, passed.2.1.data, passed.2.1.source, passed.2.2))
        = some (config, data, source, state)) :
  checked = .ok (config, ⟨data, source, hdata⟩, state)
  := by
  obtain ⟨⟨config', ⟨data', source', hdata'⟩, state'⟩, hpasses, hvalues⟩ :=
    Option.map_eq_some_iff.mp h
  obtain ⟨rfl, rfl, rfl, rfl⟩ : config' = config ∧ data' = data ∧ source' = source
      ∧ state' = state := by
    simpa using hvalues
  exact toOption_eq_some hpasses

/-- A folder with a small image. -/
def imageFolder : Files where
  current := []
  entries := [(["fw.bin"], .file [0xaa, 0xbb])]

/-- The words that transfer the image to slot two of a device with a file. -/
def updateWords : List String :=
  ["--emulator-state", "mem0.json", "update-fw", "fw.bin", "--slot", "2"]

/-- What these words ask for. -/
def updateInvocation : Invocation :=
  ⟨none, some "mem0.json", none, 0, false, .update "fw.bin" 2 false false false⟩

/-- The words that activate the slot, without a confirmation. -/
def activateWords : List String := ["activate-fw", "--slot", "2"]

theorem exit_of_checks_imageFolder :
  (∃ files, (run .still [] updateWords imageFolder).Leaves 0 files
      ∧ files.present "mem0.json" = true)
    ∧ (run .still [] activateWords imageFolder).Leaves 2 imageFolder
  := by
  constructor
  · have hread : (Invocation.read [] updateWords).toOption = some updateInvocation := by
      decide +kernel
    have hlanguage : Language.ofLocale (Language.locale [] updateWords) = .english := by
      decide +kernel
    have hunset : ((updateInvocation.loadSettings []).run imageFolder).result.toOption
        = some .unset := by
      decide +kernel
    obtain ⟨settings, hsettings, hupdate, -⟩ := exit_of_checks .still [] updateWords imageFolder
      (by decide +kernel) (toOption_eq_some hread)
    obtain rfl : settings = .unset :=
      Except.ok.inj (hsettings.symm.trans (toOption_eq_some hunset))
    rw [hlanguage] at hupdate
    obtain ⟨-, hpassed⟩ := hupdate "fw.bin" 2 false false false rfl
    have hchecked : Update.checked (.make .english updateInvocation .unset .still) "fw.bin" 2
        false false false imageFolder
        = .ok (.new .specDefined 2, ⟨[0xaa, 0xbb], some "fw.bin", by decide⟩, .default) :=
      Update.checked_of_values (by decide) (by decide +kernel)
    obtain ⟨hleaves, -, hattains⟩ := hpassed _ _ _ ⟨[⟨0, .end, 0, [0xaa, 0xbb]⟩], 2⟩
      hchecked rfl
    have hclock : Duration.tick.seconds < 2 ^ 63 := by
      decide
    obtain ⟨result, hresult⟩ := hattains (fun _ _ _ => hclock) rfl (.inl (by decide))
    specialize hleaves result hresult
    -- With the transfer and the save as variables, only the values asked for are computed.
    generalize hwork : Transfer.run _ _ _ _ _ = work at hresult hleaves
    generalize hsaved : Session.savedIn imageFolder _ _ = saved at hleaves
    have hok : result.isOk = true := by
      have hwell : work.result.toOption.map Except.isOk = some true := by
        rw [← hwork]
        decide +kernel
      rw [hresult] at hwell
      exact Option.some.inj hwell
    have hcreated : saved.isOk = true
        ∧ (saved.toOption.getD imageFolder).present "mem0.json" = true := by
      rw [← hsaved, ← hwork]
      decide +kernel
    rw [hok, hcreated.1] at hleaves
    exact ⟨_, hleaves, hcreated.2⟩
  · have hread : (Invocation.read [] activateWords).toOption
        = some ⟨none, none, none, 0, false, .activate 2 .online false false⟩ := by
      decide +kernel
    obtain ⟨settings, -, -, hactivate⟩ := exit_of_checks .still [] activateWords imageFolder
      (by decide +kernel) (toOption_eq_some hread)
    exact (hactivate 2 .online false false rfl).1 2 rfl

/-- The folder with settings for a device that processes a block for one query more than it can
report, and for polls without a delay that reach even further. -/
def sluggishFolder : Files :=
  { imageFolder with
    entries := (["slow.toml"], .file (Utf8.encode ("[transfer]\npoll_attempts = 42949675\n"
      ++ "poll_interval_ms = 0\n[emulator]\nprocessing_polls = 42949674\n")))
      :: imageFolder.entries }

/-- The words that transfer the image with these settings. -/
def sluggishWords : List String :=
  ["--config", "slow.toml", "update-fw", "fw.bin", "--slot", "2"]

/-- What these words ask for. -/
def sluggishInvocation : Invocation :=
  ⟨none, none, some "slow.toml", 0, false, .update "fw.bin" 2 false false false⟩

/-- These settings. -/
def sluggishSettings : Settings :=
  { Settings.unset with
    transfer := { Settings.unset.transfer with
      pollAttempts := some 42949675
      pollIntervalMillis := some 0 }
    emulator := { Settings.unset.emulator with
      processingPolls := some 42949674 } }

/-- An update that passes all checks ends the program on such a device. -/
theorem update_ends_program :
  let setup := Setup.make .english sluggishInvocation sluggishSettings .still
  (∃ passed, Update.checked setup "fw.bin" 2 false false false sluggishFolder = .ok passed)
    ∧ (run .still [] sluggishWords sluggishFolder).Leaves faultCode sluggishFolder
  := by
  intro setup
  have hread : (Invocation.read [] sluggishWords).toOption = some sluggishInvocation := by
    decide +kernel
  have hlanguage : Language.ofLocale (Language.locale [] sluggishWords) = .english := by
    decide +kernel
  have hloaded : ((sluggishInvocation.loadSettings []).run sluggishFolder).result.toOption
      = some sluggishSettings := by
    decide +kernel
  let transfer := sluggishSettings.transferConfig .specDefined 2 false
  let image : Image := ⟨[0xaa, 0xbb], some "fw.bin", by decide⟩
  have hchecked : Update.checked setup "fw.bin" 2 false false false sluggishFolder
      = .ok (transfer, image, .default) :=
    Update.checked_of_values (by decide) (by decide +kernel)
  have hplan : transfer.plan image = .ok ⟨[⟨0, .end, 0, [0xaa, 0xbb]⟩], 2⟩ := by
    decide +kernel
  refine ⟨⟨_, hchecked⟩, ?_⟩
  obtain ⟨settings, hsettings⟩ := sluggishInvocation.loadSettings_ends [] sluggishFolder
  obtain rfl : settings = sluggishSettings :=
    Except.ok.inj (hsettings.result.symm.trans (toOption_eq_some hloaded))
  apply run_leaves (by decide +kernel) (toOption_eq_some hread) hsettings
  rw [hlanguage]
  apply Update.exits_of_fault hchecked
  exact Emulator.run_of_overflow rfl setup.deviceName setup.deviceName hplan rfl rfl rfl
    (by decide) (.inr (by decide)) (by decide) (by decide)

end CxlFirmware.Console
