import Mathlib.Tactic.Use
import CxlFirmware.Console.Session
import CxlFirmware.Proofs.Emulator.StateFile
import CxlFirmware.Proofs.Files
import CxlFirmware.Proofs.Program

/-!
# Sessions that are opened and saved

`Session.stateIn?` is the state that a session is opened with, and `Session.savedIn` what is
left of the files when it is saved.  `Session.state_survives` says that a state survives any
count of such rounds.
-/

namespace CxlFirmware.Console

open Program (Ends)

namespace Session

variable {files files' : Files} {setup : Setup} {session : Session} {state : Emulator.State}

/-! ## Opening -/

/-- The state in a file, if it can be read. -/
def stateAt? (files : Files) (path : String) : Option Emulator.State :=
  match files.read path with
  | .error _ => none
  | .ok content => (Utf8.decode? content).bind Emulator.State.read?

/-- The state that a session is opened with, if one can be had. -/
def stateIn? (files : Files) : Option String → Option Emulator.State
  | none => some .default
  | some path => if files.present path then stateAt? files path else some .default

theorem loadState_ends (files : Files) (path : String) :
  (∃ state, stateAt? files path = some state
      ∧ (loadState path).run.Ends files (.ok state) files)
    ∨ stateAt? files path = none
      ∧ ∃ text, (loadState path).run.Ends files (.error (.unusableState text)) files
  := by
  rw [stateAt?, loadState]
  have hread := Ends.readFile path files
  cases hcontent : files.read path with
  | error error =>
      rw [hcontent] at hread
      exact .inr ⟨rfl, _, .andThen (.lift hread) (.throw _ _)⟩
  | ok content =>
      rw [hcontent] at hread
      cases htext : Utf8.decode? content with
      | none =>
          right
          constructor
          · simp only [htext]
            rfl
          · apply Exists.intro
            apply Ends.andThen (.lift hread)
            simp only [htext]
            exact .throw _ _
      | some text =>
          cases hstate : Emulator.State.read? text with
          | none =>
              right
              constructor
              · simp only [htext]
                exact hstate
              · apply Exists.intro
                apply Ends.andThen (.lift hread)
                simp only [htext, hstate]
                exact .throw _ _
          | some state =>
              left
              use state
              constructor
              · simp only [htext]
                exact hstate
              · apply Ends.andThen (.lift hread)
                simp only [htext, hstate]
                exact .andThen (.lift (.log _ _ _ _)) (.succeed _ _)

/-- A session is opened with the state that can be had, or it is not opened. -/
theorem start_ends (setup : Setup) (files : Files) :
  (∃ state, stateIn? files setup.statePath = some state
      ∧ (start setup).run.Ends files (.ok (ofState setup state)) files)
    ∨ stateIn? files setup.statePath = none
      ∧ ∃ text, (start setup).run.Ends files (.error (.unusableState text)) files
  := by
  have hfind : (∃ state, stateIn? files setup.statePath = some state
        ∧ (findState setup.statePath).run.Ends files (.ok state) files)
      ∨ stateIn? files setup.statePath = none
        ∧ ∃ text, (findState setup.statePath).run.Ends files (.error (.unusableState text))
          files := by
    cases setup.statePath with
    | none => exact .inl ⟨.default, rfl, .succeed _ _⟩
    | some path =>
        have hpresent := Ends.isPresent path files
        rw [stateIn?, findState]
        cases hfound : files.present path with
        | false =>
            rw [hfound] at hpresent
            refine .inl ⟨.default, rfl, .andThen (.lift hpresent) ?_⟩
            exact .andThen (.lift (.log _ _ _ _)) (.succeed _ _)
        | true =>
            rw [hfound] at hpresent
            rcases loadState_ends files path with ⟨state, hstate, hload⟩ | ⟨hnone, text, hload⟩
            · exact .inl ⟨state, hstate, .andThen (.lift hpresent) hload⟩
            · exact .inr ⟨hnone, text, .andThen (.lift hpresent) hload⟩
  rcases hfind with ⟨state, hstate, hends⟩ | ⟨hnone, text, hends⟩
  · exact .inl ⟨state, hstate, .andThen hends (.succeed _ _)⟩
  · exact .inr ⟨hnone, text, .orElse hends⟩

/-! ## Saving -/

/-- The files once a state was saved. -/
def savedIn (files : Files) (state : Emulator.State) : Option String → Except IoError Files
  | none => .ok files
  | some path => files.write path (Utf8.encode state.write)

theorem save_ends (h : savedIn files session.mailbox.state session.statePath = .ok files') :
  session.save.Ends files (.ok ()) files'
  := by
  rw [save]
  cases hpath : session.statePath with
  | none =>
      rw [hpath] at h
      obtain rfl := Except.ok.inj h
      exact .pure _ _
  | some path =>
      rw [hpath] at h
      exact .bind (.writeFile h) (.bind (.log _ _ _ _) (.pure _ _))

theorem save_fails {error : IoError}
    (h : savedIn files session.mailbox.state session.statePath = .error error) :
  ∃ path, session.statePath = some path
    ∧ session.save.Ends files (.error (.unsavedState path error)) files
  := by
  rw [save]
  cases hpath : session.statePath with
  | none =>
      rw [hpath] at h
      cases h
  | some path =>
      rw [hpath] at h
      exact ⟨path, rfl, .bind (.writeFile_failed h) (.pure _ _)⟩

/-- A saved state is what the next session is opened with, and saving it again changes
nothing. -/
theorem stateIn?_of_saved {statePath : Option String}
    (h : savedIn files state statePath = .ok files')
    (hopen : stateIn? files statePath = some state) :
  stateIn? files' statePath = some state ∧ savedIn files' state statePath = .ok files'
  := by
  cases statePath with
  | none =>
      obtain rfl := Except.ok.inj h
      exact ⟨hopen, rfl⟩
  | some path =>
      obtain ⟨hpresent, hread, hwrite⟩ := Files.written h
      refine ⟨?_, hwrite⟩
      rw [stateIn?, if_pos hpresent, stateAt?, hread]
      simp only [Utf8.decode?_encode, Option.bind_some, Emulator.State.read?_write]

/-! ## Rounds -/

/-- The program that opens a session and saves it at once. -/
def resave (setup : Setup) : Fallible (Except Failure Unit) := do
  let session ← start setup
  session.save

/-- The files after a count of such rounds. -/
def resaved (setup : Setup) (files : Files) : Nat → Files
  | 0 => files
  | count + 1 => ((resave setup).run.run (resaved setup files count)).files

theorem start_of_stateIn? (h : stateIn? files setup.statePath = some state) :
  (start setup).run.Ends files (.ok (ofState setup state)) files
  := by
  rcases start_ends setup files with ⟨state', hstate, hstart⟩ | ⟨hnone, -⟩
  · obtain rfl := Option.some.inj (h.symm.trans hstate)
    exact hstart
  · cases h.symm.trans hnone

theorem resave_ends (hopen : stateIn? files setup.statePath = some state)
    (h : savedIn files state setup.statePath = .ok files') :
  (resave setup).run.Ends files (.ok (.ok ())) files'
  := by
  apply Ends.andThen (start_of_stateIn? hopen)
  apply Ends.lift
  exact save_ends h

theorem resave_fails (hopen : stateIn? files setup.statePath = some state) {error : IoError}
    (h : savedIn files state setup.statePath = .error error) :
  ∃ path, (resave setup).run.Ends files (.ok (.error (.unsavedState path error))) files
  := by
  obtain ⟨path, -, hsave⟩ := @save_fails files (ofState setup state) error h
  use path
  apply Ends.andThen (start_of_stateIn? hopen)
  apply Ends.lift
  exact hsave

/-- Where the state can be written, every round leaves the same files behind. -/
theorem resaved_of_saved (hopen : stateIn? files setup.statePath = some state)
    (h : savedIn files state setup.statePath = .ok files') (count : Nat) :
  resaved setup files (count + 1) = files'
  := by
  induction count with
  | zero => exact (resave_ends hopen h).leaves
  | succ count ih =>
      obtain ⟨hopen', h'⟩ := stateIn?_of_saved h hopen
      rw [resaved, ih]
      exact (resave_ends hopen' h').leaves

/-- Where it cannot be written, no round changes a file. -/
theorem resaved_of_error (hopen : stateIn? files setup.statePath = some state) {error : IoError}
    (h : savedIn files state setup.statePath = .error error) (count : Nat) :
  resaved setup files count = files
  := by
  obtain ⟨path, hresave⟩ := resave_fails hopen h
  induction count with
  | zero => rfl
  | succ count ih =>
      rw [resaved, ih]
      exact hresave.leaves

/-- A state is read back from what a save writes of it, whatever it is.  So a session that is
opened and saved at once, any count of times, is opened with the same state each time.  Where
the state can be written, the file holds the same text from the first round on; where it
cannot, no round changes a file. -/
theorem state_survives (setup : Setup) (files : Files) {session : Session}
    (hopen : ((start setup).run.run files).result = .ok (.ok session)) (count : Nat) :
  (∀ state : Emulator.State,
    (Utf8.decode? (Utf8.encode state.write)).bind Emulator.State.read? = some state)
    ∧ ((start setup).run.run (resaved setup files count)).result = .ok (.ok session)
    ∧ resaved setup files (count + 1) = resaved setup files 1
    ∧ (((resave setup).run.run files).result = .ok (.ok (.ok ())) →
      ∀ path, setup.statePath = some path →
        (resaved setup files (count + 1)).read path
          = .ok (Utf8.encode session.mailbox.state.write))
    ∧ (((resave setup).run.run files).result ≠ .ok (.ok (.ok ())) →
      resaved setup files count = files)
  := by
  constructor
  · intro state
    rw [Utf8.decode?_encode, Option.bind_some, state.read?_write]
  obtain ⟨state, hstate, rfl⟩ : ∃ state, stateIn? files setup.statePath = some state
      ∧ session = ofState setup state := by
    rcases start_ends setup files with ⟨state, hstate, hstart⟩ | ⟨-, text, hstart⟩
    · rw [hstart.result] at hopen
      exact ⟨state, hstate, (Except.ok.inj (Except.ok.inj hopen)).symm⟩
    · rw [hstart.result] at hopen
      cases hopen
  cases hsaved : savedIn files state setup.statePath with
  | ok files' =>
      have hrounds := resaved_of_saved hstate hsaved
      refine ⟨?_, ?_, ?_, ?_⟩
      · cases count with
        | zero => exact (start_of_stateIn? hstate).result
        | succ count =>
            rw [hrounds]
            exact (start_of_stateIn? (stateIn?_of_saved hsaved hstate).1).result
      · rw [hrounds, hrounds]
      · intro _ path hpath
        rw [hpath] at hsaved
        rw [hrounds]
        exact (Files.written hsaved).2.1
      · exact fun hfailed => absurd (resave_ends hstate hsaved).result hfailed
  | error error =>
      have hrounds := resaved_of_error hstate hsaved
      obtain ⟨path, hresave⟩ := resave_fails hstate hsaved
      refine ⟨?_, ?_, ?_, ?_⟩
      · rw [hrounds]
        exact (start_of_stateIn? hstate).result
      · rw [hrounds, hrounds]
      · intro hdone
        rw [hresave.result] at hdone
        cases hdone
      · exact fun _ => hrounds count

/-- The file of a device with one slot, whose image is given as a list of fields and has a
revision of escaped characters. -/
def slotFile : Files where
  current := []
  entries := [(["state.json"], .file (Utf8.encode
    "\x7b\"slots\":[[\"\\ud83d\\ude00\\u0001\\\\\\\"\",7,9]],\"busy\":false\x7d"))]

/-- A device with its state in this file. -/
def slotSetup : Setup :=
  ⟨.english, true, Setup.defaultDevice, some "state.json", .unset, .still⟩

theorem state_survives_slotFile :
  let image : Emulator.SlotImage := ⟨"😀\x01\\\"", 7, 9⟩
  let session := ofState slotSetup { Emulator.State.default with slots := [some image] }
  ((start slotSetup).run.run slotFile).result = .ok (.ok session)
    ∧ ((start slotSetup).run.run (resaved slotSetup slotFile 2)).result = .ok (.ok session)
    ∧ (resaved slotSetup slotFile 3).read "state.json"
      = .ok (Utf8.encode session.mailbox.state.write)
  := by
  intro image session
  have hopen : stateIn? slotFile slotSetup.statePath = some session.mailbox.state := by
    decide +kernel
  have hwritable : (savedIn slotFile session.mailbox.state slotSetup.statePath).isOk = true := by
    decide +kernel
  obtain ⟨files', hsaved⟩ : ∃ files',
      savedIn slotFile session.mailbox.state slotSetup.statePath = .ok files' := by
    cases hsaved : savedIn slotFile session.mailbox.state slotSetup.statePath with
    | error error =>
        rw [hsaved] at hwritable
        cases hwritable
    | ok files' => exact ⟨files', rfl⟩
  have hstart : ((start slotSetup).run.run slotFile).result = .ok (.ok session) :=
    (start_of_stateIn? hopen).result
  obtain ⟨-, hreopened, -, hwritten, -⟩ := state_survives slotSetup slotFile hstart 2
  exact ⟨hstart, hreopened, hwritten (resave_ends hopen hsaved).result "state.json" rfl⟩

end Session

end CxlFirmware.Console
