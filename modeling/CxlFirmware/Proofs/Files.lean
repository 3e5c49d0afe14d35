import CxlFirmware.Files

/-!
# Files that are written

`Files.written` says what a written file leaves behind: the file is there, it is read with the
content that was written, and writing the content once more changes nothing.
-/

namespace CxlFirmware

/-- The place that a file may be written to. -/
def Target.filePlace? : Target → Option (List String)
  | folder _ => none
  | file place _ => some place
  | vacant place => some place

namespace Files

variable {files files' : Files} {place : List String} {content : Bytes}

/-! ## A tree with another entry -/

theorem entry?_setEntry (files : Files) (entry : Entry) (h : place ≠ []) (place' : List String) :
  entry? (files.setEntry place entry) place'
    = if place' = place then some entry else files.entry? place'
  := by
  by_cases hsame : place' = place
  · rw [hsame, if_pos rfl, entry?, if_neg h, setEntry]
    simp
  · have hfind : (files.setEntry place entry).entries.find? (fun entry => entry.1 == place')
        = files.entries.find? fun entry => entry.1 == place' := by
      have hfirst : (place == place') = false := by
        simpa using Ne.symm hsame
      rw [setEntry, List.find?_cons, hfirst, List.find?_filter]
      apply congrArg (List.find? · files.entries)
      funext other
      by_cases hother : other.1 = place'
      · simp [hother, hsame]
      · simp [hother]
    rw [if_neg hsame, entry?, entry?, hfind]

/-- Setting an entry once more changes nothing. -/
theorem setEntry_setEntry (files : Files) (place : List String) (entry : Entry) :
  (files.setEntry place entry).setEntry place entry = files.setEntry place entry
  := by
  simp [setEntry]

/-! ## A tree with another file -/

/-- No folder is where a file may be written to, and the names that lead there lead to the file
afterwards. -/
theorem walk_setEntry {front names : List String} {target : Target}
    (h : files.walk front names = .ok target) (hplace : target.filePlace? = some place)
    (content : Bytes) :
  files.entry? place ≠ some .folder
    ∧ (files.setEntry place (.file content)).walk front names = .ok (.file place content)
  := by
  induction names generalizing front with
  | nil =>
      obtain rfl := Except.ok.inj h
      cases hplace
  | cons name rest ih =>
      rw [walk.eq_def] at h ⊢
      simp only at h ⊢
      split at h
      · rename_i hname
        rw [if_pos hname]
        exact ih h
      split at h
      · rename_i hname hparent
        rw [if_neg hname, if_pos hparent]
        exact ih h
      split at h
      · cases h
      rename_i hname hparent hlength
      rw [if_neg hname, if_neg hparent, if_neg hlength]
      cases hentry : files.entry? (front ++ [name]) with
      | none =>
          rw [hentry] at h
          cases rest with
          | cons => cases h
          | nil =>
              obtain rfl := Except.ok.inj h
              obtain rfl := Option.some.inj hplace
              rw [hentry, entry?_setEntry files _ (by simp), if_pos rfl]
              exact ⟨nofun, rfl⟩
      | some entry =>
          rw [hentry] at h
          cases entry with
          | file content' =>
              cases rest with
              | cons => cases h
              | nil =>
                  obtain rfl := Except.ok.inj h
                  obtain rfl := Option.some.inj hplace
                  rw [hentry, entry?_setEntry files _ (by simp), if_pos rfl]
                  exact ⟨nofun, rfl⟩
          | folder =>
              obtain ⟨hfree, hwalk⟩ := ih h
              have hroot : place ≠ [] := by
                rintro rfl
                exact hfree rfl
              have hother : front ++ [name] ≠ place := by
                rintro rfl
                exact hfree hentry
              rw [entry?_setEntry files _ hroot, if_neg hother, hentry]
              exact ⟨hfree, hwalk⟩

/-! ## Files that are written and read -/

/-- A path that leads to a place for a file leads there by its names. -/
theorem walk_of_writeTarget {path : String} {target : Target}
    (h : files.writeTarget path = .ok target) (hplace : target.filePlace? = some place) :
  checkPath path = .ok () ∧ endsOpen path = false
    ∧ files.walk (files.start path) (names path) = .ok target
  := by
  rw [writeTarget] at h
  cases hcheck : checkPath path with
  | error error =>
      rw [hcheck] at h
      cases h
  | ok _ =>
      rw [hcheck] at h
      simp only [bind, Except.bind] at h
      split at h
      · split at h
        · cases h
        · split at h
          · obtain rfl := Except.ok.inj h
            cases hplace
          · cases h
          · cases h
      · rename_i hends
        exact ⟨rfl, eq_false_of_ne_true hends, h⟩

/-- A written file is there, it is read with what was written, and writing the same once more
changes nothing. -/
theorem written {path : String} (h : files.write path content = .ok files') :
  files'.present path = true ∧ files'.read path = .ok content
    ∧ files'.write path content = .ok files'
  := by
  obtain ⟨target, place, htarget, hplace, rfl⟩ : ∃ target place,
      files.writeTarget path = .ok target ∧ target.filePlace? = some place
        ∧ files' = files.setEntry place (.file content) := by
    rw [write] at h
    cases htarget : files.writeTarget path with
    | error error =>
        rw [htarget] at h
        cases h
    | ok target =>
        rw [htarget] at h
        cases target with
        | folder place => cases h
        | file place content' => exact ⟨_, place, rfl, rfl, (Except.ok.inj h).symm⟩
        | vacant place => exact ⟨_, place, rfl, rfl, (Except.ok.inj h).symm⟩
  obtain ⟨hcheck, hends, hwalk⟩ := walk_of_writeTarget htarget hplace
  obtain ⟨-, hwalk'⟩ := walk_setEntry hwalk hplace content
  have hread : (files.setEntry place (.file content)).target path
      = .ok (.file place content) := by
    rw [Files.target, hcheck]
    exact hwalk'
  have hwrite : (files.setEntry place (.file content)).writeTarget path
      = .ok (.file place content) := by
    rw [writeTarget, hcheck, hends]
    exact hwalk'
  refine ⟨?_, ?_, ?_⟩
  · rw [present, hread]
  · rw [read, hread]
  · rw [write, hwrite]
    exact congrArg Except.ok (setEntry_setEntry files place (.file content))

end Files

end CxlFirmware
