import Mathlib.Data.List.Forall2
import CxlFirmware.Json.Record

/-!
# Records of any shape

Where the fields of a record stand among the members of an object.  A field is absent, stands
among the members once, or is repeated, and `field?` tells these cases apart.  Only the members
with the names of fields matter, in any order: `fields?_of_perm`.
-/

namespace CxlFirmware.Json

/-- The members of an object. -/
abbrev Members := List (Option String × Json)

/-- Every member has a text as its name. -/
def AreNamed (members : Members) : Prop :=
  ∀ member ∈ members, ∃ name, member.1 = some name

/-- No member has the name. -/
def IsAbsent (members : Members) (name : String) : Prop :=
  ∀ member ∈ members, member.1 ≠ some name

/-- One member has the name, and it has the value. -/
def StandsOnce (members : Members) (name : String) (value : Json) : Prop :=
  ∃ before after, members = before ++ (some name, value) :: after
    ∧ IsAbsent before name ∧ IsAbsent after name

/-- Several members have the name. -/
def IsRepeated (members : Members) (name : String) : Prop :=
  ∃ before first middle second after,
    members = before ++ (some name, first) :: middle ++ (some name, second) :: after

/-- The members with one of the names. -/
def withNames (names : List String) (members : Members) : Members :=
  members.filter fun member => names.any fun name => member.1 == some name

section

variable {α : Type} {members members' : Members} {name : String} {value : Json}

/-! ## One field -/

theorem valuesOf_eq_nil : valuesOf name members = [] ↔ IsAbsent members name
  := by
  rw [valuesOf, List.filterMap_eq_nil_iff]
  apply forall₂_congr
  intro member _
  rw [ite_eq_right_iff]
  exact forall_congr' fun _ => iff_of_false nofun id

/-- A value that is found belongs to a member, with the other values behind it. -/
theorem valuesOf_eq_cons {values : List Json} :
  valuesOf name members = value :: values
    ↔ ∃ before after, members = before ++ (some name, value) :: after
      ∧ IsAbsent before name ∧ valuesOf name after = values
  := by
  constructor
  · intro h
    rw [valuesOf, List.filterMap_eq_cons_iff] at h
    obtain ⟨before, ⟨found, value'⟩, after, rfl, hbefore, hvalue, hafter⟩ := h
    obtain ⟨rfl, ⟨⟩⟩ := Option.ite_none_right_eq_some.mp hvalue
    exact ⟨before, after, rfl, valuesOf_eq_nil.mp (List.filterMap_eq_nil_iff.mpr hbefore), hafter⟩
  · rintro ⟨before, after, rfl, hbefore, rfl⟩
    have hnone : List.filterMap _ before = [] := valuesOf_eq_nil.mpr hbefore
    rw [valuesOf, List.filterMap_append, hnone, List.nil_append, List.filterMap_cons, if_pos rfl]
    rfl

theorem field?_eq_absent : field? members name = some none ↔ IsAbsent members name
  := by
  rw [← valuesOf_eq_nil, field?]
  match valuesOf name members with
  | [] => simp
  | [_] => simp
  | _ :: _ :: _ => simp

theorem field?_eq_value :
  field? members name = some (some value) ↔ StandsOnce members name value
  := by
  have hvalues : field? members name = some (some value) ↔ valuesOf name members = [value] := by
    rw [field?]
    match valuesOf name members with
    | [] => simp
    | [_] => simp
    | _ :: _ :: _ => simp
  rw [hvalues, valuesOf_eq_cons]
  simp only [valuesOf_eq_nil]
  rfl

theorem field?_eq_none : field? members name = none ↔ IsRepeated members name
  := by
  constructor
  · intro h
    rw [field?] at h
    split at h
    · cases h
    · cases h
    · rename_i hnil hsingle
      match hvalues : valuesOf name members with
      | [] => exact absurd hvalues hnil
      | [first] => exact absurd hvalues (hsingle first)
      | first :: second :: rest =>
          obtain ⟨before, behind, rfl, -, hbehind⟩ := valuesOf_eq_cons.mp hvalues
          obtain ⟨middle, after, rfl, -, -⟩ := valuesOf_eq_cons.mp hbehind
          exact ⟨before, first, middle, second, after, by simp⟩
  · rintro ⟨before, first, middle, second, after, rfl⟩
    have hlong : 2 ≤ (valuesOf name
        (before ++ (some name, first) :: middle ++ (some name, second) :: after)).length := by
      simp only [valuesOf, List.filterMap_append, List.filterMap_cons, if_true,
        List.length_append, List.length_cons]
      omega
    rw [field?]
    split
    · simp_all
    · simp_all
    · rfl

/-- A field that has to be there is read where it stands once. -/
theorem required_eq_some {read : Json → Option α} {a : α} :
  (field? members name).bind (required read) = some a
    ↔ ∃ value, StandsOnce members name value ∧ read value = some a
  := by
  simp only [Option.bind_eq_some_iff, Option.exists, required, reduceCtorEq, and_false, false_or,
    field?_eq_value]

/-- A field that may be missing is read where it stands once, and has its default where it is
absent. -/
theorem optional_eq_some {default : α} {read : Json → Option α} {a : α} :
  (field? members name).bind (optional default read) = some a
    ↔ (IsAbsent members name ∧ a = default)
      ∨ ∃ value, StandsOnce members name value ∧ read value = some a
  := by
  simp only [Option.bind_eq_some_iff, Option.exists, optional, field?_eq_value, field?_eq_absent,
    Option.some.injEq, @eq_comm α default]

theorem StandsOnce.not_isAbsent (h : StandsOnce members name value) :
  ¬ IsAbsent members name
  := by
  rintro habsent
  cases (field?_eq_value.mpr h).symm.trans (field?_eq_absent.mpr habsent)

theorem StandsOnce.not_isRepeated (h : StandsOnce members name value) :
  ¬ IsRepeated members name
  := by
  intro hrepeated
  cases (field?_eq_value.mpr h).symm.trans (field?_eq_none.mpr hrepeated)

/-- Where a name stands once, it has one value. -/
theorem StandsOnce.eq_of_mem (h : StandsOnce members name value) {value' : Json}
    (hmember : (some name, value') ∈ members) :
  value' = value
  := by
  obtain ⟨before, after, rfl, hbefore, hafter⟩ := h
  rcases List.mem_append.mp hmember with hfront | hback
  · exact absurd rfl (hbefore _ hfront)
  · rcases List.mem_cons.mp hback with hsame | hback
    · cases hsame
      rfl
    · exact absurd rfl (hafter _ hback)

/-! ## All fields -/

theorem fields?_of_named (h : AreNamed members) (names : List String) :
  fields? names (.object members) = names.mapM (field? members)
  := by
  apply if_pos
  rw [List.all_eq_true]
  intro member hmember
  obtain ⟨name, hname⟩ := h member hmember
  rw [hname, Option.isSome_some]

theorem fields?_of_unnamed (h : ¬ AreNamed members) (names : List String) :
  fields? names (.object members) = none
  := by
  apply if_neg
  rw [List.all_eq_true]
  intro hall
  apply h
  intro member hmember
  exact Option.isSome_iff_exists.mp (hall member hmember)

/-! ## Order -/

theorem valuesOf_withNames {names : List String} (h : name ∈ names) (members : Members) :
  valuesOf name (withNames names members) = valuesOf name members
  := by
  rw [withNames, valuesOf, List.filterMap_filter, valuesOf]
  apply List.filterMap_congr
  intro member _
  by_cases hname : member.1 = some name
  · have hany : (names.any fun name => member.1 == some name) = true := by
      rw [List.any_eq_true]
      exact ⟨name, h, beq_iff_eq.mpr hname⟩
    rw [if_pos hany]
  · rw [if_neg hname, ite_self]

/-- A field does not depend on the order of the members, nor on those with other names. -/
theorem field?_of_perm {names : List String} (h : name ∈ names)
    (hperm : (withNames names members).Perm (withNames names members')) :
  field? members name = field? members' name
  := by
  have hvalues : (valuesOf name members).Perm (valuesOf name members') := by
    rw [← valuesOf_withNames h members, ← valuesOf_withNames h members']
    exact hperm.filterMap _
  match hleft : valuesOf name members, hright : valuesOf name members' with
  | [], right =>
      rw [hleft, hright, List.nil_perm] at hvalues
      rw [field?, hleft, field?, hright, hvalues]
  | [value], right =>
      rw [hleft, hright, List.singleton_perm] at hvalues
      rw [field?, hleft, field?, hright, ← hvalues]
  | _ :: _ :: _, [] => cases hleft ▸ hright ▸ hvalues.length_eq
  | _ :: _ :: _, [_] => cases hleft ▸ hright ▸ hvalues.length_eq
  | _ :: _ :: _, _ :: _ :: _ =>
      rw [field?, hleft, field?, hright]

/-- The fields do not depend on the order of the members, nor on those with other names. -/
theorem fields?_of_perm {names : List String} (h : AreNamed members) (h' : AreNamed members')
    (hperm : (withNames names members).Perm (withNames names members')) :
  fields? names (.object members) = fields? names (.object members')
  := by
  rw [fields?_of_named h, fields?_of_named h']
  have hfield : ∀ found ⊆ names, found.mapM (field? members) = found.mapM (field? members') := by
    intro found hfound
    induction found with
    | nil => rfl
    | cons name found ih =>
        obtain ⟨hname, hfound⟩ := List.cons_subset.mp hfound
        rw [List.mapM_cons, List.mapM_cons, field?_of_perm hname hperm, ih hfound]
  exact hfield names (List.Subset.refl _)

end

/-! ## Values of fields -/

section

variable {α : Type} {read : Json → Option α} {value : Json}

theorem text?_eq_some {text : String} : text? value = some text ↔ value = .ofText text
  := by
  cases value <;> simp [text?, ofText]

theorem bool?_eq_some {truth : Bool} : bool? value = some truth ↔ value = .bool truth
  := by
  cases value <;> simp [bool?]

theorem naturalBelow?_eq_some {limit number : Nat} :
  naturalBelow? limit value = some number ↔ value = .natural number ∧ number < limit
  := by
  cases value <;> simp [naturalBelow?]
  constructor
  · rintro ⟨hlt, rfl⟩
    exact ⟨rfl, hlt⟩
  · rintro ⟨rfl, hlt⟩
    exact ⟨hlt, rfl⟩

/-- The word of a natural number is read where the number has its width. -/
theorem word?_eq_some {ofNat : Nat → α} {toNat : α → Nat} {limit : Nat} {a : α}
    (hlimit : ∀ a, toNat a < limit) (hofNat : ∀ a, ofNat (toNat a) = a)
    (htoNat : ∀ number < limit, toNat (ofNat number) = number) :
  (value.naturalBelow? limit).map ofNat = some a ↔ value = .natural (toNat a)
  := by
  rw [Option.map_eq_some_iff]
  constructor
  · rintro ⟨number, hnumber, rfl⟩
    obtain ⟨rfl, hlt⟩ := naturalBelow?_eq_some.mp hnumber
    rw [htoNat number hlt]
  · rintro rfl
    exact ⟨_, naturalBelow?_eq_some.mpr ⟨rfl, hlimit a⟩, hofNat a⟩

/-- A list is read where each of its items is. -/
theorem list?_eq_some {values : List α} :
  list? read value = some values
    ↔ ∃ items, value = .array items ∧ List.Forall₂ (fun a item => read item = some a) values items
  := by
  have hitems : ∀ items : List Json, items.mapM read = some values
      ↔ List.Forall₂ (fun a item => read item = some a) values items := by
    intro items
    induction items generalizing values with
    | nil => simp [eq_comm]
    | cons item items ih =>
        simp only [List.mapM_cons, Option.bind_eq_bind, Option.bind_eq_some_iff, ih,
          Option.pure_def, Option.some.injEq, List.forall₂_cons_right_iff]
        grind
  cases value <;> simp [list?, hitems]

theorem nullable?_eq_some (hnull : read .null = none) {a : Option α} :
  nullable? read value = some a
    ↔ (value = .null ∧ a = none) ∨ ∃ b, a = some b ∧ read value = some b
  := by
  unfold nullable?
  split
  · simp [hnull, eq_comm]
  · rename_i hvalue
    simp only [Option.map_eq_some_iff]
    grind

end

end CxlFirmware.Json
