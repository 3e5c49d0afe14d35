import CxlFirmware.Emulator.StateFile
import CxlFirmware.Proofs.Json

/-!
# States that are written and read back

`State.read?_write` says that a state is read back from the text of its own.  The members of a
record are found under their names, `fields?_ofMembers`, and each field is read back from its
value.
-/

namespace CxlFirmware

namespace Json

/-! ## The members of a record -/

/-- The member with a name is found among members with other names. -/
theorem valuesOf_of_nodup {members : List (String × Json)} (h : (members.map Prod.fst).Nodup)
    {name : String} {value : Json} (hmember : (name, value) ∈ members) :
  valuesOf name (members.map fun member => (some member.1, member.2)) = [value]
  := by
  induction members with
  | nil => cases hmember
  | cons first members ih =>
      obtain ⟨name', value'⟩ := first
      rw [List.map_cons, List.nodup_cons] at h
      obtain ⟨hnew, hnodup⟩ := h
      by_cases hsame : name' = name
      · -- No other member has the name, so that the first one is meant.
        have hnone : valuesOf name (members.map fun member => (some member.1, member.2)) = [] := by
          rw [valuesOf, List.filterMap_map, List.filterMap_eq_nil_iff]
          rintro ⟨other, value⟩ hother
          have hne : other ≠ name := by
            rintro rfl
            rw [hsame] at hnew
            exact hnew (List.mem_map.mpr ⟨_, hother, rfl⟩)
          simp [hne]
        rcases List.mem_cons.mp hmember with hfirst | hrest
        · cases hfirst
          rw [List.map_cons, valuesOf, List.filterMap_cons]
          simp only [if_true]
          exact congrArg (value :: ·) hnone
        · rw [hsame] at hnew
          exact absurd (List.mem_map.mpr ⟨_, hrest, rfl⟩) hnew
      · have hrest : (name, value) ∈ members := by
          apply (List.mem_cons.mp hmember).resolve_left
          rintro ⟨⟩
          exact hsame rfl
        rw [List.map_cons, valuesOf, List.filterMap_cons]
        simp only [Option.some.injEq, hsame, if_false]
        exact ih hnodup hrest

/-- The values of a record are found under the names of its members. -/
theorem fields?_ofMembers {names : List String} {members : List (String × Json)}
    (hnames : members.map Prod.fst = names) (h : names.Nodup) :
  (ofMembers members).fields? names = some (members.map fun member => some member.2)
  := by
  rw [← hnames] at h ⊢
  have hfield : ∀ found ⊆ members,
      (found.map Prod.fst).mapM (field? (members.map fun member => (some member.1, member.2)))
        = some (found.map fun member => some member.2) := by
    intro found hfound
    induction found with
    | nil => rfl
    | cons member found ih =>
        obtain ⟨hmember, hfound⟩ := List.cons_subset.mp hfound
        rw [List.map_cons, List.mapM_cons, field?, valuesOf_of_nodup h hmember, ih hfound]
        rfl
  have hnamed : (members.map fun member => (some member.1, member.2)).all
      (fun member => member.1.isSome) = true := by
    simp
  rw [ofMembers, fields?, if_pos hnamed]
  exact hfield members (List.Subset.refl _)

theorem list?_map {α : Type} {read : Json → Option α} {write : α → Json}
    (h : ∀ a, read (write a) = some a) (values : List α) :
  list? read (.array (values.map write)) = some values
  := by
  have hread : read ∘ write = fun a => some a := funext h
  rw [list?, List.mapM_map, hread]
  exact List.mapM_pure.trans (congrArg some (List.map_id _))

theorem naturalBelow?_natural {limit value : Nat} (h : value < limit) :
  naturalBelow? limit (.natural value) = some value
  := if_pos h

end Json

namespace Emulator

/-! ## Images and states -/

/-- An image is read back from its record. -/
theorem SlotImage.ofJson?_toJson (image : SlotImage) :
  ofJson? image.toJson = some image
  := by
  have hsize : image.size.toNat < UInt64.size := image.size.toNat_lt
  have hcrc32 : image.crc32.toNat < UInt32.size := image.crc32.toNat_lt
  have hfields : image.toJson.fields? names = some [some (.ofText image.revision),
      some (.natural image.size.toNat), some (.natural image.crc32.toNat)] :=
    Json.fields?_ofMembers rfl (by decide)
  simp only [ofJson?, hfields, Json.required, Json.naturalBelow?_natural hsize,
    Json.naturalBelow?_natural hcrc32, Json.text?, Json.ofText, Option.bind_eq_bind,
    Option.bind_some, UInt64.ofNat_toNat, UInt32.ofNat_toNat]
  rfl

theorem nullable?_slotToJson (slot : Option SlotImage) :
  Json.nullable? SlotImage.ofJson? (slotToJson slot) = some slot
  := by
  cases slot with
  | none => rfl
  | some image => exact congrArg (Option.map some) image.ofJson?_toJson

theorem State.slotNumber?_natural (slot : UInt8) :
  slotNumber? (.natural slot.toNat) = some slot
  := by
  rw [slotNumber?, Json.naturalBelow?_natural slot.toNat_lt, Option.map_some, UInt8.ofNat_toNat]

/-- A state is read back from its record. -/
theorem State.ofJson?_toJson (state : State) :
  ofJson? state.toJson = some state
  := by
  have hfields : state.toJson.fields? names = some [some (.array (state.slots.map slotToJson)),
      some (.natural state.activeSlot.toNat), some (.natural state.stagedSlot.toNat),
      some (slotToJson state.osImage), some (.bool state.busy)] :=
    Json.fields?_ofMembers rfl (by decide)
  simp only [ofJson?, hfields, Json.optional, Json.list?_map nullable?_slotToJson,
    slotNumber?_natural, nullable?_slotToJson, Json.bool?, Option.bind_eq_bind, Option.bind_some]
  rfl

theorem isPlain_slotToJson (slot : Option SlotImage) :
  (slotToJson slot).IsPlain
  := by
  cases slot with
  | none => trivial
  | some image => exact ⟨trivial, trivial, trivial, trivial⟩

theorem isPlain_toJson (state : State) :
  state.toJson.IsPlain
  := by
  have hslots : Json.ArePlain (state.slots.map slotToJson) := by
    induction state.slots with
    | nil => trivial
    | cons slot slots ih => exact ⟨isPlain_slotToJson slot, ih⟩
  exact ⟨hslots, trivial, trivial, isPlain_slotToJson _, trivial, trivial⟩

/-- A state is read back from its text. -/
theorem State.read?_write (state : State) :
  read? state.write = some state
  := by
  rw [read?, write, Json.read?_pretty (isPlain_toJson state), Option.bind_some,
    state.ofJson?_toJson]

end Emulator

end CxlFirmware
