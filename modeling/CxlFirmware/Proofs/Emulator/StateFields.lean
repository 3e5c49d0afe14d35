import CxlFirmware.Proofs.Emulator.StateFile
import CxlFirmware.Proofs.Json.Record

/-!
# State files of any shape

What a state file may say and what it then means.  The fields of a state and of an image have
names and types, and a relation `Writes` says which values of JSON stand for which values of a
field.  `read_by_fields` says that a file is read by its fields alone: those that it gives
replace the ones of a new device, whatever else stands around them and in any order, and a field
that is repeated or has no value of its type makes the whole file unreadable.
-/

namespace CxlFirmware.Emulator

open Json (Members AreNamed IsAbsent StandsOnce IsRepeated withNames)

/-! ## Images -/

namespace SlotImage

/-- The fields of an image. -/
inductive Field where
  | revision
  | size
  | crc32

namespace Field

/-- The name of a field. -/
def name : Field → String
  | .revision => "revision"
  | .size => "size"
  | .crc32 => "crc32"

/-- The type of a field. -/
abbrev Value : Field → Type
  | .revision => String
  | .size => UInt64
  | .crc32 => UInt32

/-- The value of a field of an image. -/
def get (image : SlotImage) : (field : Field) → field.Value
  | .revision => image.revision
  | .size => image.size
  | .crc32 => image.crc32

/-- A value of JSON stands for a value of a field: a text, or a natural number of its width. -/
def Writes : (field : Field) → field.Value → Json → Prop
  | .revision, text, value => value = .ofText text
  | .size, number, value => value = .natural number.toNat
  | .crc32, number, value => value = .natural number.toNat

/-- The value of a field that a value of JSON stands for. -/
def read? : (field : Field) → Json → Option field.Value
  | .revision, value => value.text?
  | .size, value => (value.naturalBelow? UInt64.size).map UInt64.ofNat
  | .crc32, value => (value.naturalBelow? UInt32.size).map UInt32.ofNat

theorem read?_eq_some {field : Field} {a : field.Value} {value : Json} :
  field.read? value = some a ↔ field.Writes a value
  := by
  cases field with
  | revision => apply Json.text?_eq_some
  | size =>
      apply Json.word?_eq_some UInt64.toNat_lt @UInt64.ofNat_toNat
      exact fun _ => UInt64.toNat_ofNat_of_lt'
  | crc32 =>
      apply Json.word?_eq_some UInt32.toNat_lt @UInt32.ofNat_toNat
      exact fun _ => UInt32.toNat_ofNat_of_lt'

end Field

/-- A value of JSON stands for an image: an object that has each field of the image once, or an
array of the fields in order. -/
inductive Written (image : SlotImage) : Json → Prop
  | object {members : Members} (named : AreNamed members)
      (fields : ∀ field : Field,
        ∃ value, StandsOnce members field.name value ∧ field.Writes (field.get image) value) :
      Written image (.object members)
  | array {revision size crc32 : Json}
      (writesRevision : Field.revision.Writes image.revision revision)
      (writesSize : Field.size.Writes image.size size)
      (writesCrc32 : Field.crc32.Writes image.crc32 crc32) :
      Written image (.array [revision, size, crc32])

/-- An image is read where each of its fields is found and read. -/
theorem ofJson?_eq_some {value : Json} {image : SlotImage} :
  ofJson? value = some image
    ↔ ∃ revision size crc32, value.fields? names = some [revision, size, crc32]
      ∧ Json.required Field.revision.read? revision = some image.revision
      ∧ Json.required Field.size.read? size = some image.size
      ∧ Json.required Field.crc32.read? crc32 = some image.crc32
  := by
  have hnumber : ∀ {α : Type} (limit : Nat) (ofNat : Nat → α) (found : Option Json) (a : α),
      Json.required (fun value => (value.naturalBelow? limit).map ofNat) found = some a
        ↔ ∃ number, Json.required (Json.naturalBelow? limit) found = some number
          ∧ ofNat number = a := by
    intro α limit ofNat found a
    cases found <;> simp [Json.required]
  have htext : Field.revision.read? = Json.text? := rfl
  have hsize : Field.size.read?
      = fun value => (value.naturalBelow? UInt64.size).map UInt64.ofNat := rfl
  have hcrc32 : Field.crc32.read?
      = fun value => (value.naturalBelow? UInt32.size).map UInt32.ofNat := rfl
  simp only [htext, hsize, hcrc32, hnumber]
  constructor
  · intro h
    rw [ofJson?] at h
    simp only [Option.bind_eq_bind, Option.bind_eq_some_iff] at h
    obtain ⟨fields, hfields, h⟩ := h
    split at h
    · simp only [Option.bind_eq_some_iff, Option.pure_def, Option.some.injEq] at h
      obtain ⟨text, htext, size, hsize, crc32, hcrc32, rfl⟩ := h
      exact ⟨_, _, _, hfields, htext, ⟨size, hsize, rfl⟩, crc32, hcrc32, rfl⟩
    · cases h
  · obtain ⟨text, size, crc32⟩ := image
    rintro ⟨_, _, _, hfields, htext, ⟨size, hsize, rfl⟩, crc32, hcrc32, rfl⟩
    simp only [ofJson?, hfields, htext, hsize, hcrc32, Option.bind_eq_bind, Option.bind_some]
    rfl

/-- The fields of an image among named members. -/
theorem ofJson?_object {members : Members} (hnamed : AreNamed members) {image : SlotImage} :
  ofJson? (.object members) = some image
    ↔ ∀ field : Field,
      ∃ value, StandsOnce members field.name value ∧ field.Writes (field.get image) value
  := by
  have hfield : ∀ field : Field,
      (∃ value, StandsOnce members field.name value ∧ field.Writes (field.get image) value)
        ↔ (Json.field? members field.name).bind (Json.required field.read?)
          = some (field.get image) := by
    intro field
    simp only [Json.required_eq_some, Field.read?_eq_some]
  simp only [hfield, ofJson?_eq_some, Json.fields?_of_named hnamed, names, List.mapM_cons,
    List.mapM_nil, Option.bind_eq_bind, Option.bind_eq_some_iff, Option.pure_def,
    Option.some.injEq]
  constructor
  · rintro ⟨_, _, _, ⟨revision, hrevision, _, ⟨size, hsize, _, ⟨crc32, hcrc32, _, rfl, rfl⟩,
      rfl⟩, ⟨⟩⟩, htext, hcount, hsum⟩ (_ | _ | _)
    · exact ⟨_, hrevision, htext⟩
    · exact ⟨_, hsize, hcount⟩
    · exact ⟨_, hcrc32, hsum⟩
  · intro h
    obtain ⟨revision, hrevision, htext⟩ := h .revision
    obtain ⟨size, hsize, hcount⟩ := h .size
    obtain ⟨crc32, hcrc32, hsum⟩ := h .crc32
    exact ⟨_, _, _, ⟨revision, hrevision, _, ⟨size, hsize, _, ⟨crc32, hcrc32, _, rfl, rfl⟩,
      rfl⟩, rfl⟩, htext, hcount, hsum⟩

/-- An image is read from the values that stand for it. -/
theorem ofJson?_eq_some_iff {value : Json} {image : SlotImage} :
  ofJson? value = some image ↔ image.Written value
  := by
  constructor
  · intro h
    cases value with
    | object members =>
        by_cases hnamed : AreNamed members
        · exact .object hnamed ((ofJson?_object hnamed).mp h)
        · rw [ofJson?, Json.fields?_of_unnamed hnamed] at h
          cases h
    | array items =>
        obtain ⟨_, _, _, hfields, htext, hcount, hsum⟩ := ofJson?_eq_some.mp h
        rw [Json.fields?] at hfields
        rcases items with _ | ⟨revision, _ | ⟨size, _ | ⟨crc32, _ | ⟨extra, rest⟩⟩⟩⟩
        · cases hfields
          cases htext
        · cases hfields
          cases hcount
        · cases hfields
          cases hsum
        · cases hfields
          exact .array (Field.read?_eq_some.mp htext) (Field.read?_eq_some.mp hcount)
            (Field.read?_eq_some.mp hsum)
        · simp [names] at hfields
    | _ => cases h
  · intro h
    cases h with
    | object named fields => exact (ofJson?_object named).mpr fields
    | array writesRevision writesSize writesCrc32 =>
        exact ofJson?_eq_some.mpr ⟨_, _, _, rfl, Field.read?_eq_some.mpr writesRevision,
          Field.read?_eq_some.mpr writesSize, Field.read?_eq_some.mpr writesCrc32⟩

/-- The members describe no image: a field is absent or repeated, or has no value of its type. -/
def Spoilt (members : Members) : Prop :=
  ∃ field : Field, IsAbsent members field.name ∨ IsRepeated members field.name
    ∨ ∃ value, (some field.name, value) ∈ members ∧ ∀ a, ¬ field.Writes a value

theorem not_written_of_spoilt {members : Members} (h : Spoilt members) (image : SlotImage) :
  ¬ image.Written (.object members)
  := by
  rintro ⟨-, fields⟩
  obtain ⟨field, hfield⟩ := h
  obtain ⟨value, honce, hwrites⟩ := fields field
  rcases hfield with habsent | hrepeated | ⟨found, hmember, hnone⟩
  · exact honce.not_isAbsent habsent
  · exact honce.not_isRepeated hrepeated
  · rw [honce.eq_of_mem hmember] at hnone
    exact hnone _ hwrites

/-- An image does not depend on the order of the members, nor on those with other names. -/
theorem ofJson?_of_perm {members members' : Members} (h : AreNamed members)
    (h' : AreNamed members') (hperm : (withNames names members).Perm (withNames names members')) :
  ofJson? (.object members) = ofJson? (.object members')
  := by
  rw [ofJson?, ofJson?, Json.fields?_of_perm h h' hperm]

/-- How an object stands for an image. -/
structure ReadByFields (members : Members) : Prop where
  /-- Each field of the image stands once, and all other names are free. -/
  given : ∀ image, ofJson? (.object members) = some image
    ↔ AreNamed members ∧ ∀ field : Field,
      ∃ value, StandsOnce members field.name value ∧ field.Writes (field.get image) value
  spoilt : Spoilt members → ofJson? (.object members) = none
  /-- Neither the order of the members matters nor what has other names. -/
  unordered : ∀ members', AreNamed members → AreNamed members' →
    (withNames names members).Perm (withNames names members') →
    ofJson? (.object members) = ofJson? (.object members')

theorem readByFields (members : Members) :
  ReadByFields members
  := by
  constructor
  · intro image
    rw [ofJson?_eq_some_iff]
    constructor
    · rintro ⟨named, fields⟩
      exact ⟨named, fields⟩
    · rintro ⟨named, fields⟩
      exact .object named fields
  · intro hspoilt
    rw [Option.eq_none_iff_forall_ne_some]
    intro image himage
    exact not_written_of_spoilt hspoilt image (ofJson?_eq_some_iff.mp himage)
  · exact fun members' h h' hperm => ofJson?_of_perm h h' hperm

end SlotImage

/-- A value of JSON stands for what a slot holds: null for nothing. -/
def SlotWritten : Option SlotImage → Json → Prop
  | none, value => value = .null
  | some image, value => image.Written value

theorem nullable?_eq_some_iff {slot : Option SlotImage} {value : Json} :
  Json.nullable? SlotImage.ofJson? value = some slot ↔ SlotWritten slot value
  := by
  rw [Json.nullable?_eq_some rfl]
  cases slot with
  | none => simp [SlotWritten]
  | some image => simp [SlotWritten, SlotImage.ofJson?_eq_some_iff]

/-! ## States -/

namespace State

/-- The fields of a state. -/
inductive Field where
  | slots
  | activeSlot
  | stagedSlot
  | osImage
  | busy

namespace Field

/-- The name of a field. -/
def name : Field → String
  | .slots => "slots"
  | .activeSlot => "active_slot"
  | .stagedSlot => "staged_slot"
  | .osImage => "os_image"
  | .busy => "busy"

/-- The type of a field. -/
abbrev Value : Field → Type
  | .slots => List (Option SlotImage)
  | .activeSlot => UInt8
  | .stagedSlot => UInt8
  | .osImage => Option SlotImage
  | .busy => Bool

/-- The value of a field of a state. -/
def get (state : State) : (field : Field) → field.Value
  | .slots => state.slots
  | .activeSlot => state.activeSlot
  | .stagedSlot => state.stagedSlot
  | .osImage => state.osImage
  | .busy => state.busy

/-- A value of JSON stands for a value of a field. -/
def Writes : (field : Field) → field.Value → Json → Prop
  | .slots, found, value => ∃ items, value = .array items ∧ List.Forall₂ SlotWritten found items
  | .activeSlot, slot, value => value = .natural slot.toNat
  | .stagedSlot, slot, value => value = .natural slot.toNat
  | .osImage, image, value => SlotWritten image value
  | .busy, truth, value => value = .bool truth

/-- The value of a field that a value of JSON stands for. -/
def read? : (field : Field) → Json → Option field.Value
  | .slots => Json.list? (Json.nullable? SlotImage.ofJson?)
  | .activeSlot => slotNumber?
  | .stagedSlot => slotNumber?
  | .osImage => Json.nullable? SlotImage.ofJson?
  | .busy => Json.bool?

theorem slotNumber?_eq_some {slot : UInt8} {value : Json} :
  slotNumber? value = some slot ↔ value = .natural slot.toNat
  := by
  apply Json.word?_eq_some UInt8.toNat_lt @UInt8.ofNat_toNat
  exact fun _ => UInt8.toNat_ofNat_of_lt'

theorem read?_eq_some {field : Field} {a : field.Value} {value : Json} :
  field.read? value = some a ↔ field.Writes a value
  := by
  cases field with
  | slots =>
      apply Json.list?_eq_some.trans
      simp only [nullable?_eq_some_iff]
      rfl
  | activeSlot => apply slotNumber?_eq_some
  | stagedSlot => apply slotNumber?_eq_some
  | osImage => apply nullable?_eq_some_iff
  | busy => apply Json.bool?_eq_some

end Field

/-- A choice of fields with their values. -/
abbrev Choice := (field : Field) → Option field.Value

/-- The state with the chosen fields, and those of a new device where none is chosen. -/
def ofChoice (choice : Choice) : State where
  slots := (choice .slots).getD default.slots
  activeSlot := (choice .activeSlot).getD default.activeSlot
  stagedSlot := (choice .stagedSlot).getD default.stagedSlot
  osImage := (choice .osImage).getD default.osImage
  busy := (choice .busy).getD default.busy

/-- The chosen fields stand once among the members and the others not at all. -/
def Choice.StandsIn (choice : Choice) (members : Members) : Prop :=
  ∀ field : Field,
    (choice field = none ∧ IsAbsent members field.name)
      ∨ ∃ a value, choice field = some a ∧ StandsOnce members field.name value
        ∧ field.Writes a value

theorem get_ofChoice (choice : Choice) (field : Field) :
  field.get (ofChoice choice) = (choice field).getD (field.get default)
  := by
  cases field <;> rfl

theorem ext_fields {state state' : State}
    (h : ∀ field : Field, field.get state = field.get state') :
  state = state'
  := by
  obtain ⟨slots, activeSlot, stagedSlot, osImage, busy⟩ := state
  obtain rfl : slots = _ := h .slots
  obtain rfl : activeSlot = _ := h .activeSlot
  obtain rfl : stagedSlot = _ := h .stagedSlot
  obtain rfl : osImage = _ := h .osImage
  obtain rfl : busy = _ := h .busy
  rfl

/-- A state is read where each of its fields is found and read, or absent. -/
theorem ofJson?_eq_some {members : Members} (hnamed : AreNamed members) {state : State} :
  ofJson? (.object members) = some state
    ↔ ∀ field : Field, (Json.field? members field.name).bind
        (Json.optional (field.get default) field.read?) = some (field.get state)
  := by
  simp only [ofJson?, Json.fields?_of_named hnamed, names, List.mapM_cons, List.mapM_nil,
    Option.bind_eq_bind, Option.bind_eq_some_iff, Option.pure_def, Option.some.injEq]
  constructor
  · rintro ⟨_, ⟨slots, hslots, _, ⟨activeSlot, hactive, _, ⟨stagedSlot, hstaged, _, ⟨osImage,
      himage, _, ⟨busy, hbusy, _, rfl, rfl⟩, rfl⟩, rfl⟩, rfl⟩, rfl⟩, h⟩
    simp only [Option.bind_eq_some_iff, Option.some.injEq] at h
    obtain ⟨_, hslots', _, hactive', _, hstaged', _, himage', _, hbusy', rfl⟩ := h
    rintro (_ | _ | _ | _ | _)
    · exact ⟨_, hslots, hslots'⟩
    · exact ⟨_, hactive, hactive'⟩
    · exact ⟨_, hstaged, hstaged'⟩
    · exact ⟨_, himage, himage'⟩
    · exact ⟨_, hbusy, hbusy'⟩
  · intro h
    obtain ⟨slots, hslots, hslots'⟩ := h .slots
    obtain ⟨activeSlot, hactive, hactive'⟩ := h .activeSlot
    obtain ⟨stagedSlot, hstaged, hstaged'⟩ := h .stagedSlot
    obtain ⟨osImage, himage, himage'⟩ := h .osImage
    obtain ⟨busy, hbusy, hbusy'⟩ := h .busy
    refine ⟨_, ⟨_, hslots, _, ⟨_, hactive, _, ⟨_, hstaged, _, ⟨_, himage, _, ⟨_, hbusy, _, rfl,
      rfl⟩, rfl⟩, rfl⟩, rfl⟩, rfl⟩, ?_⟩
    simp only [Option.bind_eq_some_iff, Option.some.injEq]
    exact ⟨_, hslots', _, hactive', _, hstaged', _, himage', _, hbusy', rfl⟩

/-- A state is read from the members that give it. -/
theorem ofJson?_eq_some_iff {members : Members} {state : State} :
  ofJson? (.object members) = some state
    ↔ AreNamed members ∧ ∃ choice : Choice, choice.StandsIn members ∧ state = ofChoice choice
  := by
  by_cases hnamed : AreNamed members
  · simp only [ofJson?_eq_some hnamed, Json.optional_eq_some, Field.read?_eq_some, hnamed,
      true_and]
    constructor
    · intro h
      have hchosen : ∀ field : Field, ∃ chosen : Option field.Value,
          ((chosen = none ∧ IsAbsent members field.name)
            ∨ ∃ a value, chosen = some a ∧ StandsOnce members field.name value
              ∧ field.Writes a value)
          ∧ field.get state = chosen.getD (field.get default) := by
        intro field
        rcases h field with ⟨habsent, hdefault⟩ | ⟨value, honce, hwrites⟩
        · exact ⟨none, .inl ⟨rfl, habsent⟩, hdefault⟩
        · exact ⟨some _, .inr ⟨_, value, rfl, honce, hwrites⟩, rfl⟩
      choose choice hstands hget using hchosen
      exact ⟨choice, hstands, ext_fields fun field => by rw [hget, get_ofChoice]⟩
    · rintro ⟨choice, hstands, rfl⟩ field
      rw [get_ofChoice]
      rcases hstands field with ⟨hnone, habsent⟩ | ⟨a, value, hsome, honce, hwrites⟩
      · rw [hnone]
        exact .inl ⟨habsent, rfl⟩
      · rw [hsome]
        exact .inr ⟨value, honce, hwrites⟩
  · rw [ofJson?, Json.fields?_of_unnamed hnamed]
    apply iff_of_false (Option.some_ne_none state).symm
    exact fun h => hnamed h.1

/-- A member of a repeated or ill-typed field makes the members describe no state. -/
theorem ofJson?_eq_none {members : Members}
    (h : ∀ choice : Choice, ¬ choice.StandsIn members) :
  ofJson? (.object members) = none
  := by
  rw [Option.eq_none_iff_forall_ne_some]
  intro state hstate
  obtain ⟨-, choice, hstands, -⟩ := ofJson?_eq_some_iff.mp hstate
  exact h choice hstands

theorem not_standsIn_of_repeated {members : Members} {field : Field}
    (h : IsRepeated members field.name) (choice : Choice) :
  ¬ choice.StandsIn members
  := by
  intro hstands
  rcases hstands field with ⟨-, habsent⟩ | ⟨a, value, -, honce, -⟩
  · cases (Json.field?_eq_none.mpr h).symm.trans (Json.field?_eq_absent.mpr habsent)
  · exact honce.not_isRepeated h

theorem not_standsIn_of_ill_typed {members : Members} {field : Field} {value : Json}
    (hmember : (some field.name, value) ∈ members) (h : ∀ a, ¬ field.Writes a value)
    (choice : Choice) :
  ¬ choice.StandsIn members
  := by
  intro hstands
  rcases hstands field with ⟨-, habsent⟩ | ⟨a, found, -, honce, hwrites⟩
  · exact habsent _ hmember rfl
  · rw [honce.eq_of_mem hmember] at h
    exact h a hwrites

/-- An object that describes no image stands for nothing in a slot. -/
theorem not_slotWritten_of_spoilt {members : Members} (h : SlotImage.Spoilt members)
    (slot : Option SlotImage) :
  ¬ SlotWritten slot (.object members)
  := by
  cases slot with
  | none => exact nofun
  | some image => exact SlotImage.not_written_of_spoilt h image

/-- How a text that is an object stands for a state. -/
structure ReadByFields (text : String) (members : Members) : Prop where
  /-- The state is the one of a new device with the given fields replaced.  All other names are
  free, and nothing else is read. -/
  given : ∀ state, read? text = some state
    ↔ AreNamed members ∧ ∃ choice : Choice, choice.StandsIn members ∧ state = ofChoice choice
  repeated : ∀ field : Field, IsRepeated members field.name → read? text = none
  illTyped : ∀ (field : Field) value, (some field.name, value) ∈ members →
    (∀ a, ¬ field.Writes a value) → read? text = none
  /-- An image with a field that is missing, repeated or ill-typed spoils the whole text. -/
  spoiltImage : ∀ image, SlotImage.Spoilt image →
    ((some Field.osImage.name, .object image) ∈ members
      ∨ ∃ items, .object image ∈ items ∧ (some Field.slots.name, .array items) ∈ members) →
    read? text = none
  /-- Neither the order of the members matters nor what has other names. -/
  unordered : ∀ text' members', Json.read? text' = some (.object members') → AreNamed members →
    AreNamed members' → (withNames names members).Perm (withNames names members') →
    read? text = read? text'

theorem readByFields {text : String} {members : Members}
    (htext : Json.read? text = some (.object members)) :
  ReadByFields text members
  := by
  have hread : read? text = ofJson? (.object members) := by
    rw [read?, htext, Option.bind_some]
  constructor
  · intro state
    rw [hread, ofJson?_eq_some_iff]
  · intro field hrepeated
    rw [hread]
    exact ofJson?_eq_none fun choice => not_standsIn_of_repeated hrepeated choice
  · intro field value hmember hnone
    rw [hread]
    exact ofJson?_eq_none fun choice => not_standsIn_of_ill_typed hmember hnone choice
  · intro image hspoilt hmember
    have hslot := not_slotWritten_of_spoilt hspoilt
    rw [hread]
    apply ofJson?_eq_none
    rcases hmember with hosImage | ⟨items, hitem, hslots⟩
    · exact not_standsIn_of_ill_typed hosImage hslot
    · apply not_standsIn_of_ill_typed hslots
      rintro slots ⟨_, ⟨⟩, hwritten⟩
      obtain ⟨i, hi, hitem⟩ := List.getElem_of_mem hitem
      have hslot' := hwritten.get (hwritten.length_eq ▸ hi) hi
      simp only [List.get_eq_getElem, hitem] at hslot'
      exact hslot _ hslot'
  · intro text' members' htext' h h' hperm
    rw [hread, read?, htext', Option.bind_some, ofJson?, ofJson?, Json.fields?_of_perm h h' hperm]

/-- A text is read by its fields.  If it is an object, the fields of a state that it gives, each
once and with a value of its type, replace those of a new device, and any repeated or ill-typed
one makes it unreadable.  The same holds for the objects of images, which give all fields.  No
number of a slot is above 255, no checksum needs more than 32 bits, and no size has a sign. -/
theorem read_by_fields :
  (∀ text members, Json.read? text = some (.object members) → ReadByFields text members)
    ∧ (∀ members, SlotImage.ReadByFields members)
    ∧ (∀ number, 255 < number → ∀ slot : UInt8,
        ¬ Field.activeSlot.Writes slot (.natural number)
          ∧ ¬ Field.stagedSlot.Writes slot (.natural number))
    ∧ (∀ number, UInt32.size ≤ number → ∀ crc32 : UInt32,
        ¬ SlotImage.Field.crc32.Writes crc32 (.natural number))
    ∧ ∀ digits (size : UInt64), ¬ SlotImage.Field.size.Writes size (.decimal ('-' :: digits))
  := by
  refine ⟨fun text members htext => readByFields htext, SlotImage.readByFields,
    fun number hlarge slot => ?_, fun number hlarge crc32 => ?_, fun digits size h => ?_⟩
  · have hslot : Json.natural number ≠ .natural slot.toNat := by
      rintro ⟨⟩
      exact absurd slot.toNat_lt (by omega)
    exact ⟨hslot, hslot⟩
  · rintro ⟨⟩
    exact absurd crc32.toNat_lt_size (Nat.not_lt.mpr hlarge)
  · cases h

/-- The members of a busy device with an operating-system image are read in any order and with
others between them.  A second flag makes the text unreadable, and so does the number of a slot
that needs two bytes. -/
theorem read_by_fields_shuffled :
  read? ("\x7b\"busy\":true,\"n\":[1.5],\"os_image\":"
        ++ "\x7b\"crc32\":7,\"n\":0,\"size\":3,\"revision\":\"r\"\x7d\x7d")
      = some { default with busy := true, osImage := some ⟨"r", 3, 7⟩ }
    ∧ read? "\x7b\"busy\":true,\"busy\":true\x7d" = none
    ∧ read? "\x7b\"active_slot\":256\x7d" = none
  := by
  obtain ⟨hread, -, hslot, -⟩ := read_by_fields
  let image : Members := [(some "crc32", .natural 7), (some "n", .natural 0),
    (some "size", .natural 3), (some "revision", .ofText "r")]
  let choice : Choice
    | .busy => some true
    | .osImage => some (some ⟨"r", 3, 7⟩)
    | _ => none
  have hscan : Json.scan ("\x7b\"busy\":true,\"n\":[1.5],\"os_image\":"
        ++ "\x7b\"crc32\":7,\"n\":0,\"size\":3,\"revision\":\"r\"\x7d\x7d").toList
      = some [.openBrace, .string (some "busy"), .colon, .bool true, .comma, .string (some "n"),
        .colon, .openBracket, .decimal ['1', '.', '5'], .closeBracket, .comma,
        .string (some "os_image"), .colon, .openBrace, .string (some "crc32"), .colon, .natural 7,
        .comma, .string (some "n"), .colon, .natural 0, .comma, .string (some "size"), .colon,
        .natural 3, .comma, .string (some "revision"), .colon, .string (some "r"), .closeBrace,
        .closeBrace] := by
    decide +kernel
  have htwice : Json.scan "\x7b\"busy\":true,\"busy\":true\x7d".toList
      = some [.openBrace, .string (some "busy"), .colon, .bool true, .comma,
        .string (some "busy"), .colon, .bool true, .closeBrace] := by
    decide +kernel
  have hwide : Json.scan "\x7b\"active_slot\":256\x7d".toList
      = some [.openBrace, .string (some "active_slot"), .colon, .natural 256, .closeBrace] := by
    decide +kernel
  refine ⟨?_, ?_, ?_⟩
  · have himage : SlotImage.Written ⟨"r", 3, 7⟩ (.object image) := by
      refine .object (by simp [AreNamed, image]) ?_
      rintro (_ | _ | _)
      · exact ⟨_, Json.field?_eq_value.mp rfl, rfl⟩
      · exact ⟨_, Json.field?_eq_value.mp rfl, rfl⟩
      · exact ⟨_, Json.field?_eq_value.mp rfl, rfl⟩
    apply ((hread _ [(some "busy", .bool true), (some "n", .array [.decimal ['1', '.', '5']]),
      (some "os_image", .object image)] ?_).given _).mpr
    · refine ⟨by simp [AreNamed], choice, ?_, rfl⟩
      rintro (_ | _ | _ | _ | _)
      · exact .inl ⟨rfl, Json.field?_eq_absent.mp rfl⟩
      · exact .inl ⟨rfl, Json.field?_eq_absent.mp rfl⟩
      · exact .inl ⟨rfl, Json.field?_eq_absent.mp rfl⟩
      · exact .inr ⟨_, _, rfl, Json.field?_eq_value.mp rfl, himage⟩
      · exact .inr ⟨_, _, rfl, Json.field?_eq_value.mp rfl, rfl⟩
    · rw [Json.read?, hscan]
      rfl
  · apply (hread _ [(some "busy", .bool true), (some "busy", .bool true)] ?_).repeated .busy
    · exact ⟨[], _, [], _, [], rfl⟩
    · rw [Json.read?, htwice]
      rfl
  · apply (hread _ [(some "active_slot", .natural 256)] ?_).illTyped .activeSlot (.natural 256)
      List.mem_cons_self
    · exact fun slot => (hslot 256 (by decide) slot).1
    · rw [Json.read?, hwide]
      rfl

end State

end CxlFirmware.Emulator
