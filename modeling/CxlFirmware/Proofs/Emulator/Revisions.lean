import CxlFirmware.Proofs.Emulator.Information
import CxlFirmware.Proofs.Revision

/-!
# Revisions that are told

The revision of a slot comes to the reader of the reply as a part of itself, or not at all,
unless the end of its field goes through one of its characters.  Then a replacement character
stands in place of that character.  So the reply of an emulated device contains a character
that is not in the revision of the slot exactly when the revision is cut through and has no
replacement character of its own.
-/

namespace CxlFirmware

namespace FirmwareInfo

open Utf8 (replacement Crosses)
open Text (isBlank)

variable {info : FirmwareInfo} {slot : UInt8} {revision text : String}

theorem revision_eq_some_iff :
  info.revision slot = some text
    ↔ ∃ index, slot.toNat = index + 1 ∧ info.revisions[index]? = some (some text)
  := by
  rw [FirmwareInfo.revision]
  split
  · rename_i hzero
    simp [hzero]
  · rename_i index hindex
    simp [hindex, Option.join_eq_some_iff]

/-- Of a slot that is counted, what is read is what its field gives. -/
theorem revision_written (info : FirmwareInfo) (hpos : 1 ≤ slot.toNat)
    (hle : slot.toNat ≤ min info.slotsSupported.toNat maxSlots) :
  info.written.revision slot = readRevision (writeRevision (info.revision slot))
  := by
  obtain ⟨index, hindex⟩ := Nat.exists_eq_add_of_le' hpos
  have hlt : index < min info.slotsSupported.toNat maxSlots := by omega
  rw [FirmwareInfo.revision, FirmwareInfo.revision, hindex]
  simp only [written, List.getElem?_map, List.getElem?_range hlt, Option.map_some, Option.join_some]

/-- Of another slot nothing is read. -/
theorem counted_of_revision_written (h : info.written.revision slot = some text) :
  1 ≤ slot.toNat ∧ slot.toNat ≤ min info.slotsSupported.toNat maxSlots
  := by
  obtain ⟨index, hindex, hrevision⟩ := revision_eq_some_iff.mp h
  have hlt := (List.getElem?_eq_some_iff.mp hrevision).1
  rw [written, List.length_map, List.length_range] at hlt
  omega

/-- What is read of a revision is nothing, or a part of it. -/
def Intact (revision : String) (read : Option String) : Prop :=
  read = none ∨ ∃ text, read = some text ∧ text.toList <:+: revision.toList

theorem intact_of_not_isCut (h : ¬ IsCut revision) :
  Intact revision (readRevision (writeRevision (some revision)))
  := by
  cases hread : readRevision (writeRevision (some revision)) with
  | none => exact .inl rfl
  | some text => exact .inr ⟨text, rfl, infix_of_not_isCut h hread⟩

/-- A revision that is cut through is read with a character that it does not have, unless it
has a replacement character. -/
theorem not_intact_of_isCut (h : IsCut revision) (hforeign : replacement ∉ revision.toList) :
  ¬ Intact revision (readRevision (writeRevision (some revision)))
  := by
  obtain ⟨kept, hcut⟩ := h
  rw [readRevision_of_cutAt hcut]
  rintro (hnone | ⟨text, htext, hinfix⟩)
  · cases hnone
  · obtain rfl := Option.some.inj htext
    rw [String.toList_ofList] at hinfix
    apply hforeign
    apply hinfix.subset
    exact List.mem_append_right _ (List.mem_singleton_self _)

/-- What is read of a revision has no foreign characters, unless the revision is cut through and
has no replacement character. -/
theorem subset_iff (hread : readRevision (writeRevision (some revision)) = some text) :
  (∀ c ∈ text.toList, c ∈ revision.toList) ↔ (IsCut revision → replacement ∈ revision.toList)
  := by
  constructor
  · rintro hsubset ⟨kept, hcut⟩
    rw [readRevision_of_cutAt hcut] at hread
    obtain rfl := Option.some.inj hread
    apply hsubset
    rw [String.toList_ofList]
    exact List.mem_append_right _ (List.mem_singleton_self _)
  · intro hown c hc
    by_cases hcut : IsCut revision
    · have hreplacement := hown hcut
      obtain ⟨kept, hcut⟩ := hcut
      rw [readRevision_of_cutAt hcut] at hread
      obtain rfl := Option.some.inj hread
      rw [String.toList_ofList, List.mem_append, List.mem_singleton] at hc
      rcases hc with hkept | rfl
      · obtain ⟨d, rest, hsplit, -⟩ := hcut
        rw [hsplit]
        exact List.mem_append_left _ ((List.dropWhile_suffix isBlank).subset hkept)
      · exact hreplacement
    · exact (infix_of_not_isCut hcut hread).subset hc

end FirmwareInfo

namespace Emulator

open FirmwareInfo (IsCut CutAt Intact)
open Utf8 (replacement)
open Text (isBlank)

variable {name : String} {config : Config} {clock : Clock Emulator} {slot : UInt8} {text : String}

/-- A device tells the revision of a slot that it holds. -/
theorem revision_firmwareInfo (config : Config) (device : Emulator)
    (hle : slot.toNat ≤ FirmwareInfo.maxSlots) :
  (firmwareInfo config device).revision slot
    = (device.state.slot? slot).map SlotImage.revision
  := by
  rw [FirmwareInfo.revision, State.slot?]
  cases hindex : slot.toNat with
  | zero => rfl
  | succ index =>
      have hlt : index < FirmwareInfo.maxSlots := by omega
      simp only [firmwareInfo, List.getElem?_map, List.getElem?_take_of_lt hlt]
      rcases device.state.slots[index]? with _ | _ | image
      · rfl
      · rfl
      · rfl

/-- What is told of a slot is read from the field of the revision that the slot holds. -/
theorem revision_of_told (device : Emulator)
    (htold : (firmwareInfo config device).written.revision slot = some text) :
  ∃ image, device.state.slot? slot = some image
    ∧ FirmwareInfo.readRevision (FirmwareInfo.writeRevision (some image.revision)) = some text
  := by
  obtain ⟨hpos, hle⟩ := FirmwareInfo.counted_of_revision_written htold
  have hfour := Nat.le_trans hle (Nat.min_le_right _ _)
  rw [FirmwareInfo.revision_written _ hpos hle, revision_firmwareInfo config device hfour] at htold
  cases hslot : device.state.slot? slot with
  | none =>
      rw [hslot] at htold
      cases htold
  | some image =>
      rw [hslot] at htold
      exact ⟨image, rfl, htold⟩

/-- The revision of a slot is read back as a part of itself or not at all, unless the end of its
field goes through one of its characters; then the text in front of that character is read, and
a replacement character.  So an emulated device tells of a slot only characters of the revision
that it holds, unless that revision is cut through and has no replacement character. -/
theorem revision_intact_unless_cut (info : FirmwareInfo) (slot : UInt8) (revision : String)
    (hpos : 1 ≤ slot.toNat) (hle : slot.toNat ≤ min info.slotsSupported.toNat 4)
    (hrevision : info.revision slot = some revision) :
  (∃ read, FirmwareInfo.decode info.encode = .ok read
      ∧ (¬ IsCut revision → Intact revision (read.revision slot))
      ∧ (∀ kept, CutAt revision kept → read.revision slot
        = some (String.ofList (kept.dropWhile isBlank ++ [replacement])))
      ∧ (replacement ∉ revision.toList →
        (Intact revision (read.revision slot) ↔ ¬ IsCut revision)))
    ∧ ∀ name config (host : Device Emulator) device, host.transport = transport name config clock →
        ∃ info, (host.firmwareInfo device).result = .ok (.ok info)
          ∧ ∀ slot text, info.revision slot = some text →
            ∃ image, device.state.slot? slot = some image
              ∧ ((∀ c ∈ text.toList, c ∈ image.revision.toList)
                ↔ (IsCut image.revision → replacement ∈ image.revision.toList))
  := by
  constructor
  · have hread := info.revision_written hpos hle
    rw [hrevision] at hread
    refine ⟨info.written, FirmwareInfo.decode_encode info, ?_, ?_, ?_⟩
    · rw [hread]
      exact FirmwareInfo.intact_of_not_isCut
    · intro kept hcut
      rw [hread, FirmwareInfo.readRevision_of_cutAt hcut]
    · intro hforeign
      rw [hread]
      constructor
      · intro hintact hcut
        exact FirmwareInfo.not_intact_of_isCut hcut hforeign hintact
      · exact FirmwareInfo.intact_of_not_isCut
  · intro name config host device hhost
    refine ⟨_, result_firmwareInfo hhost device, fun slot text htold => ?_⟩
    obtain ⟨image, hslot, hread⟩ := revision_of_told device htold
    exact ⟨image, hslot, FirmwareInfo.subset_iff hread⟩

/-- A revision whose last character fits the field with its last byte. -/
def fitting : String :=
  String.ofList (List.replicate 14 'a' ++ ['é'])

/-- A revision whose last character comes one byte too late. -/
def overlong : String :=
  String.ofList (List.replicate 15 'a' ++ ['é'])

/-- A device with a revision in its first slot. -/
def labelled (revision : String) : Emulator :=
  start .default { State.default with slots := [some ⟨revision, 0, 0⟩] }

/-- The revision that just fits is read as a part of itself, and the reply of the device has only
characters of it. -/
theorem revision_intact_unless_cut_fitting :
  (∃ read, FirmwareInfo.decode (firmwareInfo .default (labelled fitting)).encode = .ok read
      ∧ Intact fitting (read.revision 1))
    ∧ ∃ info, (fresh.firmwareInfo (labelled fitting)).result = .ok (.ok info)
      ∧ ∀ text, info.revision 1 = some text → ∀ c ∈ text.toList, c ∈ fitting.toList
  := by
  obtain ⟨⟨read, hread, hintact, -⟩, htold⟩ := revision_intact_unless_cut
    (firmwareInfo .default (labelled fitting)) 1 fitting (by decide) (by decide) rfl
  have hfits : (Utf8.encode fitting).length ≤ 16 := by
    decide
  have hcut := FirmwareInfo.not_isCut_of_fits hfits
  constructor
  · exact ⟨read, hread, hintact hcut⟩
  · obtain ⟨info, hinfo, htexts⟩ := htold "mem0" .default fresh (labelled fitting) rfl
    refine ⟨info, hinfo, fun text htext => ?_⟩
    obtain ⟨image, hslot, hsubset⟩ := htexts 1 text htext
    obtain rfl := Option.some.inj hslot
    exact hsubset.mpr fun h => absurd h hcut

/-- The revision that comes one byte too late is read with a character that it does not have,
from its field and in the reply of the device. -/
theorem overlong_garbled :
  let text := String.ofList (List.replicate 15 'a' ++ [replacement])
  (firmwareInfo .default (labelled overlong)).revision 1 = some overlong
    ∧ (∃ read, FirmwareInfo.decode (firmwareInfo .default (labelled overlong)).encode = .ok read
      ∧ read.revision 1 = some text ∧ ¬ Intact overlong (read.revision 1))
    ∧ ∃ info, (fresh.firmwareInfo (labelled overlong)).result = .ok (.ok info)
      ∧ info.revision 1 = some text ∧ replacement ∈ text.toList ∧ replacement ∉ overlong.toList
  := by
  intro text
  have hcut : CutAt overlong (List.replicate 15 'a') :=
    ⟨'é', [], rfl, by decide, by decide, by decide⟩
  have hforeign : replacement ∉ overlong.toList := by
    decide
  have hfield : FirmwareInfo.readRevision (FirmwareInfo.writeRevision (some overlong))
      = some text :=
    FirmwareInfo.readRevision_of_cutAt hcut
  have hread : (firmwareInfo .default (labelled overlong)).written.revision 1 = some text := by
    rw [FirmwareInfo.revision_written _ (by decide) (by decide)]
    exact hfield
  refine ⟨rfl, ⟨_, FirmwareInfo.decode_encode _, hread, ?_⟩, _, result_firmwareInfo rfl _, hread,
    ?_, hforeign⟩
  · rw [hread, ← hfield]
    exact FirmwareInfo.not_intact_of_isCut ⟨_, hcut⟩ hforeign
  · rw [String.toList_ofList]
    exact List.mem_append_right _ (List.mem_singleton_self _)

end Emulator

end CxlFirmware
