import CxlFirmware.Proofs.Emulator.Abandonment

/-!
# Atomicity of failed transfers

A transfer that fails leaves the lasting state of a device as it was, whatever the device has
been through before.  The only exception is a last block that the device has taken and does
not confirm in time: then the target may hold another image, and nothing else has changed.
-/

namespace CxlFirmware

open Transfer (Step Plan)

namespace Emulator

/-! ## States that agree -/

/-- Two states agree in all but the target of a transfer. -/
structure State.AgreesBeside (transfer : Transfer.Config) (before after : State) : Prop where
  activeSlot : after.activeSlot = before.activeSlot
  stagedSlot : after.stagedSlot = before.stagedSlot
  busy : after.busy = before.busy
  length : after.slots.length = before.slots.length
  slots : ∀ index, transfer.kind = .osImage ∨ index + 1 ≠ transfer.slot.toNat →
    after.slots[index]? = before.slots[index]?
  osImage : transfer.kind ≠ .osImage → after.osImage = before.osImage

/-- What is stored in the target changes nothing else. -/
theorem State.agreesBeside_store {transfer : Transfer.Config} {state : State}
    (h : state.Allows transfer) (image : SlotImage) :
  state.AgreesBeside transfer (state.store transfer image)
  := by
  have hslot : transfer.kind ≠ .osImage → state.store transfer image
      = state.setSlot transfer.slot image := by
    intro hkind
    rw [store]
    cases hcase : transfer.kind with
    | osImage => exact absurd hcase hkind
    | specDefined => rfl
    | vendorBackground => rfl
  by_cases hkind : transfer.kind = .osImage
  · rw [store, hkind]
    exact ⟨rfl, rfl, rfl, rfl, fun _ _ => rfl, fun h => absurd hkind h⟩
  · obtain ⟨hpos, -⟩ := lt_of_accepts (h.resolve_left hkind)
    rw [hslot hkind, setSlot]
    refine ⟨rfl, rfl, rfl, List.length_set, ?_, fun _ => rfl⟩
    intro index hindex
    apply List.getElem?_set_ne
    have hother := hindex.resolve_left hkind
    omega

variable {name : String} {config : Config} {clock : Clock Emulator} {transfer : Transfer.Config}
  {step : Step} {steps : List Step} {before after : Emulator} {trace : List Submission}
  {delays : List Duration}

/-! ## The state along a transfer -/

/-- Steps that do not end a transfer leave the state as it is. -/
theorem state_of_sent (hvalid : transfer.validate = .ok ())
    (haction : ∀ step ∈ steps, step.action ≠ .abort) (hend : ∀ step ∈ steps, step.action ≠ .end)
    (h : Transfer.Sent (transport name config clock) transfer steps before trace delays after) :
  after.state = before.state
  := by
  induction h with
  | nil device => rfl
  | cons hdone _ ih =>
      obtain ⟨hfirst, haction⟩ := List.forall_mem_cons.mp haction
      obtain ⟨hother, hend⟩ := List.forall_mem_cons.mp hend
      obtain ⟨between, polls, last, hsubmitted, hpolls, -⟩ := hdone.yields hvalid
      rw [ih haction hend, (keeps_of_polls hpolls).state]
      rcases submitted_cases hfirst hsubmitted with htakes | hunmoved
      · rw [htakes.state, if_neg hother]
      · exact hunmoved.state

/-- So does an abort. -/
theorem state_of_abandoned (hvalid : transfer.validate = .ok ()) {abortError : Option String}
    (h : Transfer.Abandoned (transport name config clock) transfer abortError before after) :
  after.state = before.state
  := by
  obtain ⟨waited, last, hpath, -⟩ := h.yields hvalid
  have hstep : ∀ s ∈ (waited ++ [last]).map (Submission.mk transfer.abortCommand), ∀ device,
      device.state = before.state →
      ((transport name config clock).submit s.command device).mailbox.state = before.state := by
    intro s hs device hstate
    obtain ⟨answer, -, rfl⟩ := List.mem_map.mp hs
    rw [← hstate]
    exact (submit_abort_cases name config transfer device rfl).1
  exact hpath.preserves hstep rfl

/-- A transfer that fails leaves the state as it was, unless the last block was submitted and
the polls for it gave up.  Then the state is the same beside the target of the transfer. -/
theorem state_after_failure (name host : String) (config : Config) (transfer : Transfer.Config)
    (image : Image) (state : State)
    (hpath : (transport name config clock).Yields (start config state) trace before) {error : Error}
    (h : (Transfer.run (transport name config clock) host transfer image before).result
      = .ok (.error error)) :
  let after := (Transfer.run (transport name config clock) host transfer image before).mailbox.state
  after = before.state
    ∨ ∃ plan step m₁ m₂ source abortError, transfer.plan image = .ok plan
      ∧ Transfer.Reached (transport name config clock) transfer plan step before m₁
      ∧ step.action = .end
      ∧ Transfer.Unconfirmed (transport name config clock) transfer step source m₁ m₂
      ∧ source.IsTimeout ∧ error = .transferFailed step.index .end source abortError
      ∧ before.state.AgreesBeside transfer after
      ∧ ∃ data, after.target transfer = some (.ofData data)
  := by
  intro after
  rcases Transfer.failed_cases h with ⟨hmailbox, -⟩
    | ⟨plan, step, m₁, m₂, source, abortError, hvalid, hplan, hreached, hcause, habandoned,
        herror⟩
  · exact .inl (congrArg Emulator.state hmailbox)
  · obtain ⟨steps, rest, trace', delays, hsteps, hsent⟩ := id hreached
    have haction := transfer.plan_action_ne_abort hplan
    rw [hsteps] at haction
    obtain ⟨hearlier, hothers⟩ := List.forall_mem_append.mp haction
    obtain ⟨hstep, -⟩ := List.forall_mem_cons.mp hothers
    have hbefore : m₁.state = before.state :=
      state_of_sent hvalid hearlier (transfer.plan_action_ne_end hplan hsteps) hsent
    have hafter : after = m₂.state := state_of_abandoned hvalid habandoned
    rw [hafter, ← hbefore]
    rcases hcause with hcause | hcause
    · left
      obtain ⟨answers, hanswers, hnone⟩ := hcause.yields hvalid
      exact (unmoved_of_answers hanswers hnone).state
    · have hsettled : Settled config m₁ :=
        ((settled_start config state).yields hpath).yields (Transfer.yields_of_sent hsent)
      obtain ⟨htimeout, -, htakes | ⟨hkeeps, -⟩⟩ := unconfirmed_cases hvalid hstep hsettled hcause
      · by_cases hend : step.action = .end
        · right
          refine ⟨plan, step, m₁, m₂, source, abortError, hplan, hreached, hend, hcause, htimeout,
            ?_, ?_⟩
          · rw [herror, hend]
          · rw [htakes.state_eq_store hend]
            exact ⟨State.agreesBeside_store htakes.target _, _,
              State.target_store htakes.target _⟩
        · left
          rw [htakes.state, if_neg hend]
      · exact .inl hkeeps.state

theorem state_after_failure_hasty :
  let transport := transport "mem0" .default .still
  let before := (transport.submit ⟨Opcode.getBackgroundStatus.code, []⟩
    (start .default .default)).mailbox
  let run := Transfer.run transport "mem0" hasty ⟨[0xaa, 0xbb], none, nofun⟩ before
  Transfer.failure? run.result = some (0, .end, .pollExhausted 0x0201 1 0,
      some "transfer-fw (0x0201) still Busy after 3 attempts")
    ∧ run.mailbox.state ≠ before.state ∧ before.state.AgreesBeside hasty run.mailbox.state
  := by
  intro transport before run
  have hresult : Transfer.failure? run.result = some (0, .end, .pollExhausted 0x0201 1 0,
      some "transfer-fw (0x0201) still Busy after 3 attempts") := by
    decide +kernel
  have hchanged : run.mailbox.state ≠ before.state := by
    decide +kernel
  rcases state_after_failure "mem0" "mem0" .default hasty ⟨[0xaa, 0xbb], none, nofun⟩ .default
      (.single _ _) (Transfer.failure?_eq_some.mp hresult) with
    hsame | ⟨_, _, _, _, _, _, -, -, -, -, -, -, hagrees, -⟩
  · exact absurd hsame hchanged
  · exact ⟨hresult, hchanged, hagrees⟩

end Emulator

end CxlFirmware
