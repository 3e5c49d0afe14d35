import CxlFirmware.Proofs.Emulator.Effect
import CxlFirmware.Proofs.Emulator.Pace

/-!
# Settled devices

A device is `Settled` after any commands: the last operation that it reports has ended with
success, and it is never left to be busy more often than it is told to.  So it answers a
status query in two ways only, and says by its answer whether it still processes something.
-/

namespace CxlFirmware

namespace Emulator

variable {name : String} {config : Config} {clock : Clock Emulator} {before after device : Emulator}
  {trace : List Submission}

/-! ## How often a device is busy -/

/-- A device is never told to be busy more often than it is told to. -/
theorem busyLeft_gated {handle : Emulator → Verdict}
    (hhandle : ∀ device, (handle device).device.busyLeft = device.busyLeft) {device : Emulator}
    (h : device.busyLeft ≤ config.busyReplies) :
  (gated config handle device).device.busyLeft ≤ config.busyReplies
  := by
  rw [gated]
  split
  · exact h
  · split
    · rename_i hleft
      apply UInt32.le_trans _ h
      rw [UInt32.le_iff_toNat_le, UInt32.toNat_sub_of_le _ _ hleft]
      apply Nat.sub_le
    · rw [hhandle]
      exact UInt32.le_refl _

theorem busyLeft_transfer (opcode : Opcode) (payload : Bytes) (device : Emulator) :
  (Emulator.transfer name config opcode payload device).device.busyLeft = device.busyLeft
  := by
  unfold Emulator.transfer
  split
  · rfl
  · split
    · rfl
    · rfl
    · unfold step accept
      split
      · rfl
      · split
        · rfl
        · split
          · split
            · rfl
            · rfl
          · rfl

theorem busyLeft_activate (opcode : Opcode) (payload : Bytes) (device : Emulator) :
  (activate name config opcode payload device).device.busyLeft = device.busyLeft
  := by
  rcases activate_cases name config opcode payload device with
    ⟨_, -, hrefused⟩ | ⟨_, _, _, _, _, _, -, -, -, -, -, hdone⟩
  · rw [hrefused]
  · rw [hdone]
    rfl

theorem busyLeft_backgroundStatus (device : Emulator) :
  device.backgroundStatus.2.busyLeft = device.busyLeft
  := by
  rw [backgroundStatus]
  split
  · rfl
  · split
    · rfl
    · rfl

theorem busyLeft_submit (name : String) (config : Config) (command : Command)
    (h : device.busyLeft ≤ config.busyReplies) :
  ((transport name config clock).submit command device).mailbox.busyLeft ≤ config.busyReplies
  := by
  change (handle name config command { device with history := _ }).mailbox.busyLeft ≤ _
  unfold handle
  split
  · exact UInt32.le_trans (UInt32.le_of_eq (busyLeft_backgroundStatus _)) h
  · exact UInt32.le_trans (UInt32.le_of_eq (busyLeft_backgroundStatus _)) h
  · exact h
  · exact busyLeft_gated (busyLeft_transfer _ _) h
  · exact busyLeft_gated (busyLeft_transfer _ _) h
  · exact busyLeft_gated (busyLeft_transfer _ _) h
  · exact busyLeft_gated (busyLeft_activate _ _) h
  · exact busyLeft_gated (busyLeft_activate _ _) h
  · exact h

/-! ## The reports of a device -/

/-- What the device reports last has ended with success, and the device is not busy more often
than it is told to be. -/
structure Settled (config : Config) (device : Emulator) : Prop where
  ended : device.lastBackground.inProgress = false
  success : device.lastBackground.status = .success
  busyLeft : device.busyLeft ≤ config.busyReplies

theorem settled_start (config : Config) (state : State) :
  Settled config (start config state)
  := ⟨rfl, rfl, UInt32.le_refl _⟩

/-- The last report changes only when an operation has ended, with success. -/
theorem Effect.lastBackground {command : Command} {answer : Answer}
    (h : Effect config command before answer after) :
  after.lastBackground = before.lastBackground
    ∨ ∃ operation : Background, after.lastBackground = operation.finished
  := by
  cases h with
  | unmoved h _ => exact .inl h.lastBackground
  | reported _ _ _ _ _ hlast =>
      rw [hlast, backgroundStatus]
      split
      · exact .inl rfl
      · split
        · exact .inl rfl
        · exact .inr ⟨_, rfl⟩
  | aborted _ _ _ _ _ _ _ hlast => exact .inl hlast
  | taken _ _ _ _ _ _ hlast => exact .inl hlast
  | activated _ _ _ _ _ _ _ _ _ _ _ hlast => exact .inl hlast

/-- A device stays settled, whatever the command. -/
theorem settled_submit (name : String) (clock : Clock Emulator) (command : Command)
    (h : Settled config device) :
  Settled config ((transport name config clock).submit command device).mailbox
  := by
  rcases (effect_submit name config clock command device).lastBackground with hlast | ⟨_, hlast⟩
  · constructor
    · rw [hlast]
      exact h.ended
    · rw [hlast]
      exact h.success
    · exact busyLeft_submit name config command h.busyLeft
  · constructor
    · rw [hlast]
      rfl
    · rw [hlast]
      rfl
    · exact busyLeft_submit name config command h.busyLeft

theorem Settled.yields (hsettled : Settled config before)
    (h : (transport name config clock).Yields before trace after) :
  Settled config after
  := h.preserves (fun s _ _ => settled_submit name clock s.command) hsettled

/-- A settled device reports an operation as running while it processes it, if it can, and
otherwise the end of one, with success. -/
theorem submit_status_cases (name : String) (query : StatusQuery) (h : Settled config device)
    {reaction : Exchange Emulator}
    (hsubmit : (transport name config clock).submit ⟨query.opcode.code, []⟩ device = reaction) :
  (query.IsPending reaction.answer ∨ reaction.answer = overflowAnswer)
      ∧ device.background.isSome ∧ reaction.mailbox.background.isSome
    ∨ query.IsConfirmed reaction.answer ∧ reaction.mailbox.background = none
  := by
  have hreport : ∀ report, query.Reports
      (.ok (.ok ⟨Status.success.code, query.encode report⟩)) report.written :=
    fun report => ⟨_, rfl, rfl, query.decode_encode report⟩
  rw [submit_status, replyStatus, backgroundStatus_noted, backgroundStatus] at hsubmit
  subst hsubmit
  split
  · rename_i hnone
    exact .inr ⟨⟨_, hreport _, h.ended, h.success⟩, hnone⟩
  · rename_i operation hsome
    split
    · refine .inl ⟨?_, Option.isSome_of_mem hsome, rfl⟩
      rcases Nat.lt_or_ge operation.asked shownPolls with hlt | hle
      · obtain ⟨percent, hpercent, -⟩ := Background.report_of_lt hlt
        rw [hpercent]
        exact .inl (.inr ⟨_, hreport _, rfl⟩)
      · rw [Background.report_of_le hle]
        exact .inr rfl
    · exact .inr ⟨⟨_, hreport _, rfl, rfl⟩, rfl⟩

/-! ## Polls of a device -/

section

variable {query : StatusQuery} {answers : List Answer} {last : Answer}

/-- What comes back for a poll of a settled device is one of the two. -/
theorem answer_of_poll (hsettled : Settled config before)
    (h : (transport name config clock).Yields before
      (answers.map (.mk ⟨query.opcode.code, []⟩)) after)
    {receipt : Receipt} (hanswer : .ok receipt ∈ answers) :
  query.IsPending (.ok receipt) ∨ query.IsConfirmed (.ok receipt)
  := by
  induction answers generalizing before with
  | nil => cases hanswer
  | cons first answers ih =>
      obtain ⟨hfirst, hrest⟩ := h.uncons
      rcases List.mem_cons.mp hanswer with rfl | hanswer
      · rcases submit_status_cases name query hsettled rfl with
          ⟨hpending | hoverflow, -⟩ | ⟨hconfirmed, -⟩
        · rw [← hfirst] at hpending
          exact .inl hpending
        · rw [← hfirst] at hoverflow
          cases hoverflow
        · rw [← hfirst] at hconfirmed
          exact .inr hconfirmed
      · exact ih (settled_submit name clock _ hsettled) hrest hanswer

/-- Once it has confirmed the end of an operation, nothing is processed. -/
theorem idle_of_confirmed (hsettled : Settled config before)
    (h : (transport name config clock).Yields before
      ((answers ++ [last]).map (.mk ⟨query.opcode.code, []⟩)) after)
    (hlast : query.IsConfirmed last) :
  after.background = none
  := by
  rw [List.map_append] at h
  obtain ⟨device, hfirst, hfinal⟩ := h.split
  obtain ⟨hanswer, hend⟩ := hfinal.uncons
  cases hend
  rcases submit_status_cases name query (hsettled.yields hfirst) rfl with
    ⟨hpending | hoverflow, -⟩ | ⟨-, hidle⟩
  · rw [← hanswer] at hpending
    exact absurd hlast ((Poll.judges query).exclusive last hpending)
  · rw [← hanswer] at hoverflow
    rw [show last = .error .product from hoverflow] at hlast
    exact absurd hlast (query.not_isConfirmed_fault .product)
  · exact hidle

/-- While it confirms nothing, an operation is processed, before and afterwards. -/
theorem running_of_unconfirmed (hsettled : Settled config before)
    (h : (transport name config clock).Yields before
      ((answers ++ [last]).map (.mk ⟨query.opcode.code, []⟩)) after)
    (hpending : ∀ answer ∈ answers ++ [last], ¬ query.IsConfirmed answer) :
  before.background.isSome ∧ after.background.isSome
  := by
  induction answers generalizing before with
  | nil =>
      obtain ⟨hanswer, hend⟩ := h.uncons
      cases hend
      rcases submit_status_cases name query hsettled rfl with ⟨-, hrunning⟩ | ⟨hconfirmed, -⟩
      · exact hrunning
      · rw [← hanswer] at hconfirmed
        exact absurd hconfirmed (hpending last List.mem_cons_self)
  | cons first answers ih =>
      obtain ⟨hanswer, hrest⟩ := h.uncons
      obtain ⟨hfirst, hothers⟩ := List.forall_mem_cons.mp hpending
      obtain ⟨-, hafter⟩ := ih (settled_submit name clock _ hsettled) hrest hothers
      rcases submit_status_cases name query hsettled rfl with
        ⟨-, hrunning, -⟩ | ⟨hconfirmed, -⟩
      · exact ⟨hrunning, hafter⟩
      · rw [← hanswer] at hconfirmed
        exact absurd hconfirmed hfirst

end

/-! ## What a device puts off while it processes something -/

/-- A device that processes something puts all transfer commands off. -/
theorem put_off_of_running (h : (transport name config clock).Yields before trace after)
    (hrunning : before.background.isSome)
    (htransfers : ∀ s ∈ trace, ∃ (kind : Transfer.Kind) (payload : Bytes),
      s.command = ⟨kind.opcode.code, payload⟩) :
  Unmoved before after ∧ ∀ s ∈ trace, s.answer = busyAnswer
  := by
  induction h with
  | nil device => exact ⟨⟨⟨rfl, rfl⟩, rfl, rfl⟩, nofun⟩
  | @cons device _ _ command h ih =>
      obtain ⟨⟨kind, payload, hcommand⟩, hothers⟩ := List.forall_mem_cons.mp htransfers
      obtain rfl : command = ⟨kind.opcode.code, payload⟩ := hcommand
      have hbusy : (transport name config clock).submit ⟨kind.opcode.code, payload⟩ device
          = ⟨busyAnswer, [], device.noted kind.opcode⟩ := by
        rw [submit_transfer]
        exact replyTransfer_of_background hrunning
      rw [hbusy] at ih ⊢
      obtain ⟨hunmoved, hanswers⟩ := ih hrunning hothers
      constructor
      · exact ⟨⟨hunmoved.state, hunmoved.staging⟩, hunmoved.background, hunmoved.lastBackground⟩
      · exact List.forall_mem_cons.mpr ⟨rfl, hanswers⟩

end Emulator

end CxlFirmware
