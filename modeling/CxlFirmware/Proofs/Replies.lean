import CxlFirmware.Proofs.Attempts
import CxlFirmware.Proofs.Judgement
import CxlFirmware.Script

/-!
# Replies to a command

What a mailbox replies to one command that is sent again and again: `transport.reply command m i`
is the reply behind `i` others, and `transport.after command m i` the mailbox that gives it.  The
command `Settles` at the first reply that is not of a kind, or at the last one of a budget.  A
loop whose attempts send one command each makes its attempts up to there; what an attempt is told
of the one before it is the `view` of the earlier replies.
-/

namespace CxlFirmware

variable {σ α π : Type}

namespace Transport

/-- The mailbox behind `count` times the same command. -/
def after (transport : Transport σ) (command : Command) (m : σ) : (count : Nat) → σ
  | 0 => m
  | count + 1 => (transport.submit command (transport.after command m count)).mailbox

/-- The answer to a command behind `i` others of its kind. -/
def reply (transport : Transport σ) (command : Command) (m : σ) (i : Nat) : Answer :=
  (transport.submit command (transport.after command m i)).answer

/-- The first `count` submissions of a command. -/
def repeats (transport : Transport σ) (command : Command) (m : σ) (count : Nat) :
    List Submission :=
  (List.range count).map fun i => ⟨command, transport.reply command m i⟩

section

variable {transport : Transport σ} {command : Command} {m m' : σ}

theorem after_succ (count : Nat) :
  transport.after command m (count + 1)
    = transport.after command (transport.submit command m).mailbox count
  := by
  induction count with
  | zero => rfl
  | succ count ih => rw [after, ih, after]

theorem reply_succ (i : Nat) :
  transport.reply command m (i + 1)
    = transport.reply command (transport.submit command m).mailbox i
  := by
  rw [reply, after_succ, reply]

/-- A path along one command gives its replies in order. -/
theorem Yields.replies {answers : List Answer}
    (h : transport.Yields m (answers.map (.mk command)) m') :
  (∀ i answer, answers[i]? = some answer → transport.reply command m i = answer)
    ∧ transport.after command m answers.length = m'
  := by
  induction answers generalizing m with
  | nil =>
      cases h
      exact ⟨nofun, rfl⟩
  | cons first rest ih =>
      obtain ⟨hfirst, hrest⟩ := h.uncons
      obtain ⟨hreplies, hafter⟩ := ih hrest
      constructor
      · intro i answer hi
        cases i with
        | zero =>
            cases hi
            exact hfirst.symm
        | succ i =>
            rw [reply_succ]
            exact hreplies i answer hi
      · rw [List.length_cons, after_succ]
        exact hafter

end

/-- Behind `count` replies of the kind `Waits` comes one that is not of this kind, or the last of
`limit` replies. -/
structure Settles (transport : Transport σ) (command : Command) (m : σ) (Waits : Answer → Prop)
    (limit count : Nat) : Prop where
  lt : count < limit
  waits : ∀ i < count, Waits (transport.reply command m i)
  ends : count + 1 = limit ∨ ¬ Waits (transport.reply command m count)

namespace Settles

variable {transport : Transport σ} {command : Command} {m : σ} {Waits : Answer → Prop}
  {limit count count' : Nat}

theorem not_lt (h : transport.Settles command m Waits limit count)
    (h' : transport.Settles command m Waits limit count') :
  ¬ count < count'
  := by
  intro hlt
  rcases h.ends with hlast | hends
  · have := h'.lt
    omega
  · exact hends (h'.waits count hlt)

/-- A command settles at one reply alone. -/
theorem unique (h : transport.Settles command m Waits limit count)
    (h' : transport.Settles command m Waits limit count') :
  count = count'
  := by
  have hle := h'.not_lt h
  have hge := h.not_lt h'
  omega

/-- The first reply that is not of the kind, if it is within the budget. -/
theorem of_first (hlt : count < limit) (hwaits : ∀ i < count, Waits (transport.reply command m i))
    (hends : ¬ Waits (transport.reply command m count)) :
  transport.Settles command m Waits limit count
  := ⟨hlt, hwaits, .inr hends⟩

/-- The last reply of the budget, if all of them are of the kind. -/
theorem of_all (hwaits : ∀ i < count + 1, Waits (transport.reply command m i)) :
  transport.Settles command m Waits (count + 1) count
  := ⟨Nat.lt_succ_self count, fun i hi => hwaits i (Nat.lt_succ_of_lt hi), .inl rfl⟩

end Settles

end Transport

/-- A script replies with its answers in order, and then with the answer that it falls back on,
whatever the command. -/
theorem Script.reply_eq (name : String) (command : Command) (script : Script) (i : Nat) :
  (Script.transport name).reply command script i
    = .ok (script.answers[i]?.getD script.fallback)
  := by
  have hafter : (Script.transport name).after command script i
      = { script with answers := script.answers.drop i } := by
    induction i with
    | zero => rfl
    | succ i ih =>
        rw [Transport.after, ih]
        change (react _).mailbox = _
        rw [← List.drop_drop, react]
        cases script.answers.drop i with
        | nil => rfl
        | cons answer rest => rfl
  rw [Transport.reply, hafter]
  change (react _).answer = _
  rw [react, ← List.head?_drop]
  cases script.answers.drop i with
  | nil => rfl
  | cons answer rest => rfl

/-! ## Loops that send one command -/

namespace Retry

variable {transport : Transport σ} {command : Command} {judge : Option π → Receipt → Attempt α π}
  {attempt : Nat → Option π → Workflow σ (Attempt α π)} {policy : RetryPolicy}
  {Waits Ends : Answer → Prop} {m : σ}

/-- What the attempt behind `i` others is told, where each attempt judges a reply. -/
def view (transport : Transport σ) (command : Command) (judge : Option π → Receipt → Attempt α π)
    (m : σ) : (i : Nat) → Option π
  | 0 => none
  | i + 1 => ((transport.reply command m i).map
      (judge (view transport command judge m i))).toOption.bind Attempt.seen?

/-- Without its log records, each attempt sends the command and judges the reply. -/
def Asks (transport : Transport σ) (command : Command) (judge : Option π → Receipt → Attempt α π)
    (attempt : Nat → Option π → Workflow σ (Attempt α π)) : Prop :=
  ∀ number previous,
    (attempt number previous).quiet = asking transport command judge number previous

namespace Asks

theorem result (h : Asks transport command judge attempt) (number : Nat) (previous : Option π)
    (m : σ) :
  (attempt number previous m).result = (transport.submit command m).answer.map (judge previous)
  := by
  rw [← Workflow.result_quiet, h number previous, asking_apply]

theorem mailbox (h : Asks transport command judge attempt) (number : Nat) (previous : Option π)
    (m : σ) :
  (attempt number previous m).mailbox = (transport.submit command m).mailbox
  := by
  rw [← Workflow.mailbox_quiet, h number previous, asking_apply]

theorem submissions (h : Asks transport command judge attempt) (number : Nat)
    (previous : Option π) (m : σ) :
  (attempt number previous m).submissions = [⟨command, (transport.submit command m).answer⟩]
  := by
  rw [← Workflow.submissions_quiet, h number previous, asking_apply]
  rfl

theorem sleeps (h : Asks transport command judge attempt) (number : Nat) (previous : Option π)
    (m : σ) :
  (attempt number previous m).sleeps = []
  := by
  rw [← Workflow.sleeps_quiet, h number previous, asking_apply]
  rfl

/-- The attempt behind `i` others is made of the mailbox behind `i` commands. -/
theorem trial_eq (h : Asks transport command judge attempt) (m : σ) (i : Nat) :
  trial attempt 1 none m i
    = attempt (i + 1) (view transport command judge m i) (transport.after command m i)
  := by
  induction i with
  | zero => rfl
  | succ i ih =>
      rw [trial_succ, ih]
      simp only [h.result, h.mailbox, Nat.add_comm 1 i]
      rfl

theorem trials_submissions (h : Asks transport command judge attempt) (policy : RetryPolicy)
    (m : σ) (count : Nat) :
  (trials policy attempt 1 none m count).filterMap Event.submission?
    = transport.repeats command m (count + 1)
  := by
  rw [filterMap_trials policy rfl, Transport.repeats, List.map_eq_flatMap]
  congr 1
  funext i
  rw [h.trial_eq]
  exact h.submissions _ _ _

theorem trials_sleeps (h : Asks transport command judge attempt) (policy : RetryPolicy) (m : σ)
    (count : Nat) :
  (trials policy attempt 1 none m count).filterMap Event.delay?
    = List.replicate count policy.delay
  := by
  apply delays_of_trials
  intro i _
  rw [h.trial_eq]
  exact h.sleeps _ _ _

/-- A loop of such attempts ends where its command settles, with the judgement of the last
reply. -/
theorem run_of_timely (h : Asks transport command judge attempt)
    (hjudges : Judges judge Waits Ends) (hpos : 0 < policy.maxAttempts.toNat) {clock : Clock σ}
    (htimely : policy.Timely (clock policy.delay m)) :
  ∃ count gaveUp, transport.Settles command m Waits (policy.reach (clock policy.delay m)) count
    ∧ (policy.InTime (clock policy.delay m) → gaveUp = .exhausted policy.maxAttempts.toNat)
    ∧ run clock policy attempt m
      = ⟨(transport.reply command m count).map
          fun receipt => (judge (view transport command judge m count) receipt).conclude gaveUp,
        transport.after command m (count + 1), trials policy attempt 1 none m count⟩
  := by
  have hresult : ∀ i, (trial attempt 1 none m i).result
      = (transport.reply command m i).map (judge (view transport command judge m i)) := by
    intro i
    rw [h.trial_eq]
    exact h.result _ _ _
  have hgoes : ∀ i, GoesOn (trial attempt 1 none m i).result
      ↔ Waits (transport.reply command m i) := by
    intro i
    rw [hresult]
    exact hjudges.pending_iff _ _
  obtain ⟨count, hlt, hbefore, hlast, gaveUp, hgaveUp, hrun⟩ :=
    Retry.run_of_timely attempt hpos htimely
  refine ⟨count, gaveUp, ?_, hgaveUp, ?_⟩
  · constructor
    · exact hlt
    · intro i hi
      exact (hgoes i).mp (hbefore i hi)
    · exact hlast.imp_right (mt (hgoes count).mpr)
  · rw [hrun, hresult, h.trial_eq, h.mailbox]
    cases transport.reply command m count with
    | error fault => rfl
    | ok receipt => rfl

theorem run_of_settles (h : Asks transport command judge attempt)
    (hjudges : Judges judge Waits Ends) (hpos : 0 < policy.maxAttempts.toNat) {clock : Clock σ}
    (htimely : policy.Timely (clock policy.delay m)) {count : Nat}
    (hsettles : transport.Settles command m Waits (policy.reach (clock policy.delay m)) count) :
  ∃ gaveUp, (policy.InTime (clock policy.delay m) →
      gaveUp = .exhausted policy.maxAttempts.toNat)
    ∧ run clock policy attempt m
      = ⟨(transport.reply command m count).map
          fun receipt => (judge (view transport command judge m count) receipt).conclude gaveUp,
        transport.after command m (count + 1), trials policy attempt 1 none m count⟩
  := by
  obtain ⟨count', gaveUp, hsettles', hgaveUp, hrun⟩ := h.run_of_timely hjudges hpos htimely
  obtain rfl := hsettles.unique hsettles'
  exact ⟨gaveUp, hgaveUp, hrun⟩

end Asks

end Retry

end CxlFirmware
