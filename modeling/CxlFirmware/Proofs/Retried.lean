import Mathlib.Data.List.Basic
import CxlFirmware.Proofs.Replies

/-!
# Commands under a retry budget

What a submission under a retry budget comes to, by the replies of the mailbox: it is sent again
while the replies put it off, and its result is that of the first other reply, or the exhaustion
of the budget.  The `notices` of a run are its log records apart from those that trace single
commands: one for each reply that puts the command off, and one where it is given up.
-/

namespace CxlFirmware

variable {σ α β : Type}

/-! ## Notices -/

/-- The log record of an event, if it is one that weighs more than a trace. -/
def Event.notice? : Event → Option LogRecord
  | logged record => if record.level = .trace then none else some record
  | _ => none

/-- What is not read off log records is not read off a list of them. -/
theorem Event.filterMap_logged {read : Event → Option β}
    (h : ∀ record, read (.logged record) = none) (records : List LogRecord) :
  (records.map .logged).filterMap read = []
  := by
  rw [List.filterMap_map]
  exact List.filterMap_eq_nil_iff.mpr fun record _ => h record

/-- The log records of a run that weigh more than a trace. -/
def Run.notices (run : Run σ α) : List LogRecord :=
  run.events.filterMap Event.notice?

/-- The mailbox itself writes no log records but traces. -/
def Transport.Unobtrusive (transport : Transport σ) : Prop :=
  ∀ command m, ∀ record ∈ (transport.submit command m).records, record.level = .trace

theorem Script.unobtrusive (name : String) :
  (Script.transport name).Unobtrusive
  := by
  intro command script
  rw [records_submit]
  nofun

theorem Workflow.notices_bind_of_ok {x : Workflow σ α} {m : σ} {a : α} (h : (x m).result = .ok a)
    (f : α → Workflow σ β) :
  ((x >>= f) m).notices = (x m).notices ++ (f a (x m).mailbox).notices
  := by
  rw [bind_of_ok h]
  apply List.filterMap_append

theorem Workflow.notices_trace_bind (origin message : String) (f : Unit → Workflow σ β) (m : σ) :
  ((log .trace origin message >>= f) m).notices = (f () m).notices
  := rfl

/-- A single command is traced and no more. -/
theorem Mailbox.notices_submit {transport : Transport σ} (hquiet : transport.Unobtrusive)
    (opcode : Opcode) (payload : Bytes) (m : σ) :
  (submit transport opcode payload m).notices = []
  := by
  have htraced : (Workflow.exchange transport ⟨opcode.code, payload⟩ m).notices = [] := by
    change (List.map Event.logged _).filterMap Event.notice? = []
    rw [List.filterMap_map]
    apply List.filterMap_eq_nil_iff.mpr
    intro record hrecord
    exact if_pos (hquiet _ _ record hrecord)
  rw [submit, Workflow.notices_trace_bind]
  cases hanswer : (Workflow.exchange transport ⟨opcode.code, payload⟩ m).result with
  | error fault =>
      rw [Workflow.bind_of_fault hanswer]
      exact htraced
  | ok receipt =>
      rw [Workflow.notices_bind_of_ok hanswer, htraced]
      cases receipt with
      | error source => rfl
      | ok response => rfl

namespace Retry

variable {policy : RetryPolicy} {operation : Workflow σ (Except Error α)} {m m' : σ}

/-- The record of an attempt that is put off. -/
def note (policy : RetryPolicy) (opcode : Opcode) (status : Status) (number : Nat) : LogRecord :=
  ⟨.debug, origin, opcode.text ++ ": " ++ status.text ++ " (attempt " ++ Nat.repr number ++ "/"
    ++ Nat.repr policy.maxAttempts.toNat ++ "), retrying in " ++ policy.delay.text⟩

/-- The record of a command that is given up. -/
def surrender (opcode : Opcode) (attempts : Nat) (last : Status) : LogRecord :=
  ⟨.warn, origin, opcode.text ++ ": giving up after " ++ Nat.repr attempts
    ++ " attempts, device still reports " ++ last.text⟩

/-- The records that an attempt writes about its outcome. -/
def asides (policy : RetryPolicy) (number : Nat) :
    Except Fault (Attempt α (Opcode × Status)) → List LogRecord
  | .ok (.pending (opcode, status)) => [note policy opcode status number]
  | .ok (.done _) | .ok (.failed _) | .error _ => []

/-- The records that a loop of attempts is followed by. -/
def closing : Except Fault (Except (GaveUp (Opcode × Status)) α) → List LogRecord
  | .ok (.error (.exhausted attempts (opcode, last))) => [surrender opcode attempts last]
  | .ok (.ok _) | .ok (.error (.deadline ..)) | .ok (.error (.failed _)) | .error _ => []

theorem notices_asides (policy : RetryPolicy) (number : Nat)
    (outcome : Except Fault (Attempt α (Opcode × Status))) :
  ((asides policy number outcome).map .logged).filterMap Event.notice?
    = asides policy number outcome
  := by
  rcases outcome with fault | value | seen | error
  · rfl
  · rfl
  · rfl
  · rfl

theorem notices_closing (outcome : Except Fault (Except (GaveUp (Opcode × Status)) α)) :
  ((closing outcome).map .logged).filterMap Event.notice? = closing outcome
  := by
  rcases outcome with fault | reason | value
  · rfl
  · cases reason with
    | exhausted attempts last => rfl
    | deadline attempts last => rfl
    | failed error => rfl
  · rfl

/-- There is nothing to say of an attempt that does not go on. -/
theorem asides_of_not_goesOn {outcome : Except Fault (Attempt α (Opcode × Status))}
    (h : ¬ GoesOn outcome) (policy : RetryPolicy) (number : Nat) :
  asides policy number outcome = []
  := by
  rcases outcome with fault | value | seen | error
  · rfl
  · rfl
  · exact absurd ⟨seen, rfl⟩ h
  · rfl

theorem closing_of_not_goesOn {outcome : Except Fault (Attempt α (Opcode × Status))}
    (h : ¬ GoesOn outcome) (gaveUp : Opcode × Status → GaveUp (Opcode × Status)) :
  closing (outcome.map (·.conclude gaveUp)) = []
  := by
  rcases outcome with fault | value | seen | error
  · rfl
  · rfl
  · exact absurd ⟨seen, rfl⟩ h
  · rfl

theorem attemptOnce_apply (policy : RetryPolicy) (operation : Workflow σ (Except Error α))
    (number : Nat) (m : σ) :
  attemptOnce policy operation number m
    = let outcome := (operation m).result.map judge
      ⟨outcome, (operation m).mailbox,
        (operation m).events ++ (asides policy number outcome).map .logged⟩
  := by
  rw [attemptOnce]
  cases h : (operation m).result with
  | error fault =>
      rw [Workflow.bind_of_fault h]
      simp [Except.map, asides]
  | ok result =>
      rw [Workflow.bind_of_ok h]
      rcases result with error | value
      · cases error with
        | device opcode status =>
            cases hretry : status.isRetryable with
            | true =>
                simp only [Except.map, judge, hretry, if_true]
                rfl
            | false =>
                simp only [Except.map, judge, hretry]
                rfl
        | _ => rfl
      · rfl

theorem withRetry_of_run {clock : Clock σ}
    {outcome : Except Fault (Except (GaveUp (Opcode × Status)) α)} {events : List Event}
    (h : run clock policy (fun number _ => attemptOnce policy operation number) m
      = ⟨outcome, m', events⟩) :
  withRetry clock policy operation m
    = ⟨outcome.map (·.mapError (failure policy)), m',
      events ++ (closing outcome).map .logged⟩
  := by
  rw [withRetry]
  rcases outcome with fault | reason | value
  · rw [Workflow.bind_of_fault (congrArg Run.result h), h]
    simp [Except.map, closing]
  · rw [Workflow.bind_of_ok (congrArg Run.result h), h]
    cases reason with
    | exhausted attempts last => rfl
    | deadline attempts last => rfl
    | failed error => rfl
  · rw [Workflow.bind_of_ok (congrArg Run.result h), h]
    rfl

end Retry

/-! ## Submissions -/

namespace Mailbox

variable {policy : RetryPolicy} {transport : Transport σ} {opcode : Opcode} {payload : Bytes}
  {m : σ} {answer : Answer}

/-- What an attempt to submit a command comes to, by the answer. -/
def judged (opcode : Opcode) (answer : Answer) : Except Fault (Attempt Bytes (Opcode × Status)) :=
  answer.map fun receipt => Retry.judge (verdict opcode receipt)

theorem judged_of_putsOff {code : UInt16} (hcoded : answer.HasCode code)
    (hcode : code = 6 ∨ code = 1) (opcode : Opcode) :
  judged opcode answer = .ok (.pending (opcode, .ofCode code))
  := by
  obtain ⟨payload, rfl⟩ := hcoded
  rcases hcode with rfl | rfl
  · rfl
  · rfl

theorem judged_of_refused {code : UInt16} (hcoded : answer.HasCode code) (hzero : code ≠ 0)
    (hother : ¬ answer.PutsOff) (opcode : Opcode) :
  judged opcode answer = .ok (.failed (.device opcode (.ofCode code)))
  := by
  obtain ⟨payload, rfl⟩ := hcoded
  have hcoded : Answer.HasCode (.ok (.ok ⟨code, payload⟩)) code := ⟨payload, rfl⟩
  simp [judged, Except.map, verdict_of_hasCode hcoded hzero, Retry.judge,
    Answer.not_isRetryable hcoded hother]

theorem result_submit (transport : Transport σ) (opcode : Opcode) (payload : Bytes) (m : σ) :
  (submit transport opcode payload m).result
    = (transport.submit ⟨opcode.code, payload⟩ m).answer.map (verdict opcode)
  := by
  rw [← Workflow.result_quiet, quiet_submit]
  cases h : (transport.submit ⟨opcode.code, payload⟩ m).answer with
  | error fault =>
      rw [Workflow.bind_of_fault (x := Workflow.ask transport _) h]
      rfl
  | ok receipt =>
      rw [Workflow.bind_of_ok (x := Workflow.ask transport _) h]
      rfl

/-- Each attempt to submit a command sends it and judges the reply. -/
theorem asks_submit (policy : RetryPolicy) (transport : Transport σ) (opcode : Opcode)
    (payload : Bytes) :
  Retry.Asks transport ⟨opcode.code, payload⟩
    (fun _ receipt => Retry.judge (verdict opcode receipt))
    (fun number _ => Retry.attemptOnce policy (submit transport opcode payload) number)
  := by
  intro number previous
  rw [Retry.quiet_attemptOnce, quiet_submit]
  simp only [bind_assoc, pure_bind]
  rfl

/-- An attempt to submit a command writes what there is to say of the reply. -/
theorem notices_attempt (hquiet : transport.Unobtrusive) (number : Nat) :
  (Retry.attemptOnce policy (submit transport opcode payload) number m).notices
    = Retry.asides policy number
      (judged opcode (transport.submit ⟨opcode.code, payload⟩ m).answer)
  := by
  have htraced : (submit transport opcode payload m).events.filterMap Event.notice? = [] :=
    notices_submit hquiet opcode payload m
  have hjudged : (submit transport opcode payload m).result.map Retry.judge
      = judged opcode (transport.submit ⟨opcode.code, payload⟩ m).answer := by
    rw [result_submit]
    cases (transport.submit ⟨opcode.code, payload⟩ m).answer with
    | error fault => rfl
    | ok receipt => rfl
  rw [Retry.attemptOnce_apply, Run.notices, hjudged, List.filterMap_append, htraced,
    Retry.notices_asides, List.nil_append]

/-- The attempts to submit a command write one record for each reply that puts it off. -/
theorem notices_trials (hquiet : transport.Unobtrusive) (policy : RetryPolicy) (opcode : Opcode)
    (payload : Bytes) (m : σ) (count : Nat) :
  (Retry.trials policy (fun number _ => Retry.attemptOnce policy (submit transport opcode payload)
      number) 1 none m count).filterMap Event.notice?
    = (List.range (count + 1)).flatMap fun i => Retry.asides policy (i + 1)
      (judged opcode (transport.reply ⟨opcode.code, payload⟩ m i))
  := by
  rw [Retry.filterMap_trials policy rfl]
  congr 1
  funext i
  rw [(asks_submit policy transport opcode payload).trial_eq]
  exact notices_attempt hquiet (i + 1)

/-- Submissions wait for an answer that does not put them off, and end with success. -/
theorem judges_putsOff (opcode : Opcode) :
  Retry.Judges (fun _ receipt => Retry.judge (verdict opcode receipt)) Answer.PutsOff
    Answer.IsSuccess
  := by
  obtain ⟨hpending, hdone⟩ := judges opcode
  constructor
  · intro previous answer
    exact (hpending previous answer).trans Answer.isRetryable_iff
  · exact hdone

/-- A submission under a retry budget ends where its command settles, with what is made of the
last reply. -/
theorem submit_of_settles (hvalid : policy.validate = .ok ())
    (htimely : policy.Timely (transport.clock policy.delay m)) {count : Nat}
    (hsettles : transport.Settles ⟨opcode.code, payload⟩ m Answer.PutsOff
      (policy.reach (transport.clock policy.delay m)) count) :
  let run := Retry.withRetry transport.clock policy (submit transport opcode payload) m
  ∃ gaveUp, (policy.InTime (transport.clock policy.delay m) →
      gaveUp = .exhausted policy.maxAttempts.toNat)
    ∧ let last := (judged opcode (transport.reply ⟨opcode.code, payload⟩ m count)).map
        (·.conclude gaveUp)
      run.result = last.map (·.mapError (Retry.failure policy))
      ∧ run.mailbox = transport.after ⟨opcode.code, payload⟩ m (count + 1)
      ∧ run.submissions = transport.repeats ⟨opcode.code, payload⟩ m (count + 1)
      ∧ run.sleeps = List.replicate count policy.delay
      ∧ (transport.Unobtrusive → run.notices = ((List.range (count + 1)).flatMap fun i =>
          Retry.asides policy (i + 1)
            (judged opcode (transport.reply ⟨opcode.code, payload⟩ m i)))
        ++ Retry.closing last)
  := by
  intro run
  have hasks := asks_submit policy transport opcode payload
  obtain ⟨gaveUp, hgaveUp, hloop⟩ := hasks.run_of_settles (judges_putsOff opcode)
    (Retry.maxAttempts_pos hvalid) htimely hsettles
  have hlast : (transport.reply ⟨opcode.code, payload⟩ m count).map
        (fun receipt => (Retry.judge (verdict opcode receipt)).conclude gaveUp)
      = (judged opcode (transport.reply ⟨opcode.code, payload⟩ m count)).map
        (·.conclude gaveUp) := by
    cases transport.reply ⟨opcode.code, payload⟩ m count with
    | error fault => rfl
    | ok receipt => rfl
  rw [hlast] at hloop
  have hrun : run = _ := Retry.withRetry_of_run hloop
  rw [hrun]
  refine ⟨gaveUp, hgaveUp, rfl, rfl, ?_, ?_, fun hquiet => ?_⟩
  · rw [Run.submissions, List.filterMap_append, hasks.trials_submissions,
      Event.filterMap_logged (fun _ => rfl), List.append_nil]
  · rw [Run.sleeps, List.filterMap_append, hasks.trials_sleeps,
      Event.filterMap_logged (fun _ => rfl), List.append_nil]
  · rw [Run.notices, List.filterMap_append, notices_trials hquiet, Retry.notices_closing]

/-- A command that is put off for a while and then refused ends with the refusal. -/
theorem submit_of_refused {m' : σ} {waited : List Answer} {last : Answer} {code : UInt16}
    (hvalid : policy.validate = .ok ()) (hroom : policy.InTime (transport.clock policy.delay m))
    (hpath : transport.Yields m ((waited ++ [last]).map (.mk ⟨opcode.code, payload⟩)) m')
    (hwaits : ∀ answer ∈ waited, answer.PutsOff) (hcoded : last.HasCode code) (hzero : code ≠ 0)
    (hother : ¬ last.PutsOff) (hlength : waited.length < policy.maxAttempts.toNat) :
  (Retry.withRetry transport.clock policy (submit transport opcode payload)).Gives m
    (.ok (.error (.device opcode (.ofCode code))))
    (transport.repeats ⟨opcode.code, payload⟩ m (waited.length + 1))
    (List.replicate waited.length policy.delay) m'
  := by
  obtain ⟨hreplies, hafter⟩ := hpath.replies
  have hlast : transport.reply ⟨opcode.code, payload⟩ m waited.length = last := by
    apply hreplies
    rw [List.getElem?_append_right (Nat.le_refl _), Nat.sub_self]
    rfl
  have hsettles : transport.Settles ⟨opcode.code, payload⟩ m Answer.PutsOff
      (policy.reach (transport.clock policy.delay m)) waited.length := by
    rw [RetryPolicy.reach_of_inTime (Retry.maxAttempts_pos hvalid) hroom]
    apply Transport.Settles.of_first hlength
    · intro i hi
      rw [hreplies i waited[i]]
      · exact hwaits _ (List.getElem_mem hi)
      · rw [List.getElem?_append_left hi, List.getElem?_eq_getElem hi]
    · rwa [hlast]
  obtain ⟨gaveUp, -, hresult, hmailbox, hsubmissions, hsleeps, -⟩ :=
    submit_of_settles hvalid hroom.timely hsettles
  rw [hlast, judged_of_refused hcoded hzero hother] at hresult
  rw [List.length_append, List.length_singleton] at hafter
  exact ⟨hresult, hsubmissions, hsleeps, hmailbox.trans hafter⟩

/-- There is one record for each of the replies that put a command off. -/
theorem asides_of_putsOff (policy : RetryPolicy) (opcode : Opcode) {reply : Nat → Answer}
    {codes : Nat → UInt16} {count : Nat}
    (h : ∀ i < count, (reply i).HasCode (codes i) ∧ (codes i = 6 ∨ codes i = 1)) :
  ((List.range count).flatMap fun i => Retry.asides policy (i + 1) (judged opcode (reply i)))
    = (List.range count).map fun i => Retry.note policy opcode (.ofCode (codes i)) (i + 1)
  := by
  rw [List.map_eq_flatMap]
  apply List.flatMap_congr
  intro i hi
  obtain ⟨hcoded, hcode⟩ := h i (List.mem_range.mp hi)
  rw [judged_of_putsOff hcoded hcode]
  rfl

/-- There is none for the reply behind them, unless it puts the command off, too. -/
theorem asides_of_first (policy : RetryPolicy) (opcode : Opcode) {reply : Nat → Answer}
    {codes : Nat → UInt16} {count : Nat}
    (h : ∀ i < count, (reply i).HasCode (codes i) ∧ (codes i = 6 ∨ codes i = 1))
    (hlast : ¬ Retry.GoesOn (judged opcode (reply count))) :
  ((List.range (count + 1)).flatMap fun i => Retry.asides policy (i + 1) (judged opcode (reply i)))
    = (List.range count).map fun i => Retry.note policy opcode (.ofCode (codes i)) (i + 1)
  := by
  rw [List.range_succ, List.flatMap_append, asides_of_putsOff policy opcode h,
    List.flatMap_singleton, Retry.asides_of_not_goesOn hlast, List.append_nil]

/-- A command under a valid budget, with time for its delays, is sent again while the return codes
are those of a busy device and of a started background command, and no longer.  Its result is that
of the first other reply: the payload of a success, the refusal with any other code, the failure
of the exchange, or the end of the program.  If there is none within the budget, the result tells
of the last code.  There is one delay between two submissions, one record for each reply that puts
the command off, and one warning if it is given up. -/
theorem submit_resent_while_put_off (opcode : Opcode) (payload : Bytes)
    (hvalid : policy.validate = .ok ()) (transport : Transport σ) (m : σ)
    (hroom : policy.InTime (transport.clock policy.delay m)) (codes : Nat → UInt16) :
  let command : Command := ⟨opcode.code, payload⟩
  let reply := transport.reply command m
  let budget := policy.maxAttempts.toNat
  let notes := fun count => (List.range count).map fun i =>
    Retry.note policy opcode (.ofCode (codes i)) (i + 1)
  let run := Retry.withRetry transport.clock policy (submit transport opcode payload) m
  (∀ count < budget, (∀ i < count, (reply i).HasCode (codes i) ∧ (codes i = 6 ∨ codes i = 1)) →
      ¬ (reply count).HasCode 6 → ¬ (reply count).HasCode 1 →
    run.submissions = transport.repeats command m (count + 1)
      ∧ run.sleeps = List.replicate count policy.delay
      ∧ (∀ result, reply count = .ok (.ok ⟨0, result⟩) → run.result = .ok (.ok result))
      ∧ (∀ code, (reply count).HasCode code → code ≠ 0 →
        run.result = .ok (.error (.device opcode (.ofCode code))))
      ∧ (∀ source, reply count = .ok (.error source) →
        run.result = .ok (.error (.transport opcode source)))
      ∧ (∀ fault, reply count = .error fault → run.result = .error fault)
      ∧ (transport.Unobtrusive → run.notices = notes count))
    ∧ ((∀ i < budget, (reply i).HasCode (codes i) ∧ (codes i = 6 ∨ codes i = 1)) →
      run.submissions = transport.repeats command m budget
      ∧ run.sleeps = List.replicate (budget - 1) policy.delay
      ∧ run.result
        = .ok (.error (.retriesExhausted opcode budget (.ofCode (codes (budget - 1)))))
      ∧ (transport.Unobtrusive → run.notices
        = notes budget ++ [Retry.surrender opcode budget (.ofCode (codes (budget - 1)))]))
  := by
  intro command reply budget notes run
  have hreach := RetryPolicy.reach_of_inTime (Retry.maxAttempts_pos hvalid) hroom
  have hputsOff : ∀ i, (reply i).HasCode (codes i) ∧ (codes i = 6 ∨ codes i = 1) →
      (reply i).PutsOff := by
    rintro i ⟨hcoded, hcode | hcode⟩
    · exact .inl (hcode ▸ hcoded)
    · exact .inr (hcode ▸ hcoded)
  constructor
  · intro count hlt hwaits hbusy hstarted
    have hother : ¬ (reply count).PutsOff := not_or.mpr ⟨hbusy, hstarted⟩
    have hfinal : ¬ Retry.GoesOn (judged opcode (reply count)) :=
      mt ((judges_putsOff opcode).pending_iff none _).mp hother
    have hsettles : transport.Settles command m Answer.PutsOff
        (policy.reach (transport.clock policy.delay m)) count := by
      rw [hreach]
      exact .of_first hlt (fun i hi => hputsOff i (hwaits i hi)) hother
    obtain ⟨gaveUp, -, hresult, -, hsubmissions, hsleeps, hnotices⟩ :=
      submit_of_settles hvalid hroom.timely hsettles
    change run.result = ((judged opcode (reply count)).map _).map _ at hresult
    refine ⟨hsubmissions, hsleeps, ?_, ?_, ?_, ?_, fun hquiet => ?_⟩
    · intro result hreply
      rw [hresult, hreply]
      rfl
    · intro code hcoded hzero
      rw [hresult, judged_of_refused hcoded hzero hother]
      rfl
    · intro source hreply
      rw [hresult, hreply]
      rfl
    · intro fault hreply
      rw [hresult, hreply]
      rfl
    · refine (hnotices hquiet).trans ?_
      rw [asides_of_first policy opcode hwaits hfinal, Retry.closing_of_not_goesOn hfinal,
        List.append_nil]
  · intro hwaits
    obtain ⟨left, hleft⟩ := Nat.exists_eq_add_one.mpr (Retry.maxAttempts_pos hvalid)
    have hbudget : budget = left + 1 := hleft
    have hlast := hwaits left (hbudget ▸ Nat.lt_succ_self left)
    have hsettles : transport.Settles command m Answer.PutsOff
        (policy.reach (transport.clock policy.delay m)) left := by
      rw [hbudget] at hwaits
      rw [hreach, hleft]
      exact .of_all fun i hi => hputsOff i (hwaits i hi)
    have hpending : judged opcode (reply left) = .ok (.pending (opcode, .ofCode (codes left))) :=
      judged_of_putsOff hlast.1 hlast.2 opcode
    obtain ⟨gaveUp, hgaveUp, hresult, -, hsubmissions, hsleeps, hnotices⟩ :=
      submit_of_settles hvalid hroom.timely hsettles
    obtain rfl := hgaveUp hroom
    change run.result = ((judged opcode (reply left)).map _).map _ at hresult
    rw [hpending] at hresult
    have hcloses : Retry.closing ((judged opcode (reply left)).map
        (·.conclude (.exhausted budget)))
          = [Retry.surrender opcode budget (.ofCode (codes left))] := by
      rw [hpending]
      rfl
    rw [show budget - 1 = left by omega]
    refine ⟨?_, hsleeps, hresult, fun hquiet => ?_⟩
    · rw [hbudget]
      exact hsubmissions
    · refine (hnotices hquiet).trans (congrArg₂ _ ?_ hcloses)
      rw [← hleft]
      exact asides_of_putsOff policy opcode hwaits

/-- The answers of a device that puts a command off twice, once for each reason, and then refuses
it with the code that asks for a retry. -/
def wavering : Script where
  answers := [.ok ⟨6, []⟩, .ok ⟨1, []⟩]
  fallback := .ok ⟨5, []⟩

theorem submit_resent_while_put_off_wavering :
  let policy : RetryPolicy := ⟨4, .ofMillis 10, some (.ofSeconds 1)⟩
  let run := Retry.withRetry .still policy (submit (Script.transport "mem0") .activateFw [0, 2])
    wavering
  run.result = .ok (.error (.device .activateFw .retryRequired)) ∧ run.submissions.length = 3
    ∧ run.sleeps = [.ofMillis 10, .ofMillis 10]
    ∧ run.notices = [Retry.note policy .activateFw .busy 1,
      Retry.note policy .activateFw .backgroundCommandStarted 2]
  := by
  intro policy run
  have hroom : policy.InTime (Clock.still policy.delay wavering) :=
    RetryPolicy.Roomy.inTime (by decide) wavering
  have hwaits : ∀ i < 2, ((Script.transport "mem0").reply ⟨Opcode.activateFw.code, [0, 2]⟩ wavering
      i).HasCode (if i = 0 then 6 else 1) ∧ ((if i = 0 then (6 : UInt16) else 1) = 6
      ∨ (if i = 0 then (6 : UInt16) else 1) = 1) := by
    intro i hi
    rcases i with _ | _ | i
    · exact ⟨⟨[], rfl⟩, .inl rfl⟩
    · exact ⟨⟨[], rfl⟩, .inr rfl⟩
    · omega
  have hother : ∀ code, ((Script.transport "mem0").reply ⟨Opcode.activateFw.code, [0, 2]⟩ wavering
      2).HasCode code → code = 5 := by
    rintro code ⟨payload, h⟩
    cases h
    rfl
  obtain ⟨hfirst, -⟩ := submit_resent_while_put_off .activateFw [0, 2] rfl
    (Script.transport "mem0") wavering hroom fun i => if i = 0 then 6 else 1
  obtain ⟨hsubmissions, hsleeps, -, hrefused, -, -, hnotices⟩ := hfirst 2 (by decide) hwaits
    (fun h => absurd (hother 6 h) (by decide)) (fun h => absurd (hother 1 h) (by decide))
  refine ⟨hrefused 5 ⟨[], rfl⟩ (by decide), ?_, hsleeps, hnotices (Script.unobtrusive "mem0")⟩
  exact congrArg List.length hsubmissions

end Mailbox

end CxlFirmware
