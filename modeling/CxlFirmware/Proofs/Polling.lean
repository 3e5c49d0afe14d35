import CxlFirmware.Proofs.Replies

/-!
# Polls of a background operation

What polling comes to, by the replies of the mailbox.  A reply `Defers` the verdict while it puts
the query off or reports that the operation runs; the first other reply is the verdict.  Where
there is none within the budget, the error tells of the latest report of the running operation,
also behind replies that only put the query off.
-/

namespace CxlFirmware

variable {σ : Type}

namespace StatusQuery

variable {query : StatusQuery} {answer : Answer} {report : BackgroundStatus}

/-- The reply puts the query off, or reports that the operation runs. -/
def Defers (query : StatusQuery) (answer : Answer) : Prop :=
  answer.PutsOff ∨ ∃ report, query.Reports answer report ∧ report.inProgress = true

theorem isPending_iff :
  query.IsPending answer ↔ query.Defers answer
  := or_congr_left Answer.isRetryable_iff

theorem reports_ok {payload : Bytes} :
  query.Reports (.ok (.ok ⟨0, payload⟩)) report ↔ query.decode payload = .ok report
  := by
  constructor
  · rintro ⟨response, hresponse, -, hdecode⟩
    cases hresponse
    exact hdecode
  · intro hdecode
    exact ⟨_, rfl, rfl, hdecode⟩

/-- A payload holds a report exactly when it is long enough. -/
theorem decode_of_length (query : StatusQuery) {payload : Bytes} (h : 8 ≤ payload.length) :
  ∃ report, query.decode payload = .ok report
  := by
  cases query with
  | spec =>
      match payload, h with
      | b0 :: b1 :: b2 :: b3 :: b4 :: b5 :: b6 :: b7 :: rest, _ => exact ⟨_, rfl⟩
  | hbo =>
      have hlong : ¬ payload.length < BackgroundStatus.length := Nat.not_lt.mpr h
      rw [decode, BackgroundStatus.decodeHbo, if_neg hlong]
      exact ⟨_, rfl⟩

theorem decode_of_short (query : StatusQuery) {payload : Bytes} (h : payload.length < 8) :
  ∃ text, query.decode payload = .error (.protocol text)
  := by
  cases query with
  | spec =>
      rw [decode, BackgroundStatus.decodeSpec.eq_def]
      split
      · simp at h
        omega
      · exact ⟨_, rfl⟩
  | hbo =>
      have hshort : payload.length < BackgroundStatus.length := h
      rw [decode, BackgroundStatus.decodeHbo, if_pos hshort]
      exact ⟨_, rfl⟩

end StatusQuery

namespace Poll

variable {policy : RetryPolicy} {transport : Transport σ} {query : StatusQuery} {m : σ}
  {previous : Option (Option Sighting)} {answer : Answer} {report : BackgroundStatus}

/-! ## Single polls -/

/-- What a poll makes of what comes back. -/
def ruling (query : StatusQuery) (previous : Option (Option Sighting)) (receipt : Receipt) :
    Attempt BackgroundStatus (Option Sighting) :=
  judge previous (query.verdict receipt)

/-- What a poll comes to, by the answer. -/
def ruled (query : StatusQuery) (previous : Option (Option Sighting)) (answer : Answer) :
    Except Fault (Attempt BackgroundStatus (Option Sighting)) :=
  answer.map (ruling query previous)

theorem judges_defers (query : StatusQuery) :
  Retry.Judges (ruling query) query.Defers query.IsConfirmed
  := by
  obtain ⟨hpending, hdone⟩ := judges query
  constructor
  · intro previous answer
    exact (hpending previous answer).trans StatusQuery.isPending_iff
  · exact hdone

theorem ruled_of_putsOff (h : answer.PutsOff) :
  ruled query previous answer = .ok (.pending previous.join)
  := by
  rcases h with ⟨payload, rfl⟩ | ⟨payload, rfl⟩
  · rfl
  · rfl

theorem ruled_of_reports (h : query.Reports answer report) :
  ruled query previous answer = .ok (judge previous (.ok report))
  := by
  obtain ⟨response, rfl, hsuccess, hdecode⟩ := h
  have hverdict : query.verdict (.ok response) = .ok report :=
    StatusQuery.verdict_eq_ok.mpr ⟨response, rfl, hsuccess, hdecode⟩
  exact congrArg (fun result => Except.ok (judge previous result)) hverdict

theorem ruled_of_running (h : query.Reports answer report) (hrunning : report.inProgress = true) :
  ruled query previous answer = .ok (.pending (some ⟨report.opcode, report.percent⟩))
  := by
  rw [ruled_of_reports h, judge, if_pos hrunning]

theorem ruled_of_success (h : query.Reports answer report) (hended : report.inProgress = false)
    (hcode : report.returnCode = 0) :
  ruled query previous answer = .ok (.done report)
  := by
  rw [ruled_of_reports h]
  have hsuccess := Status.ofCode_eq_success.mpr hcode
  simp [judge, hended, BackgroundStatus.status, Status.isSuccess, hsuccess]

/-- A poll is done with the report of an operation that ended with the code of success. -/
theorem ruled_eq_done :
  ruled query previous answer = .ok (.done report)
    ↔ query.Reports answer report ∧ report.inProgress = false ∧ report.returnCode = 0
  := by
  constructor
  · intro hdone
    obtain ⟨report', hreports, hended, hstatus⟩ :=
      ((judges_defers query).done_iff previous answer).mp ⟨report, hdone⟩
    have hcode : report'.returnCode = 0 := Status.ofCode_eq_success.mp hstatus
    rw [ruled_of_success hreports hended hcode] at hdone
    cases hdone
    exact ⟨hreports, hended, hcode⟩
  · rintro ⟨hreports, hended, hcode⟩
    exact ruled_of_success hreports hended hcode

theorem ruled_of_failure (h : query.Reports answer report) (hended : report.inProgress = false)
    (hcode : report.returnCode ≠ 0) :
  ruled query previous answer = .ok (.failed (.backgroundFailed report.opcode report.status))
  := by
  have hstatus : report.status ≠ .success := mt Status.ofCode_eq_success.mp hcode
  rw [ruled_of_reports h]
  simp [judge, hended, Status.isSuccess, hstatus]

theorem ruled_of_short (query : StatusQuery) {payload : Bytes} (h : payload.length < 8) :
  ∃ text, ruled query previous (.ok (.ok ⟨0, payload⟩)) = .ok (.failed (.protocol text))
  := by
  obtain ⟨text, hdecode⟩ := StatusQuery.decode_of_short query h
  have hverdict : query.verdict (.ok ⟨0, payload⟩) = .error (.protocol text) := hdecode
  exact ⟨text, congrArg (fun result => Except.ok (judge previous result)) hverdict⟩

theorem ruled_of_refused {code : UInt16} (hcoded : answer.HasCode code) (hzero : code ≠ 0)
    (hother : ¬ answer.PutsOff) :
  ruled query previous answer = .ok (.failed (.device query.opcode (.ofCode code)))
  := by
  obtain ⟨payload, rfl⟩ := hcoded
  have hcoded : Answer.HasCode (.ok (.ok ⟨code, payload⟩)) code := ⟨payload, rfl⟩
  have hverdict : query.verdict (.ok ⟨code, payload⟩)
      = .error (.device query.opcode (.ofCode code)) := by
    rw [StatusQuery.verdict, Mailbox.verdict_of_hasCode hcoded hzero]
    rfl
  simp [ruled, ruling, Except.map, hverdict, judge, Error.isRetryable,
    Answer.not_isRetryable hcoded hother]

/-! ## The latest report -/

/-- What a poll saw is what later polls tell of that only put the query off. -/
theorem ruled_of_later {seen : Option Sighting} {i n : Nat}
    (hseen : ruled query (Retry.view transport ⟨query.opcode.code, []⟩ (ruling query) m i)
      (transport.reply ⟨query.opcode.code, []⟩ m i) = .ok (.pending seen)) (hle : i ≤ n)
    (hlater : ∀ j, i < j → j ≤ n → (transport.reply ⟨query.opcode.code, []⟩ m j).PutsOff) :
  ruled query (Retry.view transport ⟨query.opcode.code, []⟩ (ruling query) m n)
    (transport.reply ⟨query.opcode.code, []⟩ m n) = .ok (.pending seen)
  := by
  induction hle with
  | refl => exact hseen
  | @step n hle ih =>
      have hbefore := ih fun j hij hj => hlater j hij (Nat.le_succ_of_le hj)
      have hview : Retry.view transport ⟨query.opcode.code, []⟩ (ruling query) m (n + 1)
          = some seen := by
        rw [Retry.view, ← ruled, hbefore]
        rfl
      rw [ruled_of_putsOff (hlater (n + 1) (Nat.lt_succ_of_le hle) (Nat.le_refl _)), hview]
      rfl

/-! ## Polls until the end -/

/-- Each poll sends the query and rules on the reply. -/
theorem asks_untilDone (transport : Transport σ) (query : StatusQuery) (policy : RetryPolicy) :
  Retry.Asks transport ⟨query.opcode.code, []⟩ (ruling query) (attempt transport query policy)
  := by
  intro number previous
  rw [quiet_attempt]
  rfl

theorem untilDone_of_run
    {outcome : Except Fault (Except (GaveUp (Option Sighting)) BackgroundStatus)}
    {events : List Event} {m' : σ}
    (h : Retry.run transport.clock policy (attempt transport query policy) m
      = ⟨outcome, m', events⟩) :
  untilDone transport query policy m
    = ⟨outcome.map (·.mapError (failure query policy)), m', events⟩
  := by
  rw [untilDone]
  rcases outcome with fault | reason | report
  · rw [Workflow.bind_of_fault (congrArg Run.result h), h]
    rfl
  · rw [Workflow.bind_of_ok (congrArg Run.result h), h]
    simp only [Workflow.pure_apply, List.append_nil]
    rfl
  · rw [Workflow.bind_of_ok (congrArg Run.result h), h]
    simp only [Workflow.pure_apply, List.append_nil]
    rfl

/-- Polling ends where its query settles, with what is made of the last reply. -/
theorem untilDone_of_settles (hvalid : policy.validate = .ok ())
    (htimely : policy.Timely (transport.clock policy.delay m)) {count : Nat}
    (hsettles : transport.Settles ⟨query.opcode.code, []⟩ m query.Defers
      (policy.reach (transport.clock policy.delay m)) count) :
  let run := untilDone transport query policy m
  ∃ gaveUp, (policy.InTime (transport.clock policy.delay m) →
      gaveUp = .exhausted policy.maxAttempts.toNat)
    ∧ let last := ruled query
        (Retry.view transport ⟨query.opcode.code, []⟩ (ruling query) m count)
        (transport.reply ⟨query.opcode.code, []⟩ m count)
      run.result = (last.map (·.conclude gaveUp)).map (·.mapError (failure query policy))
      ∧ run.mailbox = transport.after ⟨query.opcode.code, []⟩ m (count + 1)
      ∧ run.submissions = transport.repeats ⟨query.opcode.code, []⟩ m (count + 1)
      ∧ run.sleeps = List.replicate count policy.delay
  := by
  intro run
  have hasks := asks_untilDone transport query policy
  obtain ⟨gaveUp, hgaveUp, hloop⟩ := hasks.run_of_settles (judges_defers query)
    (Retry.maxAttempts_pos hvalid) htimely hsettles
  have hlast : (transport.reply ⟨query.opcode.code, []⟩ m count).map (fun receipt =>
        (ruling query (Retry.view transport ⟨query.opcode.code, []⟩ (ruling query) m count)
          receipt).conclude gaveUp)
      = (ruled query (Retry.view transport ⟨query.opcode.code, []⟩ (ruling query) m count)
          (transport.reply ⟨query.opcode.code, []⟩ m count)).map (·.conclude gaveUp) := by
    cases transport.reply ⟨query.opcode.code, []⟩ m count with
    | error fault => rfl
    | ok receipt => rfl
  rw [hlast] at hloop
  have hrun : run = _ := untilDone_of_run hloop
  rw [hrun]
  exact ⟨gaveUp, hgaveUp, rfl, rfl, hasks.trials_submissions policy m count,
    hasks.trials_sleeps policy m count⟩

/-- Polling under a valid budget, with time for its delays, sends the query again while the replies
defer the verdict, with one delay between two queries.  The first other reply is the verdict: the
report of an operation that ended with the code of success; its failure with any other code; a
malformed report; the refusal of the query, the failure of the exchange, or the end of the program.
If there is none within the budget, the error has the opcode and the percentage of the latest
report of the running operation, or the opcode of the query and no percentage if there is no
report. -/
theorem untilDone_verdict (query : StatusQuery) (hvalid : policy.validate = .ok ())
    (transport : Transport σ) (m : σ) (hroom : policy.InTime (transport.clock policy.delay m)) :
  let command : Command := ⟨query.opcode.code, []⟩
  let reply := transport.reply command m
  let budget := policy.maxAttempts.toNat
  let run := untilDone transport query policy m
  (∀ count < budget, (∀ i < count, query.Defers (reply i)) → ¬ query.Defers (reply count) →
    run.submissions = transport.repeats command m (count + 1)
      ∧ run.sleeps = List.replicate count policy.delay
      ∧ (∀ payload, reply count = .ok (.ok ⟨0, payload⟩) → 8 ≤ payload.length →
        ∃ report, query.decode payload = .ok report ∧ report.inProgress = false
          ∧ (report.returnCode = 0 → run.result = .ok (.ok report))
          ∧ (report.returnCode ≠ 0 → run.result
            = .ok (.error (.backgroundFailed report.opcode (.ofCode report.returnCode)))))
      ∧ (∀ payload, reply count = .ok (.ok ⟨0, payload⟩) → payload.length < 8 →
        ∃ text, run.result = .ok (.error (.protocol text)))
      ∧ (∀ code, (reply count).HasCode code → code ≠ 0 →
        run.result = .ok (.error (.device query.opcode (.ofCode code))))
      ∧ (∀ source, reply count = .ok (.error source) →
        run.result = .ok (.error (.transport query.opcode source)))
      ∧ (∀ fault, reply count = .error fault → run.result = .error fault))
    ∧ ((∀ i < budget, query.Defers (reply i)) →
      run.submissions = transport.repeats command m budget
      ∧ run.sleeps = List.replicate (budget - 1) policy.delay
      ∧ (∀ i < budget, ∀ report, query.Reports (reply i) report → report.inProgress = true →
        (∀ j < budget, i < j → (reply j).PutsOff) →
        run.result = .ok (.error (.pollExhausted report.opcode budget report.percent)))
      ∧ ((∀ i < budget, (reply i).PutsOff) →
        run.result = .ok (.error (.pollExhausted query.opcode.code budget 0))))
  := by
  intro command reply budget run
  have hreach := RetryPolicy.reach_of_inTime (Retry.maxAttempts_pos hvalid) hroom
  constructor
  · intro count hlt hdefers hother
    have hsettles : transport.Settles command m query.Defers
        (policy.reach (transport.clock policy.delay m)) count := by
      rw [hreach]
      exact .of_first hlt hdefers hother
    obtain ⟨gaveUp, -, hresult, -, hsubmissions, hsleeps⟩ :=
      untilDone_of_settles hvalid hroom.timely hsettles
    change run.result = ((ruled query _ (reply count)).map _).map _ at hresult
    refine ⟨hsubmissions, hsleeps, ?_, ?_, ?_, ?_, ?_⟩
    · intro payload hreply hlength
      obtain ⟨report, hdecode⟩ := StatusQuery.decode_of_length query hlength
      have hreports : query.Reports (reply count) report := by
        rw [hreply]
        exact StatusQuery.reports_ok.mpr hdecode
      have hended : report.inProgress = false := by
        rw [← Bool.not_eq_true]
        exact fun hrunning => hother (.inr ⟨report, hreports, hrunning⟩)
      refine ⟨report, hdecode, hended, fun hcode => ?_, fun hcode => ?_⟩
      · rw [hresult, ruled_of_success hreports hended hcode]
        rfl
      · rw [hresult, ruled_of_failure hreports hended hcode]
        rfl
    · intro payload hreply hlength
      obtain ⟨text, hruled⟩ := ruled_of_short query hlength
      use text
      rw [hresult, hreply, hruled]
      rfl
    · intro code hcoded hzero
      rw [hresult, ruled_of_refused hcoded hzero (fun hputsOff => hother (.inl hputsOff))]
      rfl
    · intro source hreply
      rw [hresult, hreply]
      rfl
    · intro fault hreply
      rw [hresult, hreply]
      rfl
  · intro hdefers
    obtain ⟨left, hleft⟩ := Nat.exists_eq_add_one.mpr (Retry.maxAttempts_pos hvalid)
    have hbudget : budget = left + 1 := hleft
    have hsettles : transport.Settles command m query.Defers
        (policy.reach (transport.clock policy.delay m)) left := by
      rw [hbudget] at hdefers
      rw [hreach, hleft]
      exact .of_all hdefers
    obtain ⟨gaveUp, hgaveUp, hresult, -, hsubmissions, hsleeps⟩ :=
      untilDone_of_settles hvalid hroom.timely hsettles
    obtain rfl := hgaveUp hroom
    refine ⟨?_, ?_, ?_, ?_⟩
    · rw [hbudget]
      exact hsubmissions
    · rw [hbudget]
      exact hsleeps
    · intro i hi report hreports hrunning hlater
      have hlast := ruled_of_later (ruled_of_running hreports hrunning)
        (show i ≤ left by omega) fun j hij hj => hlater j (by omega) hij
      rw [hresult, hlast]
      rfl
    · intro hputsOff
      have hlast := ruled_of_later (ruled_of_putsOff (hputsOff 0 (by omega))) (Nat.zero_le left)
        fun j _ hj => hputsOff j (by omega)
      rw [hresult, hlast]
      rfl

/-- The answers of a device that reports of a transfer once, at forty percent, and is busy then. -/
def distracted : Script where
  answers := [.ok ⟨0, [0x51, 0, 0x01, 0x02, 0, 0, 0, 0]⟩]
  fallback := .ok ⟨6, []⟩

theorem untilDone_verdict_distracted :
  let run := untilDone (Script.transport "mem0") .spec ⟨3, .ofMillis 10, none⟩ distracted
  run.result = .ok (.error (.pollExhausted 0x0201 3 40)) ∧ run.submissions.length = 3
    ∧ run.sleeps = [.ofMillis 10, .ofMillis 10]
  := by
  intro run
  have hreports : StatusQuery.spec.Reports ((Script.transport "mem0").reply
      ⟨StatusQuery.spec.opcode.code, []⟩ distracted 0) ⟨true, 40, 0x0201, 0, 0⟩ :=
    ⟨_, rfl, rfl, rfl⟩
  have hputsOff : ∀ i, 0 < i → ((Script.transport "mem0").reply
      ⟨StatusQuery.spec.opcode.code, []⟩ distracted i).PutsOff := by
    intro i hi
    obtain ⟨i, rfl⟩ := Nat.exists_eq_add_one.mpr hi
    rw [Script.reply_eq]
    exact .inl ⟨[], rfl⟩
  have hdefers : ∀ i < 3, StatusQuery.spec.Defers ((Script.transport "mem0").reply
      ⟨StatusQuery.spec.opcode.code, []⟩ distracted i) := by
    intro i _
    rcases Nat.eq_zero_or_pos i with rfl | hi
    · exact .inr ⟨_, hreports, rfl⟩
    · exact .inl (hputsOff i hi)
  have hroom : RetryPolicy.InTime ⟨3, .ofMillis 10, none⟩ (Clock.still (.ofMillis 10) distracted) :=
    RetryPolicy.inTime_of_none rfl _
  obtain ⟨-, hexhausted⟩ := untilDone_verdict .spec rfl (Script.transport "mem0") distracted hroom
  obtain ⟨hsubmissions, hsleeps, hlatest, -⟩ := hexhausted hdefers
  refine ⟨hlatest 0 (by decide) _ hreports rfl fun j _ hj => hputsOff j hj, ?_, hsleeps⟩
  exact congrArg List.length hsubmissions

end Poll

end CxlFirmware
