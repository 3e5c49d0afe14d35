import CxlFirmware.Proofs.Repetition

/-!
# Judgements

Which answers ask for another attempt and which are successful: for a command that is
submitted, and for a query that is polled.  Both workflows repeat their command while the
answers are of the one kind, and give a value when the last answer is of the other.
-/

namespace CxlFirmware

variable {σ α : Type}

/-! ## Kinds of answers -/

/-- The device asks for the command to be sent again. -/
def Answer.IsRetryable (answer : Answer) : Prop :=
  ∃ response, answer = .ok (.ok response) ∧ (Status.ofCode response.status).isRetryable = true

/-- The device has carried out the command. -/
def Answer.IsSuccess (answer : Answer) : Prop :=
  ∃ response, answer = .ok (.ok response) ∧ Status.ofCode response.status = .success

instance (answer : Answer) : Decidable answer.IsSuccess :=
  match answer with
  | .ok (.ok response) =>
    decidable_of_iff (Status.ofCode response.status = .success)
      ⟨fun h => ⟨response, rfl, h⟩,
        fun ⟨_, h, hsuccess⟩ => Except.ok.inj (Except.ok.inj h) ▸ hsuccess⟩
  | .ok (.error _) => .isFalse fun ⟨_, h, _⟩ => nomatch h
  | .error _ => .isFalse fun ⟨_, h, _⟩ => nomatch h

namespace Status

theorem ofCode_eq_success {code : UInt16} :
  ofCode code = .success ↔ code = 0
  := by
  constructor
  · intro h
    rw [← code_ofCode code, h]
    rfl
  · rintro rfl
    rfl

/-- Of all codes, two ask for the command to be sent again. -/
theorem isRetryable_ofCode {code : UInt16} :
  (ofCode code).isRetryable = true ↔ code = 6 ∨ code = 1
  := by
  constructor
  · intro h
    have hcode := code_ofCode code
    cases hstatus : ofCode code with
    | busy =>
        rw [hstatus] at hcode
        exact .inl hcode.symm
    | backgroundCommandStarted =>
        rw [hstatus] at hcode
        exact .inr hcode.symm
    | _ =>
        rw [hstatus] at h
        cases h
  · rintro (rfl | rfl)
    · rfl
    · rfl

end Status

/-- The device answers with the return code. -/
def Answer.HasCode (answer : Answer) (code : UInt16) : Prop :=
  ∃ payload, answer = .ok (.ok ⟨code, payload⟩)

/-- The return code is one of the two that ask for the command to be sent again. -/
def Answer.PutsOff (answer : Answer) : Prop :=
  answer.HasCode 6 ∨ answer.HasCode 1

theorem Answer.isRetryable_iff {answer : Answer} :
  answer.IsRetryable ↔ answer.PutsOff
  := by
  constructor
  · rintro ⟨⟨code, payload⟩, rfl, hretry⟩
    rcases Status.isRetryable_ofCode.mp hretry with rfl | rfl
    · exact .inl ⟨payload, rfl⟩
    · exact .inr ⟨payload, rfl⟩
  · rintro (⟨payload, rfl⟩ | ⟨payload, rfl⟩)
    · exact ⟨_, rfl, rfl⟩
    · exact ⟨_, rfl, rfl⟩

theorem Answer.isSuccess_iff {answer : Answer} :
  answer.IsSuccess ↔ answer.HasCode 0
  := by
  constructor
  · rintro ⟨⟨code, payload⟩, rfl, hsuccess⟩
    obtain rfl : code = 0 := Status.ofCode_eq_success.mp hsuccess
    exact ⟨payload, rfl⟩
  · rintro ⟨payload, rfl⟩
    exact ⟨_, rfl, rfl⟩

theorem Answer.not_isRetryable {answer : Answer} {code : UInt16} (hcoded : answer.HasCode code)
    (hother : ¬ answer.PutsOff) :
  (Status.ofCode code).isRetryable = false
  := by
  rw [← Bool.not_eq_true, Status.isRetryable_ofCode]
  rintro (rfl | rfl)
  · exact hother (.inl hcoded)
  · exact hother (.inr hcoded)

namespace StatusQuery

/-- The answer to a status query holds a report. -/
def Reports (query : StatusQuery) (answer : Answer) (report : BackgroundStatus) : Prop :=
  ∃ response, answer = .ok (.ok response) ∧ Status.ofCode response.status = .success
    ∧ query.decode response.payload = .ok report

/-- The answer puts the query off, or reports that the operation runs. -/
def IsPending (query : StatusQuery) (answer : Answer) : Prop :=
  Answer.IsRetryable answer ∨ ∃ report, query.Reports answer report ∧ report.inProgress = true

/-- The answer reports that the operation has ended, and with success. -/
def IsConfirmed (query : StatusQuery) (answer : Answer) : Prop :=
  ∃ report, query.Reports answer report ∧ report.inProgress = false ∧ report.status = .success

/-- A fault is neither of the two. -/
theorem not_isPending_fault (query : StatusQuery) (fault : Fault) :
  ¬ query.IsPending (.error fault)
  := by
  rintro (⟨response, hresponse, -⟩ | ⟨report, ⟨response, hresponse, -⟩, -⟩)
  · cases hresponse
  · cases hresponse

theorem not_isConfirmed_fault (query : StatusQuery) (fault : Fault) :
  ¬ query.IsConfirmed (.error fault)
  := by
  rintro ⟨report, ⟨response, hresponse, -⟩, -⟩
  cases hresponse

end StatusQuery

namespace Mailbox

variable {opcode : Opcode} {receipt : Receipt}

theorem verdict_eq_ok {payload : Bytes} :
  verdict opcode receipt = .ok payload ↔ ∃ response, receipt = .ok response
    ∧ Status.ofCode response.status = .success ∧ response.payload = payload
  := by
  cases receipt with
  | error source => simp [verdict]
  | ok response =>
      by_cases h : Status.ofCode response.status = .success
      · simp [verdict, Status.isSuccess, h]
      · simp [verdict, Status.isSuccess, h]

/-- A code other than that of a success is an error of the device. -/
theorem verdict_of_hasCode {code : UInt16} (h : Answer.HasCode (.ok receipt) code)
    (hzero : code ≠ 0) (opcode : Opcode) :
  verdict opcode receipt = .error (.device opcode (.ofCode code))
  := by
  have hsuccess : (Status.ofCode code).isSuccess = false := by
    rw [Status.isSuccess, beq_eq_false_iff_ne]
    exact mt Status.ofCode_eq_success.mp hzero
  obtain ⟨payload, h⟩ := h
  obtain rfl := Except.ok.inj h
  simp only [verdict, hsuccess, Bool.false_eq_true, if_false]

/-- A command is worth another attempt exactly when its answer is retryable. -/
theorem verdict_retryable (opcode : Opcode) :
  (∃ error, verdict opcode receipt = .error error ∧ error.isRetryable = true)
    ↔ Answer.IsRetryable (.ok receipt)
  := by
  cases receipt with
  | error source => simp [verdict, Error.isRetryable, Answer.IsRetryable]
  | ok response =>
      by_cases h : Status.ofCode response.status = .success
      · simp [verdict, Answer.IsRetryable, h, Status.isSuccess, Status.isRetryable]
      · simp [verdict, Answer.IsRetryable, h, Status.isSuccess, Error.isRetryable]

end Mailbox

namespace StatusQuery

variable {query : StatusQuery} {receipt : Receipt}

/-- The decoder of a status query never asks for another attempt. -/
theorem isRetryable_of_decode {payload : Bytes} {error : Error}
    (h : query.decode payload = .error error) :
  error.isRetryable = false
  := by
  cases query with
  | spec =>
      simp only [decode, BackgroundStatus.decodeSpec] at h
      split at h
      · cases h
      · cases h
        rfl
  | hbo =>
      simp only [decode, BackgroundStatus.decodeHbo] at h
      split at h
      · cases h
        rfl
      · cases h

theorem verdict_eq_ok {report : BackgroundStatus} :
  query.verdict receipt = .ok report ↔ query.Reports (.ok receipt) report
  := by
  unfold verdict Reports
  cases h : Mailbox.verdict query.opcode receipt with
  | error error =>
      constructor
      · intro hreport
        cases hreport
      · rintro ⟨response, hanswer, hstatus, -⟩
        have hok : Mailbox.verdict query.opcode receipt = .ok response.payload :=
          Mailbox.verdict_eq_ok.mpr ⟨response, Except.ok.inj hanswer, hstatus, rfl⟩
        cases h.symm.trans hok
  | ok payload =>
      obtain ⟨response, rfl, hstatus, rfl⟩ := Mailbox.verdict_eq_ok.mp h
      simp [Except.bind, hstatus]

/-- A status query is worth another attempt exactly when its answer is retryable. -/
theorem verdict_retryable :
  (∃ error, query.verdict receipt = .error error ∧ error.isRetryable = true)
    ↔ Answer.IsRetryable (.ok receipt)
  := by
  rw [← Mailbox.verdict_retryable query.opcode]
  rw [verdict]
  cases Mailbox.verdict query.opcode receipt with
  | error error => simp [Except.bind]
  | ok payload =>
      constructor
      · rintro ⟨error, herror, hretry⟩
        cases hretry.symm.trans (isRetryable_of_decode herror)
      · rintro ⟨error, herror, -⟩
        cases herror

end StatusQuery

namespace Retry

variable {result : Except Error α}

theorem judge_eq_pending :
  (∃ seen, judge result = .pending seen)
    ↔ ∃ error, result = .error error ∧ error.isRetryable = true
  := by
  rcases result with error | value
  · cases error with
    | device opcode status =>
        cases h : status.isRetryable with
        | false => simp [judge, Error.isRetryable, h]
        | true => simp [judge, Error.isRetryable, h]
    | _ => simp [judge, Error.isRetryable]
  · simp [judge]

theorem judge_eq_done :
  (∃ value, judge result = .done value) ↔ ∃ value, result = .ok value
  := by
  rcases result with error | value
  · cases error with
    | device opcode status =>
        cases h : status.isRetryable with
        | false => simp [judge, h]
        | true => simp [judge, h]
    | _ => simp [judge]
  · simp [judge]

end Retry

/-- Submissions wait for an answer that is not retryable, and end with success. -/
theorem Mailbox.judges (opcode : Opcode) :
  Retry.Judges (fun _ receipt => Retry.judge (verdict opcode receipt)) Answer.IsRetryable
    Answer.IsSuccess
  := by
  apply Retry.Judges.of_receipts
  · intro _ receipt
    rw [Retry.judge_eq_pending, verdict_retryable]
  · intro _ receipt
    rw [Retry.judge_eq_done]
    constructor
    · rintro ⟨payload, hpayload⟩
      obtain ⟨response, rfl, hstatus, -⟩ := verdict_eq_ok.mp hpayload
      exact ⟨response, rfl, hstatus⟩
    · rintro ⟨response, hanswer, hstatus⟩
      obtain rfl := Except.ok.inj hanswer
      exact ⟨response.payload, verdict_eq_ok.mpr ⟨response, rfl, hstatus, rfl⟩⟩
  · rintro fault ⟨response, hanswer, -⟩
    cases hanswer
  · rintro fault ⟨response, hanswer, -⟩
    cases hanswer

namespace Poll

variable {previous : Option (Option Sighting)} {result : Except Error BackgroundStatus}

theorem judge_eq_pending :
  (∃ seen, judge previous result = .pending seen)
    ↔ (∃ error, result = .error error ∧ error.isRetryable = true)
      ∨ ∃ report, result = .ok report ∧ report.inProgress = true
  := by
  rcases result with error | report
  · cases h : error.isRetryable with
    | false => simp [judge, h]
    | true => simp [judge, h]
  · cases hprogress : report.inProgress with
    | true => simp [judge, hprogress]
    | false =>
        cases hstatus : report.status.isSuccess with
        | false => simp [judge, hprogress, hstatus]
        | true => simp [judge, hprogress, hstatus]

theorem judge_eq_done :
  (∃ value, judge previous result = .done value)
    ↔ ∃ report, result = .ok report ∧ report.inProgress = false ∧ report.status = .success
  := by
  rcases result with error | report
  · cases h : error.isRetryable with
    | false => simp [judge, h]
    | true => simp [judge, h]
  · cases hprogress : report.inProgress with
    | true => simp [judge, hprogress]
    | false =>
        by_cases hstatus : report.status = .success
        · simp [judge, hprogress, hstatus, Status.isSuccess]
        · simp [judge, hprogress, hstatus, Status.isSuccess]

/-- Polls wait for the report of an operation that no longer runs, and end with one of
success. -/
theorem judges (query : StatusQuery) :
  Retry.Judges (fun previous receipt => judge previous (query.verdict receipt)) query.IsPending
    query.IsConfirmed
  := by
  apply Retry.Judges.of_receipts
  · intro previous receipt
    rw [judge_eq_pending, StatusQuery.verdict_retryable]
    simp [StatusQuery.verdict_eq_ok, StatusQuery.IsPending]
  · intro previous receipt
    rw [judge_eq_done]
    simp [StatusQuery.verdict_eq_ok, StatusQuery.IsConfirmed]
  · exact query.not_isPending_fault
  · exact query.not_isConfirmed_fault

end Poll

/-! ## What both workflows come to -/

section

variable {policy : RetryPolicy} {transport : Transport σ} {m m' : σ} {waited : List Answer}
  {last : Answer}

/-- A submission under a retry budget repeats its command while the answers are retryable. -/
theorem Mailbox.submit_repeats (opcode : Opcode) (payload : Bytes)
    (hvalid : policy.validate = .ok ()) (transport : Transport σ) (m : σ) :
  Retry.Repeats policy ⟨opcode.code, payload⟩ Answer.IsRetryable Answer.IsSuccess
    policy.maxAttempts.toNat
    (Retry.withRetry transport.clock policy (submit transport opcode payload) m)
  := by
  apply Retry.Repeats.of_quiet
  rw [quiet_submit_withRetry]
  apply Retry.inquiry_repeats (judges opcode) hvalid

theorem Mailbox.submit_relays (opcode : Opcode) (payload : Bytes)
    (hvalid : policy.validate = .ok ()) (htimes : transport.Times policy) :
  (Retry.withRetry transport.clock policy (submit transport opcode payload)).Relays
  := by
  apply Workflow.Relays.of_quiet
  rw [quiet_submit_withRetry]
  exact Retry.inquiry_relays hvalid htimes

theorem Mailbox.submit_of_yields (opcode : Opcode) (payload : Bytes)
    (hvalid : policy.validate = .ok ()) (hroom : policy.InTime (transport.clock policy.delay m))
    (hpath : transport.Yields m ((waited ++ [last]).map (.mk ⟨opcode.code, payload⟩)) m')
    (hwaits : ∀ answer ∈ waited, answer.IsRetryable) (hlast : last.IsSuccess)
    (hlength : waited.length < policy.maxAttempts.toNat) :
  ∃ reply, (Retry.withRetry transport.clock policy (submit transport opcode payload)).Gives m
    (.ok (.ok reply)) ((waited ++ [last]).map (.mk ⟨opcode.code, payload⟩))
    (List.replicate waited.length policy.delay) m'
  := by
  have hfinal : ¬ last.IsRetryable := fun hwait => (judges opcode).exclusive last hwait hlast
  obtain ⟨result, hrun, hdone, -⟩ := Retry.inquiry_of_yields (Retry.failure policy)
    (judges opcode) hvalid hroom hpath hwaits hfinal hlength
  obtain ⟨reply, rfl⟩ := hdone hlast
  use reply
  rw [← Workflow.Gives.quiet_iff, quiet_submit_withRetry]
  apply Retry.gives_of_rounds hrun

/-- Polling repeats its query while the answers are pending. -/
theorem Poll.untilDone_repeats (query : StatusQuery) (hvalid : policy.validate = .ok ())
    (transport : Transport σ) (m : σ) :
  Retry.Repeats policy ⟨query.opcode.code, []⟩ query.IsPending query.IsConfirmed
    policy.maxAttempts.toNat (untilDone transport query policy m)
  := by
  apply Retry.Repeats.of_quiet
  rw [quiet_untilDone]
  apply Retry.inquiry_repeats (judges query) hvalid

theorem Poll.untilDone_relays (query : StatusQuery) (hvalid : policy.validate = .ok ())
    (htimes : transport.Times policy) :
  (untilDone transport query policy).Relays
  := by
  apply Workflow.Relays.of_quiet
  rw [quiet_untilDone]
  exact Retry.inquiry_relays hvalid htimes

theorem Poll.untilDone_of_yields (query : StatusQuery) (hvalid : policy.validate = .ok ())
    (hroom : policy.InTime (transport.clock policy.delay m))
    (hpath : transport.Yields m ((waited ++ [last]).map (.mk ⟨query.opcode.code, []⟩)) m')
    (hwaits : ∀ answer ∈ waited, query.IsPending answer) (hlast : query.IsConfirmed last)
    (hlength : waited.length < policy.maxAttempts.toNat) :
  ∃ report, (untilDone transport query policy).Gives m (.ok (.ok report))
    ((waited ++ [last]).map (.mk ⟨query.opcode.code, []⟩))
    (List.replicate waited.length policy.delay) m'
  := by
  have hfinal : ¬ query.IsPending last := fun hwait => (judges query).exclusive last hwait hlast
  obtain ⟨result, hrun, hdone, -⟩ := Retry.inquiry_of_yields (failure query policy)
    (judges query) hvalid hroom hpath hwaits hfinal hlength
  obtain ⟨report, rfl⟩ := hdone hlast
  use report
  rw [← Workflow.Gives.quiet_iff, quiet_untilDone]
  apply Retry.gives_of_rounds hrun

/-- An answer that is a fault ends the program behind pending ones. -/
theorem Poll.untilDone_of_fault (query : StatusQuery) (hvalid : policy.validate = .ok ())
    (hroom : policy.InTime (transport.clock policy.delay m)) {fault : Fault}
    (hpath : transport.Yields m
      ((waited ++ [Except.error fault]).map (.mk ⟨query.opcode.code, []⟩)) m')
    (hwaits : ∀ answer ∈ waited, query.IsPending answer)
    (hlength : waited.length < policy.maxAttempts.toNat) :
  (untilDone transport query policy m).result = .error fault
  := by
  obtain ⟨result, hrun, -, hfault⟩ := Retry.inquiry_of_yields (failure query policy)
    (judges query) hvalid hroom hpath hwaits (query.not_isPending_fault fault) hlength
  rw [← Workflow.result_quiet, quiet_untilDone, hrun]
  exact hfault fault rfl

end

end CxlFirmware
