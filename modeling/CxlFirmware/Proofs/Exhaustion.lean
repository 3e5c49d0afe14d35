import CxlFirmware.Proofs.ActivationPhases

/-!
# Exhaustion and refusal

What the error of a loop tells of the replies that the loop has seen.  The error is exhausted
exactly when all of the replies ask for more patience: when they put the command off, or report
that the operation runs.  It carries the code of a refusal, of a failed operation, and of the
last reply that puts a command off when the attempts are used up, and no other code.  None of
these errors asks for the command to be sent again.
-/

namespace CxlFirmware

variable {σ : Type}

/-! ## Kinds of replies -/

namespace Answer

variable {answer : Answer} {code code' : UInt16}

/-- The device refuses the command: its code is neither that of a success nor one that puts the
command off. -/
def Refuses (answer : Answer) (code : UInt16) : Prop :=
  answer.HasCode code ∧ code ≠ 0 ∧ ¬ answer.PutsOff

theorem HasCode.unique (h : answer.HasCode code) (h' : answer.HasCode code') :
  code = code'
  := by
  obtain ⟨payload, rfl⟩ := h
  obtain ⟨payload', h'⟩ := h'
  cases h'
  rfl

theorem PutsOff.hasCode (h : answer.PutsOff) :
  ∃ code, answer.HasCode code ∧ (code = 6 ∨ code = 1)
  := by
  rcases h with h | h
  · exact ⟨6, h, .inl rfl⟩
  · exact ⟨1, h, .inr rfl⟩

/-- A command is put off, refused or carried out, or the exchange fails, or the program ends. -/
theorem kinds (answer : Answer) :
  answer.PutsOff ∨ (∃ code, answer.Refuses code) ∨ (∃ payload, answer = .ok (.ok ⟨0, payload⟩))
    ∨ (∃ source, answer = .ok (.error source)) ∨ ∃ fault, answer = .error fault
  := by
  rcases answer with fault | source | ⟨code, payload⟩
  · exact .inr (.inr (.inr (.inr ⟨fault, rfl⟩)))
  · exact .inr (.inr (.inr (.inl ⟨source, rfl⟩)))
  · by_cases hzero : code = 0
    · obtain rfl := hzero
      exact .inr (.inr (.inl ⟨payload, rfl⟩))
    · by_cases hputsOff : PutsOff (.ok (.ok ⟨code, payload⟩))
      · exact .inl hputsOff
      · exact .inr (.inl ⟨code, ⟨payload, rfl⟩, hzero, hputsOff⟩)

end Answer

/-! ## What an error tells -/

namespace Error

variable {error : Error}

/-- What is at the bottom of failed transfers. -/
def innermost : Error → Error
  | transferFailed _ _ source _ => source.innermost
  | error => error

theorem innermost_ne_transferFailed (error : Error) (step : Nat) (action : Transfer.Action)
    (source : Error) (abortError : Option String) :
  error.innermost ≠ transferFailed step action source abortError
  := by
  induction error with
  | transferFailed _ _ _ _ ih => exact ih
  | _ => nofun

theorem isExhausted_innermost (error : Error) :
  error.innermost.isExhausted = error.isExhausted
  := by
  induction error with
  | transferFailed _ _ _ _ ih => exact ih
  | _ => rfl

theorem deviceStatus_innermost (error : Error) :
  error.innermost.deviceStatus = error.deviceStatus
  := by
  induction error with
  | transferFailed _ _ _ _ ih => exact ih
  | _ => rfl

/-- No error asks for the command to be sent again when the attempts have run out. -/
theorem isRetryable_of_isExhausted (h : error.isExhausted = true) :
  error.isRetryable = false
  := by
  cases error with
  | device opcode status => cases h
  | _ => rfl

/-- What the error of a loop tells of its replies, of which all but the last one make it wait. -/
structure TellsOf (Waits : Answer → Prop) (waited : List Answer) (last : Answer)
    (error : Error) : Prop where
  waits : ∀ reply ∈ waited, Waits reply
  not_retryable : error.isRetryable = false
  exhausted_iff : error.isExhausted = true ↔ ∀ reply ∈ waited ++ [last], Waits reply
  refused : ∀ code, last.Refuses code → error.deviceStatus = some (.ofCode code)
  unanswered : ∀ source, last = .ok (.error source) → error.deviceStatus = none

/-- What the error of a repeated command tells.  When the attempts of the budget are used up,
it carries the last code, and when the deadline is missed before, none. -/
structure TellsOfCommand (budget : Nat) (waited : List Answer) (last : Answer) (error : Error) :
    Prop extends error.TellsOf Answer.PutsOff waited last where
  used_up : ∀ code, last.HasCode code → last.PutsOff → waited.length + 1 = budget →
    error.deviceStatus = some (.ofCode code)
  late : last.PutsOff → waited.length + 1 < budget → error.deviceStatus = none

/-- What the error of a repeated status query tells.  It carries the code of an operation that
failed, and none when the polls have run out or the last reply is malformed. -/
structure TellsOfPolls (query : StatusQuery) (waited : List Answer) (last : Answer)
    (error : Error) : Prop extends error.TellsOf query.Defers waited last where
  ended : ∀ report, query.Reports last report → report.inProgress = false →
    error.deviceStatus = some (.ofCode report.returnCode)
  deferred : query.Defers last → error.deviceStatus = none
  malformed : ∀ payload, last = .ok (.ok ⟨0, payload⟩) → payload.length < 8 →
    error.deviceStatus = none

/-- The error of a command that was repeated with these submissions. -/
def EndsCommand (command : Command) (budget : Nat) (trace : List Submission) (error : Error) :
    Prop :=
  ∃ waited last, trace = (waited ++ [last]).map (.mk command)
    ∧ error.TellsOfCommand budget waited last

/-- The error of a status query that was repeated with these submissions. -/
def EndsPolls (query : StatusQuery) (trace : List Submission) (error : Error) : Prop :=
  ∃ waited last, trace = (waited ++ [last]).map (.mk ⟨query.opcode.code, []⟩)
    ∧ error.TellsOfPolls query waited last

/-- The error of a command and the polls that confirm it: that of the command, or behind its
success that of the polls. -/
inductive EndsPhases (command : Command) (budget : Nat) (query : StatusQuery) (error : Error) :
    List Submission → Prop
  | submitting {trace : List Submission} (h : error.EndsCommand command budget trace) :
      EndsPhases command budget query error trace
  | confirming {sent polls : List Submission}
      (hsent : Repeated budget command Answer.IsRetryable Answer.IsSuccess sent)
      (h : error.EndsPolls query polls) :
      EndsPhases command budget query error (sent ++ polls)

theorem EndsPhases.not_retryable {command : Command} {budget : Nat} {query : StatusQuery}
    {trace : List Submission} (h : error.EndsPhases command budget query trace) :
  error.isRetryable = false
  := by
  cases h with
  | submitting h =>
      obtain ⟨waited, last, -, htells⟩ := h
      exact htells.not_retryable
  | confirming hsent h =>
      obtain ⟨waited, last, -, htells⟩ := h
      exact htells.not_retryable

section

variable {Waits : Answer → Prop} {waited : List Answer} {last : Answer}
  (hwaits : ∀ reply ∈ waited, Waits reply)
include hwaits

/-- When the last reply makes the loop wait as well, an exhausted error tells of that. -/
theorem TellsOf.of_waits (hlast : Waits last) (hexhausted : error.isExhausted = true)
    (hrefused : ∀ code, ¬ last.Refuses code) {code : UInt16} (hcoded : last.HasCode code) :
  error.TellsOf Waits waited last
  := by
  constructor
  · exact hwaits
  · exact isRetryable_of_isExhausted hexhausted
  · apply iff_of_true hexhausted
    rw [List.forall_mem_append, List.forall_mem_singleton]
    exact ⟨hwaits, hlast⟩
  · intro code h
    exact absurd h (hrefused code)
  · rintro source rfl
    obtain ⟨payload, h⟩ := hcoded
    cases h

/-- When the last reply ends the loop, another error tells of that. -/
theorem TellsOf.of_ends (hlast : ¬ Waits last) (hexhausted : error.isExhausted = false)
    (hretryable : error.isRetryable = false)
    (hrefused : ∀ code, last.Refuses code → error.deviceStatus = some (.ofCode code))
    (hunanswered : ∀ source, last = .ok (.error source) → error.deviceStatus = none) :
  error.TellsOf Waits waited last
  := by
  constructor
  · exact hwaits
  · exact hretryable
  · rw [hexhausted]
    apply iff_of_false Bool.false_ne_true
    intro hall
    exact hlast (hall last List.mem_append_cons_self)
  · exact hrefused
  · exact hunanswered

end

/-- A refusal is told of by its code. -/
theorem TellsOf.of_refused {Waits : Answer → Prop} {waited : List Answer} {last : Answer}
    {code : UInt16} (hwaits : ∀ reply ∈ waited, Waits reply) (hlast : ¬ Waits last)
    (hrefuses : last.Refuses code) (opcode : Opcode) :
  (device opcode (.ofCode code)).TellsOf Waits waited last
  := by
  apply TellsOf.of_ends hwaits hlast
  · rfl
  · exact Answer.not_isRetryable hrefuses.1 hrefuses.2.2
  · intro code' h
    rw [hrefuses.1.unique h.1]
    rfl
  · rintro source rfl
    obtain ⟨⟨payload, h⟩, -⟩ := hrefuses
    cases h

/-- The failure of an exchange is told of without a code. -/
theorem TellsOf.of_unanswered {Waits : Answer → Prop} {waited : List Answer} {source : IoError}
    (hwaits : ∀ reply ∈ waited, Waits reply) (hlast : ¬ Waits (.ok (.error source)))
    (opcode : Opcode) :
  (transport opcode source).TellsOf Waits waited (.ok (.error source))
  := by
  apply TellsOf.of_ends hwaits hlast
  · rfl
  · rfl
  · rintro code ⟨⟨payload, h⟩, -⟩
    cases h
  · intro _ _
    rfl

/-- A command whose last reply does not put it off is neither used up nor late. -/
theorem TellsOf.ofCommand {budget : Nat} {waited : List Answer} {last : Answer}
    (h : error.TellsOf Answer.PutsOff waited last) (hlast : ¬ last.PutsOff) :
  error.TellsOfCommand budget waited last
  := by
  constructor
  · exact h
  · intro _ _ hputsOff
    exact absurd hputsOff hlast
  · intro hputsOff
    exact absurd hputsOff hlast

end Error

/-! ## Submissions -/

namespace Mailbox

variable {policy : RetryPolicy} {transport : Transport σ} {opcode : Opcode} {payload : Bytes}
  {budget : Nat} {waited : List Answer} {last : Answer} {error : Error} {m : σ}

/-- A reply that fails a command for good is a refusal, or there is none. -/
theorem tells_of_failed (hwaits : ∀ reply ∈ waited, reply.PutsOff)
    (h : judged opcode last = .ok (.failed error)) :
  error.TellsOfCommand budget waited last
  := by
  have hlast : ¬ last.PutsOff := by
    intro hputsOff
    obtain ⟨code, hcoded, hcode⟩ := hputsOff.hasCode
    cases (judged_of_putsOff hcoded hcode opcode).symm.trans h
  rcases last.kinds with hputsOff | ⟨code, hrefuses⟩ | ⟨reply, rfl⟩ | ⟨source, rfl⟩ | ⟨fault, rfl⟩
  · exact absurd hputsOff hlast
  · cases (judged_of_refused hrefuses.1 hrefuses.2.1 hlast opcode).symm.trans h
    exact (Error.TellsOf.of_refused hwaits hlast hrefuses opcode).ofCommand hlast
  · cases h
  · cases h
    exact (Error.TellsOf.of_unanswered hwaits hlast opcode).ofCommand hlast
  · cases h

theorem tells_of_after (hwaits : ∀ reply ∈ waited, reply.PutsOff)
    {reason : GaveUp (Opcode × Status)}
    (h : Retry.After (fun _ receipt => Retry.judge (verdict opcode receipt)) budget waited.length
      last reason) :
  (Retry.failure policy reason).TellsOfCommand budget waited last
  := by
  cases h with
  | failed h => exact tells_of_failed hwaits h
  | @exhausted _ seen attempts h hcount =>
      have hlast : last.PutsOff := ((judges_putsOff opcode).pending_iff none last).mp ⟨seen, h⟩
      obtain ⟨code, hcoded, hcode⟩ := hlast.hasCode
      cases (judged_of_putsOff hcoded hcode opcode).symm.trans h
      constructor
      · exact .of_waits hwaits hlast rfl (fun _ h => h.2.2 hlast) hcoded
      · intro code' hcoded' _ _
        rw [hcoded'.unique hcoded]
        rfl
      · intro _ hlate
        omega
  | @deadline _ seen attempts h hcount =>
      have hlast : last.PutsOff := ((judges_putsOff opcode).pending_iff none last).mp ⟨seen, h⟩
      obtain ⟨code, hcoded, -⟩ := hlast.hasCode
      constructor
      · exact .of_waits hwaits hlast rfl (fun _ h => h.2.2 hlast) hcoded
      · intro _ _ _ hcount'
        omega
      · intro _ _
        rfl

/-- The error of a command under a retry budget tells of its replies. -/
theorem submit_ends (hvalid : policy.validate = .ok ())
    (h : (Retry.withRetry transport.clock policy (submit transport opcode payload) m).result
      = .ok (.error error)) :
  error.EndsCommand ⟨opcode.code, payload⟩ policy.maxAttempts.toNat
    (Retry.withRetry transport.clock policy (submit transport opcode payload) m).submissions
  := by
  rw [← Workflow.result_quiet, quiet_submit_withRetry] at h
  rw [← Workflow.submissions_quiet, quiet_submit_withRetry]
  obtain ⟨waited, last, reason, hsubmissions, hwaits, hafter, rfl⟩ :=
    Retry.inquiry_gave_up (judges_putsOff opcode) hvalid h
  exact ⟨waited, last, hsubmissions, tells_of_after hwaits hafter⟩

end Mailbox

/-! ## Polls -/

namespace StatusQuery

variable {query : StatusQuery} {answer : Answer} {report report' : BackgroundStatus}

/-- A report comes with the code of success. -/
theorem Reports.payload (h : query.Reports answer report) :
  ∃ payload, answer = .ok (.ok ⟨0, payload⟩) ∧ query.decode payload = .ok report
  := by
  obtain ⟨⟨code, payload⟩, rfl, hsuccess, hdecode⟩ := h
  obtain rfl : code = 0 := Status.ofCode_eq_success.mp hsuccess
  exact ⟨payload, rfl, hdecode⟩

/-- A reply that defers the verdict reports, if anything, that the operation runs. -/
theorem Defers.inProgress (h : query.Defers answer) (hreports : query.Reports answer report) :
  report.inProgress = true
  := by
  obtain ⟨payload, rfl, hdecode⟩ := hreports.payload
  rcases h with (⟨_, h⟩ | ⟨_, h⟩) | ⟨report', hreports', hrunning⟩
  · cases h
  · cases h
  · rw [reports_ok, hdecode] at hreports'
    cases hreports'
    exact hrunning

theorem Defers.not_refuses (h : query.Defers answer) (code : UInt16) :
  ¬ answer.Refuses code
  := by
  rintro ⟨hcoded, hzero, hother⟩
  rcases h with hputsOff | ⟨report, hreports, -⟩
  · exact hother hputsOff
  · obtain ⟨payload, rfl, -⟩ := hreports.payload
    exact hzero (hcoded.unique ⟨payload, rfl⟩)

theorem Defers.hasCode (h : query.Defers answer) :
  ∃ code, answer.HasCode code
  := by
  rcases h with hputsOff | ⟨report, hreports, -⟩
  · obtain ⟨code, hcoded, -⟩ := hputsOff.hasCode
    exact ⟨code, hcoded⟩
  · obtain ⟨payload, rfl, -⟩ := hreports.payload
    exact ⟨0, payload, rfl⟩

end StatusQuery

namespace Poll

variable {policy : RetryPolicy} {transport : Transport σ} {query : StatusQuery} {budget : Nat}
  {waited : List Answer} {last : Answer} {error : Error} {m : σ}

/-- Without the code of success, the last reply is no report, and it is not malformed. -/
theorem tells_of_other (h : error.TellsOf query.Defers waited last) (hlast : ¬ query.Defers last)
    (hother : ¬ last.HasCode 0) :
  error.TellsOfPolls query waited last
  := by
  constructor
  · exact h
  · intro report hreports _
    obtain ⟨payload, hreply, -⟩ := hreports.payload
    exact absurd ⟨payload, hreply⟩ hother
  · intro hdefers
    exact absurd hdefers hlast
  · intro payload hreply _
    exact absurd ⟨payload, hreply⟩ hother

/-- With the code of success, the last reply is malformed or reports that the operation failed. -/
theorem tells_of_payload (hwaits : ∀ reply ∈ waited, query.Defers reply) {payload : Bytes}
    (hlast : ¬ query.Defers (.ok (.ok ⟨0, payload⟩))) {previous : Option (Option Sighting)}
    (h : ruled query previous (.ok (.ok ⟨0, payload⟩)) = .ok (.failed error)) :
  error.TellsOfPolls query waited (.ok (.ok ⟨0, payload⟩))
  := by
  have hends : ∀ {error : Error}, error.isExhausted = false → error.isRetryable = false →
      error.TellsOf query.Defers waited (.ok (.ok ⟨0, payload⟩)) := by
    intro error hexhausted hretryable
    apply Error.TellsOf.of_ends hwaits hlast hexhausted hretryable
    · rintro code ⟨hcoded, hzero, -⟩
      exact absurd (hcoded.unique ⟨payload, rfl⟩) hzero
    · nofun
  rcases Nat.lt_or_ge payload.length 8 with hshort | hlong
  · obtain ⟨text, hruled⟩ := @ruled_of_short previous query payload hshort
    cases hruled.symm.trans h
    constructor
    · exact hends rfl rfl
    · intro report hreports _
      obtain ⟨text, hdecode⟩ := StatusQuery.decode_of_short query hshort
      cases hdecode.symm.trans (StatusQuery.reports_ok.mp hreports)
    · intro _
      rfl
    · intro _ _ _
      rfl
  · obtain ⟨report, hdecode⟩ := StatusQuery.decode_of_length query hlong
    have hreports := StatusQuery.reports_ok.mpr hdecode
    have hended : report.inProgress = false := by
      rw [← Bool.not_eq_true]
      exact fun hrunning => hlast (.inr ⟨report, hreports, hrunning⟩)
    have hcode : report.returnCode ≠ 0 := by
      intro hcode
      cases (ruled_of_success hreports hended hcode).symm.trans h
    cases (ruled_of_failure hreports hended hcode).symm.trans h
    constructor
    · exact hends rfl rfl
    · intro report' hreports' _
      cases hdecode.symm.trans (StatusQuery.reports_ok.mp hreports')
      rfl
    · intro hdefers
      exact absurd hdefers hlast
    · rintro _ ⟨⟩ hshort
      omega

/-- Polls fail for good at the report of an operation that failed, at a malformed reply, at a
refusal, or where there is no reply. -/
theorem tells_of_failed (hwaits : ∀ reply ∈ waited, query.Defers reply)
    {previous : Option (Option Sighting)} (h : ruled query previous last = .ok (.failed error)) :
  error.TellsOfPolls query waited last
  := by
  have hlast : ¬ query.Defers last := by
    intro hdefers
    obtain ⟨seen, hseen⟩ := ((judges_defers query).pending_iff previous last).mpr hdefers
    cases hseen.symm.trans h
  rcases last.kinds with hputsOff | ⟨code, hrefuses⟩ | ⟨payload, rfl⟩ | ⟨source, rfl⟩ | ⟨fault, rfl⟩
  · exact absurd (.inl hputsOff) hlast
  · obtain ⟨hcoded, hzero, hother⟩ := id hrefuses
    cases (ruled_of_refused hcoded hzero hother).symm.trans h
    apply tells_of_other (.of_refused hwaits hlast hrefuses query.opcode) hlast
    intro hsuccess
    exact hzero (hcoded.unique hsuccess)
  · exact tells_of_payload hwaits hlast h
  · cases h
    apply tells_of_other (.of_unanswered hwaits hlast query.opcode) hlast
    rintro ⟨_, h⟩
    cases h
  · cases h

theorem tells_of_after (hwaits : ∀ reply ∈ waited, query.Defers reply)
    {reason : GaveUp (Option Sighting)}
    (h : Retry.After (ruling query) budget waited.length last reason) :
  (failure query policy reason).TellsOfPolls query waited last
  := by
  have hgaveUp : ∀ {error : Error}, query.Defers last → error.isExhausted = true →
      error.deviceStatus = none → error.TellsOfPolls query waited last := by
    intro error hlast hexhausted hstatus
    obtain ⟨code, hcoded⟩ := hlast.hasCode
    constructor
    · exact .of_waits hwaits hlast hexhausted hlast.not_refuses hcoded
    · intro report hreports hended
      cases (hlast.inProgress hreports).symm.trans hended
    · intro _
      exact hstatus
    · intro _ _ _
      exact hstatus
  cases h with
  | failed h => exact tells_of_failed hwaits h
  | @exhausted previous seen attempts h hcount =>
      have hlast := ((judges_defers query).pending_iff previous last).mp ⟨seen, h⟩
      cases seen with
      | none => exact hgaveUp hlast rfl rfl
      | some seen => exact hgaveUp hlast rfl rfl
  | @deadline previous seen attempts h hcount =>
      have hlast := ((judges_defers query).pending_iff previous last).mp ⟨seen, h⟩
      exact hgaveUp hlast rfl rfl

/-- The error of polls tells of their replies. -/
theorem untilDone_ends (hvalid : policy.validate = .ok ())
    (h : (untilDone transport query policy m).result = .ok (.error error)) :
  error.EndsPolls query (untilDone transport query policy m).submissions
  := by
  rw [← Workflow.result_quiet, quiet_untilDone] at h
  rw [← Workflow.submissions_quiet, quiet_untilDone]
  obtain ⟨waited, last, reason, hsubmissions, hwaits, hafter, rfl⟩ :=
    Retry.inquiry_gave_up (judges_defers query) hvalid h
  exact ⟨waited, last, hsubmissions, tells_of_after hwaits hafter⟩

end Poll

/-! ## Activations -/

namespace Activation

variable {policy : RetryPolicy} {transport : Transport σ} {device : String} {request : Request}
  {error : Error} {m : σ}

/-- The error of an activation tells of the replies of the phase that failed. -/
theorem run_endsPhases (hvalid : policy.validate = .ok ())
    (h : (run transport device policy request m).result = .ok (.error error)) :
  error.EndsPhases request.command policy.maxAttempts.toNat request.kind.statusQuery
    (run transport device policy request m).submissions
  := by
  have hsubmit := Workflow.Gives.self (submitRequest transport policy request) m
  rcases hresult : (submitRequest transport policy request m).result with fault | source | reply
  · rw [hresult] at hsubmit
    have hrun := run_of_fault hvalid device hsubmit
    cases hrun.result_eq.symm.trans h
  · rw [hresult] at hsubmit
    have hrun := run_of_unsent hvalid device hsubmit
    cases hrun.result_eq.symm.trans h
    rw [hrun.submissions_eq]
    exact .submitting (Mailbox.submit_ends hvalid hresult)
  · rw [hresult] at hsubmit
    have hconfirm := Workflow.Gives.self (confirmRequest transport policy request)
      (submitRequest transport policy request m).mailbox
    have hrun := run_of_sent hvalid device hsubmit hconfirm
    rw [hrun.submissions_eq]
    apply Error.EndsPhases.confirming
    · obtain ⟨hrepeated, -⟩ := Mailbox.submit_repeats request.kind.opcode
        (encode request.action.code request.slot) hvalid transport m
      apply hrepeated.mono
      intro last hlast
      exact hlast.mpr ⟨reply, hresult⟩
    · exact Poll.untilDone_ends hvalid (hrun.result_eq.symm.trans h)

end Activation

end CxlFirmware
