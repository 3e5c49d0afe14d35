import CxlFirmware.Activation
import CxlFirmware.Proofs.Polling
import CxlFirmware.Proofs.Retried

/-!
# The phases of an activation

An activation is a loop of submissions and then, behind a success alone, a loop of polls.  Each
loop has the whole budget for itself and does what it would do alone; the error of the one that
fails is the error of the activation.
-/

namespace CxlFirmware.Activation

variable {σ : Type} {transport : Transport σ} {device : String} {policy : RetryPolicy}
  {request : Request} {m m₁ m' : σ} {trace trace' : List Submission}
  {delays delays' : List Duration}

/-- The command that activates a slot. -/
def Request.command (request : Request) : Command :=
  ⟨request.kind.opcode.code, encode request.action.code request.slot⟩

/-- The command that asks whether the slot is activated. -/
def Request.statusCommand (request : Request) : Command :=
  ⟨request.kind.statusQuery.opcode.code, []⟩

/-- The loop that submits an activation. -/
def submitRequest (transport : Transport σ) (policy : RetryPolicy) (request : Request) :
    Workflow σ (Except Error Bytes) :=
  Retry.withRetry transport.clock policy (Mailbox.submit transport request.kind.opcode
    (encode request.action.code request.slot))

/-- The loop that polls until the slot is activated. -/
def confirmRequest (transport : Transport σ) (policy : RetryPolicy) (request : Request) :
    Workflow σ (Except Error BackgroundStatus) :=
  Poll.untilDone transport request.kind.statusQuery policy

/-! ## One phase behind the other -/

theorem quiet_run (hvalid : policy.validate = .ok ()) (transport : Transport σ) (device : String)
    (request : Request) :
  (run transport device policy request).quiet
    = (submitRequest transport policy request).quiet >>= fun
      | .error error => pure (.error error)
      | .ok _ => (confirmRequest transport policy request).quiet
  := by
  rw [run, hvalid]
  simp only [Workflow.quiet_bind, Workflow.quiet_log, pure_bind]
  apply bind_congr
  intro outcome
  cases outcome with
  | error error => rfl
  | ok reply =>
      rw [Workflow.quiet_bind]
      refine (bind_congr fun outcome => ?_).trans (bind_pure _)
      cases outcome with
      | error error => rfl
      | ok report => rfl

/-- An activation ends with the error of its submission. -/
theorem run_of_unsent (hvalid : policy.validate = .ok ()) (device : String) {error : Error}
    (h : (submitRequest transport policy request).Gives m (.ok (.error error)) trace delays m') :
  (run transport device policy request).Gives m (.ok (.error error)) trace delays m'
  := by
  rw [← Workflow.Gives.quiet_iff, quiet_run hvalid]
  rw [← Workflow.Gives.quiet_iff] at h
  apply h.bind_pure
  rfl

theorem run_of_fault (hvalid : policy.validate = .ok ()) (device : String) {fault : Fault}
    (h : (submitRequest transport policy request).Gives m (.error fault) trace delays m') :
  (run transport device policy request).Gives m (.error fault) trace delays m'
  := by
  rw [← Workflow.Gives.quiet_iff, quiet_run hvalid]
  rw [← Workflow.Gives.quiet_iff] at h
  exact h.bind_fault _

/-- Behind a submission that succeeds, it comes to what its polls come to. -/
theorem run_of_sent (hvalid : policy.validate = .ok ()) (device : String) {reply : Bytes}
    {result : Except Fault (Except Error BackgroundStatus)}
    (h : (submitRequest transport policy request).Gives m (.ok (.ok reply)) trace delays m₁)
    (h' : (confirmRequest transport policy request).Gives m₁ result trace' delays' m') :
  (run transport device policy request).Gives m result (trace ++ trace') (delays ++ delays') m'
  := by
  rw [← Workflow.Gives.quiet_iff, quiet_run hvalid]
  rw [← Workflow.Gives.quiet_iff] at h h'
  exact h.bind h'

/-! ## Where the phases end -/

/-- The submission ends where its command settles.  It ends the program with the last answer, and
gives a reply exactly when that answer is a success. -/
theorem gives_submitRequest (hvalid : policy.validate = .ok ())
    (htimely : policy.Timely (transport.clock policy.delay m)) {count : Nat}
    (hsettles : transport.Settles request.command m Answer.PutsOff
      (policy.reach (transport.clock policy.delay m)) count) :
  ∃ result, (submitRequest transport policy request).Gives m result
      (transport.repeats request.command m (count + 1)) (List.replicate count policy.delay)
      (transport.after request.command m (count + 1))
    ∧ (∀ fault, result = .error fault ↔ transport.reply request.command m count = .error fault)
    ∧ ((∃ reply, result = .ok (.ok reply)) ↔ (transport.reply request.command m count).HasCode 0)
  := by
  obtain ⟨gaveUp, -, hresult, hmailbox, hsubmissions, hsleeps, -⟩ :=
    Mailbox.submit_of_settles hvalid htimely hsettles
  refine ⟨_, ⟨hresult, hsubmissions, hsleeps, hmailbox⟩, fun fault => ?_, ?_⟩
  · rw [Fault.map_eq_error, Fault.map_eq_error]
    exact Fault.map_eq_error
  · simp only [Retry.conclusion_eq_ok]
    rw [← Answer.isSuccess_iff]
    exact (Mailbox.judges_putsOff request.kind.opcode).done_iff none _

/-- The polls end where their query settles.  They end the program with the last answer, and give
the report of an activation that ended with the code of success, and no other. -/
theorem gives_confirmRequest (hvalid : policy.validate = .ok ())
    (htimely : policy.Timely (transport.clock policy.delay m)) {count : Nat}
    (hsettles : transport.Settles request.statusCommand m request.kind.statusQuery.Defers
      (policy.reach (transport.clock policy.delay m)) count) :
  ∃ result, (confirmRequest transport policy request).Gives m result
      (transport.repeats request.statusCommand m (count + 1)) (List.replicate count policy.delay)
      (transport.after request.statusCommand m (count + 1))
    ∧ (∀ fault, result = .error fault
      ↔ transport.reply request.statusCommand m count = .error fault)
    ∧ ∀ report, result = .ok (.ok report) ↔ request.kind.statusQuery.Reports
        (transport.reply request.statusCommand m count) report
      ∧ report.inProgress = false ∧ report.returnCode = 0
  := by
  obtain ⟨gaveUp, -, hresult, hmailbox, hsubmissions, hsleeps⟩ :=
    Poll.untilDone_of_settles hvalid htimely hsettles
  refine ⟨_, ⟨hresult, hsubmissions, hsleeps, hmailbox⟩, fun fault => ?_, fun report => ?_⟩
  · rw [Fault.map_eq_error, Fault.map_eq_error]
    exact Fault.map_eq_error
  · rw [Retry.conclusion_eq_ok]
    exact Poll.ruled_eq_done

/-- An activation without an attempt in its budget is refused, and sends nothing.  Otherwise it
sends its command until the first reply that does not put it off, or until there is no time for
another attempt.  If the last reply is not a success, that is all, and the error is the one of this
loop.  Behind a success it sends the status query until the first reply that does not defer the
verdict, with the same budget once more.  The activation succeeds exactly when the last reply is
the report of an operation that ended with the code of success, and returns that report; else its
error is the one of the polls.  There is one delay between two commands of a phase, and no other.
All of this holds by any clock that lets each phase tell whether it is late, and a command that ends
the program ends the activation with the same fault. -/
theorem run_in_two_phases (transport : Transport σ) (device : String) (policy : RetryPolicy)
    (request : Request) (m : σ) :
  let command : Command := ⟨request.kind.opcode.code, [request.action.code, request.slot]⟩
  let query := request.kind.statusQuery
  let asked : Command := ⟨query.opcode.code, []⟩
  let budget := policy.maxAttempts.toNat
  let run := run transport device policy request m
  (budget = 0 → ∃ text, run = ⟨.ok (.error (.config text)), m, []⟩)
    ∧ (0 < budget → policy.Timely (transport.clock policy.delay m) →
      ∃ count < budget, transport.Settles command m Answer.PutsOff
          (policy.reach (transport.clock policy.delay m)) count
        ∧ (¬ (transport.reply command m count).HasCode 0 →
          run.submissions = transport.repeats command m (count + 1)
          ∧ run.sleeps = List.replicate count policy.delay
          ∧ (∀ fault, transport.reply command m count = .error fault → run.result = .error fault)
          ∧ (∀ receipt, transport.reply command m count = .ok receipt →
            ∃ error, (submitRequest transport policy request m).result = .ok (.error error)
              ∧ run.result = .ok (.error error)))
        ∧ ((transport.reply command m count).HasCode 0 →
          let m₁ := transport.after command m (count + 1)
          policy.Timely (transport.clock policy.delay m₁) →
          ∃ polls < budget, transport.Settles asked m₁ query.Defers
              (policy.reach (transport.clock policy.delay m₁)) polls
            ∧ run.submissions = transport.repeats command m (count + 1)
              ++ transport.repeats asked m₁ (polls + 1)
            ∧ run.sleeps = List.replicate (count + polls) policy.delay
            ∧ (∀ report, run.result = .ok (.ok report)
              ↔ query.Reports (transport.reply asked m₁ polls) report
                ∧ report.inProgress = false ∧ report.returnCode = 0)
            ∧ (∀ fault, transport.reply asked m₁ polls = .error fault →
              run.result = .error fault)
            ∧ (∀ receipt, transport.reply asked m₁ polls = .ok receipt →
              (∀ report, run.result ≠ .ok (.ok report)) →
              ∃ error, (confirmRequest transport policy request m₁).result = .ok (.error error)
                ∧ run.result = .ok (.error error))))
  := by
  intro command query asked budget run
  constructor
  · intro hzero
    have hmax : policy.maxAttempts = 0 := UInt32.toNat_inj.mp hzero
    have hinvalid : policy.validate = .error (.config "retry attempts must be at least 1") :=
      if_pos hmax
    refine ⟨"retry attempts must be at least 1", ?_⟩
    change Activation.run transport device policy request m = _
    rw [Activation.run, hinvalid]
    rfl
  · intro hpos htimely
    have hvalid := RetryPolicy.validate_of_pos hpos
    obtain ⟨count, _, hsettles, -, -⟩ := (Mailbox.asks_submit policy transport request.kind.opcode
      (encode request.action.code request.slot)).run_of_timely (Mailbox.judges_putsOff _) hpos
      htimely
    obtain ⟨outcome, hgives, hfault, hreply⟩ := gives_submitRequest hvalid htimely hsettles
    have hlt := Nat.lt_of_lt_of_le hsettles.lt (RetryPolicy.reach_le hpos _)
    refine ⟨count, hlt, hsettles, ?_, ?_⟩
    · intro hother
      rcases outcome with fault | error | reply
      · have hrun := run_of_fault hvalid device hgives
        have hlast := (hfault fault).mp rfl
        refine ⟨hrun.submissions_eq, hrun.sleeps_eq, ?_, ?_⟩
        · intro fault' hfault'
          cases hlast.symm.trans hfault'
          exact hrun.result_eq
        · intro receipt hreceipt
          exact absurd (hlast.symm.trans hreceipt) nofun
      · have hrun := run_of_unsent hvalid device hgives
        refine ⟨hrun.submissions_eq, hrun.sleeps_eq, ?_, ?_⟩
        · intro fault hlast
          exact absurd ((hfault fault).mpr hlast) nofun
        · intro _ _
          exact ⟨error, hgives.result_eq, hrun.result_eq⟩
      · exact absurd (hreply.mp ⟨reply, rfl⟩) hother
    · intro hsuccess m₁ htimely'
      obtain ⟨reply, rfl⟩ := hreply.mpr hsuccess
      obtain ⟨polls, _, hsettles', -, -⟩ := (Poll.asks_untilDone transport query
        policy).run_of_timely (Poll.judges_defers query) hpos htimely'
      obtain ⟨verdict, hgives', hfault', hreport⟩ :=
        gives_confirmRequest hvalid htimely' hsettles'
      have hrun := run_of_sent hvalid device hgives hgives'
      have hresult : run.result = verdict := hrun.result_eq
      have hlt' := Nat.lt_of_lt_of_le hsettles'.lt (RetryPolicy.reach_le hpos _)
      refine ⟨polls, hlt', hsettles', hrun.submissions_eq, ?_, ?_, ?_, ?_⟩
      · rw [← List.replicate_append_replicate]
        exact hrun.sleeps_eq
      · intro report
        rw [hresult]
        exact hreport report
      · intro fault hlast
        exact hresult.trans ((hfault' fault).mpr hlast)
      · intro receipt hreceipt hother
        rcases verdict with fault | error | report
        · exact absurd (((hfault' fault).mp rfl).symm.trans hreceipt) nofun
        · exact ⟨error, hgives'.result_eq, hresult⟩
        · exact absurd hresult (hother report)

/-- The answers of a device that puts an activation off once, and reports once that it runs. -/
def unhurried : Script where
  answers := [.ok ⟨6, []⟩, .ok ⟨0, []⟩, .ok ⟨0, [0x65, 0, 0x02, 0x02, 0, 0, 0, 0]⟩]
  fallback := .ok ⟨0, [0xC8, 0, 0x02, 0x02, 0, 0, 0, 0]⟩

/-- Two attempts are enough for each phase, though it takes four commands. -/
theorem run_in_two_phases_unhurried :
  let run := run (Script.transport "mem0") "mem0" ⟨2, .ofMillis 10, none⟩ ⟨.specDefined, .online, 2⟩
    unhurried
  run.result = .ok (.ok ⟨false, 100, 0x0202, 0, 0⟩) ∧ run.submissions.length = 4
    ∧ run.sleeps = [.ofMillis 10, .ofMillis 10]
  := by
  intro run
  obtain ⟨-, hphases⟩ := run_in_two_phases (Script.transport "mem0") "mem0" ⟨2, .ofMillis 10, none⟩
    ⟨.specDefined, .online, 2⟩ unhurried
  have htimes : (Script.transport "mem0").Times ⟨2, .ofMillis 10, none⟩ :=
    Transport.times_of_none _ rfl
  obtain ⟨count, -, hsettles, -, hsuccess⟩ := hphases (by decide) (htimes unhurried)
  obtain rfl : count = 1 := hsettles.unique ⟨by decide, fun i hi => by
    obtain rfl := Nat.lt_one_iff.mp hi
    exact .inl ⟨[], rfl⟩, .inl rfl⟩
  obtain ⟨polls, -, hsettles', hsubmissions, hsleeps, hreport, -⟩ :=
    hsuccess ⟨[], rfl⟩ (htimes _)
  obtain rfl : polls = 1 := hsettles'.unique ⟨by decide, fun i hi => by
    obtain rfl := Nat.lt_one_iff.mp hi
    exact .inr ⟨_, ⟨_, rfl, rfl, rfl⟩, rfl⟩, .inl rfl⟩
  refine ⟨(hreport _).mpr ⟨⟨_, rfl, rfl, rfl⟩, rfl, rfl⟩, ?_, hsleeps⟩
  exact congrArg List.length hsubmissions

end CxlFirmware.Activation
