import CxlFirmware.Proofs.Records

/-!
# Claims

A step of a scenario that needs a claim is `Disciplined`: if the gate tells that the device is
active, or fails to tell, then the step is refused and nothing happens in it; otherwise it runs
its jobs one after another, between one record of the claim and one of the release.  The gate is
asked at the claim and never again, so a change of the gate in a session is left to the next
claim.  In the whole log the records of claims and releases alternate.
-/

namespace CxlFirmware

variable {σ α β : Type}

/-! ## Claims on a device -/

namespace Device

variable {device : Device σ} {error : Error}

/-- The error that a claim on the device gives now, if any. -/
def refusal? (device : Device σ) : Option Error :=
  match device.gate.isActive with
  | .error error => some error
  | .ok true => some (.deviceBusy device.name)
  | .ok false => none

/-- The record of a claim. -/
def claimRecord (device : Device σ) : LogRecord :=
  ⟨.debug, origin, device.name ++ ": claimed (id " ++ Nat.repr device.id.toNat ++ ")"⟩

/-- The record of a release. -/
def releaseRecord (device : Device σ) : LogRecord :=
  ⟨.debug, origin, device.name ++ ": released"⟩

theorem claim_of_refused (h : device.refusal? = some error) :
  device.claim = pure (.error error)
  := by
  unfold refusal? at h
  unfold claim
  cases hgate : device.gate.isActive with
  | error error' =>
      rw [hgate] at h
      obtain rfl := Option.some.inj h
      rfl
  | ok active =>
      rw [hgate] at h
      cases active with
      | true =>
          obtain rfl := Option.some.inj h
          rfl
      | false => cases h

theorem claim_of_idle (h : device.refusal? = none) :
  device.claim = (do Workflow.emit (.logged device.claimRecord); return .ok ())
  := by
  unfold refusal? at h
  unfold claim
  cases hgate : device.gate.isActive with
  | error error' =>
      rw [hgate] at h
      cases h
  | ok active =>
      rw [hgate] at h
      cases active with
      | true => cases h
      | false => rfl

theorem claim_run (h : device.refusal? = none) (m : σ) :
  device.claim m = ⟨.ok (.ok ()), m, [.logged device.claimRecord]⟩
  := by
  rw [claim_of_idle h]
  rfl

end Device

/-! ## Alternation -/

namespace Event

/-- The events come in pairs of an opening and a closing record, `n` pairs one after another,
with only records of the kind before, between and after these. -/
inductive Alternate (kind : LogRecord → Prop) (opening closing : LogRecord) :
    Nat → List Event → Prop
  | none {events : List Event} (h : ∀ event ∈ events, event.Logs kind) :
    Alternate kind opening closing 0 events
  | pair {n : Nat} {front within rest : List Event} (hfront : ∀ event ∈ front, event.Logs kind)
    (hwithin : ∀ event ∈ within, event.Logs kind) (hrest : Alternate kind opening closing n rest) :
    Alternate kind opening closing (n + 1)
      (front ++ (logged opening :: within ++ logged closing :: rest))

namespace Alternate

variable {kind : LogRecord → Prop} {opening closing : LogRecord} {n : Nat}
  {front within rest events : List Event}

/-- Events of the kind may come in front. -/
theorem prepend (hfront : ∀ event ∈ front, event.Logs kind)
    (hrest : Alternate kind opening closing n rest) :
  Alternate kind opening closing n (front ++ rest)
  := by
  cases hrest with
  | none hrest =>
      apply none
      intro event hevent
      rcases List.mem_append.mp hevent with hevent | hevent
      · exact hfront event hevent
      · exact hrest event hevent
  | pair hfront' hwithin hrest =>
      rw [← List.append_assoc]
      apply pair _ hwithin hrest
      intro event hevent
      rcases List.mem_append.mp hevent with hevent | hevent
      · exact hfront event hevent
      · exact hfront' event hevent

/-- A pair may come at once. -/
theorem bracket (hwithin : ∀ event ∈ within, event.Logs kind)
    (hrest : Alternate kind opening closing n rest) :
  Alternate kind opening closing (n + 1) (logged opening :: within ++ logged closing :: rest)
  := pair (List.forall_mem_nil _) hwithin hrest

theorem filterMap_eq_nil {read : Event → Option β} (h : ∀ event ∈ events, event.Logs kind)
    (hread : ∀ event : Event, event.Logs kind → read event = Option.none) :
  events.filterMap read = []
  := by
  apply List.filterMap_eq_nil_iff.mpr
  intro event hevent
  apply hread
  apply h event hevent

/-- What is read off the pairs but off no event of the kind is read off them pair by pair. -/
theorem filterMap_eq {read : Event → Option β} {b c : β}
    (hread : ∀ event : Event, event.Logs kind → read event = Option.none)
    (hopening : read (.logged opening) = some b) (hclosing : read (.logged closing) = some c)
    (h : Alternate kind opening closing n events) :
  events.filterMap read = (List.replicate n [b, c]).flatten
  := by
  induction h with
  | none h => exact filterMap_eq_nil h hread
  | pair hfront hwithin hrest ih =>
      rw [List.filterMap_append, filterMap_eq_nil hfront hread, List.nil_append,
        List.cons_append, List.filterMap_cons_some hopening, List.filterMap_append,
        filterMap_eq_nil hwithin hread, List.nil_append, List.filterMap_cons_some hclosing, ih]
      rfl

end Alternate

end Event

/-! ## Steps -/

namespace Scenario

/-- The job of an item, if it is one. -/
def Item.job? : Item → Option Job
  | .job work => some work
  | .refused _ | .setActive _ | .setUnreadable _ | .setReading _ => none

/-- Whether the step needs a claim. -/
def Step.needsClaim : Step → Bool
  | .claim | .item (.job _) | .session _ => true
  | _ => false

/-- The jobs that the step runs under its claim. -/
def Step.jobs : Step → List Job
  | .item content => content.job?.toList
  | .session items => items.filterMap Item.job?
  | _ => []

/-- The device after a step: its gate may have changed.  The changes in a session count if the
device could be claimed for it. -/
def Step.next (device : Device σ) : Step → Device σ
  | .item content => { device with gate := content.gate device.gate }
  | .session items =>
    match device.refusal? with
    | some _ => device
    | none => { device with gate := items.foldl Item.gate device.gate }
  | _ => device

/-- The workflow that runs jobs one after another, whether they succeed or fail. -/
def runJobs (device : Device σ) (jobs : List Job) :
    Workflow σ (List (Except Error JobResult)) :=
  jobs.mapM (Job.run device)

/-- The result of a job in an item, if it is one. -/
def ItemResult.job? : ItemResult → Option (Except Error JobResult)
  | .job result => some result
  | .refused _ | .gateSet => none

/-- The results of the jobs in a step. -/
def StepResult.jobs : StepResult → List (Except Error JobResult)
  | .item result => result.job?.toList
  | .session reports => reports.filterMap fun report => report.result.job?
  | _ => []

/-- The error with which the step was refused, if it was. -/
def StepResult.refusal? : StepResult → Option Error
  | .claimed (.error error) | .item (.refused error) | .refused error => some error
  | _ => none

/-- What happened in a step, in order. -/
def Report.trace (report : Report σ) : List Event :=
  match report.result with
  | .session reports => reports.flatMap ItemReport.events ++ report.events
  | _ => report.events

/-- The step was refused, and nothing happened in it. -/
structure Report.Refused (report : Report σ) (error : Error) (m : σ) : Prop where
  refusal : report.result.refusal? = some error
  trace : report.trace = []
  mailbox : report.mailbox = m

/-- The step ran the jobs one after another under one claim, and logged no other claim. -/
structure Report.Bracketed (report : Report σ) (device : Device σ) (jobs : List Job) (m : σ)
    (within : List Event) : Prop where
  admitted : report.result.refusal? = none
  run : runJobs device jobs m = ⟨.ok report.result.jobs, report.mailbox, within⟩
  trace : report.trace
    = .logged device.claimRecord :: (within ++ [.logged device.releaseRecord])
  foreign : ∀ event ∈ within, event.Logs device.transport.Foreign

/-- The step was refused if the device could not be claimed, and done under a claim otherwise. -/
structure Disciplined (device : Device σ) (step : Step) (m : σ) (report : Report σ) : Prop where
  refused : ∀ error, device.refusal? = some error → report.Refused error m
  admitted : device.refusal? = none → ∃ within, report.Bracketed device step.jobs m within

variable {device : Device σ} {step : Step} {item : Item} {items : List Item} {m m₁ m' : σ}
  {gate gate' : Gate} {report : Report σ} {before within events events' : List Event}

/-! ## Jobs in a row -/

/-- A job never asks the gate. -/
theorem Job.run_gate (device : Device σ) (gate : Gate) (job : Job) :
  job.run { device with gate } = job.run device
  := by
  cases job with
  | transfer config image => rfl
  | activate policy request => rfl
  | info => rfl
  | background query => rfl
  | name => rfl

theorem runJobs_gate (device : Device σ) (gate : Gate) (jobs : List Job) :
  runJobs { device with gate } jobs = runJobs device jobs
  := by
  have hrun : Job.run { device with gate } = Job.run device := funext (Job.run_gate device gate)
  rw [runJobs, hrun, runJobs]

theorem runJobs_append {first second : List Job} {results results' : List (Except Error JobResult)}
    (hfirst : runJobs device first m = ⟨.ok results, m₁, events⟩)
    (hsecond : runJobs device second m₁ = ⟨.ok results', m', events'⟩) :
  runJobs device (first ++ second) m = ⟨.ok (results ++ results'), m', events ++ events'⟩
  := by
  unfold runJobs
  rw [List.mapM_append]
  apply Workflow.bind_run hfirst
  rw [← List.append_nil events']
  apply Workflow.bind_run hsecond
  rfl

theorem logs_runJobs (device : Device σ) (jobs : List Job) :
  (runJobs device jobs).Logs device.transport.Foreign
  := by
  induction jobs with
  | nil => apply Workflow.Logs.pure
  | cons job jobs ih =>
      rw [runJobs, List.mapM_cons]
      apply Workflow.Logs.bind (job.logs_run device)
      intro result
      apply Workflow.Logs.bind ih
      intro results
      apply Workflow.Logs.pure

/-- Jobs log no record of a claim. -/
theorem foreign_of_runJobs {jobs : List Job} {result : Except Fault (List (Except Error JobResult))}
    (h : runJobs device jobs m = ⟨result, m', within⟩) :
  ∀ event ∈ within, event.Logs device.transport.Foreign
  := by
  have hlogs := logs_runJobs device jobs m
  rw [h] at hlogs
  exact hlogs

/-- A job is a row of its own. -/
theorem runJobs_singleton {job : Job} {result : Except Error JobResult}
    (h : job.run device m = ⟨.ok result, m', events⟩) :
  runJobs device [job] m = ⟨.ok [result], m', events⟩
  := by
  rw [runJobs, List.mapM_cons, ← List.append_nil events]
  apply Workflow.bind_run h
  rfl

/-- An item runs its job, if it has one, and does nothing otherwise. -/
theorem runJobs_of_work {result : ItemResult}
    (h : item.work device m = ⟨.ok result, m', events⟩) :
  runJobs device item.job?.toList m = ⟨.ok result.job?.toList, m', events⟩
  := by
  cases item with
  | job job =>
      obtain ⟨result', m₁, events₁, events₂, hjob, hpure, rfl⟩ := Workflow.of_bind_run h
      cases hpure
      rw [List.append_nil]
      apply runJobs_singleton hjob
  | refused error =>
      cases h
      rfl
  | setActive active =>
      cases h
      rfl
  | setUnreadable unreadable =>
      cases h
      rfl
  | setReading reading =>
      cases h
      rfl

/-! ## Sessions -/

theorem filterMap_cons_toList (f : α → Option β) (a : α) (as : List α) :
  (a :: as).filterMap f = (f a).toList ++ as.filterMap f
  := by
  rw [List.filterMap_cons]
  cases f a with
  | none => rfl
  | some b => rfl

theorem runItems_cons {rest : List Item} {reports : List ItemReport}
    (h : runItems device before (item :: rest) m = .ok (reports, m', gate)) :
  ∃ result m₁ events later, item.work device m = ⟨.ok result, m₁, events⟩
    ∧ runItems { device with gate := item.gate device.gate } [] rest m₁ = .ok (later, m', gate)
    ∧ reports = ⟨result, before ++ events⟩ :: later
  := by
  rw [runItems] at h
  split at h
  · cases h
  · rename_i result m₁ events hwork
    split at h
    · cases h
    · rename_i later after hrest
      obtain ⟨hreports, hafter⟩ := Prod.mk.inj (Except.ok.inj h)
      subst hafter
      exact ⟨result, m₁, events, later, hwork, hrest, hreports.symm⟩

/-- The items of a session run its jobs, whatever becomes of the gate in between. -/
theorem runItems_jobs {reports : List ItemReport}
    (h : runItems device before items m = .ok (reports, m', gate)) :
  gate = items.foldl Item.gate device.gate
    ∧ ∃ within, runJobs device (items.filterMap Item.job?) m
        = ⟨.ok (reports.filterMap fun report => report.result.job?), m', within⟩
      ∧ reports.flatMap ItemReport.events ++ unclaimedEvents before items = before ++ within
  := by
  -- The device is generalized since items change its gate, which no job asks.
  induction items generalizing device before m reports with
  | nil =>
      cases h
      use rfl, [], rfl
      rw [List.append_nil]
      rfl
  | cons item rest ih =>
      obtain ⟨result, m₁, events, later, hwork, hrest, rfl⟩ := runItems_cons h
      obtain ⟨hgate, within, hjobs, hevents⟩ := ih hrest
      rw [runJobs_gate] at hjobs
      have hnone : unclaimedEvents [] rest = [] := by
        cases rest with
        | nil => rfl
        | cons item rest => rfl
      rw [hnone, List.append_nil, List.nil_append] at hevents
      use hgate, events ++ within
      constructor
      · rw [filterMap_cons_toList, filterMap_cons_toList]
        apply runJobs_append (runJobs_of_work hwork) hjobs
      · rw [List.flatMap_cons, hevents, unclaimedEvents, List.append_nil, List.append_assoc]

/-! ## What a step does -/

/-- A report of what a workflow returns. -/
theorem report_map {x : Workflow σ α} {f : α → StepResult}
    (h : Scenario.report gate (do return f (← x)) m = .ok (report, gate')) :
  gate' = gate ∧ ∃ a m' events, x m = ⟨.ok a, m', events⟩ ∧ report = ⟨f a, events, m'⟩
  := by
  unfold Scenario.report at h
  split at h
  · cases h
  · rename_i result m' events hrun
    obtain ⟨a, m₁, events₁, events₂, hx, hpure, rfl⟩ := Workflow.of_bind_run hrun
    cases hpure
    cases h
    rw [List.append_nil]
    exact ⟨rfl, a, _, _, hx, rfl⟩

theorem disciplined_claim (h : runStep device .claim m = .ok (report, gate)) :
  Disciplined device .claim m report
  := by
  obtain ⟨-, result, m', events, hrun, rfl⟩ := report_map h
  rw [Device.claimed] at hrun
  constructor
  · intro error herror
    rw [Device.claim_of_refused herror, pure_bind] at hrun
    cases hrun
    exact ⟨rfl, rfl, rfl⟩
  · intro hidle
    rw [Device.claim_of_idle hidle] at hrun
    cases hrun
    exact ⟨[], rfl, rfl, rfl, nofun⟩

theorem disciplined_job {job : Job} (h : runStep device (.item (.job job)) m = .ok (report, gate)) :
  Disciplined device (.item (.job job)) m report
  := by
  obtain ⟨-, result, m', events, hrun, rfl⟩ := report_map h
  rw [Item.alone] at hrun
  constructor
  · intro error herror
    rw [Device.claim_of_refused herror, pure_bind] at hrun
    cases hrun
    exact ⟨rfl, rfl, rfl⟩
  · intro hidle
    simp only [Device.claim_of_idle hidle, bind_assoc, pure_bind] at hrun
    obtain ⟨_, m₁, claiming, events₁, hclaim, hwork, rfl⟩ := Workflow.of_bind_run hrun
    cases hclaim
    obtain ⟨result', m₂, within, releasing, hjob, hrelease, rfl⟩ := Workflow.of_bind_run hwork
    cases hrelease
    have hjobs := runJobs_singleton hjob
    use within, rfl, hjobs, rfl
    apply foreign_of_runJobs hjobs

theorem disciplined_session (h : runStep device (.session items) m = .ok (report, gate)) :
  Disciplined device (.session items) m report
  := by
  rw [runStep, runSession] at h
  constructor
  · intro error herror
    rw [Device.claim_of_refused herror] at h
    cases h
    exact ⟨rfl, rfl, rfl⟩
  · intro hidle
    simp only [Device.claim_run hidle] at h
    split at h
    · cases h
    · rename_i reports m' gate' hitems
      obtain ⟨-, within, hjobs, hevents⟩ := runItems_jobs hitems
      cases h
      use within, rfl, hjobs
      · change reports.flatMap ItemReport.events ++ (unclaimedEvents _ items ++ _) = _
        rw [← List.append_assoc, hevents]
        rfl
      · apply foreign_of_runJobs hjobs

/-- A step that needs a claim is disciplined. -/
theorem runStep_disciplined (hneeds : step.needsClaim = true)
    (h : runStep device step m = .ok (report, gate)) :
  Disciplined device step m report
  := by
  cases step with
  | claim => apply disciplined_claim h
  | session items => apply disciplined_session h
  | item item =>
      cases item with
      | job job => apply disciplined_job h
      | _ => cases hneeds
  | _ => cases hneeds

/-- A report of what a workflow returns is no session, so its trace is that of the workflow. -/
theorem foreign_of_report {x : Workflow σ α} {f : α → StepResult}
    (hsession : ∀ a reports, f a ≠ .session reports) (hx : x.Writes device.transport.Foreign)
    (h : Scenario.report gate (do return f (← x)) m = .ok (report, gate')) :
  ∀ event ∈ report.trace, event.Logs device.transport.Foreign
  := by
  obtain ⟨-, a, m', events, hrun, rfl⟩ := report_map h
  have htrace : Report.trace ⟨f a, events, m'⟩ = events := by
    unfold Report.trace
    split
    · rename_i reports hreports
      exact absurd hreports (hsession a reports)
    · rfl
  have hlogs := hx.logs m
  rw [hrun] at hlogs
  rw [htrace]
  exact hlogs

/-- A step that needs no claim logs no record of one. -/
theorem runStep_foreign (hneeds : step.needsClaim = false)
    (h : runStep device step m = .ok (report, gate)) :
  ∀ event ∈ report.trace, event.Logs device.transport.Foreign
  := by
  have hcovers := device.transport.covers_foreign
  cases step with
  | describe =>
      cases h
      nofun
  | claim => cases hneeds
  | session items => cases hneeds
  | item item =>
      cases item with
      | job job => cases hneeds
      | _ =>
          cases h
          nofun
  | submit opcode payload =>
      apply foreign_of_report (by nofun) _ h
      apply Mailbox.writes_submit hcovers
  | raw command =>
      rw [runStep] at h
      apply foreign_of_report (by nofun) _ h
      apply Workflow.Writes.exchange hcovers.records
  | query query =>
      apply foreign_of_report (by nofun) _ h
      apply Poll.writes_queryStatus hcovers
  | poll query policy =>
      apply foreign_of_report (by nofun) _ h
      apply Poll.writes_untilDone hcovers

/-- The gate after a step is the one of the next device. -/
theorem runStep_gate (h : runStep device step m = .ok (report, gate)) :
  { device with gate } = step.next device
  := by
  cases step with
  | describe =>
      cases h
      rfl
  | session items =>
      rw [runStep, runSession] at h
      rw [Step.next]
      cases hrefusal : device.refusal? with
      | some error =>
          rw [Device.claim_of_refused hrefusal] at h
          cases h
          rfl
      | none =>
          simp only [Device.claim_run hrefusal] at h
          split at h
          · cases h
          · rename_i hitems
            obtain ⟨rfl, -⟩ := runItems_jobs hitems
            cases h
            rfl
  | _ =>
      rw [runStep] at h
      obtain ⟨rfl, -⟩ := report_map h
      rfl

/-! ## Runs -/

variable {steps rest : List Step} {reports : List (Report σ)}

/-- The first step runs on the device, and the rest on the next device. -/
theorem run_cons (h : run device (step :: rest) m = .ok reports) :
  ∃ report gate later, runStep device step m = .ok (report, gate)
    ∧ run (step.next device) rest report.mailbox = .ok later ∧ reports = report :: later
  := by
  rw [run] at h
  split at h
  · cases h
  · rename_i report gate hstep
    rw [runStep_gate hstep] at h
    split at h
    · cases h
    · rename_i later hlater
      use report, gate, later, hstep, hlater
      exact (Except.ok.inj h).symm

/-- The mailbox after the reports of some steps. -/
def mailboxAfter (m : σ) (reports : List (Report σ)) : σ :=
  reports.foldl (fun _ report => report.mailbox) m

/-- A step in a run finds the device and the mailbox that the steps in front of it leave. -/
theorem run_at {earlier later : List Step}
    (h : run device (earlier ++ step :: later) m = .ok reports) :
  ∃ before report gate after, reports = before ++ report :: after
    ∧ before.length = earlier.length
    ∧ runStep (earlier.foldl Step.next device) step (mailboxAfter m before) = .ok (report, gate)
  := by
  induction earlier generalizing device m reports with
  | nil =>
      obtain ⟨report, gate, after, hstep, -, rfl⟩ := run_cons h
      exact ⟨[], report, gate, after, rfl, rfl, hstep⟩
  | cons first earlier ih =>
      obtain ⟨report, gate, others, -, hrest, rfl⟩ := run_cons h
      obtain ⟨before, report', gate', after, rfl, hlength, hstep⟩ := ih hrest
      use report :: before, report', gate', after, rfl, congrArg Nat.succ hlength
      exact hstep

/-- The count of steps that run under a claim. -/
def claimCount (device : Device σ) : List Step → Nat
  | [] => 0
  | step :: rest =>
    (step.needsClaim && device.refusal?.isNone).toNat + claimCount (step.next device) rest

/-- The trace alternates between claims on the device and releases. -/
def ClaimsAlternate (device : Device σ) : Nat → List Event → Prop :=
  Event.Alternate device.transport.Foreign device.claimRecord device.releaseRecord

theorem claimsAlternate_next (step : Step) :
  ClaimsAlternate (step.next device) = ClaimsAlternate device
  := by
  cases step with
  | session items =>
      rw [Step.next]
      cases device.refusal? with
      | some error => rfl
      | none => rfl
  | _ => rfl

/-- A step goes on with the alternation, by a pair of its own if it runs under a claim. -/
theorem alternate_step {n : Nat} (hstep : runStep device step m = .ok (report, gate))
    (hrest : ClaimsAlternate device n events) :
  ClaimsAlternate device ((step.needsClaim && device.refusal?.isNone).toNat + n)
    (report.trace ++ events)
  := by
  cases hneeds : step.needsClaim with
  | false =>
      rw [Bool.false_and, Bool.toNat_false, Nat.zero_add]
      apply hrest.prepend
      apply runStep_foreign hneeds hstep
  | true =>
      have hdisciplined := runStep_disciplined hneeds hstep
      cases hrefusal : device.refusal? with
      | some error =>
          rw [(hdisciplined.refused error hrefusal).trace]
          rw [Option.isNone_some, Bool.and_false, Bool.toNat_false, Nat.zero_add]
          exact hrest
      | none =>
          obtain ⟨within, hbracketed⟩ := hdisciplined.admitted hrefusal
          rw [hbracketed.trace, List.cons_append, List.append_assoc, Option.isNone_none,
            Bool.and_true, Bool.toNat_true, Nat.add_comm]
          apply Event.Alternate.bracket hbracketed.foreign hrest

theorem run_alternates (h : run device steps m = .ok reports) :
  ClaimsAlternate device (claimCount device steps) (reports.flatMap Report.trace)
  := by
  induction steps generalizing device m reports with
  | nil =>
      cases h
      apply Event.Alternate.none
      nofun
  | cons step rest ih =>
      obtain ⟨report, gate, later, hstep, hrest, rfl⟩ := run_cons h
      rw [List.flatMap_cons, claimCount]
      apply alternate_step hstep
      -- Steps change the gate of the device, but not the records of its claims.
      rw [← claimsAlternate_next step]
      apply ih hrest

/-! ## The log -/

/-- The records that a log shows at a threshold. -/
def shown (threshold : LogLevel) (events : List Event) : List LogRecord :=
  (events.filterMap Event.record?).filter fun record => record.level.rank ≤ threshold.rank

/-- With a discreet mailbox the records of claims and releases take turns in the log, from the
level of debugging on. -/
theorem log_of_alternate {n : Nat} {threshold : LogLevel}
    (hdiscreet : device.transport.Discreet)
    (hthreshold : LogLevel.debug.rank ≤ threshold.rank) (h : ClaimsAlternate device n events) :
  (shown threshold events).filter (fun record => record.origin = Device.origin)
    = (List.replicate n [device.claimRecord, device.releaseRecord]).flatten
  := by
  rw [shown, List.filter_filter, List.filter_filterMap]
  apply h.filterMap_eq
  · intro event hevent
    cases event with
    | logged record =>
        apply Option.filter_some_neg
        rw [decide_eq_false (hdiscreet.origin_ne hevent), Bool.false_and]
    | _ => rfl
  · apply Option.filter_some_pos
    rw [Bool.and_eq_true]
    exact ⟨rfl, decide_eq_true hthreshold⟩
  · apply Option.filter_some_pos
    rw [Bool.and_eq_true]
    exact ⟨rfl, decide_eq_true hthreshold⟩

/-- In every run, whatever the steps, the gate and the mailbox, each step that needs a claim is
disciplined: it finds the device with the gate that the steps in front of it leave, and is refused
without a trace if that gate does not let it in, or else runs its jobs, and nothing but its jobs,
between the record of the claim and that of the release.  The whole trace alternates between such
claims and releases, and so do their records in the log, from the level of debugging on, unless the
mailbox itself writes records in their name. -/
theorem claims_bracket_jobs (h : run device steps m = .ok reports) :
  (∀ earlier step later, steps = earlier ++ step :: later → step.needsClaim = true →
      ∃ before report after, reports = before ++ report :: after
        ∧ before.length = earlier.length
        ∧ Disciplined (earlier.foldl Step.next device) step (mailboxAfter m before) report)
    ∧ ClaimsAlternate device (claimCount device steps) (reports.flatMap Report.trace)
    ∧ (device.transport.Discreet → ∀ threshold, LogLevel.debug.rank ≤ threshold.rank →
      (shown threshold (reports.flatMap Report.trace)).filter
          (fun record => record.origin = Device.origin)
        = (List.replicate (claimCount device steps)
          [device.claimRecord, device.releaseRecord]).flatten)
  := by
  have halternates := run_alternates h
  refine ⟨?_, halternates, fun hdiscreet threshold hthreshold => ?_⟩
  · rintro earlier step later rfl hneeds
    obtain ⟨before, report, gate, after, hreports, hlength, hstep⟩ := run_at h
    use before, report, after, hreports, hlength
    apply runStep_disciplined hneeds hstep
  · apply log_of_alternate hdiscreet hthreshold halternates

/-- A device with a flag, whose mailbox answers every command without a payload. -/
def flagged : Device Script :=
  ⟨0, "mem0", Script.transport "scripted", .flag false false⟩

/-- Steps that need a claim, with changes of the gate between them and in a session. -/
def restless : List Step :=
  [.item (.setActive true), .item (.job .info), .item (.setActive false),
    .session [.job .info, .setActive true, .job (.background .spec), .setUnreadable true],
    .claim, .item (.setUnreadable false), .item (.setActive false), .item (.job .name)]

/-- The step for information is refused as the flag is set, the session goes on with its second
job, the claim behind it is refused as the gate cannot be read, and the name is told. -/
theorem claims_bracket_jobs_restless :
  ∃ reports, run flagged restless ⟨[], .ok ⟨0, []⟩⟩ = .ok reports
    ∧ (∃ report ∈ reports, report.result.refusal? = some (.deviceBusy "mem0")
      ∧ report.trace = [])
    ∧ (∃ report ∈ reports, report.result.refusal? = some (.protocol "gate unreadable")
      ∧ report.trace = [])
    ∧ (∃ report ∈ reports, ∃ device m within,
      report.Bracketed device [.info, .background .spec] m within)
    ∧ (shown .debug (reports.flatMap Report.trace)).filter
        (fun record => record.origin = Device.origin)
      = [flagged.claimRecord, flagged.releaseRecord, flagged.claimRecord, flagged.releaseRecord]
  := by
  obtain ⟨reports, hrun⟩ : ∃ reports, run flagged restless ⟨[], .ok ⟨0, []⟩⟩ = .ok reports :=
    ⟨_, rfl⟩
  obtain ⟨hsteps, -, hlog⟩ := claims_bracket_jobs hrun
  refine ⟨reports, hrun, ?_, ?_, ?_, hlog (Script.discreet _) .debug (Nat.le_refl _)⟩
  · obtain ⟨before, report, after, rfl, -, hdisciplined⟩ :=
      hsteps [.item (.setActive true)] (.item (.job .info)) _ rfl rfl
    have hrefused := hdisciplined.refused _ rfl
    exact ⟨report, List.mem_append_right _ List.mem_cons_self, hrefused.refusal, hrefused.trace⟩
  · obtain ⟨before, report, after, rfl, -, hdisciplined⟩ :=
      hsteps (restless.take 4) .claim _ rfl rfl
    have hrefused := hdisciplined.refused _ rfl
    exact ⟨report, List.mem_append_right _ List.mem_cons_self, hrefused.refusal, hrefused.trace⟩
  · obtain ⟨before, report, after, rfl, -, hdisciplined⟩ :=
      hsteps (restless.take 3) (.session _) _ rfl rfl
    obtain ⟨within, hbracketed⟩ := hdisciplined.admitted rfl
    exact ⟨report, List.mem_append_right _ List.mem_cons_self, _, _, within, hbracketed⟩

end Scenario

end CxlFirmware
