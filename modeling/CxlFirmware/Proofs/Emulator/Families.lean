import CxlFirmware.Proofs.Emulator.Abandonment
import CxlFirmware.Proofs.Transfer.Families

/-!
# Families of commands on a device

A device with nothing staged does the same for a transfer through the commands of the
specification and for one through those of the vendor, and likewise for an activation.  Two
copies of it stay `Twins`: they hold and process the same, the second one under the vendor's
commands.  Only an operation that ran before may be of any command, and then neither copy takes
anything.
-/

namespace CxlFirmware

namespace Emulator

open Workflow (Parallel)

/-! ## Twins -/

/-- A part of an image for a slot, received by a transfer command. -/
def staged (opcode : Opcode) (content : UInt8 × Bytes) : Staging :=
  ⟨opcode, content.1, content.2⟩

/-- The same operation, of the counterpart. -/
def Background.vendor (operation : Background) : Background :=
  { operation with opcode := operation.opcode.vendor }

/-- The report of the counterpart differs in the command alone. -/
theorem Background.report_vendor (operation : Background) :
  operation.vendor.report
    = operation.report.map fun report => { report with opcode := operation.opcode.vendor.code }
  := by
  have hasked : operation.vendor.totalPolls - operation.vendor.remaining
      = operation.totalPolls - operation.remaining := rfl
  rw [report, report, hasked]
  split
  · rfl
  · rfl

/-- The devices hold and process the same, the second one under the vendor's commands. -/
structure Twins (m n : Emulator) : Prop where
  state : n.state = m.state
  staging : ∃ content : Option (UInt8 × Bytes), m.staging = content.map (staged .transferFw)
    ∧ n.staging = content.map (staged .hboTransferFw)
  background : n.background = m.background.map Background.vendor
  busyLeft : n.busyLeft = m.busyLeft
  stepsSeen : n.stepsSeen = m.stepsSeen

/-- The devices hold the same lasting state, and both process something. -/
structure Occupied (m n : Emulator) : Prop where
  state : n.state = m.state
  first : m.background.isSome
  second : n.background.isSome

section

variable {name : String} {config : Config} {clock : Clock Emulator} {m n : Emulator}
  {payload : Bytes}

namespace Twins

theorem noted (h : Twins m n) (opcode opcode' : Opcode) :
  Twins (m.noted opcode) (n.noted opcode')
  := ⟨h.state, h.staging, h.background, h.busyLeft, h.stepsSeen⟩

theorem ready (h : Twins m n) (config : Config) :
  Twins (m.ready config) (n.ready config)
  := ⟨h.state, h.staging, h.background, rfl, h.stepsSeen⟩

theorem startBackground (h : Twins m n) (opcode : Opcode) (polls : UInt32) :
  Twins (m.startBackground opcode polls) (n.startBackground opcode.vendor polls)
  := ⟨h.state, h.staging, rfl, h.busyLeft, h.stepsSeen⟩

theorem isSome_background (h : Twins m n) :
  n.background.isSome = m.background.isSome
  := by
  rw [h.background, Option.isSome_map]

theorem isSome_staging (h : Twins m n) :
  n.staging.isSome = m.staging.isSome
  := by
  obtain ⟨content, hm, hn⟩ := h.staging
  rw [hm, hn, Option.isSome_map, Option.isSome_map]

end Twins

/-! ## Verdicts -/

/-- The verdicts are the same, and the devices are twins afterwards. -/
structure Verdict.Alike (verdict verdict' : Verdict) : Prop where
  status : verdict'.status = verdict.status
  twins : Twins verdict.device verdict'.device

/-- Where a block has to come does not depend on the family. -/
theorem expectedOffset_staged (opcode opcode' : Opcode) (content : Option (UInt8 × Bytes))
    (action : Transfer.Action) (slot : UInt8) :
  expectedOffset (content.map (staged opcode)) opcode action slot
    = expectedOffset (content.map (staged opcode')) opcode' action slot
  := by
  cases content with
  | none => cases action <;> rfl
  | some content => cases action <;> simp [expectedOffset, staged]

/-- Nor does what is staged with a block, but for the command. -/
theorem extend_staged (content : Option (UInt8 × Bytes)) (action : Transfer.Action)
    (slot : UInt8) (data : Bytes) :
  ∃ content', ∀ opcode, extend (content.map (staged opcode)) opcode action slot data
    = staged opcode content'
  := by
  cases content with
  | none => exact ⟨(slot, data), fun opcode => by cases action <;> rfl⟩
  | some content =>
      by_cases haction : action = .initiate
      · rw [haction]
        exact ⟨(slot, data), fun opcode => rfl⟩
      · exact ⟨(content.1, content.2 ++ data), fun opcode => extend_some haction data⟩

/-- A block that passed every check is taken alike. -/
theorem alike_accept (h : Twins m n) (action : Transfer.Action) (request : TransferRequest) :
  (accept name config .transferFw action request m).Alike
    (accept name config .hboTransferFw action request n)
  := by
  obtain ⟨content, hm, hn⟩ := h.staging
  obtain ⟨content', hextend⟩ := extend_staged content action request.slot request.data
  unfold accept
  simp only [hm, hn, hextend]
  split
  · constructor
    · rfl
    · apply Twins.startBackground _ .transferFw
      refine ⟨?_, ⟨none, rfl, rfl⟩, h.background, h.busyLeft, h.stepsSeen⟩
      rw [h.state]
      rfl
  · constructor
    · rfl
    · apply Twins.startBackground _ .transferFw
      exact ⟨h.state, ⟨some content', rfl, rfl⟩, h.background, h.busyLeft, h.stepsSeen⟩

/-- A block is looked at alike. -/
theorem alike_step (h : Twins m n) (action : Transfer.Action) (request : TransferRequest) :
  (step name config .transferFw action request m).Alike
    (step name config .hboTransferFw action request n)
  := by
  obtain ⟨content, hm, hn⟩ := h.staging
  have hoffset : expectedOffset n.staging .hboTransferFw action request.slot
      = expectedOffset m.staging .transferFw action request.slot := by
    rw [hm, hn]
    apply expectedOffset_staged
  have hcounted : Twins { m with stepsSeen := m.stepsSeen + 1 }
      { n with state := m.state, stepsSeen := m.stepsSeen + 1 } :=
    ⟨rfl, h.staging, h.background, h.busyLeft, rfl⟩
  simp only [step, h.stepsSeen, h.state, hoffset, ne_eq, reduceCtorEq, not_false_eq_true, true_and]
  split
  · exact ⟨rfl, hcounted⟩
  · split
    · exact ⟨rfl, hcounted⟩
    · split
      · exact alike_accept hcounted action request
      · exact ⟨rfl, hcounted⟩

/-- A transfer command is answered alike. -/
theorem alike_transfer (name : String) (config : Config) (payload : Bytes) (h : Twins m n) :
  (transfer name config .transferFw payload m).Alike
    (transfer name config .hboTransferFw payload n)
  := by
  unfold transfer
  cases TransferRequest.parse? payload with
  | none => exact ⟨rfl, h⟩
  | some request =>
      dsimp only
      cases Transfer.Action.ofCode? request.action with
      | none => exact ⟨rfl, h⟩
      | some action =>
          cases action with
          | abort => exact ⟨rfl, h.state, ⟨none, rfl, rfl⟩, h.background, h.busyLeft, h.stepsSeen⟩
          | initiate => exact alike_step h .initiate request
          | «continue» => exact alike_step h .continue request
          | «end» => exact alike_step h .end request

/-- An activation command is answered alike. -/
theorem alike_activate (name : String) (config : Config) (payload : Bytes) (h : Twins m n) :
  (activate name config .activateFw payload m).Alike
    (activate name config .hboActivateFw payload n)
  := by
  match payload with
  | [] => exact ⟨rfl, h⟩
  | [_] => exact ⟨rfl, h⟩
  | code :: slot :: rest =>
      simp only [activate, h.isSome_staging, h.state]
      split
      · exact ⟨rfl, h⟩
      · split
        · exact ⟨rfl, h⟩
        · cases Activation.Action.ofCode? code with
          | none => exact ⟨rfl, h⟩
          | some action =>
              cases action with
              | online =>
                  dsimp only
                  split
                  · constructor
                    · rfl
                    · apply Twins.startBackground _ .activateFw
                      exact ⟨rfl, h.staging, h.background, h.busyLeft, h.stepsSeen⟩
                  · exact ⟨rfl, h⟩
              | onNextReset =>
                  constructor
                  · rfl
                  · apply Twins.startBackground _ .activateFw
                    exact ⟨rfl, h.staging, h.background, h.busyLeft, h.stepsSeen⟩

/-! ## Submissions -/

/-- The devices are twins after any commands. -/
def Paired (config : Config) (m n : Emulator) : Prop :=
  Twins m n ∧ Settled config m ∧ Settled config n

/-- The devices are twins after any commands, or both occupied. -/
def Similar (config : Config) (m n : Emulator) : Prop :=
  (Twins m n ∨ Occupied m n) ∧ Settled config m ∧ Settled config n

theorem Occupied.noted (h : Occupied m n) (opcode opcode' : Opcode) :
  Occupied (m.noted opcode) (n.noted opcode')
  := ⟨h.state, h.first, h.second⟩

theorem Similar.state (h : Similar config m n) :
  n.state = m.state
  := h.1.elim Twins.state Occupied.state

theorem Paired.similar (h : Paired config m n) :
  Similar config m n
  := ⟨.inl h.1, h.2⟩

section

variable {handle handle' : Emulator → Verdict}

/-- Twins put a command off alike, or look at it alike. -/
theorem alike_gated (config : Config)
    (hhandle : ∀ m n, Twins m n → (handle m).Alike (handle' n)) (h : Twins m n) :
  (gated config handle m).Alike (gated config handle' n)
  := by
  unfold gated
  rw [h.isSome_background, h.busyLeft]
  split
  · exact ⟨rfl, h⟩
  · split
    · exact ⟨rfl, h.state, h.staging, h.background, rfl, h.stepsSeen⟩
    · exact hhandle _ _ (h.ready config)

/-- Devices that are both occupied put a command off. -/
theorem occupied_gated (config : Config) (handle handle' : Emulator → Verdict)
    (h : Occupied m n) :
  gated config handle m = ⟨.busy, [], m⟩ ∧ gated config handle' n = ⟨.busy, [], n⟩
  := by
  unfold gated
  rw [if_pos h.first, if_pos h.second]
  exact ⟨rfl, rfl⟩

variable {kept behind : Emulator → Emulator → Prop} {opcode : Opcode}

/-- What two verdicts with the same status mean to the host. -/
theorem ends_of_status {verdict verdict' : Verdict} (hstatus : verdict'.status = verdict.status)
    (hsuccess : verdict.status.code = Status.success.code → behind verdict.device verdict'.device)
    (hrefused : Similar config verdict.device verdict'.device) :
  Ends kept (fun receipt receipt' => Returns (Similar config) (fun _ _ => behind)
      (Mailbox.verdict opcode receipt) (Mailbox.verdict opcode.vendor receipt'))
    verdict.exchange.answer verdict'.exchange.answer verdict.exchange.mailbox
    verdict'.exchange.mailbox
  := by
  apply Ends.value
  rw [hstatus]
  by_cases hcode : verdict.status.code = Status.success.code
  · rw [hcode]
    exact .value (hsuccess hcode)
  · have hfailed : ∀ opcode : Opcode, Mailbox.verdict opcode (.ok ⟨verdict.status.code, []⟩)
        = .error (.device opcode (.ofCode verdict.status.code)) := by
      intro opcode
      rw [Mailbox.verdict, if_neg]
      intro hsuccess
      apply hcode
      rw [← Status.code_ofCode verdict.status.code, beq_iff_eq.mp hsuccess]
    rw [hfailed, hfailed]
    exact .error (.device opcode _) hrefused

/-- Two devices answer a command and its counterpart alike, when both are gated and looked at
alike. -/
theorem parallel_submit
    (hsubmit : ∀ device, (transport name config clock).submit ⟨opcode.code, payload⟩ device
      = (gated config handle (device.noted opcode)).exchange)
    (hsubmit' : ∀ device, (transport name config clock).submit ⟨opcode.vendor.code, payload⟩ device
      = (gated config handle' (device.noted opcode.vendor)).exchange)
    (hhandle : ∀ m n, Twins m n → (handle m).Alike (handle' n))
    (hbehind : ∀ m n, (gated config handle m).status.code = Status.success.code →
      Paired config (gated config handle m).device n → behind (gated config handle m).device n) :
  Parallel kept (Similar config) (Mailbox.submit (transport name config clock) opcode payload)
    (Mailbox.submit (transport name config clock) opcode.vendor payload)
    (Returns (Similar config) fun _ _ => behind)
  := by
  apply Mailbox.parallel_submit
  rintro m n ⟨hcopies, hsettled⟩
  have hafter := And.intro (settled_submit name clock ⟨opcode.code, payload⟩ hsettled.1)
    (settled_submit name clock ⟨opcode.vendor.code, payload⟩ hsettled.2)
  rw [hsubmit, hsubmit'] at hafter ⊢
  rcases hcopies with htwins | hoccupied
  · obtain ⟨hstatus, htwins⟩ := alike_gated config hhandle (htwins.noted opcode opcode.vendor)
    apply ends_of_status hstatus
    · intro hsuccess
      exact hbehind _ _ hsuccess ⟨htwins, hafter⟩
    · exact ⟨.inl htwins, hafter⟩
  · obtain ⟨hm, hn⟩ := occupied_gated config handle handle' (hoccupied.noted opcode opcode.vendor)
    rw [hm, hn] at hafter ⊢
    have hnoted := hoccupied.noted opcode opcode.vendor
    exact .value (.error (.device opcode .busy) ⟨.inr hnoted, hafter⟩)

end

/-! ## Status queries -/

/-- What twins report, and are afterwards: an operation runs, the same in both, or one has
ended, with success, or the report is a fault of both. -/
theorem Twins.reported (h : Twins m n) (hsettled : Settled config m)
    (hsettled' : Settled config n) :
  Twins m.backgroundStatus.2 n.backgroundStatus.2
    ∧ (m.backgroundStatus.1 = .error .product ∧ n.backgroundStatus.1 = .error .product
      ∨ ∃ report report', m.backgroundStatus.1 = .ok report ∧ n.backgroundStatus.1 = .ok report'
        ∧ (report.inProgress = true ∧ report.Renamed report'
            ∧ m.backgroundStatus.2.background.isSome
          ∨ report.inProgress = false ∧ report'.inProgress = false
            ∧ report.status = .success ∧ report'.status = .success
            ∧ (m.background.isSome → report.Renamed report')))
  := by
  have hbackground := h.background
  unfold backgroundStatus
  cases hm : m.background with
  | none =>
      rw [hm] at hbackground
      simp only [hbackground, Option.map_none]
      exact ⟨h, .inr ⟨_, _, rfl, rfl, .inr ⟨hsettled.ended, hsettled'.ended, hsettled.success,
        hsettled'.success, nofun⟩⟩⟩
  | some operation =>
      rw [hm] at hbackground
      have hremaining : operation.vendor.remaining = operation.remaining := rfl
      simp only [hbackground, Option.map_some, hremaining]
      split
      · constructor
        · exact ⟨h.state, h.staging, rfl, h.busyLeft, h.stepsSeen⟩
        · rcases Nat.lt_or_ge operation.asked shownPolls with hlt | hle
          · obtain ⟨percent, hreport, -⟩ := Background.report_of_lt hlt
            exact .inr ⟨_, _, hreport, by rw [Background.report_vendor, hreport]; rfl,
              .inl ⟨rfl, ⟨operation.opcode, rfl, rfl⟩, rfl⟩⟩
          · have hfault := Background.report_of_le hle
            exact .inl ⟨hfault, by rw [Background.report_vendor, hfault]; rfl⟩
      · constructor
        · exact ⟨h.state, h.staging, rfl, h.busyLeft, h.stepsSeen⟩
        · exact .inr ⟨_, _, rfl, rfl, .inr ⟨rfl, rfl, rfl, rfl, fun _ =>
            ⟨operation.opcode, rfl, rfl⟩⟩⟩

/-- What comes back for a status query that has a report. -/
theorem verdict_of_status (query : StatusQuery) (report : BackgroundStatus) :
  query.verdict (.ok ⟨Status.success.code, query.encode report⟩) = .ok report.written
  := by
  apply query.verdict_eq_ok.mpr
  exact ⟨_, rfl, rfl, query.decode_encode _⟩

section

variable {kept behind : Emulator → Emulator → Prop}
  {done : BackgroundStatus → BackgroundStatus → Emulator → Emulator → Prop}

/-- Twins answer the status queries of the two families alike. -/
theorem parallel_query (name : String) (hpaired : ∀ m n, behind m n → Paired config m n)
    (hkept : ∀ m n, Paired config m n → kept m n)
    (hrunning : ∀ m n, Paired config m n → m.background.isSome → behind m n)
    (hdone : ∀ m n report report' m' n', behind m n →
      (m.background.isSome → report.Renamed report') → Paired config m' n' →
      done report report' m' n') :
  Parallel kept behind (Poll.queryStatus (transport name config clock) .spec)
    (Poll.queryStatus (transport name config clock) .hbo) (Poll.Observes behind done)
  := by
  apply Poll.parallel_queryStatus
  intro m n hbehind
  obtain ⟨htwins, hsettled, hsettled'⟩ := hpaired m n hbehind
  have hafter := And.intro (settled_submit name clock ⟨StatusQuery.spec.opcode.code, []⟩ hsettled)
    (settled_submit name clock ⟨StatusQuery.hbo.opcode.code, []⟩ hsettled')
  rw [submit_status, submit_status, replyStatus, replyStatus, backgroundStatus_noted,
    backgroundStatus_noted] at hafter ⊢
  obtain ⟨htwins', ⟨hfault, hfault'⟩ | ⟨report, report', hreport, hreport', hcases⟩⟩ :=
    htwins.reported hsettled hsettled'
  · rw [hfault, hfault']
    exact .fault .product (hkept _ _ ⟨htwins'.noted _ _, hafter⟩)
  · rw [hreport, hreport']
    apply Ends.value
    rw [verdict_of_status, verdict_of_status]
    rcases hcases with ⟨hprogress, hrenamed, hbackground⟩
      | ⟨hended, hended', hsuccess, hsuccess', hrenamed⟩
    · have hstill := hrunning _ _ ⟨htwins'.noted _ _, hafter⟩ hbackground
      exact .running hprogress hrenamed.written hstill
    · have hover := hdone m n _ _ _ _ hbehind (fun hsome => (hrenamed hsome).written)
        ⟨htwins'.noted _ _, hafter⟩
      exact .ended hended hended' hsuccess hsuccess' hover

end

/-! ## Runs -/

/-- Transfers are the same through either family. -/
theorem interchangeable_transfer (name : String) (config : Config)
    (hclock : ∀ delay m n, clock delay m = clock delay n) :
  Interchangeable (transport name config clock) (transport name config clock) .transferFw
    (fun m n => n.state = m.state) (Similar config) (Paired config) (fun _ _ => Paired config)
  := by
  constructor
  · intro payload
    apply parallel_submit (submit_transfer name config .specDefined payload)
      (submit_transfer name config .vendorBackground payload)
    · exact fun m n => alike_transfer name config payload
    · exact fun m n _ hpaired => hpaired
  · apply parallel_query
    · exact fun m n hpaired => hpaired
    · exact fun m n hpaired => hpaired.similar.state
    · exact fun m n hpaired _ => hpaired
    · exact fun _ _ _ _ m n _ _ hpaired => hpaired
  · exact fun delay m n _ => hclock delay m n
  · exact fun m n => Similar.state
  · exact fun m n => Paired.similar
  · exact fun _ _ m n => Paired.similar

/-- Behind an activation that is taken, an operation runs. -/
theorem running_of_activated (opcode : Opcode) (device : Emulator)
    (h : (gated config (activate name config opcode payload) device).status.code
      = Status.success.code) :
  (gated config (activate name config opcode payload) device).device.background.isSome
  := by
  by_cases hbusy : device.IsBusy
  · obtain ⟨_, hgated, -⟩ := gated_of_isBusy config (activate name config opcode payload) hbusy
    rw [hgated] at h
    have hother : Status.busy.code ≠ Status.success.code := by decide
    exact absurd h hother
  · rw [gated_of_idle hbusy] at h ⊢
    rcases activate_cases name config opcode payload (device.ready config) with
      ⟨status, hstatus, hrefused⟩ | ⟨_, _, _, _, _, _, -, -, -, -, -, hdone⟩
    · rw [hrefused] at h
      exact absurd h hstatus
    · rw [hdone]
      rfl

/-- Activations are the same through either family, and report the end of the same operation. -/
theorem interchangeable_activation (name : String) (config : Config)
    (hclock : ∀ delay m n, clock delay m = clock delay n) :
  Interchangeable (transport name config clock) (transport name config clock) .activateFw
    (fun m n => n.state = m.state) (Similar config)
    (fun m n => Paired config m n ∧ m.background.isSome)
    (fun report report' m n => report.Renamed report' ∧ Paired config m n)
  := by
  constructor
  · intro payload
    apply parallel_submit (fun _ => rfl) (fun _ => rfl)
    · exact fun m n => alike_activate name config payload
    · exact fun m n hsuccess hpaired => ⟨hpaired, running_of_activated .activateFw m hsuccess⟩
  · apply parallel_query
    · exact fun m n hbehind => hbehind.1
    · exact fun m n hpaired => hpaired.similar.state
    · exact fun m n hpaired hrunning => ⟨hpaired, hrunning⟩
    · exact fun _ _ _ _ m n hbehind hrenamed hpaired => ⟨hrenamed hbehind.2, hpaired⟩
  · exact fun delay m n _ => hclock delay m n
  · exact fun m n => Similar.state
  · exact fun m n hbehind => hbehind.1.similar
  · exact fun _ _ m n hdone => hdone.2.similar

/-- The runs end alike, up to the names of the commands, wait for the same times, report the
same progress, and leave the same state. -/
structure RunsRenamed {α β : Type} (done : α → β → Prop) (run : Run Emulator (Except Error α))
    (run' : Run Emulator (Except Error β)) : Prop where
  result : ResultRenamed done run.result run'.result
  sleeps : run'.sleeps = run.sleeps
  reports : run'.reports = run.reports
  state : run'.mailbox.state = run.mailbox.state

theorem runsRenamed_of_alike {α β : Type} {done : α → β → Prop}
    {post : α → β → Emulator → Emulator → Prop} {run : Run Emulator (Except Error α)}
    {run' : Run Emulator (Except Error β)}
    (h : run.Alike (fun m n => n.state = m.state) (Returns (Similar config) post) run')
    (hdone : ∀ a b m n, post a b m n → done a b ∧ Similar config m n) :
  RunsRenamed done run run'
  := by
  obtain ⟨hsleeps, hreports, hends⟩ := h
  obtain ⟨result, mailbox, _⟩ := run
  obtain ⟨result', mailbox', _⟩ := run'
  dsimp only at hends
  rcases hends with ⟨fault, hstate⟩ | ⟨hvalue | ⟨herror, hsimilar⟩⟩
  · exact ⟨.fault fault, hsleeps, hreports, hstate⟩
  · obtain ⟨hdone, hsimilar⟩ := hdone _ _ _ _ hvalue
    exact ⟨.value hdone, hsleeps, hreports, hsimilar.state⟩
  · exact ⟨.error herror, hsleeps, hreports, hsimilar.state⟩

/-- A device with nothing staged is a twin of itself, unless an operation runs. -/
theorem similar_self {device : Emulator} (hsettled : Settled config device)
    (hstaging : device.staging = none) :
  Similar config device device
  := by
  refine ⟨?_, hsettled, hsettled⟩
  cases hbackground : device.background with
  | none =>
      left
      refine ⟨rfl, ⟨none, hstaging, hstaging⟩, ?_, rfl, rfl⟩
      rw [hbackground]
      rfl
  | some operation =>
      right
      exact ⟨rfl, Option.isSome_of_mem hbackground, Option.isSome_of_mem hbackground⟩

/-- On a device with nothing staged, whatever operation it runs, a transfer or an activation
through the commands of the specification and one through those of the vendor are the same up
to the names of the commands.  Every device is settled, as long as nothing but commands
changes it. -/
theorem families_interchangeable (name : String) (host : String) {device : Emulator}
    (hclock : ∀ delay m n, clock delay m = clock delay n) (hsettled : Settled config device)
    (hstaging : device.staging = none) :
  let transport := transport name config clock
  (∀ (transfer : Transfer.Config) (image : Image), RunsRenamed Transfer.Outcome.Renamed
      (Transfer.run transport host (transfer.withKind .specDefined) image device)
      (Transfer.run transport host (transfer.withKind .vendorBackground) image device))
    ∧ ∀ (policy : RetryPolicy) (request : Activation.Request),
      RunsRenamed BackgroundStatus.Renamed
        (Activation.run transport host policy (request.withKind .specDefined) device)
        (Activation.run transport host policy (request.withKind .vendorBackground) device)
  := by
  intro transport
  have hsimilar := similar_self hsettled hstaging
  constructor
  · intro transfer image
    have hparallel := Transfer.parallel_run (interchangeable_transfer name config hclock) host
      transfer image
    apply runsRenamed_of_alike (hparallel device device hsimilar)
    exact fun a b m n hdone => hdone
  · intro policy request
    have hparallel := Activation.parallel_run (interchangeable_activation name config hclock) host
      policy request
    apply runsRenamed_of_alike (hparallel device device hsimilar)
    exact fun a b m n hdone => ⟨hdone.1, hdone.2.similar⟩

end

/-- A new device is not fast enough for a transfer that polls once, whichever commands it
uses, and each time the transfer fails with the command's own name. -/
theorem families_interchangeable_hasty :
  let transfer := fun kind => Transfer.run (transport "mem0" .default .still) "mem0"
    (hasty.withKind kind) ⟨List.replicate 128 1 ++ [2], none, nofun⟩ (start .default .default)
  RunsRenamed Transfer.Outcome.Renamed (transfer .specDefined) (transfer .vendorBackground)
    ∧ Transfer.failure? (transfer .specDefined).result = some (0, .initiate,
      .pollExhausted 0x0201 1 0, some "transfer-fw (0x0201) still Busy after 3 attempts")
    ∧ Transfer.failure? (transfer .vendorBackground).result = some (0, .initiate,
      .pollExhausted 0xCD01 1 0, some "hbo-transfer-fw (0xCD01) still Busy after 3 attempts")
  := by
  intro transfer
  have hclock : ∀ delay (m n : Emulator), Clock.still delay m = Clock.still delay n :=
    fun _ _ _ => rfl
  obtain ⟨htransfers, -⟩ := families_interchangeable "mem0" "mem0" hclock
    (settled_start .default .default) rfl
  constructor
  · exact htransfers hasty _
  · decide +kernel

end Emulator

end CxlFirmware
