import CxlFirmware.Proofs.Emulator.Settled
import CxlFirmware.Proofs.Emulator.Slots

/-!
# The course of a background operation

A block or an activation that a device accepts begins a background operation, which ends with
a fixed status query after it, whatever other commands come between.  `Progress` says how far
the operation is after some queries; `progress_submit` is one command, and
`progress_of_yields` any commands.  Until the operation has ended, the device puts transfers
and activations off and is changed by status queries alone.
-/

namespace CxlFirmware

/-- The family that an activation command belongs to. -/
def Opcode.activationKind? : Opcode → Option Activation.Kind
  | activateFw => some .specDefined
  | hboActivateFw => some .vendorBackground
  | _ => none

@[simp]
theorem Opcode.activationKind?_opcode (kind : Activation.Kind) :
  kind.opcode.activationKind? = some kind
  := by
  cases kind <;> rfl

/-- The layout that a status query asks for. -/
def Opcode.statusQuery? : Opcode → Option StatusQuery
  | getBackgroundStatus => some .spec
  | hboStatus => some .hbo
  | _ => none

@[simp]
theorem Opcode.statusQuery?_opcode (query : StatusQuery) :
  query.opcode.statusQuery? = some query
  := by
  cases query <;> rfl

/-- The command is a transfer command or an activation command. -/
def Opcode.Acts (opcode : Opcode) : Prop :=
  opcode.transferKind?.isSome ∨ opcode.activationKind?.isSome

/-- The layout that a command asks for, if it is a status query. -/
def Command.query? (command : Command) : Option StatusQuery :=
  (Opcode.ofCode? command.opcode).bind Opcode.statusQuery?

theorem Command.query?_status (query : StatusQuery) (payload : Bytes) :
  query? ⟨query.opcode.code, payload⟩ = some query
  := by
  simp [query?]

theorem Command.opcode_of_query? {command : Command} {query : StatusQuery}
    (h : command.query? = some query) :
  command.opcode = query.opcode.code
  := by
  obtain ⟨opcode, hopcode, hquery⟩ := Option.bind_eq_some_iff.mp h
  rw [Opcode.eq_of_ofCode? hopcode]
  cases opcode <;> cases hquery <;> rfl

/-- The count of status queries among submissions. -/
def queries (trace : List Submission) : Nat :=
  trace.countP fun s => s.command.query?.isSome

theorem queries_send {σ : Type} (transport : Transport σ) (m : σ) (commands : List Command) :
  queries (transport.send m commands).1 = commands.countP fun command => command.query?.isSome
  := by
  induction commands generalizing m with
  | nil => rfl
  | cons command rest ih =>
      rw [Transport.send, queries, List.countP_cons, List.countP_cons, ← ih]
      rfl

namespace Emulator

/-- The count of status queries for which the operation runs that a command begins when it is
accepted. -/
def Config.polls? (config : Config) (command : Command) : Option UInt32 :=
  match command.order? with
  | some order => if order.action = .abort then none else some config.processingPolls
  | none =>
    ((Opcode.ofCode? command.opcode).bind Opcode.activationKind?).map
      fun _ => config.activationPolls

/-- The submission begins an operation. -/
def Config.Begins (config : Config) (s : Submission) : Prop :=
  (config.polls? s.command).isSome ∧ s.answer.IsSuccess

/-- How far an operation is after `asked` status queries. -/
inductive Progress (operation : Background) (asked : Nat) (device : Emulator) : Prop
  | running (left : UInt32) (hasked : asked + left.toNat = operation.totalPolls.toNat)
      (hbackground : device.background = some { operation with remaining := left })
  | ended (hasked : operation.totalPolls.toNat < asked) (hbackground : device.background = none)
      (hlast : device.lastBackground = operation.finished)

variable {name : String} {config : Config} {clock : Clock Emulator} {command : Command}
  {operation : Background} {asked : Nat} {before after : Emulator} {answer : Answer}

/-! ## The beginning of an operation -/

/-- A command that begins an operation neither asks for the slots nor for the status. -/
theorem polls?_of_no_order {opcode : Opcode} {payload : Bytes}
    (h : opcode.transferKind? = none) (h' : opcode.activationKind? = none) :
  config.polls? ⟨opcode.code, payload⟩ = none
  := by
  have horder : Command.order? ⟨opcode.code, payload⟩ = none := by
    simp [Command.order?, h]
  simp [Config.polls?, horder, h']

theorem polls?_of_query {query : StatusQuery} (h : command.opcode = query.opcode.code) :
  config.polls? command = none
  := by
  obtain ⟨code, payload⟩ := command
  obtain rfl : code = query.opcode.code := h
  cases query with
  | spec => exact polls?_of_no_order rfl rfl
  | hbo => exact polls?_of_no_order rfl rfl

theorem polls?_of_order {order : Order} (horder : command.order? = some order)
    (haction : order.action ≠ .abort) :
  config.polls? command = some config.processingPolls
  := by
  simp only [Config.polls?, horder, haction, if_false]

theorem polls?_activation (kind : Activation.Kind) (payload : Bytes) :
  config.polls? ⟨kind.opcode.code, payload⟩ = some config.activationPolls
  := by
  simp only [Config.polls?, order?_activation, Opcode.ofCode?_code, Option.bind_some,
    Opcode.activationKind?_opcode, Option.map_some]

/-- A command that is accepted begins its operation. -/
theorem Effect.begins (h : Effect config command before answer after) (hfail : config.Refuses)
    {polls : UInt32} (hpolls : config.polls? command = some polls)
    (hanswer : answer.IsSuccess) :
  ∃ opcode : Opcode, opcode.code = command.opcode
    ∧ after.background = some ⟨opcode, polls, polls⟩
  := by
  cases h with
  | unmoved _ hsuccess =>
      rcases hsuccess hanswer with hinfo | ⟨-, hpretends⟩
      · obtain ⟨code, payload⟩ := command
        obtain rfl : code = Opcode.getFwInfo.code := hinfo
        rw [polls?_of_no_order rfl rfl] at hpolls
        cases hpolls
      · exact absurd hpretends (config.not_pretends_of_refuses hfail _)
  | reported query hcommand =>
      rw [polls?_of_query hcommand] at hpolls
      cases hpolls
  | aborted horder haction =>
      simp [Config.polls?, horder, haction] at hpolls
  | @taken order horder haction _ _ _ hbackground =>
      rw [polls?_of_order horder haction] at hpolls
      cases hpolls
      exact ⟨order.kind.opcode, (Command.order?_eq_some.mp horder).1.symm, hbackground⟩
  | activated kind hcommand _ _ _ _ _ _ _ _ hbackground =>
      rw [hcommand, polls?_activation] at hpolls
      rw [hcommand]
      cases hpolls
      exact ⟨kind.opcode, rfl, hbackground⟩

/-- An operation that was not running before is begun by the command. -/
theorem Effect.starts (h : Effect config command before answer after)
    (hidle : before.background = none) (hbegun : after.background.isSome) :
  ∃ polls opcode, config.polls? command = some polls ∧ opcode.code = command.opcode
    ∧ after.background = some ⟨opcode, polls, polls⟩
  := by
  cases h with
  | unmoved hunmoved _ =>
      rw [hunmoved.background, hidle] at hbegun
      cases hbegun
  | reported query _ _ _ hbackground =>
      rw [hbackground, Emulator.backgroundStatus, hidle] at hbegun
      rw [hidle] at hbegun
      cases hbegun
  | aborted _ _ _ _ _ _ hnone =>
      rw [hnone] at hbegun
      cases hbegun
  | taken horder haction _ _ _ hbackground =>
      exact ⟨_, _, polls?_of_order horder haction, (Command.order?_eq_some.mp horder).1.symm,
        hbackground⟩
  | activated kind hcommand _ _ _ _ _ _ _ _ hbackground =>
      rw [hcommand]
      exact ⟨_, _, polls?_activation kind _, rfl, hbackground⟩

/-! ## One command -/

/-- While an operation runs, a command that is no status query changes the history alone, and
one that transfers or activates is put off. -/
theorem submit_of_running (name : String) (config : Config)
    (hrunning : before.background.isSome) (hquery : command.query? = none) :
  ((transport name config clock).submit command before).mailbox
      = { before with history := command.opcode :: before.history }
    ∧ ∀ opcode : Opcode, command.opcode = opcode.code → opcode.Acts →
      ((transport name config clock).submit command before).answer = busyAnswer
  := by
  have hgated : ∀ handle : Emulator → Verdict,
      gated config handle { before with history := command.opcode :: before.history }
        = ⟨.busy, [], { before with history := command.opcode :: before.history }⟩ := by
    intro handle
    rw [gated, if_pos hrunning]
  cases hopcode : Opcode.ofCode? command.opcode with
  | none =>
      constructor
      · simp only [transport, handle, hopcode]
        rfl
      · intro opcode hcode
        rw [hcode, Opcode.ofCode?_code] at hopcode
        cases hopcode
  | some opcode =>
      have hsame : ∀ opcode' : Opcode, command.opcode = opcode'.code → opcode' = opcode := by
        intro opcode' hcode
        rw [hcode, Opcode.ofCode?_code] at hopcode
        exact Option.some.inj hopcode
      simp only [Command.query?, hopcode, Option.bind_some] at hquery
      simp only [transport, handle, hopcode]
      cases opcode with
      | getBackgroundStatus => cases hquery
      | hboStatus => cases hquery
      | getFwInfo =>
          refine ⟨rfl, ?_⟩
          rintro opcode' hcode hacts
          obtain rfl := hsame opcode' hcode
          simp [Opcode.Acts, Opcode.transferKind?, Opcode.activationKind?] at hacts
      | transferFw => simp only [replyTransfer, hgated]; exact ⟨rfl, fun _ _ _ => rfl⟩
      | hboTransferFw => simp only [replyTransfer, hgated]; exact ⟨rfl, fun _ _ _ => rfl⟩
      | hboTransferOsImage => simp only [replyTransfer, hgated]; exact ⟨rfl, fun _ _ _ => rfl⟩
      | activateFw => simp only [replyActivate, hgated]; exact ⟨rfl, fun _ _ _ => rfl⟩
      | hboActivateFw => simp only [replyActivate, hgated]; exact ⟨rfl, fun _ _ _ => rfl⟩

/-- An operation is as far on a device that processes and reports the same. -/
theorem Progress.of_eq (h : Progress operation asked before)
    (hbackground : after.background = before.background)
    (hlast : after.lastBackground = before.lastBackground) :
  Progress operation asked after
  := by
  cases h with
  | running left hasked hrunning => exact .running left hasked (hbackground.trans hrunning)
  | ended hasked hnone hended => exact .ended hasked (hbackground.trans hnone) (hlast.trans hended)

/-- What a status query reports of an operation, if it can, and how far the operation is then. -/
theorem Progress.backgroundStatus (h : Progress operation asked before) :
  Progress operation (asked + 1) before.backgroundStatus.2
    ∧ (asked < operation.totalPolls.toNat → asked < shownPolls →
      ∃ percent : UInt8,
        before.backgroundStatus.1 = .ok ⟨true, percent, operation.opcode.code, 0, 0⟩
        ∧ percent.toNat = 100 * asked / operation.totalPolls.toNat)
    ∧ (asked < operation.totalPolls.toNat → shownPolls ≤ asked →
      before.backgroundStatus.1 = .error .product)
    ∧ (operation.totalPolls.toNat ≤ asked → before.backgroundStatus.1 = .ok operation.finished)
  := by
  cases h with
  | ended hasked hnone hlast =>
      simp only [Emulator.backgroundStatus, hnone]
      refine ⟨.ended (by omega) hnone hlast, ?_, ?_, fun _ => by rw [hlast]⟩
      · intro hlt
        omega
      · intro hlt
        omega
  | running left hasked hbackground =>
      simp only [Emulator.backgroundStatus, hbackground]
      by_cases hleft : 0 < left
      · rw [if_pos hleft]
        have hone : (1 : UInt32) ≤ left := by
          rw [UInt32.le_iff_toNat_le]
          exact UInt32.lt_iff_toNat_lt.mp hleft
        have hsub : (left - 1).toNat = left.toNat - 1 := UInt32.toNat_sub_of_le _ _ hone
        have hcount : ({ operation with remaining := left } : Background).asked = asked :=
          Background.asked_add_remaining hasked
        rw [UInt32.lt_iff_toNat_lt, UInt32.toNat_zero] at hleft
        refine ⟨.running (left - 1) ?_ rfl, ?_, ?_, ?_⟩
        · rw [hsub]
          omega
        · intro hlt hshown
          rw [← hcount] at hlt hshown ⊢
          obtain ⟨percent, hreport, hpercent⟩ := Background.report_of_lt hshown
          exact ⟨percent, hreport, hpercent hlt⟩
        · intro _ hshown
          rw [← hcount] at hshown
          exact Background.report_of_le hshown
        · intro hle
          omega
      · rw [if_neg hleft]
        rw [UInt32.lt_iff_toNat_lt, UInt32.toNat_zero] at hleft
        refine ⟨.ended (by omega) rfl rfl, ?_, ?_, fun _ => rfl⟩
        · intro hlt
          omega
        · intro hlt
          omega

/-- A status query takes an operation one further. -/
theorem progress_query (name : String) (config : Config) (query : StatusQuery) (payload : Bytes)
    (h : Progress operation asked before) :
  Progress operation (asked + 1)
    ((transport name config clock).submit ⟨query.opcode.code, payload⟩ before).mailbox
  := by
  rw [submit_status, replyStatus, backgroundStatus_noted]
  exact h.backgroundStatus.1.of_eq rfl rfl

/-- No other command changes how far an operation is, unless it begins another one. -/
theorem progress_submit_of_no_query (name : String) (config : Config)
    (h : Progress operation asked before) (hquery : command.query? = none)
    (hbegins : operation.totalPolls.toNat < asked →
      ¬ config.Begins ⟨command, ((transport name config clock).submit command before).answer⟩) :
  Progress operation asked ((transport name config clock).submit command before).mailbox
  := by
  cases h with
  | running left hasked hbackground =>
      have hrunning : before.background.isSome := by
        rw [hbackground]
        rfl
      rw [(submit_of_running name config hrunning hquery).1]
      exact .running left hasked hbackground
  | ended hasked hnone hlast =>
      have hprogress : Progress operation asked before := .ended hasked hnone hlast
      have hnever := hbegins hasked
      cases effect_submit name config clock command before with
      | unmoved hunmoved _ => exact hprogress.of_eq hunmoved.background hunmoved.lastBackground
      | reported query hcommand =>
          obtain ⟨code, payload⟩ := command
          obtain rfl : code = query.opcode.code := hcommand
          rw [Command.query?_status] at hquery
          cases hquery
      | aborted _ _ _ _ _ _ hnone' hlast' => exact hprogress.of_eq (hnone'.trans hnone.symm) hlast'
      | taken horder haction _ hanswer =>
          exact absurd ⟨by simp [polls?_of_order horder haction], hanswer⟩ hnever
      | activated kind hcommand _ _ _ _ hanswer =>
          exact absurd ⟨by simp [hcommand, polls?_activation], hanswer⟩ hnever

/-! ## Any commands -/

/-- After any commands, an operation is as far as it was asked for, unless another one has
begun since it ended. -/
theorem progress_of_yields {trace : List Submission}
    (hpath : (transport name config clock).Yields before trace after)
    (h : Progress operation asked before)
    (hbegins : operation.totalPolls.toNat < asked + queries trace →
      ∀ s ∈ trace, ¬ config.Begins s) :
  Progress operation (asked + queries trace) after
  := by
  induction hpath generalizing asked with
  | nil device => exact h
  | @cons before after trace command hpath ih =>
      generalize hsubmit : (transport name config clock).submit command before = reaction
      rw [hsubmit] at hbegins hpath ih
      cases hquery : command.query? with
      | none =>
          have hcount : queries (⟨command, reaction.answer⟩ :: trace) = queries trace := by
            simp [queries, hquery]
          rw [hcount] at hbegins ⊢
          apply ih
          · rw [← hsubmit]
            apply progress_submit_of_no_query name config h hquery
            intro hlt
            rw [hsubmit]
            exact hbegins (by omega) _ List.mem_cons_self
          · intro hlt s hs
            exact hbegins hlt s (List.mem_cons_of_mem _ hs)
      | some query =>
          have hcount : queries (⟨command, reaction.answer⟩ :: trace) = 1 + queries trace := by
            simp [queries, hquery, Nat.add_comm]
          rw [hcount, ← Nat.add_assoc] at hbegins ⊢
          apply ih
          · obtain ⟨code, payload⟩ := command
            obtain rfl : code = query.opcode.code := Command.opcode_of_query? hquery
            rw [← hsubmit]
            exact progress_query name config query payload h
          · intro hlt s hs
            exact hbegins hlt s (List.mem_cons_of_mem _ hs)

/-- No other operation can begin before the one that runs has been asked for often enough. -/
theorem progress_of_le {opcode : Opcode} {polls : UInt32} {trace : List Submission}
    (hpath : (transport name config clock).Yields before trace after)
    (hbegun : before.background = some ⟨opcode, polls, polls⟩)
    (hle : queries trace ≤ polls.toNat) :
  Progress ⟨opcode, polls, polls⟩ (queries trace) after
  := by
  have hstart : Progress ⟨opcode, polls, polls⟩ 0 before :=
    .running polls (Nat.zero_add _) hbegun
  have hprogress := progress_of_yields hpath hstart
  rw [Nat.zero_add] at hprogress
  exact hprogress fun hgt => absurd hle (Nat.not_le_of_gt hgt)

/-- Status queries alone take an operation as far as they ask for it. -/
theorem progress_send (name : String) (config : Config) (clock : Clock Emulator)
    (query : StatusQuery) {opcode : Opcode} {polls : UInt32}
    (hbegun : before.background = some ⟨opcode, polls, polls⟩) (count : Nat)
    (hle : count ≤ polls.toNat) :
  let asked := (transport name config clock).send before
    (List.replicate count ⟨query.opcode.code, []⟩)
  queries asked.1 = count ∧ Progress ⟨opcode, polls, polls⟩ count asked.2
  := by
  intro asked
  have hqueries : queries asked.1 = count := by
    rw [queries_send, List.countP_replicate, Command.query?_status]
    rfl
  have hprogress := progress_of_le ((transport name config clock).yields_send before _) hbegun
    (hqueries ▸ hle)
  rw [hqueries] at hprogress
  exact ⟨hqueries, hprogress⟩

/-- An operation that has been asked for too often ends the program with the next status query. -/
theorem Progress.answer_of_le (name : String) (config : Config) (clock : Clock Emulator)
    (h : Progress operation asked before) (hlt : asked < operation.totalPolls.toNat)
    (hshown : shownPolls ≤ asked) (query : StatusQuery) (payload : Bytes) :
  ((transport name config clock).submit ⟨query.opcode.code, payload⟩ before).answer
    = .error .product
  := by
  rw [answer_status, h.backgroundStatus.2.2.1 hlt hshown]
  rfl

/-! ## The whole course -/

/-- A status query is answered with what the device has to report. -/
theorem reports_submit (name : String) (config : Config) (query : StatusQuery) (payload : Bytes)
    {device : Emulator} {report : BackgroundStatus}
    (h : device.backgroundStatus.1 = .ok report) :
  query.Reports ((transport name config clock).submit ⟨query.opcode.code, payload⟩ device).answer
    report.written
  := by
  rw [answer_status, h]
  exact ⟨_, rfl, rfl, query.decode_encode report⟩

/-- The device looks at transfers and activations at once. -/
def Looks (name : String) (config : Config) (clock : Clock Emulator) (device : Emulator) :
    Prop :=
  (∀ (kind : Transfer.Kind) payload,
    (transport name config clock).submit ⟨kind.opcode.code, payload⟩ device
      = (transfer name config kind.opcode payload
        ((device.noted kind.opcode).ready config)).exchange)
  ∧ ∀ (kind : Activation.Kind) payload,
    (transport name config clock).submit ⟨kind.opcode.code, payload⟩ device
      = (activate name config kind.opcode payload
        ((device.noted kind.opcode).ready config)).exchange

/-- A device that is not busy does. -/
theorem looks_of_idle (name : String) (config : Config) {device : Emulator}
    (h : ¬ device.IsBusy) :
  device.Looks name config clock
  := by
  constructor
  · intro kind payload
    rw [submit_transfer]
    exact replyTransfer_of_idle h
  · intro kind payload
    rw [submit_activation, replyActivate]
    exact congrArg Verdict.exchange (gated_of_idle h)

/-- Behind a command that is accepted with `polls` queries to come, and any further commands:
each of the first `polls` status queries reports that the operation runs, the next one that it
has ended with success, and so does each one after it until another operation begins.  Only of
the first `polls` queries, those behind `shownPolls` of them end the program instead.  Before
the operation has ended, no other command does anything but enter the history, and transfers
and activations are put off.  After it, the device puts off only what it is told to. -/
theorem operation_course (name : String) {polls : UInt32} {trace : List Submission}
    {device later : Emulator} (hfail : config.Refuses) (hpolls : config.polls? command = some polls)
    (haccepted : ((transport name config clock).submit command device).answer.IsSuccess)
    (hpath : (transport name config clock).Yields
      ((transport name config clock).submit command device).mailbox trace later) :
  let submit other := (transport name config clock).submit other later
  (∀ (query : StatusQuery) (payload : Bytes),
    (queries trace < polls.toNat → queries trace < shownPolls →
      ∃ report, query.Reports (submit ⟨query.opcode.code, payload⟩).answer report
        ∧ report.inProgress = true ∧ report.opcode = command.opcode)
    ∧ (queries trace < polls.toNat → shownPolls ≤ queries trace →
      (submit ⟨query.opcode.code, payload⟩).answer = .error .product)
    ∧ ((queries trace = polls.toNat
        ∨ polls.toNat < queries trace ∧ ∀ s ∈ trace, ¬ config.Begins s) →
      query.Reports (submit ⟨query.opcode.code, payload⟩).answer
        { inProgress := false, percent := 100, opcode := command.opcode,
          returnCode := Status.success.code, vendorStatus := 0 }))
  ∧ (queries trace ≤ polls.toNat → ∀ other : Command, other.query? = none →
    (submit other).mailbox = { later with history := other.opcode :: later.history }
    ∧ ∀ opcode : Opcode, other.opcode = opcode.code → opcode.Acts →
      (submit other).answer = busyAnswer)
  ∧ (polls.toNat < queries trace → (∀ s ∈ trace, ¬ config.Begins s) →
    later.background = none ∧ (later.busyLeft = 0 → later.Looks name config clock))
  := by
  dsimp only
  obtain ⟨opcode, hopcode, hbackground⟩ :=
    (effect_submit name config clock command device).begins hfail hpolls haccepted
  -- Nothing has been asked yet when the operation begins.
  have hstart : Progress ⟨opcode, polls, polls⟩ 0
      ((transport name config clock).submit command device).mailbox :=
    .running polls (Nat.zero_add _) hbackground
  have hprogress : (polls.toNat < queries trace → ∀ s ∈ trace, ¬ config.Begins s) →
      Progress ⟨opcode, polls, polls⟩ (queries trace) later := by
    have hcourse := progress_of_yields hpath hstart
    rwa [Nat.zero_add] at hcourse
  rw [← hopcode]
  refine ⟨fun query payload => ⟨?_, ?_, ?_⟩, ?_, ?_⟩
  · intro hlt hshown
    obtain ⟨-, hreport, -⟩ := (hprogress fun hgt => by omega).backgroundStatus
    obtain ⟨percent, hstatus, -⟩ := hreport hlt hshown
    exact ⟨_, reports_submit name config query payload hstatus, rfl, rfl⟩
  · intro hlt hshown
    exact (hprogress fun hgt => by omega).answer_of_le name config clock hlt hshown query payload
  · intro hended
    obtain ⟨-, -, -, hreport⟩ := (hprogress fun hgt =>
      (hended.resolve_left (Nat.ne_of_gt hgt)).2).backgroundStatus
    have hle : polls.toNat ≤ queries trace := by
      omega
    exact reports_submit name config query payload (hreport hle)
  · intro hle other hquery
    apply submit_of_running name config _ hquery
    cases hprogress fun hgt => by omega with
    | running left hasked hrunning =>
        rw [hrunning]
        rfl
    | ended hasked =>
        have hgt : polls.toNat < queries trace := hasked
        omega
  · intro hgt hbegins
    cases hprogress fun _ => hbegins with
    | running left hasked =>
        have hsum : queries trace + left.toNat = polls.toNat := hasked
        omega
    | ended hasked hnone =>
        refine ⟨hnone, fun hleft => looks_of_idle name config ?_⟩
        exact not_isBusy.mpr ⟨hnone, hleft⟩

/-- A block for the second slot, and behind it a block that is put off, a status query in the
other layout, and an activation that is put off. -/
def chatter : List Command :=
  [(wholeImage 1).command, ⟨Opcode.hboStatus.code, []⟩, ⟨Opcode.activateFw.code, [0, 1]⟩]

theorem operation_course_chatter :
  let accepting := (transport "mem0" .default .still).submit (wholeImage 2).command
    (start .default .default)
  let heard := (transport "mem0" .default .still).send accepting.mailbox chatter
  let submit other := (transport "mem0" .default .still).submit other heard.2
  Config.default.polls? (wholeImage 2).command = some 1 ∧ accepting.answer.IsSuccess
    ∧ queries heard.1 = 1
    ∧ StatusQuery.spec.Reports (submit ⟨Opcode.getBackgroundStatus.code, []⟩).answer
      ⟨false, 100, Opcode.transferFw.code, Status.success.code, 0⟩
    ∧ (submit ⟨Opcode.activateFw.code, [0, 1]⟩).answer = busyAnswer
  := by
  dsimp only
  have hpolls : Config.default.polls? (wholeImage 2).command = some 1 := by
    decide +kernel
  have haccepted : ((transport "mem0" .default .still).submit (wholeImage 2).command
      (start .default .default)).answer.IsSuccess := by
    decide +kernel
  have hqueries : queries ((transport "mem0" .default .still).send
      ((transport "mem0" .default .still).submit (wholeImage 2).command
        (start .default .default)).mailbox chatter).1 = 1 := by
    decide +kernel
  have hpath := (transport "mem0" .default .still).yields_send
    ((transport "mem0" .default .still).submit (wholeImage 2).command
      (start .default .default)).mailbox chatter
  obtain ⟨hreports, hbusy, -⟩ := operation_course "mem0" (.inl rfl) hpolls haccepted hpath
  refine ⟨hpolls, haccepted, hqueries, ?_, ?_⟩
  · exact (hreports .spec []).2.2 (.inl hqueries)
  · exact (hbusy (Nat.le_of_eq hqueries) ⟨Opcode.activateFw.code, [0, 1]⟩ rfl).2 .activateFw rfl
      (.inr rfl)

/-- The behaviour of a device whose activations go on for one query more than it can report. -/
def Config.protracted : Config :=
  { Config.default with activationPolls := 42949674 }

/-- The last query before the end of its activation ends the program instead. -/
theorem operation_outlasts_reports :
  let command : Command := ⟨Opcode.activateFw.code, [1, 1]⟩
  let query : Command := ⟨StatusQuery.spec.opcode.code, []⟩
  let accepting := (transport "mem0" .protracted .still).submit command
    (start .protracted .default)
  let asked := (transport "mem0" .protracted .still).send accepting.mailbox
    (List.replicate shownPolls query)
  Config.protracted.polls? command = some 42949674 ∧ accepting.answer.IsSuccess
    ∧ queries asked.1 = 42949673
    ∧ ((transport "mem0" .protracted .still).submit query asked.2).answer = .error .product
  := by
  intro command query accepting asked
  have hbackground : accepting.mailbox.background = some ⟨.activateFw, 42949674, 42949674⟩ := by
    decide +kernel
  obtain ⟨hqueries, hprogress⟩ := progress_send "mem0" .protracted .still .spec hbackground
    shownPolls (by decide)
  have hunreported (later : Emulator)
      (h : Progress ⟨.activateFw, 42949674, 42949674⟩ shownPolls later) :
      ((transport "mem0" .protracted .still).submit query later).answer = .error .product :=
    h.answer_of_le "mem0" .protracted .still (by decide) Nat.le.refl .spec []
  exact ⟨by decide +kernel, by decide +kernel, hqueries, hunreported asked.2 hprogress⟩

end Emulator

end CxlFirmware
