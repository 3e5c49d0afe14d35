import CxlFirmware.Proofs.Activation
import CxlFirmware.Proofs.ActivationPhases
import CxlFirmware.Proofs.Emulator.Confinement
import CxlFirmware.Proofs.Emulator.Operation
import CxlFirmware.Proofs.Transfer.Failure

/-!
# Results on an emulated device

A transfer or an activation on an emulated device comes to a result if its loops can tell
each time whether they are late, and the device is not asked too often for the status of one
operation.  `Workflow.Attains` says that a workflow comes to a value from some mailboxes, and
what holds of the mailbox afterwards.  A device `Bears` a count of queries if it can answer
them all.
-/

namespace CxlFirmware

namespace Workflow

variable {σ α β : Type} {before : σ → Prop} {x : Workflow σ α} {after : α → σ → Prop}

/-- From every mailbox with the property `before`, the workflow comes to a value, and leaves
behind a mailbox with the property `after` of this value. -/
def Attains (before : σ → Prop) (x : Workflow σ α) (after : α → σ → Prop) : Prop :=
  ∀ m, before m → ∃ a, (x m).result = .ok a ∧ after a (x m).mailbox

namespace Attains

theorem of_quiet (h : Attains before x.quiet after) :
  Attains before x after
  := h

theorem quiet (h : Attains before x after) :
  Attains before x.quiet after
  := h

/-- A property may be replaced by one that implies it. -/
theorem mono {before' : σ → Prop} (h : Attains before x after) (hm : ∀ m, before' m → before m) :
  Attains before' x after
  := fun m hbefore => h m (hm m hbefore)

protected theorem pure {a : α} (h : ∀ m, before m → after a m) :
  Attains before (pure a) after
  := fun m hm => ⟨a, rfl, h m hm⟩

protected theorem bind {between : α → σ → Prop} {f : α → Workflow σ β} {after : β → σ → Prop}
    (hx : Attains before x between) (hf : ∀ a, Attains (between a) (f a) after) :
  Attains before (x >>= f) after
  := by
  intro m hm
  obtain ⟨a, hresult, hbetween⟩ := hx m hm
  rw [bind_of_ok hresult]
  exact hf a _ hbetween

/-- A workflow that ends the program only where an answer does comes to a value wherever
something comes back for each command. -/
theorem of_relays (hx : x.Relays)
    (h : ∀ m, before m → (x m).Answered
      ∧ ∀ a, (x m).result = .ok a → after a (x m).mailbox) :
  Attains before x after
  := by
  intro m hm
  obtain ⟨hanswered, hafter⟩ := h m hm
  obtain ⟨a, hresult⟩ := hx.result hanswered
  exact ⟨a, hresult, hafter a hresult⟩

end Attains

end Workflow

theorem Command.query?_transfer (kind : Transfer.Kind) (payload : Bytes) :
  query? ⟨kind.opcode.code, payload⟩ = none
  := by
  cases kind <;> rfl

theorem Command.query?_activation (kind : Activation.Kind) (payload : Bytes) :
  query? ⟨kind.opcode.code, payload⟩ = none
  := by
  cases kind <;> rfl

namespace Emulator

open Workflow (Attains)

variable {name host : String} {config : Config} {clock : Clock Emulator} {device after : Emulator}
  {command : Command} {polls : UInt32} {count : Nat}

/-! ## Operations that can be reported -/

/-- The device can answer so many status queries. -/
def Bears (count : Nat) (device : Emulator) : Prop :=
  ∀ operation, device.background = some operation →
    operation.asked + min count operation.remaining.toNat ≤ shownPolls

/-- What the device processes, if anything, has not been asked for, with `polls` queries to come. -/
def Unasked (polls : UInt32) (device : Emulator) : Prop :=
  ∀ operation, device.background = some operation →
    operation.asked = 0 ∧ operation.remaining = polls

theorem Unasked.bears (h : Unasked polls device)
    (hshown : polls.toNat ≤ shownPolls ∨ count ≤ shownPolls) :
  Bears count device
  := by
  intro operation hbackground
  obtain ⟨hasked, rfl⟩ := h operation hbackground
  omega

/-- A command that asks for no status and begins no other operation leaves it so. -/
theorem unasked_submit (name : String) (clock : Clock Emulator) (hquery : command.query? = none)
    (hpolls : ∀ begun, config.polls? command = some begun → begun = polls)
    (h : Unasked polls device) :
  Unasked polls ((transport name config clock).submit command device).mailbox
  := by
  cases hbackground : device.background with
  | none =>
      intro operation hbegun
      obtain ⟨begun, opcode, hbegins, -, hnew⟩ :=
        (effect_submit name config clock command device).starts hbackground
          (Option.isSome_of_mem hbegun)
      obtain rfl := hpolls begun hbegins
      obtain rfl := Option.some.inj (hnew.symm.trans hbegun)
      exact ⟨Background.asked_add_remaining (Nat.zero_add _), rfl⟩
  | some operation =>
      have hrunning : device.background.isSome := Option.isSome_of_mem hbackground
      rw [(submit_of_running name config hrunning hquery).1]
      exact h

/-- Something comes back for each command that asks for no status. -/
theorem answered_of_no_query (name : String) (config : Config) (clock : Clock Emulator)
    (hquery : command.query? = none) (device : Emulator) :
  ∃ receipt, ((transport name config clock).submit command device).answer = .ok receipt
  := by
  rcases @answer_submit clock name config command device with ⟨response, hanswer⟩
    | ⟨-, ⟨query, hcode⟩, -⟩
  · exact ⟨_, hanswer⟩
  · obtain ⟨code, payload⟩ := command
    obtain rfl : code = query.opcode.code := hcode
    cases hquery.symm.trans (Command.query?_status query payload)

/-- A device that bears a query answers it, and bears one less afterwards. -/
theorem Bears.query (name : String) (config : Config) (clock : Clock Emulator)
    (query : StatusQuery) (h : Bears (count + 1) device) :
  (∃ receipt, ((transport name config clock).submit ⟨query.opcode.code, []⟩ device).answer
      = .ok receipt)
    ∧ Bears count ((transport name config clock).submit ⟨query.opcode.code, []⟩ device).mailbox
  := by
  constructor
  · rw [answer_status]
    rcases device.backgroundStatus_cases with ⟨report, hreport⟩
      | ⟨-, operation, hbackground, hleft, hasked⟩
    · rw [hreport]
      exact ⟨_, rfl⟩
    · have hbears := h operation hbackground
      rw [UInt32.lt_iff_toNat_lt, UInt32.toNat_zero] at hleft
      omega
  · intro operation' hbackground'
    rw [submit_status, replyStatus, backgroundStatus_noted] at hbackground'
    replace hbackground' : device.backgroundStatus.2.background = some operation' := hbackground'
    rw [backgroundStatus] at hbackground'
    split at hbackground'
    · rename_i hnone
      cases hnone.symm.trans hbackground'
    · rename_i operation hbackground
      split at hbackground'
      · rename_i hleft
        obtain rfl := Option.some.inj hbackground'
        have hbears := h operation hbackground
        have hpos : 0 < operation.remaining.toNat := UInt32.lt_iff_toNat_lt.mp hleft
        have hsub : (operation.remaining - 1).toNat = operation.remaining.toNat - 1 :=
          UInt32.toNat_sub_of_le _ _ hleft
        have hnext := Background.asked_next hleft (by omega)
        change Background.asked { operation with remaining := operation.remaining - 1 }
          + min count (operation.remaining - 1).toNat ≤ shownPolls
        rw [hnext, hsub]
        omega
      · cases hbackground'

/-- Something comes back for each of the queries that a device bears. -/
theorem Bears.answered {query : StatusQuery} {answers : List Answer}
    (h : Bears answers.length device)
    (hpath : (transport name config clock).Yields device
      (answers.map (.mk ⟨query.opcode.code, []⟩)) after) :
  ∀ answer ∈ answers, ∃ receipt, answer = .ok receipt
  := by
  induction answers generalizing device with
  | nil => nofun
  | cons first answers ih =>
      obtain ⟨hfirst, hrest⟩ := hpath.uncons
      obtain ⟨⟨receipt, hreceipt⟩, hbears⟩ := h.query name config clock query
      exact List.forall_mem_cons.mpr ⟨⟨receipt, hfirst.trans hreceipt⟩, ih hbears hrest⟩

theorem Bears.mono {count' : Nat} (h : Bears count device) (hle : count' ≤ count) :
  Bears count' device
  := by
  intro operation hbackground
  have hbears := h operation hbackground
  omega

/-! ## The two loops -/

/-- The device processes nothing, and what it reports last was a success. -/
structure Rests (config : Config) (device : Emulator) : Prop extends Settled config device where
  background : device.background = none

theorem rests_start (config : Config) (state : State) :
  Rests config (start config state)
  := ⟨settled_start config state, rfl⟩

section

variable {policy : RetryPolicy} (hvalid : policy.validate = .ok ())
  (htimes : (transport name config clock).Times policy)
include hvalid htimes

/-- A submission comes to a result, with the operation that it may have begun unasked. -/
theorem attains_submit (opcode : Opcode) (payload : Bytes)
    (hquery : Command.query? ⟨opcode.code, payload⟩ = none)
    (hpolls : ∀ begun, config.polls? ⟨opcode.code, payload⟩ = some begun → begun = polls) :
  Attains (Rests config)
    (Retry.withRetry (transport name config clock).clock policy
      (Mailbox.submit (transport name config clock) opcode payload))
    fun _ device => Settled config device ∧ Unasked polls device
  := by
  have hfollows : (Retry.withRetry (transport name config clock).clock policy
      (Mailbox.submit (transport name config clock) opcode payload)).Follows
        (transport name config clock) (· = ⟨opcode.code, payload⟩) :=
    Mailbox.follows_submit_withRetry policy opcode payload rfl
  have hstep : ∀ command, command = ⟨opcode.code, payload⟩ → ∀ device,
      Settled config device ∧ Unasked polls device →
      let reaction := (transport name config clock).submit command device
      (Settled config reaction.mailbox ∧ Unasked polls reaction.mailbox)
        ∧ ∃ receipt, reaction.answer = .ok receipt := by
    rintro command rfl device ⟨hsettled, hunasked⟩
    exact ⟨⟨settled_submit name clock _ hsettled, unasked_submit name clock hquery hpolls hunasked⟩,
      answered_of_no_query name config clock hquery device⟩
  apply Attains.of_relays (Mailbox.submit_relays opcode payload hvalid htimes)
  intro device hrests
  have hunasked : Unasked polls device := by
    intro operation hbackground
    cases hrests.background.symm.trans hbackground
  refine ⟨hfollows.answered hstep ⟨hrests.toSettled, hunasked⟩, fun result _ => ?_⟩
  exact hfollows.preserves (fun command hcommand device h => (hstep command hcommand device h).1)
    ⟨hrests.toSettled, hunasked⟩

/-- Polling comes to a result on a device that bears all the queries of its budget, and a
report leaves the device at rest. -/
theorem attains_untilDone (query : StatusQuery) :
  Attains (fun device => Settled config device ∧ Bears policy.maxAttempts.toNat device)
    (Poll.untilDone (transport name config clock) query policy)
    fun result device => ∀ report, result = .ok report → Rests config device
  := by
  apply Attains.of_relays (Poll.untilDone_relays query hvalid htimes)
  rintro device ⟨hsettled, hbears⟩
  obtain ⟨⟨waited, last, htrace, hlength, -, hlast⟩, -⟩ :=
    Poll.untilDone_repeats query hvalid (transport name config clock) device
  have hfollows : (Poll.untilDone (transport name config clock) query policy).Follows
      (transport name config clock) fun _ => True :=
    Poll.follows_untilDone query policy trivial
  have hpath := (hfollows device).1
  rw [htrace] at hpath
  constructor
  · intro s hs
    rw [htrace] at hs
    obtain ⟨answer, hanswer, rfl⟩ := List.mem_map.mp hs
    refine (hbears.mono ?_).answered hpath answer hanswer
    rw [List.length_append]
    exact hlength
  · rintro result hresult report rfl
    have hconfirmed := hlast.mpr ⟨report, hresult⟩
    exact ⟨hsettled.yields hpath, idle_of_confirmed hsettled hpath hconfirmed⟩

end

/-! ## Transfers -/

theorem polls?_transfer (kind : Transfer.Kind) (payload : Bytes) {begun : UInt32}
    (h : config.polls? ⟨kind.opcode.code, payload⟩ = some begun) :
  begun = config.processingPolls
  := by
  rw [Config.polls?] at h
  split at h
  · split at h
    · cases h
    · exact (Option.some.inj h).symm
  · rw [Opcode.ofCode?_code] at h
    cases kind <;> cases h

section

variable {transfer : Transfer.Config} (hvalid : transfer.validate = .ok ())
  (hretry : (transport name config clock).Times transfer.stepRetry)
include hvalid hretry

/-- An abort comes to a result on every device, if there can be a payload for it. -/
theorem attains_abort (hreserved : Transfer.reserve transfer = .ok ()) (host : String) :
  Attains (fun _ => True) (Transfer.abort (transport name config clock) host transfer)
    fun _ _ => True
  := by
  apply Attains.of_relays (Transfer.abort_relays hvalid hretry host hreserved)
  have hfollows : (Transfer.abort (transport name config clock) host transfer).Follows
      (transport name config clock) fun command => command.query? = none :=
    Transfer.follows_abort host (Command.query?_transfer transfer.kind _)
  have hstep : ∀ command : Command, command.query? = none → ∀ device : Emulator, True →
      True ∧ ∃ receipt, ((transport name config clock).submit command device).answer
        = .ok receipt :=
    fun command hquery device _ => ⟨trivial, answered_of_no_query name config clock hquery device⟩
  exact fun device _ => ⟨hfollows.answered hstep trivial, fun _ _ => trivial⟩

variable (hpoll : (transport name config clock).Times transfer.poll)
  (hshown : config.processingPolls.toNat ≤ shownPolls
    ∨ transfer.poll.maxAttempts.toNat ≤ shownPolls)
include hpoll hshown

/-- A step comes to a result on a device at rest, and leaves it so unless it fails. -/
theorem attains_sendStep (host : String) (step : Transfer.Step) :
  Attains (Rests config) (Transfer.sendStep (transport name config clock) host transfer step)
    fun result device => result = .ok () → Rests config device
  := by
  obtain ⟨-, hvalidRetry, hvalidPoll⟩ := transfer.validate_eq_ok hvalid
  have hsubmit : Attains (Rests config)
      (Transfer.submitStep (transport name config clock) transfer step)
      fun _ device => Settled config device ∧ Unasked config.processingPolls device :=
    attains_submit hvalidRetry hretry transfer.kind.opcode _ (Command.query?_transfer _ _)
      fun _ => polls?_transfer transfer.kind _
  have hconfirm : Attains
      (fun device => Settled config device ∧ Unasked config.processingPolls device)
      (Transfer.confirmStep (transport name config clock) transfer)
      fun result device => ∀ report, result = .ok report → Rests config device :=
    fun device ⟨hsettled, hunasked⟩ => attains_untilDone hvalidPoll hpoll
      transfer.kind.statusQuery device ⟨hsettled, hunasked.bears hshown⟩
  apply Attains.of_quiet
  rw [Transfer.quiet_sendStep]
  apply Attains.bind hsubmit.quiet
  intro outcome
  cases outcome with
  | error error =>
      apply Attains.pure
      rintro device - ⟨⟩
  | ok reply =>
      apply Attains.bind hconfirm.quiet
      intro outcome
      cases outcome with
      | error error =>
          apply Attains.pure
          rintro device - ⟨⟩
      | ok report =>
          apply Attains.pure
          intro device hrests _
          exact hrests report rfl

/-- Steps come to a result on a device at rest. -/
theorem attains_sendSteps (hreserved : Transfer.reserve transfer = .ok ()) (host : String)
    (plan : Transfer.Plan) (steps : List Transfer.Step) (cursor : Transfer.Cursor) :
  Attains (Rests config)
    (Transfer.sendSteps (transport name config clock) host transfer plan steps cursor)
    fun _ _ => True
  := by
  induction steps generalizing cursor with
  | nil => exact .pure fun _ _ => trivial
  | cons step rest ih =>
      apply Attains.of_quiet
      rw [Transfer.quiet_sendSteps]
      apply Attains.bind (attains_sendStep hvalid hretry hpoll hshown host step).quiet
      intro outcome
      cases outcome with
      | error source =>
          have habort := (attains_abort hvalid hretry hreserved host).quiet
          exact (habort.bind fun aborted => .pure fun _ _ => trivial).mono fun _ _ => trivial
      | ok _ => exact (ih _).quiet.mono fun device hrests => hrests rfl

/-- A transfer to a device at rest comes to a result, if its loops can tell each time whether
they are late, there can be a payload for its abort, and either each block is processed for no
more queries than can be reported, or none is asked for more often. -/
theorem transfer_attains {image : Image} {plan : Transfer.Plan}
    (hplan : transfer.plan image = .ok plan) (hreserved : Transfer.reserve transfer = .ok ())
    (host : String) (hrests : Rests config device) :
  ∃ result, (Transfer.run (transport name config clock) host transfer image device).result
    = .ok result
  := by
  have hattains : Attains (Rests config)
      (Transfer.run (transport name config clock) host transfer image) fun _ _ => True := by
    apply Attains.of_quiet
    rw [Transfer.quiet_run hvalid hplan]
    apply Attains.bind
      (attains_sendSteps hvalid hretry hpoll hshown hreserved host plan _ _).quiet
    intro outcome
    cases outcome with
    | error error => exact .pure fun _ _ => trivial
    | ok bytes =>
        cases transfer.mock with
        | false => exact .pure fun _ _ => trivial
        | true =>
            have habort := (attains_abort hvalid hretry hreserved host).quiet
            exact habort.bind fun aborted => .pure fun _ _ => trivial
  obtain ⟨result, hresult, -⟩ := hattains device hrests
  exact ⟨result, hresult⟩

end

/-! ## Activations -/

/-- An activation on a device at rest comes to a result, if its loops can tell each time whether
they are late, and either it is processed for no more queries than can be reported, or it is not
asked for more often. -/
theorem activation_attains {policy : RetryPolicy}
    (htimes : (transport name config clock).Times policy)
    (hshown : config.activationPolls.toNat ≤ shownPolls
      ∨ policy.maxAttempts.toNat ≤ shownPolls)
    (host : String) (request : Activation.Request) (hrests : Rests config device) :
  ∃ result, (Activation.run (transport name config clock) host policy request device).result
    = .ok result
  := by
  cases hvalid : policy.validate with
  | error error =>
      rw [Activation.run, hvalid]
      exact ⟨_, rfl⟩
  | ok _ =>
      have hattains : Attains (Rests config)
          (Activation.run (transport name config clock) host policy request)
          fun _ _ => True := by
        have hbegins : ∀ begun, config.polls? request.command = some begun →
            begun = config.activationPolls := by
          intro begun hbegun
          exact Option.some.inj (hbegun.symm.trans (polls?_activation _ _))
        have hsubmit : Attains (Rests config)
            (Activation.submitRequest (transport name config clock) policy request)
            fun _ device => Settled config device ∧ Unasked config.activationPolls device :=
          attains_submit hvalid htimes request.kind.opcode _ (Command.query?_activation _ _)
            hbegins
        apply Attains.of_quiet
        rw [Activation.quiet_run hvalid]
        apply Attains.bind hsubmit.quiet
        intro outcome
        cases outcome with
        | error error => exact .pure fun _ _ => trivial
        | ok reply =>
            rintro device ⟨hsettled, hunasked⟩
            obtain ⟨result, hresult, -⟩ := attains_untilDone hvalid htimes
              request.kind.statusQuery device ⟨hsettled, hunasked.bears hshown⟩
            exact ⟨result, hresult, trivial⟩
      obtain ⟨result, hresult, -⟩ := hattains device hrests
      exact ⟨result, hresult⟩

end Emulator

end CxlFirmware
