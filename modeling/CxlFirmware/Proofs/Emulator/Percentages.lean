import CxlFirmware.Proofs.Emulator.Operation

/-!
# The percentages of a running operation

While an operation runs, the device reports in percent which share of its status queries it has
answered.  It computes the product of the share in 32 bits.  As long as the product fits, the
report shows the share; from there on the next query ends the program.  `Reaches` is a device that
has answered some queries, whatever other commands came between them.
-/

namespace CxlFirmware

/-- An answer holds one report. -/
theorem StatusQuery.Reports.eq {query : StatusQuery} {answer : Answer}
    {report report' : BackgroundStatus} (h : query.Reports answer report)
    (h' : query.Reports answer report') :
  report = report'
  := by
  obtain ⟨response, hanswer, -, hdecode⟩ := h
  obtain ⟨response', hanswer', -, hdecode'⟩ := h'
  obtain rfl : response = response' :=
    Except.ok.inj (Except.ok.inj (hanswer.symm.trans hanswer'))
  exact Except.ok.inj (hdecode.symm.trans hdecode')

namespace Emulator

/-! ## Shares -/

/-- The share of the queries that is answered, in percent. -/
def percentDue (asked polls : Nat) : Nat :=
  100 * asked / polls

section

variable {asked polls : Nat}

theorem percentDue_lt (h : asked < polls) :
  percentDue asked polls < 100
  := by
  apply Nat.div_lt_of_lt_mul
  rw [Nat.mul_comm polls]
  exact Nat.mul_lt_mul_of_pos_left h (by decide)

theorem percentDue_mono {earlier later : Nat} (h : earlier ≤ later) (polls : Nat) :
  percentDue earlier polls ≤ percentDue later polls
  := Nat.div_le_div_right (Nat.mul_le_mul_left 100 h)

/-- The queries that can be reported are those for which the product fits. -/
theorem lt_shownPolls_iff :
  asked < shownPolls ↔ 100 * asked < UInt32.size
  := by
  rw [shownPolls, UInt32.size]
  omega

theorem le_shownPolls_iff :
  polls ≤ shownPolls ↔ ∀ asked < polls, 100 * asked < UInt32.size
  := by
  constructor
  · intro hle asked hlt
    exact lt_shownPolls_iff.mp (Nat.lt_of_lt_of_le hlt hle)
  · intro hfits
    by_contra hgt
    exact Nat.lt_irrefl shownPolls (lt_shownPolls_iff.mpr (hfits shownPolls (by omega)))

end

variable {name : String} {config : Config} {clock : Clock Emulator} {operation : Background}
  {asked : Nat} {device begun later : Emulator}

/-! ## Reports -/

/-- The device answers each status query with the same report of a running operation, at so many
percent, and both layouts keep it. -/
def Shows (name : String) (config : Config) (clock : Clock Emulator) (code : UInt16)
    (percent : Nat) (device : Emulator) : Prop :=
  ∃ report : BackgroundStatus, report.inProgress = true ∧ report.opcode = code
    ∧ report.percent.toNat = percent
    ∧ ∀ query : StatusQuery, query.decode (query.encode report) = .ok report
      ∧ ∀ payload, query.Reports
        ((transport name config clock).submit ⟨query.opcode.code, payload⟩ device).answer report

/-- As long as the product fits, the device shows the share. -/
theorem Progress.shows (name : String) (config : Config) (clock : Clock Emulator)
    (h : Progress operation asked device) (hlt : asked < operation.totalPolls.toNat)
    (hfits : 100 * asked < UInt32.size) :
  device.Shows name config clock operation.opcode.code
    (percentDue asked operation.totalPolls.toNat)
  := by
  obtain ⟨percent, hstatus, hpercent⟩ :=
    h.backgroundStatus.2.1 hlt (lt_shownPolls_iff.mpr hfits)
  have hsmall : percent.toNat < 100 := hpercent ▸ percentDue_lt hlt
  let report : BackgroundStatus := ⟨true, percent, operation.opcode.code, 0, 0⟩
  have hwritten : report.written = report :=
    BackgroundStatus.written_of_le (Nat.le_of_lt hsmall)
  refine ⟨report, rfl, rfl, hpercent, fun query => ⟨?_, fun payload => ?_⟩⟩
  · rw [query.decode_encode, hwritten]
  · rw [← hwritten]
    exact reports_submit name config query payload hstatus

/-- It shows nothing else, and nothing at all once the product no longer fits. -/
theorem Progress.shows_iff (h : Progress operation asked device)
    (hlt : asked < operation.totalPolls.toNat) {percent : Nat} :
  device.Shows name config clock operation.opcode.code percent
    ↔ percent = percentDue asked operation.totalPolls.toNat ∧ 100 * asked < UInt32.size
  := by
  constructor
  · rintro ⟨report, -, -, rfl, hreports⟩
    obtain ⟨-, hreport⟩ := hreports .spec
    by_cases hfits : 100 * asked < UInt32.size
    · obtain ⟨due, -, -, hdue, hshown⟩ := h.shows name config clock hlt hfits
      rw [← hdue, (hreport []).eq ((hshown .spec).2 [])]
      exact ⟨rfl, hfits⟩
    · have hfault := h.answer_of_le name config clock hlt
        (Nat.le_of_not_lt (mt lt_shownPolls_iff.mp hfits)) .spec []
      obtain ⟨response, hresponse, -⟩ := hreport []
      cases hfault.symm.trans hresponse
  · rintro ⟨rfl, hfits⟩
    exact h.shows name config clock hlt hfits

/-! ## The way through an operation -/

/-- The device has been asked for its status so many times, whatever else it was asked. -/
def Reaches (name : String) (config : Config) (clock : Clock Emulator) (begun : Emulator)
    (asked : Nat) (later : Emulator) : Prop :=
  ∃ trace, (transport name config clock).Yields begun trace later ∧ queries trace = asked

section

variable {opcode : Opcode} {polls : UInt32}
  (hbackground : begun.background = some ⟨opcode, polls, polls⟩)
include hbackground

/-- Then the operation is so far. -/
theorem Reaches.progress (h : Reaches name config clock begun asked later)
    (hlt : asked < polls.toNat) :
  Progress ⟨opcode, polls, polls⟩ asked later
  := by
  obtain ⟨trace, hpath, rfl⟩ := h
  exact progress_of_le hpath hbackground (Nat.le_of_lt hlt)

/-- Status queries alone lead to any count of them. -/
theorem exists_reaches (name : String) (config : Config) (clock : Clock Emulator)
    (hlt : asked < polls.toNat) :
  ∃ later, Reaches name config clock begun asked later
  := by
  obtain ⟨hqueries, -⟩ :=
    progress_send name config clock .spec hbackground asked (Nat.le_of_lt hlt)
  exact ⟨_, _, (transport name config clock).yields_send begun _, hqueries⟩

end

/-- Behind `asked` of the `polls` status queries of an operation, the device shows the share of the
queries in percent if the product of that share fits 32 bits, and nothing else; otherwise the next
query ends the program.  So the share is shown through the whole operation if and only if there
are at most `shownPolls` queries.  The percentages that are shown never decrease, and are below
one hundred. -/
theorem percentages_shown (name : String) (config : Config) (clock : Clock Emulator)
    (command : Command) {device : Emulator} (hidle : device.background = none)
    (hbegun : ((transport name config clock).submit command device).mailbox.background.isSome) :
  let reaches := Reaches name config clock
    ((transport name config clock).submit command device).mailbox
  let shows := Shows name config clock command.opcode
  ∃ polls, config.polls? command = some polls
    ∧ (∀ asked later, reaches asked later → asked < polls.toNat →
      (∀ percent, shows percent later
        ↔ percent = 100 * asked / polls.toNat ∧ 100 * asked < UInt32.size)
      ∧ (UInt32.size ≤ 100 * asked → ∀ (query : StatusQuery) payload,
        ((transport name config clock).submit ⟨query.opcode.code, payload⟩ later).answer
          = .error .product))
    ∧ ((∀ asked later, reaches asked later → asked < polls.toNat →
      shows (100 * asked / polls.toNat) later) ↔ polls.toNat ≤ shownPolls)
    ∧ (∀ i earlier j later p q, reaches i earlier → reaches j later → i ≤ j → j < polls.toNat →
      shows p earlier → shows q later → p ≤ q ∧ q < 100)
  := by
  intro reaches shows
  obtain ⟨polls, opcode, hpolls, hopcode, hbackground⟩ :=
    (effect_submit name config clock command device).starts hidle hbegun
  have hshows {asked : Nat} {later : Emulator} (hreaches : reaches asked later)
      (hlt : asked < polls.toNat) (percent : Nat) :
      shows percent later ↔ percent = percentDue asked polls.toNat ∧ 100 * asked < UInt32.size := by
    have hprogress := hreaches.progress hbackground hlt
    rw [← hprogress.shows_iff hlt, hopcode]
  refine ⟨polls, hpolls, fun asked later hreaches hlt => ⟨hshows hreaches hlt, ?_⟩, ?_, ?_⟩
  · intro hwide query payload
    have hshown := Nat.le_of_not_lt (mt lt_shownPolls_iff.mp (Nat.not_lt_of_le hwide))
    exact (hreaches.progress hbackground hlt).answer_of_le name config clock hlt hshown query
      payload
  · rw [le_shownPolls_iff]
    constructor
    · intro hlaw asked hlt
      obtain ⟨later, hreaches⟩ := exists_reaches hbackground name config clock hlt
      exact ((hshows hreaches hlt _).mp (hlaw asked later hreaches hlt)).2
    · intro hfits asked later hreaches hlt
      exact (hshows hreaches hlt _).mpr ⟨rfl, hfits asked hlt⟩
  · intro i earlier j later p q hearlier hlater hij hlt hp hq
    obtain ⟨rfl, -⟩ := (hshows hearlier (Nat.lt_of_le_of_lt hij hlt) p).mp hp
    obtain ⟨rfl, -⟩ := (hshows hlater hlt q).mp hq
    exact ⟨percentDue_mono hij polls.toNat, percentDue_lt hlt⟩

theorem percentages_shown_thrice :
  let config := { Config.default with activationPolls := 3 }
  let begun := ((transport "mem0" config .still).submit ⟨Opcode.activateFw.code, [1, 1]⟩
    (start config .default)).mailbox
  begun.background.isSome
    ∧ ∀ later, Reaches "mem0" config .still begun 2 later →
      later.Shows "mem0" config .still Opcode.activateFw.code 66
  := by
  intro config begun
  have hbegun : begun.background.isSome := by
    decide +kernel
  refine ⟨hbegun, fun later hreaches => ?_⟩
  obtain ⟨polls, hpolls, -, hlaw, -⟩ := percentages_shown "mem0" config .still
    ⟨Opcode.activateFw.code, [1, 1]⟩ (show (start config .default).background = none from rfl)
    hbegun
  have hthree : config.polls? ⟨Opcode.activateFw.code, [1, 1]⟩ = some 3 := by
    decide +kernel
  obtain rfl := Option.some.inj (hpolls.symm.trans hthree)
  exact hlaw.mpr (by decide) 2 later hreaches (by decide)

/-- The last percentage of the protracted activation is 99, and no query shows it. -/
theorem last_percentage_missing :
  let command : Command := ⟨Opcode.activateFw.code, [1, 1]⟩
  let accepting := (transport "mem0" .protracted .still).submit command
    (start .protracted .default)
  let reaches := Reaches "mem0" .protracted .still accepting.mailbox 42949673
  Config.protracted.polls? command = some 42949674 ∧ accepting.answer.IsSuccess
    ∧ 100 * 42949673 / 42949674 = 99
    ∧ (∃ later, reaches later)
    ∧ ∀ later, reaches later → ¬ later.Shows "mem0" .protracted .still command.opcode 99
  := by
  intro command accepting reaches
  have hbackground : accepting.mailbox.background = some ⟨.activateFw, 42949674, 42949674⟩ := by
    decide +kernel
  have hlt : 42949673 < (42949674 : UInt32).toNat := by
    decide
  refine ⟨by decide +kernel, by decide +kernel, by decide, ?_, ?_⟩
  · exact exists_reaches hbackground "mem0" .protracted .still hlt
  · intro later hreaches hshows
    have hprogress := hreaches.progress hbackground hlt
    exact absurd ((hprogress.shows_iff hlt).mp hshows).2 (by decide)

end Emulator

end CxlFirmware
