import CxlFirmware.Proofs.Transfer.Blocks
import CxlFirmware.Proofs.Transfer.Groups
import CxlFirmware.Proofs.Transfer.Milestones
import CxlFirmware.Proofs.Transfer.Shares

/-!
# The chronicle of a transfer

A run of a transfer tells one chapter for each step that is done: the group of the step, its
report, and a milestone where the report is the first with its tenth of the image.  Behind the
chapters it tells the submissions of a step that stops and of an abort, and nothing else.
-/

namespace CxlFirmware.Transfer

variable {σ α : Type}

variable {transport : Transport σ} {device : String} {config : Config} {image : Image}
  {plan : Plan} {step : Step} {before after : List Step} {cursor : Cursor} {m m₁ m' : σ}
  {trace trace' : List Submission} {delays delays' : List Duration}

/-! ## Chapters -/

/-- What the cursor keeps in mind when the first blocks are done. -/
structure Cursor.Stands (config : Config) (image : Image) (count : Nat) (cursor : Cursor) :
    Prop where
  bytesSent : cursor.bytesSent = config.share image count
  lastDecile : cursor.lastDecile = config.percent image count / 10

theorem Cursor.stands_start (config : Config) (image : Image) :
  Cursor.start.Stands config image 0
  := by
  constructor
  · rw [config.share_zero]
    rfl
  · rw [config.percent_zero]
    rfl

/-- What the step with the last of the first blocks tells: its submissions, its report, and the
milestone that it marks, if any. -/
def Config.chapter (device : String) (config : Config) (image : Image) (plan : Plan) :
    (Step × List Submission) × Nat → List Event
  | ((step, group), count) =>
    group.map Submission.event ++ .progressed (config.report image plan step count)
      :: if config.MarksAt image count then
          [.logged (milestone device (config.percent image count / 10 * 10))]
        else []

section

variable (hplan : config.plan image = .ok plan) (hsize : image.size * 100 < UInt64.size)
  {count : Nat} (hstep : plan.steps[count]? = some step)
  (hcursor : cursor.Stands config image count)
include hplan hstep hcursor

theorem Cursor.report_of_stands :
  cursor.report plan step = config.report image plan step (count + 1)
  := by
  obtain ⟨hindex, -, -⟩ := config.plan_step hplan hstep
  rw [Cursor.report, Config.report, hindex, hcursor.bytesSent, config.share_succ hplan hstep,
    config.plan_totalBytes hplan]

include hsize

/-- The milestone behind a report is the one that the block marks. -/
theorem Cursor.milestones_of_stands (device : String) :
  cursor.milestones device plan step
    = if config.MarksAt image (count + 1) then
        [.logged (milestone device (config.percent image (count + 1) / 10 * 10))]
      else []
  := by
  rw [Cursor.milestones, report_of_stands hplan hstep hcursor, config.percent_report hsize,
    hcursor.lastDecile]
  apply if_congr config.marksAt_succ_iff.symm rfl rfl

theorem Cursor.Stands.next :
  (cursor.next plan step).Stands config image (count + 1)
  := by
  have hreport := Cursor.report_of_stands hplan hstep hcursor
  constructor
  · exact congrArg Progress.bytesSent hreport
  · change max cursor.lastDecile ((cursor.report plan step).percent / 10) = _
    rw [hreport, config.percent_report hsize, hcursor.lastDecile]
    apply Nat.max_eq_right
    apply Nat.div_le_div_right
    apply config.percent_mono image
    exact Nat.le_succ count

end

section

variable (hmodest : transport.Modest) (hvalid : config.validate = .ok ())
  (hplan : config.plan image = .ok plan) (hsize : image.size * 100 < UInt64.size)
include hmodest hvalid hplan hsize

/-- Steps that are done tell their chapters, and then the steps behind them tell theirs. -/
theorem told_of_sent (device : String) (after : List Step) {count : Nat}
    (hsteps : ∀ i step, before[i]? = some step → plan.steps[count + i]? = some step)
    (hcursor : cursor.Stands config image count)
    (hsent : Sent transport config before m trace delays m') :
  ∃ groups cursor', trace = groups.flatten ∧ List.Forall₂ config.Group before groups
    ∧ (sendSteps transport device config plan (before ++ after) cursor m).told
      = ((before.zip groups).zipIdx (count + 1)).flatMap (config.chapter device image plan)
        ++ (sendSteps transport device config plan after cursor' m').told
  := by
  induction hsent generalizing count cursor with
  | nil m => exact ⟨[], cursor, rfl, .nil, rfl⟩
  | @cons step rest m m₁ m' trace trace' delays delays' hdone hsent ih =>
      have hstep : plan.steps[count]? = some step := hsteps 0 step rfl
      have hrest : ∀ i step, rest[i]? = some step → plan.steps[count + 1 + i]? = some step := by
        intro i step h
        rw [Nat.add_assoc, Nat.add_comm 1 i]
        exact hsteps (i + 1) step h
      obtain ⟨groups, cursor', rfl, hgroups, htold⟩ :=
        ih hrest (hcursor.next hplan hsize hstep)
      refine ⟨trace :: groups, cursor', rfl, .cons (group_of_done hvalid hdone) hgroups, ?_⟩
      rw [List.cons_append, told_of_done hmodest device plan _ cursor hdone, htold,
        Cursor.report_of_stands hplan hstep hcursor,
        Cursor.milestones_of_stands hplan hsize hstep hcursor, List.zip_cons_cons,
        List.zipIdx_cons, List.flatMap_cons, Config.chapter, List.append_assoc, List.append_assoc,
        List.cons_append]

end

/-! ## What the chapters hold -/

section

variable (device : String) (config : Config) (image : Image) (plan : Plan)

theorem reports_event (submissions : List Submission) :
  (submissions.map Submission.event).filterMap Event.report? = []
  := by
  rw [List.filterMap_map]
  apply List.filterMap_eq_nil_iff.mpr
  exact fun _ _ => rfl

theorem milestones_event (submissions : List Submission) :
  (submissions.map Submission.event).filter Event.isMilestone = []
  := by
  apply List.filter_eq_nil_iff.mpr
  intro event hevent
  obtain ⟨submission, -, rfl⟩ := List.mem_map.mp hevent
  exact Bool.false_ne_true

theorem submissions_chapter (step : Step) (group : List Submission) (count : Nat) :
  (config.chapter device image plan ((step, group), count)).filterMap Event.submission? = group
  := by
  rw [Config.chapter, List.filterMap_append, Submission.submissions_event]
  split
  · apply List.append_nil
  · apply List.append_nil

theorem reports_chapter (step : Step) (group : List Submission) (count : Nat) :
  (config.chapter device image plan ((step, group), count)).filterMap Event.report?
    = [config.report image plan step count]
  := by
  rw [Config.chapter, List.filterMap_append, reports_event]
  split
  · rfl
  · rfl

theorem milestones_chapter (step : Step) (group : List Submission) (count : Nat) :
  (config.chapter device image plan ((step, group), count)).filter Event.isMilestone
    = if config.MarksAt image count then
        [.logged (milestone device (config.percent image count / 10 * 10))]
      else []
  := by
  rw [Config.chapter, List.filter_append, milestones_event, List.nil_append,
    List.filter_cons_of_neg Bool.false_ne_true]
  split
  · apply List.filter_cons_of_pos
    apply decide_eq_true
    apply isMilestone_milestone
  · rfl

variable {confirmed : List Step} {groups : List (List Submission)}
  (hgroups : List.Forall₂ config.Group confirmed groups) (first : Nat)
include hgroups

theorem submissions_chapters :
  (((confirmed.zip groups).zipIdx first).flatMap
      (config.chapter device image plan)).filterMap Event.submission?
    = groups.flatten
  := by
  induction hgroups generalizing first with
  | nil => rfl
  | cons hgroup hgroups ih =>
      rw [List.zip_cons_cons, List.zipIdx_cons, List.flatMap_cons, List.filterMap_append,
        submissions_chapter, ih, List.flatten_cons]

/-- What is told behind the chapters is what is submitted behind the groups. -/
theorem eq_of_told {run : Run σ α} {rest submissions : List Submission}
    (htold : run.told
      = ((confirmed.zip groups).zipIdx first).flatMap (config.chapter device image plan)
        ++ rest.map Submission.event)
    (hsubmissions : run.submissions = groups.flatten ++ submissions) :
  rest = submissions
  := by
  rw [Run.submissions_eq_told, htold, List.filterMap_append, Submission.submissions_event,
    submissions_chapters device config image plan hgroups] at hsubmissions
  exact List.append_cancel_left hsubmissions

theorem reports_chapters :
  (((confirmed.zip groups).zipIdx first).flatMap
      (config.chapter device image plan)).filterMap Event.report?
    = (confirmed.zipIdx first).map fun (step, count) => config.report image plan step count
  := by
  induction hgroups generalizing first with
  | nil => rfl
  | cons hgroup hgroups ih =>
      rw [List.zip_cons_cons, List.zipIdx_cons, List.flatMap_cons, List.filterMap_append,
        reports_chapter, ih, List.zipIdx_cons, List.map_cons, List.singleton_append]

theorem milestones_chapters :
  (((confirmed.zip groups).zipIdx first).flatMap
      (config.chapter device image plan)).filter Event.isMilestone
    = ((List.range' first confirmed.length).filter (config.MarksAt image)).map fun count =>
        .logged (milestone device (config.percent image count / 10 * 10))
  := by
  induction hgroups generalizing first with
  | nil => rfl
  | cons hgroup hgroups ih =>
      rw [List.zip_cons_cons, List.zipIdx_cons, List.flatMap_cons, List.filter_append,
        milestones_chapter, ih, List.length_cons, List.range'_succ, List.filter_cons]
      by_cases hmarks : config.MarksAt image first
      · simp [hmarks]
      · simp [hmarks]

end

section

variable (hmodest : transport.Modest) (hvalid : config.validate = .ok ())
  (hplan : config.plan image = .ok plan) (hsize : image.size * 100 < UInt64.size)
include hmodest hvalid hplan hsize

/-- Steps that are all done tell their chapters, and the submissions of an abort may follow. -/
theorem told_run_of_sent (device : String)
    (hsent : Sent transport config plan.steps m trace delays m') :
  ∃ groups aborts, List.Forall₂ config.Group plan.steps groups
    ∧ (aborts = [] ∨ config.AbortLoop aborts)
    ∧ (run transport device config image m).told
      = ((plan.steps.zip groups).zipIdx 1).flatMap (config.chapter device image plan)
        ++ aborts.map Submission.event
  := by
  have hplace : ∀ i step, plan.steps[i]? = some step → plan.steps[0 + i]? = some step := by
    intro i step h
    rw [Nat.zero_add]
    exact h
  obtain ⟨rest, hrun⟩ := told_run hvalid hplan hmodest device m
  obtain ⟨groups, cursor, rfl, hgroups, htold⟩ := told_of_sent hmodest hvalid hplan hsize device []
    hplace (Cursor.stands_start config image) hsent
  rw [List.append_nil] at htold
  rw [htold.trans (List.append_nil _)] at hrun
  cases hmock : config.mock with
  | false =>
      have hsubmissions := (run_of_sent device hvalid hplan hmock hsent).submissions_eq
      rw [← List.append_nil groups.flatten] at hsubmissions
      obtain rfl := eq_of_told device config image plan hgroups _ hrun hsubmissions
      exact ⟨groups, [], hgroups, .inl rfl, hrun⟩
  | true =>
      obtain ⟨-, aborts, hsubmissions, haborts⟩ :=
        submissions_of_mock device hvalid hplan hmock hsent
      obtain rfl := eq_of_told device config image plan hgroups _ hrun hsubmissions
      exact ⟨groups, _, hgroups, haborts, hrun⟩

/-- Steps that are done before one that stops tell their chapters, and the submissions of that
step follow, and those of an abort may. -/
theorem told_run_of_stops (device : String) {stop : Except Fault Error}
    (hsteps : plan.steps = before ++ step :: after)
    (hsent : Sent transport config before m trace delays m₁)
    (hstop : StepStops transport config step m₁ stop trace' delays' m') :
  ∃ groups aborts, List.Forall₂ config.Group before groups
    ∧ (aborts = [] ∨ config.AbortLoop aborts)
    ∧ (run transport device config image m).told
      = ((before.zip groups).zipIdx 1).flatMap (config.chapter device image plan)
        ++ (trace' ++ aborts).map Submission.event
  := by
  have hplace : ∀ i step, before[i]? = some step → plan.steps[0 + i]? = some step := by
    intro i earlier h
    rw [Nat.zero_add, hsteps, List.getElem?_append_left (List.getElem?_eq_some_iff.mp h).1]
    exact h
  obtain ⟨rest, hrun⟩ := told_run hvalid hplan hmodest device m
  obtain ⟨groups, cursor, hflatten, hgroups, htold⟩ := told_of_sent hmodest hvalid hplan hsize
    device (step :: after) hplace (Cursor.stands_start config image) hsent
  obtain ⟨rest', hrest⟩ := told_of_stops hmodest device plan after cursor hstop
  rw [hsteps, htold, hrest, List.append_assoc, ← List.map_append] at hrun
  obtain ⟨-, aborts, hsubmissions, haborts⟩ :=
    submissions_of_stops device hvalid hplan hsteps hsent hstop
  rw [hflatten] at hsubmissions
  rw [eq_of_told device config image plan hgroups _ hrun hsubmissions] at hrun
  exact ⟨groups, aborts, hgroups, haborts, hrun⟩

/-- A transfer tells the chapters of the first steps, and then what it submits of a step that
is cut off and of an abort.  Those are all steps where it is complete. -/
theorem told_transfer (device : String) (m : σ) :
  ∃ confirmed groups cut aborts, confirmed <+: plan.steps
    ∧ List.Forall₂ config.Group confirmed groups
    ∧ (cut = [] ∨ ∃ step, plan.steps[confirmed.length]? = some step ∧ config.CutOff step cut)
    ∧ (aborts = [] ∨ config.AbortLoop aborts)
    ∧ (run transport device config image m).told
      = ((confirmed.zip groups).zipIdx 1).flatMap (config.chapter device image plan)
        ++ (cut ++ aborts).map Submission.event
    ∧ ((∃ blocks bytes,
        (run transport device config image m).result = .ok (.ok (.completed blocks bytes))) →
      confirmed = plan.steps)
  := by
  rcases sent_or_stops transport config plan.steps m with ⟨trace, delays, m', hsent⟩
    | ⟨before, step, after, trace, delays, m₁, stop, trace', delays', m', hsteps, hsent, hstop⟩
  · obtain ⟨groups, aborts, hgroups, haborts, htold⟩ :=
      told_run_of_sent hmodest hvalid hplan hsize device hsent
    exact ⟨plan.steps, groups, [], aborts, List.prefix_rfl, hgroups, .inl rfl, haborts, htold,
      fun _ => rfl⟩
  · obtain ⟨groups, aborts, hgroups, haborts, htold⟩ :=
      told_run_of_stops hmodest hvalid hplan hsize device hsteps hsent hstop
    obtain ⟨hother, -⟩ := submissions_of_stops device hvalid hplan hsteps hsent hstop
    have hstep : plan.steps[before.length]? = some step := by
      rw [hsteps]
      simp
    refine ⟨before, groups, trace', aborts, hsteps ▸ List.prefix_append _ _, hgroups,
      .inr ⟨step, hstep, cutOff_of_stops hvalid hstop⟩, haborts, htold, ?_⟩
    rintro ⟨blocks, bytes, hcompleted⟩
    exact absurd hcompleted (hother blocks bytes)

end

/-! ## The chronicle of a transfer -/

/-- What a run tells about the steps that it confirms. -/
structure Config.Chronicle (device : String) (config : Config) (image : Image) (plan : Plan)
    (confirmed : List Step) (run : Run σ α) : Prop where
  first : confirmed <+: plan.steps
  /-- Each step has its chapter, and behind the chapters come submissions alone, of a step that
  is cut off and of an abort. -/
  told : ∃ groups cut aborts, List.Forall₂ config.Group confirmed groups
    ∧ (cut = [] ∨ ∃ step, plan.steps[confirmed.length]? = some step ∧ config.CutOff step cut)
    ∧ (aborts = [] ∨ config.AbortLoop aborts)
    ∧ run.told = ((confirmed.zip groups).zipIdx 1).flatMap (config.chapter device image plan)
      ++ (cut ++ aborts).map Submission.event
  /-- There is one report for each step, and no other. -/
  reports : run.reports
    = (confirmed.zipIdx 1).map fun (step, count) => config.report image plan step count
  percents : run.reports.map Progress.percent
    = (List.range' 1 confirmed.length).map (config.percent image)
  percents_le : ∀ percent ∈ run.reports.map Progress.percent, percent ≤ 100
  percents_mono : (run.reports.map Progress.percent).Pairwise (· ≤ ·)
  /-- The last report gives all of the image exactly when all of it is confirmed. -/
  hundred : (run.reports.map Progress.percent).getLast? = some 100
    ↔ confirmed.flatMap Step.data = image.data
  /-- There is one milestone for each step that marks a further tenth, and no other. -/
  milestones : run.events.filter Event.isMilestone
    = (config.marks image confirmed.length).map fun mark => .logged (milestone device mark)
  marks_lt : (config.marks image confirmed.length).Pairwise (· < ·)
  marks_tenth : ∀ mark ∈ config.marks image confirmed.length, 0 < mark ∧ 10 ∣ mark

section

variable (hplan : config.plan image = .ok plan) (hsize : image.size * 100 < UInt64.size)
include hplan hsize

/-- What is told makes a chronicle. -/
theorem chronicle_of_told {run : Run σ α} {confirmed : List Step}
    {groups : List (List Submission)} {cut aborts : List Submission}
    (hconfirmed : confirmed <+: plan.steps) (hgroups : List.Forall₂ config.Group confirmed groups)
    (hcut : cut = [] ∨ ∃ step, plan.steps[confirmed.length]? = some step ∧ config.CutOff step cut)
    (haborts : aborts = [] ∨ config.AbortLoop aborts)
    (htold : run.told
      = ((confirmed.zip groups).zipIdx 1).flatMap (config.chapter device image plan)
        ++ (cut ++ aborts).map Submission.event) :
  config.Chronicle device image plan confirmed run
  := by
  have hreports : run.reports
      = (confirmed.zipIdx 1).map fun (step, count) => config.report image plan step count := by
    rw [Run.reports_eq_told, htold, List.filterMap_append, reports_event, List.append_nil,
      reports_chapters device config image plan hgroups]
  have hpercents : run.reports.map Progress.percent
      = (List.range' 1 confirmed.length).map (config.percent image) := by
    rw [hreports]
    exact percents_reports hsize plan confirmed
  constructor
  · exact hconfirmed
  · exact ⟨groups, cut, aborts, hgroups, hcut, haborts, htold⟩
  · exact hreports
  · exact hpercents
  · rw [hpercents]
    intro percent hpercent
    obtain ⟨count, -, rfl⟩ := List.mem_map.mp hpercent
    apply config.percent_le
  · rw [hpercents, List.pairwise_map]
    apply (List.pairwise_le_range' 1).imp
    intro count count' hcount
    exact config.percent_mono image hcount
  · rw [hpercents]
    exact getLast?_percents hplan hconfirmed
  · rw [Run.milestones_eq_told, htold, List.filter_append, milestones_event, List.append_nil,
      milestones_chapters device config image plan hgroups, Config.marks, List.map_map]
    rfl
  · apply config.pairwise_marks
  · intro mark hmark
    obtain ⟨block, -, -, ⟨hpos, -⟩, rfl⟩ := config.mem_marks.mp hmark
    exact ⟨Nat.mul_pos hpos (Nat.succ_pos 9), Nat.dvd_mul_left 10 _⟩

end

/-- The chronicle of a transfer that has a plan; all of its milestones are there, and the one of
one hundred percent once, where it is complete. -/
theorem chronicle_of_plan (hmodest : transport.Modest) (hvalid : config.validate = .ok ())
    (hplan : config.plan image = .ok plan) (hsize : image.size * 100 < UInt64.size)
    (device : String) (m : σ) :
  ∃ confirmed, config.Chronicle device image plan confirmed (run transport device config image m)
    ∧ ((∃ blocks bytes,
        (run transport device config image m).result = .ok (.ok (.completed blocks bytes))) →
      confirmed = plan.steps ∧ (config.marks image confirmed.length).count 100 = 1)
  := by
  obtain ⟨confirmed, groups, cut, aborts, hconfirmed, hgroups, hcut, haborts, htold, hcompleted⟩ :=
    told_transfer hmodest hvalid hplan hsize device m
  use confirmed, chronicle_of_told hplan hsize hconfirmed hgroups hcut haborts htold
  intro hresult
  obtain rfl := hcompleted hresult
  obtain ⟨blocks, bytes, hresult⟩ := hresult
  obtain ⟨hmock, -⟩ := groups_of_completed hresult
  have hshare := config.length_take_data hplan (Nat.le_refl plan.steps.length)
  rw [List.take_length, (config.plan_carries hplan hmock).flatMap_data] at hshare
  exact ⟨rfl, config.count_marks_hundred (config.percent_eq_hundred.mpr hshare.symm)⟩

/-- A transfer reports once for each step that is confirmed, and logs a milestone with exactly
those reports whose tenth is above that of all reports before; the percentages do not fall, and
come to one hundred with the whole image.  A transfer that is complete confirms all steps, and
logs the milestone of one hundred percent exactly once.  Without a plan nothing happens. -/
theorem run_chronicled (hmodest : transport.Modest) (hvalid : config.validate = .ok ())
    (hsize : image.size * 100 < UInt64.size) (device : String) (m : σ) :
  (∃ error, config.plan image = .error error
      ∧ run transport device config image m = ⟨.ok (.error error), m, []⟩)
    ∨ ∃ plan confirmed, config.plan image = .ok plan
      ∧ config.Chronicle device image plan confirmed (run transport device config image m)
      ∧ ((∃ blocks bytes,
          (run transport device config image m).result = .ok (.ok (.completed blocks bytes))) →
        confirmed = plan.steps ∧ (config.marks image confirmed.length).count 100 = 1)
  := by
  cases hplan : config.plan image with
  | error error =>
      left
      use error, rfl
      rw [run]
      simp only [hvalid, hplan]
      rfl
  | ok plan =>
      right
      obtain ⟨confirmed, hchronicle⟩ := chronicle_of_plan hmodest hvalid hplan hsize device m
      exact ⟨plan, confirmed, rfl, hchronicle⟩

/-- The answers of a device that takes and processes every block at once. -/
def steady : Script where
  answers := []
  fallback := .ok ⟨Status.success.code, StatusQuery.spec.encode
    ⟨false, 100, Opcode.transferFw.code, Status.success.code, 0⟩⟩

theorem run_chronicled_steady :
  let run := run (Script.transport "mem0") "mem0" (.new .specDefined 2) shortEnded steady
  completed? run.result = some (3, 300)
    ∧ run.reports.map Progress.percent = [42, 85, 100]
    ∧ run.events.filter Event.isMilestone
      = [40, 80, 100].map fun mark => .logged (milestone "mem0" mark)
  := by
  intro run
  have hcompleted : completed? run.result = some (3, 300) := by
    decide +kernel
  have hresult := completed?_eq_some.mp hcompleted
  have hvalid : (Config.new .specDefined 2).validate = .ok () := rfl
  have hsize : shortEnded.size * 100 < UInt64.size := by
    decide +kernel
  rcases run_chronicled (Script.modest "mem0") hvalid hsize "mem0" steady with
    ⟨error, -, hrun⟩ | ⟨plan, confirmed, hplan, hchronicle, hall⟩
  · cases (congrArg Run.result hrun).symm.trans hresult
  · obtain ⟨rfl, -⟩ := hall ⟨3, 300, hresult⟩
    have hlength : plan.steps.length = 3 := by
      have hmock : (Config.new .specDefined 2).mock = false := rfl
      rw [Config.plan, hmock, if_neg Bool.false_ne_true] at hplan
      rw [length_whole hplan, Nat.ceilDiv_eq_add_pred_div]
      decide +kernel
    have hpercents := hchronicle.percents
    have hmilestones := hchronicle.milestones
    rw [hlength] at hpercents hmilestones
    refine ⟨hcompleted, hpercents.trans ?_, hmilestones.trans (congrArg _ ?_)⟩
    · decide +kernel
    · decide +kernel

end CxlFirmware.Transfer
