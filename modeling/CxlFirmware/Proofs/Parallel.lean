import CxlFirmware.Proofs.Renaming
import CxlFirmware.Proofs.Reports
import CxlFirmware.Proofs.Transfer.Cause

/-!
# Workflows in parallel

Two workflows, each with a mailbox of its own, run in `Parallel` when from related mailboxes
they wait for the same times, report the same progress, and end alike: either both end the
program, with the same fault, or both give a value, and the values and the mailboxes are
related again.  What they log and submit may differ.  There is one rule for each way to build
a workflow, and one for each loop of attempts.
-/

namespace CxlFirmware

variable {σ τ α α' β β' π π' : Type}

/-! ## Runs that are alike -/

/-- Two runs end the program with the same fault, and the mailboxes are then related by
`kept`, or they give values, and values and mailboxes are then related by `post`. -/
inductive Ends (kept : σ → τ → Prop) (post : α → β → σ → τ → Prop) :
    Except Fault α → Except Fault β → σ → τ → Prop
  | fault (fault : Fault) {m : σ} {n : τ} (h : kept m n) :
      Ends kept post (.error fault) (.error fault) m n
  | value {a : α} {b : β} {m : σ} {n : τ} (h : post a b m n) :
      Ends kept post (.ok a) (.ok b) m n

/-- Two runs wait and report alike, and end alike. -/
structure Run.Alike (kept : σ → τ → Prop) (post : α → β → σ → τ → Prop) (run : Run σ α)
    (run' : Run τ β) : Prop where
  sleeps : run'.sleeps = run.sleeps
  reports : run'.reports = run.reports
  ends : Ends kept post run.result run'.result run.mailbox run'.mailbox

namespace Workflow

/-- From mailboxes that are related by `pre`, the runs of `x` and `y` are alike. -/
def Parallel (kept pre : σ → τ → Prop) (x : Workflow σ α) (y : Workflow τ β)
    (post : α → β → σ → τ → Prop) : Prop :=
  ∀ m n, pre m n → (x m).Alike kept post (y n)

/-- Runs that return values at once are alike. -/
theorem alike_pure {kept : σ → τ → Prop} {post : α → β → σ → τ → Prop} {a : α} {b : β} {m : σ}
    {n : τ} (h : post a b m n) :
  Run.Alike kept post ((pure a : Workflow σ α) m) ((pure b : Workflow τ β) n)
  := ⟨rfl, rfl, .value h⟩

namespace Parallel

variable {kept pre : σ → τ → Prop} {post mid : α → β → σ → τ → Prop}
  {post' : α' → β' → σ → τ → Prop} {x : Workflow σ α} {y : Workflow τ β}

protected theorem pure {a : α} {b : β} (h : ∀ m n, pre m n → post a b m n) :
  Parallel kept pre (pure a) (pure b) post
  := fun m n hpre => alike_pure (h m n hpre)

/-- What is read off both mailboxes has to be the same. -/
theorem inspect {read : σ → α'} {read' : τ → α'} {x : α' → Workflow σ α} {y : α' → Workflow τ β}
    (hread : ∀ m n, pre m n → read m = read' n) (h : ∀ a, Parallel kept pre (x a) (y a) post) :
  Parallel kept pre (Workflow.inspect read x) (Workflow.inspect read' y) post
  := by
  intro m n hpre
  have hrun : (x (read m) m).Alike kept post (y (read m) n) := h (read m) m n hpre
  change (x (read m) m).Alike kept post (y (read' n) n)
  rw [← hread m n hpre]
  exact hrun

theorem exchange {transport : Transport σ} {transport' : Transport τ} {command command' : Command}
    {post : Receipt → Receipt → σ → τ → Prop}
    (h : ∀ m n, pre m n → Ends kept post (transport.submit command m).answer
      (transport'.submit command' n).answer (transport.submit command m).mailbox
      (transport'.submit command' n).mailbox) :
  Parallel kept pre (Workflow.exchange transport command) (Workflow.exchange transport' command')
    post
  := by
  intro m n hpre
  have hsleeps : ∀ (ρ : Type) (t : Transport ρ) (c : Command) (l : ρ),
      (Workflow.exchange t c l).sleeps = [] := by
    intro ρ t c l
    rw [← sleeps_quiet, quiet_exchange]
    rfl
  constructor
  · rw [hsleeps, hsleeps]
  · rw [reports_exchange, reports_exchange]
  · exact h m n hpre

/-- What follows on the values of workflows in parallel runs in parallel. -/
protected theorem bind {f : α → Workflow σ α'} {g : β → Workflow τ β'}
    (hx : Parallel kept pre x y mid)
    (hf : ∀ a b, Parallel kept (mid a b) (f a) (g b) post') :
  Parallel kept pre (x >>= f) (y >>= g) post'
  := by
  intro m n hpre
  obtain ⟨hsleeps, hreports, hends⟩ := hx m n hpre
  cases hresult : (x m).result with
  | error fault =>
      rw [hresult] at hends
      generalize hresult' : (y n).result = result' at hends
      cases hends with
      | fault _ hkept =>
          rw [bind_of_fault hresult, bind_of_fault hresult']
          exact ⟨hsleeps, hreports, .fault fault hkept⟩
  | ok a =>
      rw [hresult] at hends
      generalize hresult' : (y n).result = result' at hends
      cases hends with
      | @value _ b _ _ hmid =>
          obtain ⟨hsleeps', hreports', hends'⟩ := hf a b _ _ hmid
          rw [bind_of_ok hresult, bind_of_ok hresult']
          constructor
          · change List.filterMap _ (_ ++ _) = List.filterMap _ (_ ++ _)
            rw [List.filterMap_append, List.filterMap_append]
            exact congrArg₂ (· ++ ·) hsleeps hsleeps'
          · change List.filterMap _ (_ ++ _) = List.filterMap _ (_ ++ _)
            rw [List.filterMap_append, List.filterMap_append]
            exact congrArg₂ (· ++ ·) hreports hreports'
          · exact hends'

section

variable {f : Unit → Workflow σ α} {g : Unit → Workflow τ β}

/-- Log records make no difference. -/
theorem log (level : LogLevel) (origin message message' : String)
    (h : Parallel kept pre (f ()) (g ()) post) :
  Parallel kept pre (Workflow.log level origin message >>= f)
    (Workflow.log level origin message' >>= g) post
  := by
  intro m n hpre
  exact ⟨(h m n hpre).sleeps, (h m n hpre).reports, (h m n hpre).ends⟩

theorem sleep (duration : Duration) (h : Parallel kept pre (f ()) (g ()) post) :
  Parallel kept pre (Workflow.sleep duration >>= f) (Workflow.sleep duration >>= g) post
  := by
  intro m n hpre
  exact ⟨congrArg (duration :: ·) (h m n hpre).sleeps, (h m n hpre).reports, (h m n hpre).ends⟩

theorem progress (report : Transfer.Progress) (h : Parallel kept pre (f ()) (g ()) post) :
  Parallel kept pre (Workflow.emit (.progressed report) >>= f)
    (Workflow.emit (.progressed report) >>= g) post
  := by
  intro m n hpre
  exact ⟨(h m n hpre).sleeps, congrArg (report :: ·) (h m n hpre).reports, (h m n hpre).ends⟩

end

end Parallel

end Workflow

open Workflow (Parallel alike_pure)

variable {kept pre : σ → τ → Prop} {transport : Transport σ} {transport' : Transport τ}

/-! ## Commands -/

/-- Two commands run in parallel when what their answers mean is related. -/
theorem Mailbox.parallel_submit {opcode opcode' : Opcode} {payload payload' : Bytes}
    {post : Except Error Bytes → Except Error Bytes → σ → τ → Prop}
    (h : ∀ m n, pre m n →
      Ends kept (fun receipt receipt' => post (verdict opcode receipt) (verdict opcode' receipt'))
        (transport.submit ⟨opcode.code, payload⟩ m).answer
        (transport'.submit ⟨opcode'.code, payload'⟩ n).answer
        (transport.submit ⟨opcode.code, payload⟩ m).mailbox
        (transport'.submit ⟨opcode'.code, payload'⟩ n).mailbox) :
  Parallel kept pre (submit transport opcode payload) (submit transport' opcode' payload') post
  := by
  have hexchange : Parallel kept pre (Workflow.exchange transport ⟨opcode.code, payload⟩)
      (Workflow.exchange transport' ⟨opcode'.code, payload'⟩)
      fun receipt receipt' => post (verdict opcode receipt) (verdict opcode' receipt') :=
    Parallel.exchange h
  unfold submit
  apply Parallel.log
  apply hexchange.bind
  intro receipt receipt' m n hpost
  -- What comes back decides only what is logged.
  cases receipt with
  | error source =>
      cases receipt' with
      | error source' => exact ⟨rfl, rfl, .value hpost⟩
      | ok response' => exact ⟨rfl, rfl, .value hpost⟩
  | ok response =>
      cases receipt' with
      | error source' => exact ⟨rfl, rfl, .value hpost⟩
      | ok response' => exact ⟨rfl, rfl, .value hpost⟩

/-- So do two status queries. -/
theorem Poll.parallel_queryStatus {query query' : StatusQuery}
    {post : Except Error BackgroundStatus → Except Error BackgroundStatus → σ → τ → Prop}
    (h : ∀ m n, pre m n →
      Ends kept (fun receipt receipt' => post (query.verdict receipt) (query'.verdict receipt'))
        (transport.submit ⟨query.opcode.code, []⟩ m).answer
        (transport'.submit ⟨query'.opcode.code, []⟩ n).answer
        (transport.submit ⟨query.opcode.code, []⟩ m).mailbox
        (transport'.submit ⟨query'.opcode.code, []⟩ n).mailbox) :
  Parallel kept pre (queryStatus transport query) (queryStatus transport' query') post
  := by
  have hsubmit : Parallel kept pre (Mailbox.submit transport query.opcode [])
      (Mailbox.submit transport' query'.opcode [])
      fun a b => post (a.bind query.decode) (b.bind query'.decode) :=
    Mailbox.parallel_submit h
  unfold queryStatus
  apply hsubmit.bind
  intro a b m n hpost
  cases a with
  | error error =>
      cases b with
      | error error' => exact alike_pure hpost
      | ok payload' => exact alike_pure hpost
  | ok payload =>
      cases b with
      | error error' => exact alike_pure hpost
      | ok payload' => exact alike_pure hpost

/-! ## Loops of attempts -/

/-- Two workflows return values that are related by `done`, or errors that are renamed; after
errors the mailboxes are related as before. -/
inductive Returns (pre : σ → τ → Prop) (done : α → β → σ → τ → Prop) :
    Except Error α → Except Error β → σ → τ → Prop
  | value {a : α} {b : β} {m : σ} {n : τ} (h : done a b m n) : Returns pre done (.ok a) (.ok b) m n
  | error {error error' : Error} {m : σ} {n : τ} (herror : error.Renamed error') (h : pre m n) :
      Returns pre done (.error error) (.error error') m n

/-- Two attempts are done, with values that are related by `done`, or pending, with sights that
are related by `seen`, or failed, with errors that are renamed; unless they are done, the
mailboxes are related as before. -/
inductive Attempt.Alike (pre : σ → τ → Prop) (done : α → β → σ → τ → Prop) (seen : π → π' → Prop) :
    Attempt α π → Attempt β π' → σ → τ → Prop
  | done {a : α} {b : β} {m : σ} {n : τ} (h : done a b m n) :
      Alike pre done seen (.done a) (.done b) m n
  | pending {s : π} {s' : π'} {m : σ} {n : τ} (hseen : seen s s') (h : pre m n) :
      Alike pre done seen (.pending s) (.pending s') m n
  | failed {error error' : Error} {m : σ} {n : τ} (herror : error.Renamed error') (h : pre m n) :
      Alike pre done seen (.failed error) (.failed error') m n

/-- Two loops of attempts have values that are related by `done`, or gave up for reasons that
are alike; unless they have values, the mailboxes are related as before. -/
inductive GaveUp.Alike (pre : σ → τ → Prop) (done : α → β → σ → τ → Prop) (seen : π → π' → Prop) :
    Except (GaveUp π) α → Except (GaveUp π') β → σ → τ → Prop
  | done {a : α} {b : β} {m : σ} {n : τ} (h : done a b m n) :
      Alike pre done seen (.ok a) (.ok b) m n
  | exhausted (attempts : Nat) {s : π} {s' : π'} {m : σ} {n : τ} (hseen : seen s s')
      (h : pre m n) :
      Alike pre done seen (.error (.exhausted attempts s)) (.error (.exhausted attempts s')) m n
  | deadline (attempts : Nat) {s : π} {s' : π'} {m : σ} {n : τ} (hseen : seen s s')
      (h : pre m n) :
      Alike pre done seen (.error (.deadline attempts s)) (.error (.deadline attempts s')) m n
  | failed {error error' : Error} {m : σ} {n : τ} (herror : error.Renamed error') (h : pre m n) :
      Alike pre done seen (.error (.failed error)) (.error (.failed error')) m n

variable {done : α → β → σ → τ → Prop} {seen : π → π' → Prop}

namespace Retry

section

variable {attempt : Nat → Option π → Workflow σ (Attempt α π)}
  {attempt' : Nat → Option π' → Workflow τ (Attempt β π')}
  (hkept : ∀ m n, pre m n → kept m n)
  (hattempt : ∀ number previous previous', Parallel kept pre (attempt number previous)
    (attempt' number previous') (Attempt.Alike pre done seen))
include hkept hattempt

/-- Loops whose attempts run in parallel run in parallel. -/
theorem parallel_loop (policy : RetryPolicy) (elapsed : Nat → Duration) (left number : Nat)
    (previous : Option π) (previous' : Option π') :
  Parallel kept pre (loop policy elapsed attempt left number previous)
    (loop policy elapsed attempt' left number previous') (GaveUp.Alike pre done seen)
  := by
  induction left generalizing number previous previous' with
  | zero =>
      unfold loop
      apply Parallel.bind (hattempt number previous previous')
      rintro _ _ m n (h | ⟨hseen, h⟩ | ⟨herror, h⟩)
      · exact alike_pure (.done h)
      · exact alike_pure (.exhausted number hseen h)
      · exact alike_pure (.failed herror h)
  | succ left ih =>
      unfold loop
      apply Parallel.bind (hattempt number previous previous')
      rintro _ _ m n (h | ⟨hseen, h⟩ | ⟨herror, h⟩)
      · exact alike_pure (.done h)
      · dsimp only
        rcases policy.overdue (elapsed number) with fault | _ | _
        · exact ⟨rfl, rfl, .fault fault (hkept m n h)⟩
        · exact Parallel.sleep policy.delay (ih (number + 1) _ _) m n h
        · exact alike_pure (.deadline number hseen h)
      · exact alike_pure (.failed herror h)

theorem parallel_run {clock : Clock σ} {clock' : Clock τ}
    (hclock : ∀ delay m n, pre m n → clock delay m = clock' delay n) (policy : RetryPolicy) :
  Parallel kept pre (run clock policy attempt) (run clock' policy attempt')
    (GaveUp.Alike pre done seen)
  := by
  unfold run
  cases hvalid : policy.validate with
  | error error =>
      obtain ⟨text, rfl⟩ := Transfer.config_of_retryValidate hvalid
      apply Parallel.pure
      intro m n h
      exact .failed (.config text) h
  | ok _ =>
      apply Parallel.inspect (hclock policy.delay)
      exact fun elapsed => parallel_loop hkept hattempt policy elapsed _ _ _ _

end

/-- The pending answers are to a command and to its counterpart. -/
def Deferred (seen seen' : Opcode × Status) : Prop :=
  seen' = (seen.1.vendor, seen.2)

section

variable {operation : Workflow σ (Except Error α)} {operation' : Workflow τ (Except Error β)}
  (hoperation : Parallel kept pre operation operation' (Returns pre done))
include hoperation

theorem parallel_attemptOnce (policy : RetryPolicy) (number : Nat) :
  Parallel kept pre (attemptOnce policy operation number) (attemptOnce policy operation' number)
    (Attempt.Alike pre done Deferred)
  := by
  unfold attemptOnce
  apply Parallel.bind hoperation
  rintro _ _ m n (h | ⟨herror, h⟩)
  · exact alike_pure (.done h)
  · have hrenamed := herror
    cases herror with
    | device opcode status =>
        dsimp only
        split
        · apply Parallel.log _ _ _ _ _ m n h
          exact Parallel.pure fun m n h => .pending rfl h
        · exact alike_pure (.failed hrenamed h)
    | _ => exact alike_pure (.failed hrenamed h)

/-- Operations that run in parallel do so when they are repeated. -/
theorem parallel_withRetry {clock : Clock σ} {clock' : Clock τ}
    (hclock : ∀ delay m n, pre m n → clock delay m = clock' delay n) (policy : RetryPolicy)
    (hkept : ∀ m n, pre m n → kept m n) :
  Parallel kept pre (withRetry clock policy operation) (withRetry clock' policy operation')
    (Returns pre done)
  := by
  unfold withRetry
  apply Parallel.bind (parallel_run hkept
    (fun number _ _ => parallel_attemptOnce hoperation policy number) hclock policy)
  rintro _ _ m n (h | ⟨attempts, rfl, h⟩ | ⟨attempts, rfl, h⟩ | ⟨herror, h⟩)
  · exact alike_pure (.value h)
  · apply Parallel.log _ _ _ _ _ m n h
    exact Parallel.pure fun m n h => .error (.retriesExhausted _ attempts _) h
  · exact alike_pure (.error (.retriesLate _ _ attempts) h)
  · exact alike_pure (.error herror h)

end

end Retry

namespace Poll

/-- The sights are of a command and its counterpart, and otherwise the same. -/
def Sighted (seen seen' : Option Sighting) : Prop :=
  ∃ (opcode : Opcode) (percent : UInt8), seen = some ⟨opcode.code, percent⟩
    ∧ seen' = some ⟨opcode.vendor.code, percent⟩

/-- Two queries report that an operation runs, of a command and of its counterpart, or that
one has ended, with success. -/
inductive Observes (pre : σ → τ → Prop)
    (done : BackgroundStatus → BackgroundStatus → σ → τ → Prop) :
    Except Error BackgroundStatus → Except Error BackgroundStatus → σ → τ → Prop
  | running {report report' : BackgroundStatus} {m : σ} {n : τ}
      (hrunning : report.inProgress = true) (hrenamed : report.Renamed report') (h : pre m n) :
      Observes pre done (.ok report) (.ok report') m n
  | ended {report report' : BackgroundStatus} {m : σ} {n : τ} (hended : report.inProgress = false)
      (hended' : report'.inProgress = false) (hsuccess : report.status = .success)
      (hsuccess' : report'.status = .success) (h : done report report' m n) :
      Observes pre done (.ok report) (.ok report') m n

section

variable {query query' : StatusQuery}
  {done : BackgroundStatus → BackgroundStatus → σ → τ → Prop}

theorem parallel_attempt
    (hquery : Parallel kept pre (queryStatus transport query) (queryStatus transport' query')
      (Observes pre done))
    (policy : RetryPolicy) (number : Nat) (previous previous' : Option (Option Sighting)) :
  Parallel kept pre (attempt transport query policy number previous)
    (attempt transport' query' policy number previous') (Attempt.Alike pre done Sighted)
  := by
  unfold attempt
  apply Parallel.bind hquery
  rintro _ _ m n (⟨hrunning, ⟨opcode, hopcode, rfl⟩, h⟩
    | ⟨hended, hended', hsuccess, hsuccess', h⟩)
  · simp only [hrunning, if_true]
    apply Parallel.log _ _ _ _ _ m n h
    exact Parallel.pure fun m n h => .pending ⟨opcode, _, by rw [hopcode], rfl⟩ h
  · simp only [hended, hended', hsuccess, hsuccess']
    apply Parallel.log _ _ _ _ _ m n h
    exact Parallel.pure fun m n h => .done h

/-- Polls that run in parallel do so until they are done. -/
theorem parallel_untilDone
    (hquery : Parallel kept pre (queryStatus transport .spec) (queryStatus transport' .hbo)
      (Observes pre done))
    (hclock : ∀ delay m n, pre m n → transport.clock delay m = transport'.clock delay n)
    (policy : RetryPolicy) (hkept : ∀ m n, pre m n → kept m n) :
  Parallel kept pre (untilDone transport .spec policy) (untilDone transport' .hbo policy)
    (Returns pre done)
  := by
  unfold untilDone
  apply Parallel.bind (Retry.parallel_run hkept (parallel_attempt hquery policy) hclock policy)
  rintro _ _ m n (h | ⟨attempts, ⟨opcode, percent, rfl, rfl⟩, h⟩ | ⟨attempts, -, h⟩ | ⟨herror, h⟩)
  · exact alike_pure (.value h)
  · exact alike_pure (.error (.pollExhausted opcode attempts percent) h)
  · exact alike_pure (.error (.pollsLate .getBackgroundStatus _ attempts) h)
  · exact alike_pure (.error herror h)

end

end Poll

end CxlFirmware
