import CxlFirmware.Activation
import CxlFirmware.Proofs.Parallel

/-!
# Families of commands

A transfer or an activation through the commands of the specification and one through those of
the vendor run in parallel, as soon as their mailboxes answer a single command of the two
families alike: the submission of a transfer or an activation, and the status query after it.
-/

namespace CxlFirmware

open Workflow (Parallel alike_pure)

variable {σ τ : Type}

/-- Mailboxes that are related by `before` answer the command and its counterpart alike.
Behind a success they are related by `behind`, and answer status queries alike; behind the end
of the operation they are related by `done`. -/
structure Interchangeable (transport : Transport σ) (transport' : Transport τ) (opcode : Opcode)
    (kept before behind : σ → τ → Prop)
    (done : BackgroundStatus → BackgroundStatus → σ → τ → Prop) : Prop where
  submit : ∀ payload, Parallel kept before (Mailbox.submit transport opcode payload)
    (Mailbox.submit transport' opcode.vendor payload) (Returns before fun _ _ => behind)
  query : Parallel kept behind (Poll.queryStatus transport .spec) (Poll.queryStatus transport' .hbo)
    (Poll.Observes behind done)
  clock : ∀ delay m n, before m n → transport.clock delay m = transport'.clock delay n
  keeps : ∀ m n, before m n → kept m n
  resumes : ∀ m n, behind m n → before m n
  finishes : ∀ report report' m n, done report report' m n → before m n

variable {transport : Transport σ} {transport' : Transport τ} {kept before behind : σ → τ → Prop}
  {done : BackgroundStatus → BackgroundStatus → σ → τ → Prop}

namespace Interchangeable

variable {opcode : Opcode} (h : Interchangeable transport transport' opcode kept before behind done)
include h

/-- The command and its counterpart may be repeated. -/
theorem repeated (policy : RetryPolicy) (payload : Bytes) :
  Parallel kept before
    (Retry.withRetry transport.clock policy (Mailbox.submit transport opcode payload))
    (Retry.withRetry transport'.clock policy (Mailbox.submit transport' opcode.vendor payload))
    (Returns before fun _ _ => behind)
  := Retry.parallel_withRetry (h.submit payload) h.clock policy h.keeps

/-- And then the operation may be polled. -/
theorem polled (policy : RetryPolicy) :
  Parallel kept behind (Poll.untilDone transport .spec policy)
    (Poll.untilDone transport' .hbo policy) (Returns behind done)
  := by
  apply Poll.parallel_untilDone h.query _ policy
  · exact fun m n hbehind => h.keeps m n (h.resumes m n hbehind)
  · exact fun delay m n hbehind => h.clock delay m n (h.resumes m n hbehind)

end Interchangeable

/-! ## Transfers -/

namespace Transfer

/-- The parameters for another family of commands. -/
def Config.withKind (config : Config) (kind : Kind) : Config :=
  { config with kind }

section

variable {α β : Type} {post : α → β → σ → τ → Prop} {f : Unit → Workflow σ α}
  {g : Unit → Workflow τ β}

theorem parallel_logState (name : String) (earlier later : State)
    (h : Parallel kept before (f ()) (g ()) post) :
  Parallel kept before (logState name earlier later >>= f) (logState name earlier later >>= g) post
  := by
  unfold logState
  split
  · exact h
  · exact Parallel.log _ _ _ _ h

theorem parallel_logDecile (name : String) (earlier later : Nat)
    (h : Parallel kept before (f ()) (g ()) post) :
  Parallel kept before (logDecile name earlier later >>= f) (logDecile name earlier later >>= g)
    post
  := by
  unfold logDecile
  split
  · exact Parallel.log _ _ _ _ h
  · exact h

end

section

variable (h : Interchangeable transport transport' .transferFw kept before behind done)
  (device : String) (config : Config)
include h

theorem parallel_sendStep (step : Step) :
  Parallel kept before (sendStep transport device (config.withKind .specDefined) step)
    (sendStep transport' device (config.withKind .vendorBackground) step)
    (Returns before fun _ _ => before)
  := by
  unfold sendStep
  apply Parallel.log
  apply Parallel.bind (h.repeated config.stepRetry _)
  rintro _ _ m n (hbehind | ⟨herror, hbefore⟩)
  · apply Parallel.bind (h.polled config.poll) _ m n hbehind
    rintro report report' m n (hdone | ⟨herror, hbehind⟩)
    · exact alike_pure (.value (h.finishes _ _ m n hdone))
    · exact alike_pure (.error herror (h.resumes m n hbehind))
  · exact alike_pure (.error herror hbefore)

/-- Aborts have errors that are renamed, or none. -/
theorem parallel_abort :
  Parallel kept before (abort transport device (config.withKind .specDefined))
    (abort transport' device (config.withKind .vendorBackground))
    (fun a b m n => Error.MessageRenamed (failureText a) (failureText b) ∧ before m n)
  := by
  have hreserve : reserve (config.withKind .vendorBackground)
      = reserve (config.withKind .specDefined) := rfl
  unfold abort
  apply Parallel.log
  rw [hreserve]
  cases reserve (config.withKind .specDefined) with
  | error fault => exact fun m n hbefore => ⟨rfl, rfl, .fault fault (h.keeps m n hbefore)⟩
  | ok _ =>
      apply Parallel.bind (h.repeated config.stepRetry _)
      rintro _ _ m n (hbehind | ⟨herror, hbefore⟩)
      · apply Parallel.log _ _ _ _ _ m n hbehind
        exact Parallel.pure fun m n hbehind => ⟨.none, h.resumes m n hbehind⟩
      · apply Parallel.log _ _ _ _ _ m n hbefore
        exact Parallel.pure fun m n hbefore => ⟨.some herror, hbefore⟩

theorem parallel_sendSteps (plan : Plan) (steps : List Step) (cursor : Cursor) :
  Parallel kept before
    (sendSteps transport device (config.withKind .specDefined) plan steps cursor)
    (sendSteps transport' device (config.withKind .vendorBackground) plan steps cursor)
    (Returns before fun a b m n => a = b ∧ before m n)
  := by
  induction steps generalizing cursor with
  | nil =>
      apply Parallel.pure
      exact fun m n hbefore => .value ⟨rfl, hbefore⟩
  | cons step rest ih =>
      unfold sendSteps
      apply parallel_logState
      apply Parallel.bind (parallel_sendStep h device config step)
      rintro _ _ m n (hbefore | ⟨herror, hbefore⟩)
      · apply Parallel.progress _ _ m n hbefore
        apply parallel_logDecile
        apply ih
      · apply Parallel.log _ _ _ _ _ m n hbefore
        apply Parallel.bind (parallel_abort h device config)
        rintro _ _ m n ⟨hmessage, hbefore⟩
        exact alike_pure (.error (.transferFailed _ _ herror hmessage) hbefore)

/-- Transfers through the two families run in parallel. -/
theorem parallel_run (image : Image) :
  Parallel kept before (run transport device (config.withKind .specDefined) image)
    (run transport' device (config.withKind .vendorBackground) image)
    (Returns before fun a b m n => a.Renamed b ∧ before m n)
  := by
  have hvalidate : (config.withKind .vendorBackground).validate
      = (config.withKind .specDefined).validate := rfl
  have hplan : (config.withKind .vendorBackground).plan image
      = (config.withKind .specDefined).plan image := rfl
  have hmock : (config.withKind .vendorBackground).mock = (config.withKind .specDefined).mock := rfl
  unfold run
  rw [hvalidate, hplan, hmock]
  cases hvalid : (config.withKind .specDefined).validate with
  | error error =>
      obtain ⟨text, rfl⟩ := config_of_validate hvalid
      apply Parallel.pure
      exact fun m n hbefore => .error (.config text) hbefore
  | ok _ =>
      cases hcarried : (config.withKind .specDefined).plan image with
      | error error =>
          obtain ⟨text, rfl⟩ := config_of_plan hcarried
          apply Parallel.pure
          exact fun m n hbefore => .error (.config text) hbefore
      | ok plan =>
          apply Parallel.log
          apply Parallel.bind (parallel_sendSteps h device config plan plan.steps .start)
          rintro _ _ m n (⟨rfl, hbefore⟩ | ⟨herror, hbefore⟩)
          · cases (config.withKind .specDefined).mock with
            | true =>
                apply Parallel.log _ _ _ _ _ m n hbefore
                apply Parallel.bind (parallel_abort h device config)
                rintro _ _ m n ⟨hmessage, hbefore⟩
                exact alike_pure (.value ⟨.mockAborted hmessage, hbefore⟩)
            | false =>
                apply Parallel.log _ _ _ _ _ m n hbefore
                exact Parallel.pure fun m n hbefore => .value ⟨.completed _ _, hbefore⟩
          · exact alike_pure (.error herror hbefore)

end

end Transfer

/-! ## Activations -/

namespace Activation

/-- The request for another family of commands. -/
def Request.withKind (request : Request) (kind : Kind) : Request :=
  { request with kind }

/-- Activations through the two families run in parallel, and report the end of the same
operation. -/
theorem parallel_run (h : Interchangeable transport transport' .activateFw kept before behind done)
    (device : String) (policy : RetryPolicy) (request : Request) :
  Parallel kept before (run transport device policy (request.withKind .specDefined))
    (run transport' device policy (request.withKind .vendorBackground)) (Returns before done)
  := by
  unfold run
  cases hvalid : policy.validate with
  | error error =>
      obtain ⟨text, rfl⟩ := Transfer.config_of_retryValidate hvalid
      apply Parallel.pure
      exact fun m n hbefore => .error (.config text) hbefore
  | ok _ =>
      apply Parallel.log
      apply Parallel.bind (h.repeated policy _)
      rintro _ _ m n (hbehind | ⟨herror, hbefore⟩)
      · apply Parallel.bind (h.polled policy) _ m n hbehind
        rintro _ _ m n (hdone | ⟨herror, hbehind⟩)
        · apply Parallel.log _ _ _ _ _ m n hdone
          exact Parallel.pure fun m n hdone => .value hdone
        · exact alike_pure (.error herror (h.resumes m n hbehind))
      · exact alike_pure (.error herror hbefore)

end Activation

end CxlFirmware
