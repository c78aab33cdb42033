import CongeriesCore.AsyncContract
import CongeriesCore.RuntimeScope
import CongeriesCore.RuntimeTime

/-! # Runtime call context

The context every external call carries. Of the trace only the correlation and causation
identities are kept; span identities are fresh values that nothing reads. -/

namespace CongeriesCore

open AsyncProgram

structure SessionRef where
  namespace_ : String
  sessionId : SessionId
  trimmed : isTrimmed namespace_ = true
  deriving DecidableEq, Repr

structure Deadline where
  at_ : DateTime
  deriving DecidableEq, Repr

structure TraceContext where
  correlationId : CorrelationId
  causationId : Option CausationId
  deriving DecidableEq, Repr

structure RuntimeCallContext where
  runId : RunId
  rootRunId : RunId
  parentRunId : Option RunId
  workspaceId : WorkspaceId
  sessionRef : Option SessionRef
  scope : ScopeRef
  deadline : Option Deadline
  cancellation : CancellationId
  trace : TraceContext
  idempotencyKey : Option IdempotencyKey
  deriving DecidableEq, Repr

/-- `with suppress(Exception)`. -/
def suppressException {I : Interface} (program : Program I Raised Unit) : Program I Raised Unit :=
  program.catching fun error => if error.isException then return () else .raise error

/-- A loop of the model has taken its last turn. -/
def outOfFuel : Raised := .other "out of fuel"

/-- What a capability reads of its runtime: the state of a cancellation token and the clock. -/
class RuntimeControl (I : Interface) where
  cancelled : CancellationId → Program I Raised Bool
  now : Program I Raised DateTime

def callCancelled : Raised :=
  coreError .cancelled "call_cancelled" "runtime call was cancelled"

def deadlineExceeded : Raised :=
  retryableError .timeout "deadline_exceeded" "runtime call deadline has expired"

namespace RuntimeCallContext

theorem runId_checked (context : RuntimeCallContext) :
    Identifier.check context.runId.value = .ok () := context.runId.checked

section

variable {I : Interface} [RuntimeControl I]

def checkActive (context : RuntimeCallContext) : Program I Raised Unit := do
  if ← RuntimeControl.cancelled context.cancellation then
    .raise callCancelled
  else match context.deadline with
    | none => pure ()
    | some deadline =>
      if deadline.at_ ≤ (← RuntimeControl.now) then .raise deadlineExceeded else pure ()

/-- `await_provider`: the context is checked before and after the operation. A wait cut off
by the deadline or by cancellation is the operation raising, before or after its effect. -/
def awaitProvider {α : Type} (operation : Program I Raised α) (context : RuntimeCallContext) :
    Program I Raised α := do
  context.checkActive
  let result ← operation
  context.checkActive
  pure result

variable {allowed : I.Op → Prop}

theorem only_checkActive
    (cancelled : ∀ token, (RuntimeControl.cancelled token : Program I Raised Bool).Only allowed)
    (now : (RuntimeControl.now : Program I Raised DateTime).Only allowed)
    (context : RuntimeCallContext) : (context.checkActive : Program I Raised Unit).Only allowed := by
  refine (cancelled _).bind fun isCancelled => Program.only_ite (fun _ => trivial) fun _ => ?_
  split
  · trivial
  · exact now.bind fun _ => Program.only_ite (fun _ => trivial) fun _ => trivial

end

def narrow (context : RuntimeCallContext) (scope : Option ScopeRef := none)
    (deadline : Option Deadline := none) (idempotencyKey : Option IdempotencyKey := none) :
    Except Raised RuntimeCallContext := do
  let effectiveScope := scope.getD context.scope
  effectiveScope.requireNarrowerThan context.scope
  let effectiveDeadline := deadline <|> context.deadline
  match context.deadline, effectiveDeadline with
  | some own, some effective =>
    if own.at_ < effective.at_ then
      throw (coreError .denied "deadline_broadening_denied"
        "child calls may not extend their deadline")
  | _, _ => pure ()
  pure { context with
    scope := effectiveScope
    deadline := effectiveDeadline
    idempotencyKey := idempotencyKey <|> context.idempotencyKey }

def forChildRun (context : RuntimeCallContext) (childRunId : RunId)
    (scope : Option ScopeRef := none) (deadline : Option Deadline := none)
    (idempotencyKey : Option IdempotencyKey := none) : Except Raised RuntimeCallContext := do
  let narrowed ← context.narrow scope deadline idempotencyKey
  pure { narrowed with runId := childRunId, parentRunId := some context.runId }

end RuntimeCallContext

end CongeriesCore
