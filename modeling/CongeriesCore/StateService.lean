import CongeriesCore.CoreInterface

/-! # The Run service

Run persistence and lifecycle orchestration: every operation reads the run, applies a
transition of the state machine, commits it by compare-and-set and publishes it. -/

namespace CongeriesCore

open AsyncProgram

abbrev Mutation := Run → ℕ → DateTime → Except Raised RunTransition

namespace RunService

def create (run : Run) : CoreProgram Run := do
  coreOp (.runAdd run)
  return run

def get (runId : RunId) : CoreProgram Run := coreOp (.runGet runId)

def commit (transition : RunTransition) (expectedVersion : ℕ) : CoreProgram Run := do
  let committed ← coreOp (.runCompareAndSet transition.current expectedVersion)
  coreOp (.runStateChanged ⟨transition.previous, committed, transition.reason⟩)
  return committed

def apply (runId : RunId) (expectedVersion : ℕ) (mutation : Mutation) : CoreProgram Run := do
  let previous ← coreOp (.runGet runId)
  let now ← coreOp .now
  let transition ← Program.ofExcept (mutation previous expectedVersion now)
  if transition.unchanged then return transition.current else commit transition expectedVersion

def start (runId : RunId) (expectedVersion : ℕ) : CoreProgram Run :=
  apply runId expectedVersion RunStateMachine.start

def advance (runId : RunId) (expectedVersion : ℕ) (target : RunStatus) : CoreProgram Run :=
  apply runId expectedVersion (RunStateMachine.advance target)

def pause (runId : RunId) (expectedVersion : ℕ) : CoreProgram Run :=
  apply runId expectedVersion RunStateMachine.pause

def resume (runId : RunId) (expectedVersion : ℕ) : CoreProgram Run :=
  apply runId expectedVersion RunStateMachine.resume

def retry (runId : RunId) (expectedVersion : ℕ) (error : ErrorDetail) : CoreProgram Run :=
  apply runId expectedVersion (RunStateMachine.retry error)

def redispatchRetry (runId : RunId) (expectedVersion : ℕ) : CoreProgram Run :=
  apply runId expectedVersion RunStateMachine.redispatchRetry

def recover (runId : RunId) (expectedVersion : ℕ) (checkpointRef : Option CheckpointRef) :
    CoreProgram Run :=
  apply runId expectedVersion (RunStateMachine.recover checkpointRef)

def commitCheckpoint (runId : RunId) (expectedVersion : ℕ) (checkpointRef : CheckpointRef)
    (expectedPreviousRef : Option CheckpointRef) (definitionId : Option DefinitionId := none)
    (graphVersion : Option String := none) : CoreProgram Run :=
  apply runId expectedVersion
    (RunStateMachine.commitCheckpoint checkpointRef expectedPreviousRef definitionId graphVersion)

def complete (runId : RunId) (expectedVersion : ℕ) : CoreProgram Run :=
  apply runId expectedVersion RunStateMachine.complete

def fail (runId : RunId) (expectedVersion : ℕ) (error : ErrorDetail) : CoreProgram Run :=
  apply runId expectedVersion (RunStateMachine.fail error)

def cancel (runId : RunId) (expectedVersion : ℕ) : CoreProgram Run :=
  apply runId expectedVersion RunStateMachine.cancel

def handleAuditFailure (runId : RunId) (error : ErrorDetail) : CoreProgram Run := do
  let run ← coreOp (.runGet runId)
  if run.status.terminal then return run
  else if run.controlPolicy.auditFailureMode = .fail then fail runId run.stateVersion error
  else if run.status = .paused then return run
  else pause runId run.stateVersion

end RunService

/-- `RunAuditFailureHandler.handle`. -/
def handleRunAuditFailure (runId : RunId) (error : ErrorDetail) : CoreProgram Unit := do
  let _ ← RunService.handleAuditFailure runId error
  return ()

/-- What an `AuthorizedDispatcher` is configured with: its action registry and whether it
has a policy. The policy itself and the audit publisher are awaited. -/
structure Authorization where
  actions : List ActionRef
  hasPolicy : Bool

def Authorization.dispatcher (authorization : Authorization) :
    AuthorizedDispatcher CoreInterface where
  actions := authorization.actions
  policy := if authorization.hasPolicy then some fun request => coreOp (.authorize request) else none
  authorizationDenied request decision := coreOp (.authorizationDenied request decision)
  crossScopeGranted request grant := coreOp (.crossScopeGranted request grant)
  handleAuditFailure := handleRunAuditFailure

end CongeriesCore
