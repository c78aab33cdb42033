import CongeriesCore.CheckpointGateway

/-! # Checkpoint coordination

Commit, deletion of orphans, fallback, migration and recovery. A commit writes the store
before it moves the marker of the Run by compare-and-set. A loop that follows links or
pages through a store takes at most `fuel` turns: any finite execution is one with enough
fuel. -/

namespace CongeriesCore

open AsyncProgram

structure CheckpointCoordinator where
  gateway : CheckpointGateway

namespace CheckpointCoordinator

variable [Sha256]

def workflowRun (runId : RunId) : CoreProgram WorkflowRun := do
  let run ← RunService.get runId
  Program.ofExcept (run.asWorkflow (coreError .invalidRequest "checkpoint_requires_workflow_run"
    "checkpoint coordination requires a WorkflowRun"))

def validateForRun (checkpoint : Checkpoint) (run : WorkflowRun) (context : RuntimeCallContext) :
    Except Raised Unit := do
  checkpoint.verifyIntegrity
  ensure (context.runId == run.runId) (coreError .invalidRequest "checkpoint_context_run_mismatch"
    "RuntimeCallContext does not own the WorkflowRun")
  ensure (checkpoint.runId == run.runId && checkpoint.workflowId == run.workflow.workflowId &&
      checkpoint.definitionId == run.definitionId &&
      checkpoint.graphVersion == run.workflow.graphVersion &&
      checkpoint.scope.key == run.scope.key && checkpoint.attempt == run.attempt)
    (coreError .invalidRequest "checkpoint_run_identity_mismatch"
      "checkpoint identity does not match WorkflowRun")
  ensure (!run.status.terminal) (coreError .conflict "terminal_checkpoint_commit"
    "terminal WorkflowRun cannot commit a checkpoint")

def staleCheckpointMarker : Raised :=
  retryableError .conflict "stale_checkpoint_marker"
    "checkpoint sequence or predecessor does not match the Run marker"

/-- The sequence a checkpoint of `run` must have to be committed next. -/
def nextSequence (coordinator : CheckpointCoordinator) (provider : ProviderId) (run : WorkflowRun)
    (context : RuntimeCallContext) : CoreProgram ℕ :=
  match run.latestCheckpointRef with
  | none => return 1
  | some marker => do
    let previous ← coordinator.gateway.load provider marker run.runId run.scope context
    return previous.sequence + 1

def writeAndCommit (coordinator : CheckpointCoordinator) (provider : ProviderId)
    (checkpoint : Checkpoint) (run : WorkflowRun) (expectedRunVersion : ℕ)
    (context : RuntimeCallContext) : CoreProgram Run := do
  let _ ← coordinator.gateway.save provider checkpoint context
  RunService.commitCheckpoint run.runId expectedRunVersion checkpoint.ref run.latestCheckpointRef

/-- `except CoreError`: the failure is published, and raised again. -/
def publishFailure {α : Type} (checkpoint : Checkpoint) (context : RuntimeCallContext) :
    Raised → CoreProgram α
  | .core detail => do
    suppressException (coreOp (.checkpointFailed checkpoint detail context))
    .raise (.core detail)
  | error => .raise error

def save (coordinator : CheckpointCoordinator) (provider : ProviderId) (checkpoint : Checkpoint)
    (expectedRunVersion : ℕ) (context : RuntimeCallContext) : CoreProgram WorkflowRun := do
  let run ← workflowRun checkpoint.runId
  Program.ofExcept (validateForRun checkpoint run context)
  if run.latestCheckpointRef = some checkpoint.ref then
    let existing ← coordinator.gateway.load provider checkpoint.ref run.runId run.scope context
    Program.ofExcept (ensure (existing.integrity == checkpoint.integrity)
      (coreError .conflict "checkpoint_identity_conflict"
        "committed checkpoint reference has different content"))
    return run
  else
    Program.ofExcept
      (ensure (run.stateVersion == expectedRunVersion) RunStateMachine.staleStateVersion)
    let expectedSequence ← coordinator.nextSequence provider run context
    Program.ofExcept (ensure (checkpoint.previousCheckpointRef == run.latestCheckpointRef &&
      checkpoint.sequence == expectedSequence) staleCheckpointMarker)
    let committed ←
      (coordinator.writeAndCommit provider checkpoint run expectedRunVersion context).catching
        (publishFailure checkpoint context)
    let committed ← Program.ofExcept
      (committed.asWorkflow (.assertion "checkpoint commit did not return WorkflowRun"))
    suppressException (coreOp (.checkpointSaved checkpoint committed context))
    return committed

def checkpointChainCycle (message : String) (given : message ≠ "" := by decide) : Raised :=
  coreError .protocolFailure "checkpoint_chain_cycle" message ⟨by decide, given⟩

/-- The references of the committed chain, followed from `currentRef`. -/
def reachableRefs (coordinator : CheckpointCoordinator) (provider : ProviderId) (run : WorkflowRun)
    (context : RuntimeCallContext) :
    ℕ → List CheckpointRef → Option CheckpointRef → CoreProgram (List CheckpointRef)
  | _, reachable, none => return reachable
  | 0, _, some _ => .raise outOfFuel
  | fuel + 1, reachable, some currentRef =>
    if currentRef ∈ reachable then
      .raise (checkpointChainCycle "committed checkpoint chain contains a cycle")
    else do
      let checkpoint ← coordinator.gateway.load provider currentRef run.runId run.scope context
      coordinator.reachableRefs provider run context fuel (currentRef :: reachable)
        checkpoint.previousCheckpointRef

def deleteOrphan (coordinator : CheckpointCoordinator) (fuel : ℕ)
    (request : DeleteCheckpointRequest) (context : RuntimeCallContext) :
    CoreProgram DeleteCheckpointResult := do
  let run ← workflowRun request.runId
  Program.ofExcept (ensure (run.scope.key == request.scope.key) (coreError .denied
    "checkpoint_scope_mismatch" "delete Scope does not match WorkflowRun"))
  let reachable ← coordinator.reachableRefs request.providerId run context fuel []
    run.latestCheckpointRef
  Program.ofExcept (ensure (!reachable.contains request.checkpointRef) (coreError .conflict
    "checkpoint_not_orphan" "committed checkpoint chain cannot be deleted"))
  coordinator.gateway.delete request context

end CheckpointCoordinator

end CongeriesCore
