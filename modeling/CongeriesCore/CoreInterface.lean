import CongeriesCore.CheckpointStore
import CongeriesCore.StateRepository

/-! # What the services await

One constructor for each awaited call of a collaborator: the clock and the cancellation
tokens, identities, the Run repository and its publisher, the authorization policy and its
audits, the checkpoint stores, and the checkpoint publisher. -/

namespace CongeriesCore

open AsyncProgram

structure CheckpointMigrationRequest where
  workflowId : WorkflowId
  sourceDefinitionId : DefinitionId
  sourceGraphVersion : String
  targetDefinitionId : DefinitionId
  targetGraphVersion : String
  versions : sourceGraphVersion ≠ "" ∧ targetGraphVersion ≠ ""

inductive CoreOp
  | cancelled (token : CancellationId)
  | now
  | newCheckpointRef
  | runAdd (run : Run)
  | runGet (runId : RunId)
  | runCompareAndSet (run : Run) (expectedVersion : ℕ)
  | runStateChanged (transition : RunTransition)
  | authorize (request : AccessRequest)
  | authorizationDenied (request : AccessRequest) (decision : PolicyDecision)
  | crossScopeGranted (request : AccessRequest) (grant : Grant)
  | checkpointSave (checkpoint : Checkpoint) (context : RuntimeCallContext)
  | checkpointLoad (checkpointRef : CheckpointRef) (context : RuntimeCallContext)
  | checkpointList (query : CheckpointQuery) (context : RuntimeCallContext)
  | checkpointDelete (request : DeleteCheckpointRequest) (context : RuntimeCallContext)
  | checkpointSaved (checkpoint : Checkpoint) (run : WorkflowRun) (context : RuntimeCallContext)
  | checkpointFailed (checkpoint : Checkpoint) (error : ErrorDetail) (context : RuntimeCallContext)
  | migrate (checkpoint : Checkpoint) (request : CheckpointMigrationRequest)
      (context : RuntimeCallContext)
  | migrationAuthorized (source migrated : Checkpoint) (context : RuntimeCallContext)
  | fallbackAuthorized (source : CheckpointRef) (fallback : Checkpoint)
      (context : RuntimeCallContext)
  | restore (checkpoint : Checkpoint) (context : RuntimeCallContext)

abbrev CoreOp.Answer : CoreOp → Type
  | .cancelled _ => Bool
  | .now => DateTime
  | .newCheckpointRef => CheckpointRef
  | .runGet _ | .runCompareAndSet _ _ => Run
  | .authorize _ => PolicyDecision
  | .checkpointSave _ _ => CheckpointRef
  | .checkpointLoad _ _ => Checkpoint
  | .checkpointList _ _ => CheckpointPage
  | .checkpointDelete _ _ => DeleteCheckpointResult
  | .migrate _ _ _ => Checkpoint
  | .runAdd _ | .runStateChanged _ | .authorizationDenied _ _ | .crossScopeGranted _ _
  | .checkpointSaved _ _ _ | .checkpointFailed _ _ _ | .migrationAuthorized _ _ _
  | .fallbackAuthorized _ _ _ | .restore _ _ => Unit

abbrev CoreInterface : Interface := ⟨CoreOp, CoreOp.Answer⟩

abbrev CoreProgram (α : Type) := Program CoreInterface Raised α

def coreOp (op : CoreOp) : CoreProgram op.Answer := @Program.perform CoreInterface Raised op

instance : RuntimeControl CoreInterface where
  cancelled token := coreOp (.cancelled token)
  now := coreOp .now

end CongeriesCore
