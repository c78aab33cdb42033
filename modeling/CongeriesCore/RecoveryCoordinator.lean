import CongeriesCore.CheckpointCoordinator

/-! # Recovery coordination

A recovery loads the marker of the Run or falls back behind a corrupt one, migrates the
checkpoint to the requested version, and restores it while the Run is recovering. -/

namespace CongeriesCore

open AsyncProgram

structure RecoveryPolicy where
  allowCorruptFallback : Bool := false
  failOnRestoreError : Bool := false
  deriving DecidableEq

structure RecoveryRequest where
  runId : RunId
  expectedVersion : ℕ
  providerId : ProviderId
  targetDefinitionId : DefinitionId
  targetGraphVersion : String
  policy : RecoveryPolicy := {}
  deriving DecidableEq

structure RecoveryResult where
  run : WorkflowRun
  checkpoint : Checkpoint
  migrated : Bool
  fellBack : Bool

/-- `CheckpointMigrationRequest.__post_init__`. -/
def CheckpointMigrationRequest.make (workflowId : WorkflowId) (sourceDefinitionId : DefinitionId)
    (sourceGraphVersion : String) (targetDefinitionId : DefinitionId)
    (targetGraphVersion : String) : Except Raised CheckpointMigrationRequest :=
  if versions : sourceGraphVersion ≠ "" ∧ targetGraphVersion ≠ "" then
    .ok ⟨workflowId, sourceDefinitionId, sourceGraphVersion, targetDefinitionId,
      targetGraphVersion, versions⟩
  else .error (.value "migration graph versions are required")

/-- The version pairs a migrator is registered for; the migrators themselves are awaited. -/
structure CheckpointMigratorRegistry where
  migrators : List (String × String × String × String × String)

namespace CheckpointMigratorRegistry

def key (request : CheckpointMigrationRequest) : String × String × String × String × String :=
  (request.workflowId.value, request.sourceDefinitionId.value, request.sourceGraphVersion,
    request.targetDefinitionId.value, request.targetGraphVersion)

def get (registry : CheckpointMigratorRegistry) (request : CheckpointMigrationRequest) :
    Except Raised Unit :=
  ensure (registry.migrators.contains (key request)) (coreError .versionMismatch
    "checkpoint_migrator_missing" "no CheckpointMigrator supports the requested version pair")

end CheckpointMigratorRegistry

structure RecoveryCoordinator where
  gateway : CheckpointGateway
  migrators : CheckpointMigratorRegistry

namespace RecoveryCoordinator

variable [Sha256]

/-- The Run of a request, or why it cannot be recovered. -/
def validateRequest (request : RecoveryRequest) (context : RuntimeCallContext) (run : WorkflowRun) :
    Except Raised CheckpointRef := do
  ensure (context.runId == run.runId && context.scope.key == run.scope.key)
    (coreError .denied "recovery_context_mismatch"
      "recovery context does not match WorkflowRun ownership")
  ensure (!run.status.terminal && run.status != .created) (coreError .conflict
    "illegal_recovery_state" "WorkflowRun state cannot be recovered")
  match run.latestCheckpointRef with
  | none => .error (coreError .invalidRequest "missing_recovery_checkpoint"
      "WorkflowRun has no committed checkpoint marker")
  | some marker => do
    ensure (run.stateVersion == request.expectedVersion) RunStateMachine.staleStateVersion
    return marker

/-- `by_ref.update((item.ref, item) for item in page.items)`. -/
def updateByRef (byRef : Dict CheckpointRef Checkpoint) (items : List Checkpoint) :
    Dict CheckpointRef Checkpoint :=
  items.foldl (fun byRef item => byRef.set item.ref item) byRef

def fallbackQuery (request : RecoveryRequest) (run : WorkflowRun)
    (cursor : Option CheckpointCursor) : CheckpointQuery where
  providerId := request.providerId
  runId := run.runId
  scope := run.scope
  graphVersion := none
  limit := 1000
  cursor := cursor
  bounded := ⟨by decide, by decide, nofun⟩

/-- Every page of the listing, by reference. -/
def listAll (coordinator : RecoveryCoordinator) (request : RecoveryRequest) (run : WorkflowRun)
    (context : RuntimeCallContext) :
    ℕ → Option CheckpointCursor → Dict CheckpointRef Checkpoint →
      CoreProgram (Dict CheckpointRef Checkpoint)
  | 0, _, _ => .raise outOfFuel
  | fuel + 1, cursor, byRef => do
    let page ← coordinator.gateway.list (fallbackQuery request run cursor) context
    match page.nextCursor with
    | none => return updateByRef byRef page.items
    | some next =>
      coordinator.listAll request run context fuel (some next) (updateByRef byRef page.items)

/-- The nearest listed ancestor that is intact. -/
def fallbackCandidate (byRef : Dict CheckpointRef Checkpoint) :
    ℕ → List CheckpointRef → Option CheckpointRef → Except Raised (Option Checkpoint)
  | _, _, none => .ok none
  | 0, _, some _ => .error outOfFuel
  | fuel + 1, seen, some candidateRef =>
    if candidateRef ∈ seen then
      .error (CheckpointCoordinator.checkpointChainCycle
        "checkpoint fallback chain contains a cycle")
    else match byRef.get? candidateRef with
      | none => .ok none
      | some item => match item.verifyIntegrity with
        | .ok () => .ok (some item)
        | .error _ =>
          fallbackCandidate byRef fuel (candidateRef :: seen) item.previousCheckpointRef

/-- `_audit`. -/
def audit (runId : RunId) (operation : CoreProgram Unit) : CoreProgram Unit :=
  auditOrHandle operation handleRunAuditFailure runId

def fallBack (coordinator : RecoveryCoordinator) (fuel : ℕ) (request : RecoveryRequest)
    (run : WorkflowRun) (marker : CheckpointRef) (context : RuntimeCallContext) :
    CoreProgram (Checkpoint × Bool × WorkflowRun) := do
  let byRef ← coordinator.listAll request run context fuel none .empty
  match byRef.get? marker with
  | none => .raise (coreError .protocolFailure "checkpoint_fallback_source_missing"
      "corrupt marker is absent from checkpoint listing")
  | some corrupt => do
    let candidate ← Program.ofExcept
      (fallbackCandidate byRef fuel [marker] corrupt.previousCheckpointRef)
    match candidate with
    | none => .raise (coreError .protocolFailure "checkpoint_fallback_unavailable"
        "no earlier valid committed checkpoint is available")
    | some candidate => do
      audit run.runId (coreOp (.fallbackAuthorized marker candidate context))
      let committed ← RunService.commitCheckpoint run.runId run.stateVersion candidate.ref
        (some marker)
      let committed ← Program.ofExcept
        (committed.asWorkflow (.assertion "fallback marker commit did not return WorkflowRun"))
      return (candidate, true, committed)

/-- Whether a load failed because the checkpoint is corrupt. -/
def isIntegrityFailure : Raised → Bool
  | .core detail => detail.code == "checkpoint_integrity_failure"
  | _ => false

def loadWithFallback (coordinator : RecoveryCoordinator) (fuel : ℕ) (request : RecoveryRequest)
    (run : WorkflowRun) (marker : CheckpointRef) (context : RuntimeCallContext) :
    CoreProgram (Checkpoint × Bool × WorkflowRun) :=
  (coordinator.gateway.load request.providerId marker run.runId run.scope context).andThen fun
    | .ok checkpoint => pure (checkpoint, false, run)
    | .error error =>
      if isIntegrityFailure error ∧ request.policy.allowCorruptFallback then
        coordinator.fallBack fuel request run marker context
      else .raise error

def validateLoaded (checkpoint : Checkpoint) (run : WorkflowRun) : Except Raised Unit := do
  checkpoint.verifyIntegrity
  ensure (some checkpoint.ref == run.latestCheckpointRef && checkpoint.runId == run.runId &&
      checkpoint.workflowId == run.workflow.workflowId && checkpoint.scope.key == run.scope.key)
    (coreError .protocolFailure "checkpoint_run_identity_mismatch"
      "committed checkpoint does not match WorkflowRun identity")

/-- What a migrator may not change. -/
def validateMigrated (request : RecoveryRequest) (source migrated : Checkpoint) :
    Except Raised Unit := do
  migrated.verifyIntegrity
  ensure (migrated.ref != source.ref && migrated.runId == source.runId &&
      migrated.workflowId == source.workflowId && migrated.scope.key == source.scope.key &&
      migrated.sequence == source.sequence + 1 &&
      migrated.previousCheckpointRef == some source.ref &&
      migrated.definitionId == request.targetDefinitionId &&
      migrated.graphVersion == request.targetGraphVersion &&
      migrated.externalRefs == source.externalRefs && migrated.sideEffects == source.sideEffects)
    (coreError .protocolFailure "invalid_checkpoint_migration"
      "CheckpointMigrator changed protected identity or references")

def migrate (coordinator : RecoveryCoordinator) (request : RecoveryRequest) (run : WorkflowRun)
    (source : Checkpoint) (context : RuntimeCallContext) : CoreProgram (Checkpoint × WorkflowRun) := do
  let migrationRequest ← Program.ofExcept
    (CheckpointMigrationRequest.make run.workflow.workflowId source.definitionId
      source.graphVersion request.targetDefinitionId request.targetGraphVersion)
  Program.ofExcept (coordinator.migrators.get migrationRequest)
  let migrated ← coreOp (.migrate source migrationRequest context)
  Program.ofExcept (validateMigrated request source migrated)
  let _ ← coordinator.gateway.save request.providerId migrated context
  audit run.runId (coreOp (.migrationAuthorized source migrated context))
  let committed ← RunService.commitCheckpoint run.runId run.stateVersion migrated.ref
    (some source.ref) (some request.targetDefinitionId) (some request.targetGraphVersion)
  let committed ← Program.ofExcept
    (committed.asWorkflow (.assertion "migration marker commit did not return WorkflowRun"))
  suppressException (coreOp (.checkpointSaved migrated committed context))
  return (migrated, committed)

/-- Whether the loaded checkpoint is of another version than the requested one. -/
def needsMigration (request : RecoveryRequest) (checkpoint : Checkpoint) : Bool :=
  checkpoint.definitionId != request.targetDefinitionId ||
    checkpoint.graphVersion != request.targetGraphVersion

def migrateIfNeeded (coordinator : RecoveryCoordinator) (request : RecoveryRequest)
    (run : WorkflowRun) (checkpoint : Checkpoint) (context : RuntimeCallContext) :
    CoreProgram (Checkpoint × WorkflowRun × Bool) :=
  if needsMigration request checkpoint then do
    let (migrated, committed) ← coordinator.migrate request run checkpoint context
    return (migrated, committed, true)
  else return (checkpoint, run, false)

def restoreFailure : Raised → ErrorDetail
  | .core detail => detail
  | _ => ⟨.protocolFailure, "checkpoint_restore_failed", "checkpoint restoration failed", false, none,
      [], by decide⟩

/-- `except Exception`: an explicit policy fails the Run; the failure is raised again. -/
def handleRestoreError (request : RecoveryRequest) (recovering : WorkflowRun) (error : Raised) :
    CoreProgram Unit :=
  if error.isException ∧ request.policy.failOnRestoreError then do
    let _ ← RunService.fail recovering.runId recovering.stateVersion (restoreFailure error)
    .raise error
  else .raise error

def restoreAndRun (request : RecoveryRequest) (run : WorkflowRun) (checkpoint : Checkpoint)
    (context : RuntimeCallContext) : CoreProgram WorkflowRun := do
  let recovering ← RunService.recover run.runId run.stateVersion (some checkpoint.ref)
  let recovering ← Program.ofExcept
    (recovering.asWorkflow (.assertion "recovery transition did not return WorkflowRun"))
  (coreOp (.restore checkpoint context)).catching (handleRestoreError request recovering)
  let running ← RunService.advance recovering.runId recovering.stateVersion .running
  Program.ofExcept (running.asWorkflow (.assertion "restored Run is not WorkflowRun"))

def recover (coordinator : RecoveryCoordinator) (fuel : ℕ) (request : RecoveryRequest)
    (context : RuntimeCallContext) : CoreProgram RecoveryResult := do
  let run ← RunService.get request.runId
  let run ← Program.ofExcept (run.asWorkflow (coreError .invalidRequest
    "recovery_requires_workflow_run" "checkpoint recovery requires a WorkflowRun"))
  let marker ← Program.ofExcept (validateRequest request context run)
  let (checkpoint, fellBack, run) ←
    coordinator.loadWithFallback fuel request run marker context
  Program.ofExcept (validateLoaded checkpoint run)
  let (checkpoint, run, migrated) ← coordinator.migrateIfNeeded request run checkpoint context
  let running ← restoreAndRun request run checkpoint context
  return ⟨running, checkpoint, migrated, fellBack⟩

end RecoveryCoordinator

end CongeriesCore
