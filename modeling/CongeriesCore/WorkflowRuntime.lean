import CongeriesCore.AgentRuntime
import CongeriesCore.ApprovalCoordinator
import CongeriesCore.ContentBlocks
import CongeriesCore.EvaluationDocuments
import CongeriesCore.KeyedSort
import CongeriesCore.RecoveryCoordinator
import CongeriesCore.TimeAddition
import CongeriesCore.WorkflowIdentities
import CongeriesCore.WorkflowOutputs
import CongeriesCore.WorkflowScheduler

/-! # The workflow runtime

A run is driven node by node between committed checkpoints. What the runtime asks of the Run
service, of the coordinators of checkpoints, recovery and approvals, of the stores of outputs, of
the agents and of the evaluator are operations here, whose owners may answer anything. -/

namespace CongeriesCore

open AsyncProgram AsyncProgram.Program

/-! ## What the runtime awaits -/

inductive WorkflowOp
  | newRunId
  | newCheckpointRef
  | runGet (runId : RunId)
  | runCreate (run : Run)
  | runStart (runId : RunId) (expectedVersion : ℕ)
  | advance (runId : RunId) (expectedVersion : ℕ) (target : RunStatus)
  | complete (runId : RunId) (expectedVersion : ℕ)
  | fail (runId : RunId) (expectedVersion : ℕ) (error : ErrorDetail)
  | cancel (runId : RunId) (expectedVersion : ℕ)
  | checkpointSave (provider : ProviderId) (checkpoint : Checkpoint) (expectedRunVersion : ℕ)
      (context : RuntimeCallContext)
  | checkpointLoad (provider : ProviderId) (checkpointRef : CheckpointRef) (runId : RunId)
      (scope : ScopeRef) (context : RuntimeCallContext)
  | recover (request : RecoveryRequest) (context : RuntimeCallContext)
  | requestApproval (provider : ProviderId) (request : ApprovalRequest) (checkpoint : Checkpoint)
      (expectedRunVersion : ℕ) (context : RuntimeCallContext)
  | decideApproval (submission : ApprovalSubmission)
  | persistOutput (request : PersistNodeOutputRequest) (context : RuntimeCallContext)
  | loadOutput (request : LoadNodeOutputRequest) (context : RuntimeCallContext)
  | executeAgent (runId : RunId) (input : List ContentBlock) (context : RuntimeCallContext)
  | evaluate (request : EvaluationRequest) (context : RuntimeCallContext)

abbrev WorkflowOp.Answer : WorkflowOp → Type
  | .newRunId => RunId
  | .newCheckpointRef => CheckpointRef
  | .runGet _ | .runCreate _ | .runStart _ _ | .advance _ _ _ | .complete _ _ | .fail _ _ _
  | .cancel _ _ => Run
  | .checkpointSave _ _ _ _ | .requestApproval _ _ _ _ _ | .decideApproval _ => WorkflowRun
  | .checkpointLoad _ _ _ _ _ => Checkpoint
  | .recover _ _ => RecoveryResult
  | .persistOutput _ _ => CheckpointReference
  | .loadOutput _ _ => JsonValue
  | .executeAgent _ _ _ => AgentExecutionResult
  | .evaluate _ _ => EvaluationResult

abbrev workflowInterface : Interface := ⟨WorkflowOp, WorkflowOp.Answer⟩

abbrev WorkflowProgram := GatewayProgram workflowInterface

abbrev workflowOp (op : WorkflowOp) : WorkflowProgram op.Answer :=
  @providerOp workflowInterface op

/-! ## What the runtime is given and gives back -/

/-- The output references of a context are left out: the runtime does not read them. -/
structure WorkflowContext where
  runId : RunId
  input : JsonValue
  runtime : RuntimeCallContext
  owned : runtime.runId = runId

structure NodeOutputReference where
  nodeId : NodeId
  schema : SchemaRef
  reference : CheckpointReference
  deriving DecidableEq

structure WorkflowResult where
  run : WorkflowRun
  output : JsonValue
  error : Option ErrorDetail
  outputRefs : List NodeOutputReference
  finalCheckpointRef : Option CheckpointRef
  valid : run.status.terminal = true ∧ (run.status = .succeeded ↔ error = none)

/-- The constructor call: raises what `__post_init__` raises. -/
def WorkflowResult.make (run : WorkflowRun) (output : JsonValue) (error : Option ErrorDetail)
    (outputRefs : List NodeOutputReference) (finalCheckpointRef : Option CheckpointRef) :
    Except Raised WorkflowResult :=
  if terminal : run.status.terminal = true then
    if exact : run.status = .succeeded ↔ error = none then
      .ok ⟨run, output, error, outputRefs, finalCheckpointRef, terminal, exact⟩
    else if run.status = .succeeded then
      .error (.value "successful WorkflowResult cannot contain an error")
    else .error (.value "unsuccessful WorkflowResult requires an error")
  else .error (.value "WorkflowResult requires a terminal WorkflowRun")

structure WorkflowSuspension where
  run : WorkflowRun
  checkpointRef : CheckpointRef
  approval : ApprovalRequest
  valid : run.status = .waitingApproval ∧ run.runId = approval.runId

/-- The constructor call: raises what `__post_init__` raises. -/
def WorkflowSuspension.make (run : WorkflowRun) (checkpointRef : CheckpointRef)
    (approval : ApprovalRequest) : Except Raised WorkflowSuspension :=
  if waiting : run.status = .waitingApproval then
    if own : run.runId = approval.runId then .ok ⟨run, checkpointRef, approval, waiting, own⟩
    else .error (.value "Workflow suspension approval Run mismatch")
  else .error (.value "Workflow suspension requires WAITING_APPROVAL")

inductive WorkflowExecutionOutcome
  | result (result : WorkflowResult)
  | suspension (suspension : WorkflowSuspension)

/-- `_AgentDispatch`. -/
structure AgentDispatch where
  result : AgentExecutionResult
  value : Option JsonValue
  inputValue : JsonValue
  nodeContext : RuntimeCallContext
  idempotencyKey : IdempotencyKey

/-- `_EvaluationDispatch`. -/
structure EvaluationDispatch where
  result : EvaluationResult
  inputValue : JsonValue
  nodeContext : RuntimeCallContext
  idempotencyKey : IdempotencyKey

abbrev NodeStates := Dict NodeId NodeCheckpointState

abbrev OutputRefs := Dict NodeId CheckpointReference

/-- The local variables of the loop of `_drive`. -/
structure Driving where
  run : WorkflowRun
  checkpoint : Checkpoint
  states : NodeStates
  outputRefs : OutputRefs
  scheduler : DeterministicScheduler

structure WorkflowRuntime where
  validator : WorkflowValidator
  authorization : GatewayAuthorization
  schemas : SchemaRegistry
  checkpointProviderId : ProviderId
  hasEvaluations : Bool

/-! ## JSON that `json.dumps` refuses -/

/-- The double is neither infinite nor a NaN. -/
def isFiniteDouble (bits : UInt64) : Bool := bits.toNat / 2 ^ 52 % 2 ^ 11 != 2047

mutual

/-- `allow_nan=False` lets the value pass. -/
def JsonValue.isCompliant : JsonValue → Bool
  | .float bits => isFiniteDouble bits
  | .arr items => JsonValue.allCompliant items
  | .obj fields => JsonValue.fieldsCompliant fields
  | _ => true

def JsonValue.allCompliant : List JsonValue → Bool
  | [] => true
  | item :: items => item.isCompliant && JsonValue.allCompliant items

def JsonValue.fieldsCompliant : List (String × JsonValue) → Bool
  | [] => true
  | (_, value) :: fields => value.isCompliant && JsonValue.fieldsCompliant fields

end

namespace WorkflowRuntime

/-! ## Nodes of a checkpoint -/

/-- `{item.node_id: item for item in node_states}`. -/
def statesOf (nodeStates : List NodeCheckpointState) : NodeStates :=
  Dict.setAll NodeCheckpointState.nodeId id .empty nodeStates

/-- `tuple(sorted(node_states, key=lambda item: item.node_id.value))`. -/
def sortStates (nodeStates : List NodeCheckpointState) : List NodeCheckpointState :=
  KeyedSort.sortedBy NodeCheckpointState.nodeId nodeStates

/-- The nodes whose outcome is `SUCCEEDED`. -/
def completedOf (nodeStates : List NodeCheckpointState) : Finset NodeId :=
  ((nodeStates.filter fun state => state.outcome == .succeeded).map
    NodeCheckpointState.nodeId).toFinset

/-- The declared nodes in order, less those of `done`. -/
def pendingAfter (definition : WorkflowDefinition) (done : Finset NodeId) : List NodeId :=
  (sortNodes definition.nodeIds).filter fun nodeId => decide (nodeId ∉ done)

/-- `_output_refs`. -/
def outputRefsOf (definition : WorkflowDefinition) (states : NodeStates) : OutputRefs :=
  Dict.setAll Prod.fst Prod.snd .empty (states.entries.filterMap fun entry =>
    if definition.nodeIds.contains entry.1 then entry.2.outputRef.map fun reference =>
      (entry.1, reference)
    else none)

/-- `_checkpoint_references`. -/
def checkpointReferences (nodeStates : List NodeCheckpointState) (outputRefs : OutputRefs) :
    List CheckpointReference :=
  uniqueReferences ((sortNodes (outputRefs.entries.map Prod.fst)).filterMap outputRefs.get? ++
    (sortStates nodeStates).filterMap NodeCheckpointState.errorRef)

/-- `_public_output_refs`. -/
def publicOutputRefs (definition : WorkflowDefinition) (states : NodeStates) :
    List NodeOutputReference :=
  KeyedSort.sortedBy NodeOutputReference.nodeId
    ((outputRefsOf definition states).entries.filterMap fun entry =>
      (definition.node? entry.1).bind fun node => node.outputSchema.map fun schema =>
        ⟨entry.1, schema, entry.2⟩)

/-- `_pending_approval`. -/
def pendingApproval (checkpoint : Checkpoint) : Except Raised (Option ApprovalCheckpointState) :=
  match checkpoint.approvals.filter fun item => item.decision.isNone with
  | [] => .ok none
  | [waiting] => .ok (some waiting)
  | _ => .error (coreError .protocolFailure "workflow_multiple_pending_approvals"
      "the single-node runtime cannot restore multiple pending approvals")

/-- `_approval_state`. -/
def approvalState (checkpoint : Checkpoint) (approvalId : ApprovalId) :
    Except Raised ApprovalCheckpointState :=
  match checkpoint.approvals.filter fun item => item.request.approvalId == approvalId with
  | [state] => .ok state
  | _ => .error (coreError .invalidRequest "workflow_approval_not_found"
      "Workflow checkpoint does not contain the approval identity")

/-- `_suspension`. -/
def suspension (run : WorkflowRun) (checkpoint : Checkpoint) :
    Except Raised WorkflowExecutionOutcome := do
  match ← pendingApproval checkpoint with
  | none => .error (coreError .protocolFailure "workflow_approval_state_missing"
      "WAITING_APPROVAL Run has no pending approval in its checkpoint")
  | some pending =>
    return .suspension (← WorkflowSuspension.make run checkpoint.ref pending.request)

/-- The node that produced an output, with its schema and the reference of the output. -/
def durableOutput (definition : WorkflowDefinition) (outputRefs : OutputRefs) (sourceId : NodeId)
    (missing : Raised) : Except Raised (WorkflowNode × SchemaRef × CheckpointReference) :=
  match definition.nodes.find? fun node => node.nodeId == sourceId with
  | none => .error (.other "StopIteration")
  | some source => match outputRefs.get? sourceId, source.outputSchema with
    | some reference, some schema => .ok (source, schema, reference)
    | _, _ => .error missing

def boundOutputMissing : Raised :=
  coreError .protocolFailure "workflow_bound_output_missing"
    "upstream Workflow output is not durably available"

def finalOutputMissing : Raised :=
  coreError .protocolFailure "workflow_final_output_reference_missing"
    "final Workflow output is not durably referenced"

/-- `_validate_identity`. -/
def validateIdentity (definition : WorkflowDefinition) (run : WorkflowRun)
    (context : RuntimeCallContext) : Except Raised Unit := do
  ensure (run.workflow.workflowId == definition.workflowId &&
      run.definitionId == definition.definitionId &&
      run.workflow.graphVersion == definition.version && context.runId == run.runId &&
      context.rootRunId == run.rootRunId && context.parentRunId == run.parentRunId &&
      context.workspaceId == run.workspaceId && context.sessionRef == run.sessionRef &&
      context.scope == run.scope)
    (coreError .invalidRequest "workflow_execution_identity_mismatch"
      "Workflow definition, Run, and RuntimeCallContext do not match")
  definition.nodes.forM fun node => node.scope.requireNarrowerThan run.scope

/-- `_evaluation_outcome`. -/
def evaluationOutcome : EvaluationVerdict → NodeOutcome
  | .passed => .succeeded
  | .policyDenied | .policyIndeterminate => .denied
  | .timedOut => .timedOut
  | .cancelled => .cancelled
  | .schemaFailed | .qualityFailed | .error => .failed

/-- `_evaluation_error`. -/
def evaluationError (result : EvaluationResult) : ErrorDetail :=
  match result.error with
  | some error => error
  | none => {
      category := match result.verdict with
        | .policyDenied | .policyIndeterminate => .denied
        | .qualityFailed => .partialResult
        | _ => .invalidRequest
      code := result.verdict.value
      message := "Evaluation did not pass"
      retryable := false
      causeId := none
      metadata := [("evaluation_id", .str result.evaluationId.value),
        ("terminal_stage", .str result.terminalStage.value)]
      required := by cases result.verdict <;> decide }

/-- The state of an evaluation node; a result that did not pass is kept as an error. -/
def evaluationState (nodeId : NodeId) (verdict : EvaluationVerdict)
    (reference : CheckpointReference) : NodeCheckpointState where
  nodeId := nodeId
  outcome := evaluationOutcome verdict
  outputRef := if verdict = .passed then some reference else none
  errorRef := if verdict = .passed then none else some reference
  approvalState := none
  valid := by cases verdict <;> simp [evaluationOutcome]

/-- The state of an agent node that has produced its output. -/
def agentState (nodeId : NodeId) (reference : CheckpointReference) : NodeCheckpointState where
  nodeId := nodeId
  outcome := .succeeded
  outputRef := some reference
  errorRef := none
  approvalState := none
  valid := by simp

/-- The state of an approval node. -/
def approvalNodeState (nodeId : NodeId) (outcome : NodeOutcome)
    (approval : ApprovalCheckpointState) : NodeCheckpointState where
  nodeId := nodeId
  outcome := outcome
  outputRef := none
  errorRef := none
  approvalState := some approval
  valid := by simp

def decisionOutcome : ApprovalOutcome → NodeOutcome
  | .approved => .succeeded
  | .rejected => .denied
  | .cancelled => .cancelled

/-- `json.dumps` of the value, hashed; it refuses numbers that are not finite. -/
def fingerprint [Sha256] (value : JsonValue) : Except Raised Sha256Digest :=
  if value.isCompliant then .ok value.sha256
  else .error (.value "Out of range float values are not JSON compliant")

/-- `_node_access`. -/
def nodeAccess (node : WorkflowNode) (context : RuntimeCallContext) : Except Raised AccessRequest :=
  match node.permissions.find? fun item => item.action == workflowNodeExecuteAction with
  | none => .error (.other "StopIteration")
  | some permission => .ok {
      principal := .core .workflowNode ⟨node.nodeId.value, node.nodeId.checked⟩
      action := workflowNodeExecuteAction
      resource := permission.resource
      scope := node.scope
      context
      constraints := [] }

/-- The operation whose key a node carries. -/
def nodeOperation (run : WorkflowRun) (node : WorkflowNode) (context : WorkflowContext) :
    NodeOperation :=
  ⟨context.runtime.idempotencyKey, run.runId, node.nodeId, node.nodeType, node.trimmed.1⟩

/-- `_node_deadline`. -/
def nodeDeadline (context : RuntimeCallContext) (node : WorkflowNode) :
    WorkflowProgram (Option Deadline) :=
  match node.timeoutSeconds with
  | none => return context.deadline
  | some seconds => do
    let now ← RuntimeControl.now
    let expiry ← ofExcept (now.addMilliseconds (seconds * 1000))
    match context.deadline with
    | none => return some ⟨expiry⟩
    | some deadline =>
      if deadline.at_ ≤ expiry then return some deadline else return some ⟨expiry⟩

/-! ## Run transitions -/

/-- `_workflow_run`. -/
def workflowRun (runId : RunId) : WorkflowProgram WorkflowRun := do
  let run ← workflowOp (.runGet runId)
  ofExcept (run.asWorkflow (coreError .invalidRequest "workflow_run_required"
    "WorkflowRuntime requires a WorkflowRun"))

/-- `_start`. -/
def start (run : WorkflowRun) : WorkflowProgram WorkflowRun := do
  let current ← workflowOp (.runStart run.runId run.stateVersion)
  let current ← workflowOp (.advance run.runId current.stateVersion .contextLoading)
  let current ← workflowOp (.advance run.runId current.stateVersion .running)
  ofExcept (current.asWorkflow (.assertion "WorkflowRun changed kind while starting"))

/-- The run is cancelled or failed, as the error says. -/
def terminate (run : WorkflowRun) (detail : ErrorDetail) : WorkflowProgram Run :=
  if detail.category = .cancelled then workflowOp (.cancel run.runId run.stateVersion)
  else workflowOp (.fail run.runId run.stateVersion detail)

/-- The run is ended unless it has ended before. -/
def ensureEnded (run : WorkflowRun) (ending : WorkflowProgram Run) (changed : Raised) :
    WorkflowProgram WorkflowRun :=
  if run.status.terminal then return run
  else do
    let ended ← ending
    ofExcept (ended.asWorkflow changed)

/-- `_terminal_failure`. -/
def terminalFailure (run : WorkflowRun) (detail : ErrorDetail) (definition : WorkflowDefinition)
    (states : NodeStates) : WorkflowProgram WorkflowExecutionOutcome := do
  let latest ← workflowRun run.runId
  let latest ← ensureEnded latest (terminate latest detail)
    (.assertion "WorkflowRun changed kind while terminating")
  let error := match latest.errorSummary with
    | some summary => summary.detail
    | none => detail
  return .result (← ofExcept (WorkflowResult.make latest .null (some error)
    (publicOutputRefs definition states) latest.latestCheckpointRef))

/-- `_validation_failure`. -/
def validationFailure (runId : RunId) (detail : ErrorDetail) :
    WorkflowProgram WorkflowExecutionOutcome := do
  let run ← workflowRun runId
  let run ← ensureEnded run (workflowOp (.fail run.runId run.stateVersion detail))
    (.assertion "WorkflowRun changed kind after validation failure")
  return .result (← ofExcept (WorkflowResult.make run .null (some detail) [] none))

section

variable [Sha256]

/-! ## Checkpoints -/

/-- `_checkpoint`. -/
def checkpoint (run : WorkflowRun) (previous : Option Checkpoint)
    (nodeStates : List NodeCheckpointState) (pendingNodes : List NodeId) (outputRefs : OutputRefs)
    (sideEffects : List SideEffectRecord) (approvals : List ApprovalCheckpointState) :
    WorkflowProgram Checkpoint := do
  let checkpointId ← workflowOp .newCheckpointRef
  let createdAt ← RuntimeControl.now
  ofExcept (Checkpoint.create {
    checkpointId
    runId := run.runId
    workflowId := run.workflow.workflowId
    definitionId := run.definitionId
    graphVersion := run.workflow.graphVersion
    scope := run.scope
    sequence := match previous with
      | some previous => previous.sequence + 1
      | none => 1
    attempt := run.attempt
    previousCheckpointRef := previous.map Checkpoint.ref
    nodeStates := sortStates nodeStates
    pendingNodes := sortNodes pendingNodes
    externalRefs := checkpointReferences nodeStates outputRefs
    sideEffects
    approvals
    createdAt })

/-- `_load_checkpoint`. -/
def loadCheckpoint (runtime : WorkflowRuntime) (run : WorkflowRun) (context : RuntimeCallContext) :
    WorkflowProgram Checkpoint :=
  match run.latestCheckpointRef with
  | none => .raise (coreError .invalidRequest "workflow_checkpoint_missing"
      "WorkflowRun has no committed checkpoint")
  | some marker => workflowOp
      (.checkpointLoad runtime.checkpointProviderId marker run.runId run.scope context)

def saveCheckpoint (runtime : WorkflowRuntime) (checkpoint : Checkpoint) (run : WorkflowRun)
    (context : RuntimeCallContext) : WorkflowProgram WorkflowRun :=
  workflowOp (.checkpointSave runtime.checkpointProviderId checkpoint run.stateVersion context)

/-! ## Outputs -/

/-- `_node_input`. -/
def nodeInput (definition : WorkflowDefinition) (run : WorkflowRun)
    (workflowContext : WorkflowContext) (outputRefs : OutputRefs) (node : WorkflowNode)
    (context : RuntimeCallContext) : WorkflowProgram JsonValue :=
  match node.inputBindings with
  | [] => .raise (.other "IndexError")
  | binding :: _ =>
    if binding.source = .workflowInput then return workflowContext.input
    else match binding.sourceNodeId with
      | none => .raise (.assertion "validated node output binding lost its source")
      | some sourceId => do
        let (source, schema, reference) ←
          ofExcept (durableOutput definition outputRefs sourceId boundOutputMissing)
        let request ← ofExcept
          (LoadNodeOutputRequest.make run.runId sourceId schema reference source.scope)
        workflowOp (.loadOutput request context)

/-- `_terminal_success`. -/
def terminalSuccess (runtime : WorkflowRuntime) (definition : WorkflowDefinition)
    (context : RuntimeCallContext) (driving : Driving) :
    WorkflowProgram WorkflowExecutionOutcome := do
  let sourceId := definition.outputBinding.sourceNodeId
  let (source, schema, reference) ←
    ofExcept (durableOutput definition driving.outputRefs sourceId finalOutputMissing)
  let request ← ofExcept
    (LoadNodeOutputRequest.make driving.run.runId sourceId schema reference source.scope)
  let output ← workflowOp (.loadOutput request context)
  ofExcept (runtime.schemas.validate definition.outputSchema output)
  let completed ← workflowOp (.complete driving.run.runId driving.run.stateVersion)
  let completed ← ofExcept
    (completed.asWorkflow (.assertion "WorkflowRun changed kind while completing"))
  return .result (← ofExcept (WorkflowResult.make completed output none
    (publicOutputRefs definition driving.states) (some driving.checkpoint.ref)))

/-! ## Agent nodes -/

/-- What an agent node outputs, once its schema has let it pass. -/
def agentValue (runtime : WorkflowRuntime) (node : WorkflowNode) (result : AgentExecutionResult) :
    Except Raised (Option JsonValue) :=
  match result.response with
  | none => .ok none
  | some response =>
    let value := if response.structuredOutput.isNull then
        .arr (response.output.map ContentBlock.toData)
      else response.structuredOutput
    match node.outputSchema with
    | none => .error (.assertion "validated AgentNode lost output schema")
    | some schema => do
      runtime.schemas.validate schema value
      return some value

/-- `operation` of `_dispatch_agent`. -/
def agentOperation [PythonText] (runtime : WorkflowRuntime) (definition : WorkflowDefinition)
    (run : WorkflowRun) (workflowContext : WorkflowContext) (outputRefs : OutputRefs)
    (node : WorkflowNode) (call : AuthorizedCall) : WorkflowProgram AgentDispatch :=
  match node.config with
  | .agent config => do
    ofExcept (node.scope.requireNarrowerThan run.scope)
    let key ← ofExcept (nodeIdempotencyKey (nodeOperation run node workflowContext))
    let deadline ← nodeDeadline call.context node
    let nodeContext ← ofExcept (call.context.narrow (some node.scope) deadline (some key))
    let createdAt ← RuntimeControl.now
    let childId ← workflowOp .newRunId
    let child ← ofExcept (createChildAgentRun run config.definitionId config.agentId
      config.modelBindingRef nodeContext.scope createdAt childId)
    let created ← workflowOp (.runCreate child)
    ofExcept (ensure created.isAgent (.assertion "child AgentRun changed kind during creation"))
    let childContext ← ofExcept (nodeContext.forChildRun child.runId (some nodeContext.scope)
      nodeContext.deadline (some key))
    let inputValue ← nodeInput definition run workflowContext outputRefs node nodeContext
    let result ← workflowOp (.executeAgent child.runId (contentInput inputValue)
      childContext)
    let value ← ofExcept (runtime.agentValue node result)
    return ⟨result, value, inputValue, nodeContext, key⟩
  | _ => .raise (.assertion "validated AgentNode config changed type")

/-- `_dispatch_agent`. -/
def dispatchAgent [PythonText] (runtime : WorkflowRuntime) (definition : WorkflowDefinition)
    (run : WorkflowRun) (workflowContext : WorkflowContext) (outputRefs : OutputRefs)
    (node : WorkflowNode) : WorkflowProgram AgentDispatch := do
  let access ← ofExcept (nodeAccess node workflowContext.runtime)
  runtime.authorization.dispatcher.dispatch access
    (runtime.agentOperation definition run workflowContext outputRefs node)

omit [Sha256] in
theorem workflowNode_named : isName "core" = true ∧ isName "workflow_node" = true ∧
    ∀ extension ∈ (none : Option String), isName extension = true := by
  refine ⟨by decide, by decide, ?_⟩
  simp

/-- The record of a side effect, for a node that has one. -/
def recordEffects (node : WorkflowNode) (dispatched : AgentDispatch)
    (reference : CheckpointReference) (sideEffects : List SideEffectRecord) :
    Except Raised (List SideEffectRecord) :=
  if node.sideEffecting then do
    let requestFingerprint ← fingerprint dispatched.inputValue
    return sideEffects ++ [{
      operationRef := ⟨"core", "workflow_node", ⟨node.nodeId.value, node.nodeId.checked⟩, none,
        workflowNode_named⟩
      idempotencyKey := dispatched.idempotencyKey
      requestFingerprint
      resultRef := some reference
      outcome := .succeeded
      durable := by simp }]
  else .ok sideEffects

/-- An agent node that has run: its output is persisted, and a checkpoint with it committed. -/
def completeAgent (runtime : WorkflowRuntime) (definition : WorkflowDefinition)
    (context : WorkflowContext) (driving : Driving) (node : WorkflowNode)
    (dispatched : AgentDispatch) : WorkflowProgram Driving :=
  match dispatched.value, node.outputSchema with
  | some value, some schema => do
    let reference ← workflowOp (.persistOutput ⟨driving.run.runId, node.nodeId, schema, value,
      node.scope, dispatched.idempotencyKey⟩ dispatched.nodeContext)
    let states := driving.states.set node.nodeId (agentState node.nodeId reference)
    let outputRefs := driving.outputRefs.set node.nodeId reference
    let sideEffects ← ofExcept
      (recordEffects node dispatched reference driving.checkpoint.sideEffects)
    let stable ← checkpoint driving.run (some driving.checkpoint) states.values
      (pendingAfter definition (insert node.nodeId driving.scheduler.completed)) outputRefs
      sideEffects driving.checkpoint.approvals
    let run ← runtime.saveCheckpoint stable driving.run context.runtime
    let scheduler ← ofExcept (driving.scheduler.markCompleted node.nodeId)
    return ⟨run, stable, states, outputRefs, scheduler⟩
  | _, _ => .raise (.assertion "successful AgentNode requires a typed output")

/-! ## Evaluation nodes -/

/-- The result is for the request, and one that can be persisted. -/
def checkEvaluation (runtime : WorkflowRuntime) (request : EvaluationRequest)
    (result : EvaluationResult) : Except Raised Unit := do
  ensure (result.evaluationId == request.evaluationId) (coreError .protocolFailure
    "workflow_evaluation_identity_mismatch"
    "Evaluation result identity does not match its request")
  runtime.schemas.validate evaluationResultSchema result.toData

/-- `operation` of `_execute_evaluation`. -/
def evaluationOperation (runtime : WorkflowRuntime) (definition : WorkflowDefinition)
    (workflowContext : WorkflowContext) (driving : Driving) (node : WorkflowNode)
    (call : AuthorizedCall) : WorkflowProgram EvaluationDispatch :=
  match node.config with
  | .evaluation config =>
    match node.inputSchema with
    | none => .raise (.assertion "validated EvaluationNode lost input schema")
    | some inputSchema => do
      let key ← ofExcept (nodeIdempotencyKey (nodeOperation driving.run node workflowContext))
      let deadline ← nodeDeadline call.context node
      let nodeContext ← ofExcept (call.context.narrow (some node.scope) deadline (some key))
      let inputValue ← nodeInput definition driving.run workflowContext driving.outputRefs node
        nodeContext
      let evaluationId ← ofExcept (evaluationId ⟨driving.run.runId, node.nodeId⟩)
      let request : EvaluationRequest := {
        contractVersion := evaluationContractVersion
        evaluationId
        value := inputValue
        inputSchema
        policyRef := config.policyRef
        qualityEvaluatorId := config.qualityEvaluatorId
        qualityProfileRef := config.qualityProfileRef
        scope := node.scope
        constraints := .empty
        valid := ⟨rfl, config.trimmed.1, config.trimmed.2, rfl⟩ }
      let result ← workflowOp (.evaluate request nodeContext)
      ofExcept (runtime.checkEvaluation request result)
      return ⟨result, inputValue, nodeContext, key⟩
  | _ => .raise (.assertion "validated EvaluationNode config changed type")

/-- `_execute_evaluation`; `redrive` is `_drive`. -/
def executeEvaluation (runtime : WorkflowRuntime) (workflow : ValidatedWorkflow)
    (workflowContext : WorkflowContext) (driving : Driving) (node : WorkflowNode)
    (redrive : WorkflowRun → Checkpoint → WorkflowProgram WorkflowExecutionOutcome) :
    WorkflowProgram WorkflowExecutionOutcome :=
  if ¬ runtime.hasEvaluations then
    .raise (coreError .unavailable "evaluation_harness_unavailable"
      "WorkflowRuntime has no Evaluation harness")
  else do
    let access ← ofExcept (nodeAccess node workflowContext.runtime)
    let dispatched ← runtime.authorization.dispatcher.dispatch access
      (runtime.evaluationOperation workflow.definition workflowContext driving node)
    let reference ← workflowOp (.persistOutput ⟨driving.run.runId, node.nodeId,
      evaluationResultSchema, dispatched.result.toData, node.scope, dispatched.idempotencyKey⟩
      dispatched.nodeContext)
    let verdict := dispatched.result.verdict
    let states := driving.states.set node.nodeId (evaluationState node.nodeId verdict reference)
    let outputRefs := if verdict = .passed then driving.outputRefs.set node.nodeId reference
      else driving.outputRefs
    let stable ← checkpoint driving.run (some driving.checkpoint) states.values
      (pendingAfter workflow.definition (insert node.nodeId driving.scheduler.completed)) outputRefs
      driving.checkpoint.sideEffects driving.checkpoint.approvals
    let committed ← runtime.saveCheckpoint stable driving.run workflowContext.runtime
    if verdict = .passed then do
      let _ ← ofExcept (driving.scheduler.markCompleted node.nodeId)
      redrive committed stable
    else terminalFailure committed (evaluationError dispatched.result) workflow.definition states

/-- The evaluation node of a state that is stable and did not succeed. -/
def failedEvaluation (definition : WorkflowDefinition) (state : NodeCheckpointState) :
    Option WorkflowNode :=
  (definition.node? state.nodeId).filter fun node =>
    node.nodeType == WorkflowNodeType.evaluation.value && state.outcome != .succeeded

/-- `_stable_evaluation_failure`. -/
def stableEvaluationFailure [PythonText] (definition : WorkflowDefinition) (run : WorkflowRun)
    (context : RuntimeCallContext) (states : NodeStates) :
    WorkflowProgram (Option ErrorDetail) :=
  match (sortStates states.values).findSome? fun state =>
    (failedEvaluation definition state).map fun node => (state, node) with
  | none => return none
  | some (state, node) =>
    match state.errorRef with
    | none => .raise (coreError .protocolFailure "workflow_evaluation_error_reference_missing"
        "stable non-successful EvaluationNode has no result reference")
    | some reference => do
      let request ← ofExcept (LoadNodeOutputRequest.make run.runId state.nodeId
        evaluationResultSchema reference node.scope)
      let value ← workflowOp (.loadOutput request context)
      let result ← ofExcept (value.readObject "stable Evaluation result" EvaluationResult.fromData)
      ofExcept (ensure (evaluationOutcome result.verdict == state.outcome)
        (coreError .protocolFailure "workflow_evaluation_outcome_mismatch"
          "stable Evaluation result and node outcome do not match"))
      return some (evaluationError result)

/-! ## Approval nodes -/

/-- `operation` of `_request_approval`. -/
def approvalOperation (runtime : WorkflowRuntime) (workflowContext : WorkflowContext)
    (driving : Driving) (node : WorkflowNode) (call : AuthorizedCall) :
    WorkflowProgram WorkflowSuspension :=
  match node.config with
  | .approval config => do
    let approvalId ← ofExcept (approvalId ⟨driving.run.runId, node.nodeId⟩)
    let request ← ofExcept (ApprovalRequest.make approvalId driving.run.runId node.nodeId
      call.context.trace.correlationId driving.run.scope config.allowedOutcomes config.expiresAt
      config.promptRef)
    let approval := ApprovalCheckpointState.pending request
    let states := driving.states.set node.nodeId
      (approvalNodeState node.nodeId .waitingApproval approval)
    let waiting ← checkpoint driving.run (some driving.checkpoint) states.values
      (driving.scheduler.pendingNodes.filter fun nodeId => nodeId != node.nodeId)
      driving.outputRefs driving.checkpoint.sideEffects
      (driving.checkpoint.approvals ++ [approval])
    let run ← workflowOp (.requestApproval runtime.checkpointProviderId request waiting
      driving.run.stateVersion workflowContext.runtime)
    ofExcept (WorkflowSuspension.make run waiting.ref request)
  | _ => .raise (.assertion "validated ApprovalNode config changed type")

/-- `_request_approval`. -/
def requestApproval (runtime : WorkflowRuntime) (workflowContext : WorkflowContext)
    (driving : Driving) (node : WorkflowNode) : WorkflowProgram WorkflowExecutionOutcome := do
  let access ← ofExcept (nodeAccess node workflowContext.runtime)
  let suspended ← runtime.authorization.dispatcher.dispatch access
    (runtime.approvalOperation workflowContext driving node)
  return .suspension suspended

/-! ## The loop -/

def schedulerStalled : ErrorDetail where
  category := .protocolFailure
  code := "workflow_scheduler_stalled"
  message := "Workflow scheduler has pending work but no ready node"
  retryable := false
  causeId := none
  required := by decide

/-- `while not scheduler.done`, for at most `fuel` turns; `exhausted` stands for all others. -/
def driveLoop [PythonText] (runtime : WorkflowRuntime) (workflow : ValidatedWorkflow)
    (context : WorkflowContext) (exhausted : WorkflowProgram WorkflowExecutionOutcome)
    (redrive : WorkflowRun → Checkpoint → WorkflowProgram WorkflowExecutionOutcome) :
    ℕ → Driving → WorkflowProgram WorkflowExecutionOutcome
  | 0, _ => exhausted
  | fuel + 1, driving =>
    if driving.scheduler.done then
      runtime.terminalSuccess workflow.definition context.runtime driving
    else match driving.scheduler.next with
      | none => terminalFailure driving.run schedulerStalled workflow.definition driving.states
      | some node =>
        if node.nodeType = WorkflowNodeType.approval.value then
          runtime.requestApproval context driving node
        else if node.nodeType = WorkflowNodeType.evaluation.value then
          runtime.executeEvaluation workflow context driving node redrive
        else if node.nodeType ≠ WorkflowNodeType.agent.value then
          .raise (.assertion "validator admitted an unsupported node")
        else
          (runtime.dispatchAgent workflow.definition driving.run context driving.outputRefs
            node).andThen fun
            | .error (.core detail) =>
              terminalFailure driving.run detail workflow.definition driving.states
            | .error error => .raise error
            | .ok dispatched => match dispatched.result.error with
              | some detail =>
                terminalFailure driving.run detail workflow.definition driving.states
              | none => do
                let next ← runtime.completeAgent workflow.definition context driving node dispatched
                runtime.driveLoop workflow context exhausted redrive fuel next

/-- The run of a checkpoint with a pending approval waits for it. -/
def restoreWaiting (run : WorkflowRun) : WorkflowProgram WorkflowRun :=
  if run.status = .running then do
    let transitioned ← workflowOp (.advance run.runId run.stateVersion .waitingApproval)
    ofExcept (transitioned.asWorkflow
      (.assertion "WorkflowRun changed kind while restoring approval"))
  else return run

/-- `_drive`; `fuel` bounds the turns of its loop and how often an evaluation drives again. -/
def drive [PythonText] (runtime : WorkflowRuntime) (workflow : ValidatedWorkflow)
    (context : WorkflowContext) (exhausted : WorkflowProgram WorkflowExecutionOutcome) :
    ℕ → WorkflowRun → Checkpoint → WorkflowProgram WorkflowExecutionOutcome
  | 0, _, _ => exhausted
  | fuel + 1, run, checkpoint => do
    match ← ofExcept (pendingApproval checkpoint) with
    | some waiting => do
      let run ← restoreWaiting run
      return .suspension (← ofExcept
        (WorkflowSuspension.make run checkpoint.ref waiting.request))
    | none => do
      let states := statesOf checkpoint.nodeStates
      let stableFailure ← stableEvaluationFailure workflow.definition run context.runtime states
      match stableFailure with
      | some detail => terminalFailure run detail workflow.definition states
      | none => do
        let outputRefs := outputRefsOf workflow.definition states
        let scheduler ← ofExcept
          (DeterministicScheduler.make workflow (completedOf checkpoint.nodeStates))
        runtime.driveLoop workflow context exhausted
          (runtime.drive workflow context exhausted fuel) (fuel + 1)
          ⟨run, checkpoint, states, outputRefs, scheduler⟩

/-- Each turn completes a node, also one that drives the run again. -/
def driveFuel (definition : WorkflowDefinition) : ℕ := definition.nodes.length + 1

/-! ## The entry points -/

/-- The definition and the input of a call are valid. -/
def validated (runtime : WorkflowRuntime) (definition : WorkflowDefinition)
    (context : WorkflowContext) : Except Raised ValidatedWorkflow := do
  let workflow ← runtime.validator.validate definition
  runtime.schemas.validate definition.inputSchema context.input
  return workflow

/-- `execute`, of a run that has been created. -/
def executeCreated [PythonText] (runtime : WorkflowRuntime) (workflow : ValidatedWorkflow)
    (context : WorkflowContext) (run : WorkflowRun) :
    WorkflowProgram WorkflowExecutionOutcome := do
  let run ← start run
  let first ← checkpoint run none [] (sortNodes workflow.definition.nodeIds) .empty [] []
  let run ← runtime.saveCheckpoint first run context.runtime
  runtime.drive workflow context (.raise outOfFuel) (driveFuel workflow.definition) run first

/-- `execute`, of a run that has been started. -/
def executeStarted [PythonText] (runtime : WorkflowRuntime) (workflow : ValidatedWorkflow)
    (context : WorkflowContext) (run : WorkflowRun) :
    WorkflowProgram WorkflowExecutionOutcome := do
  ofExcept (ensure run.latestCheckpointRef.isSome (coreError .invalidRequest
    "workflow_checkpoint_missing" "started WorkflowRun has no committed checkpoint"))
  let current ← runtime.loadCheckpoint run context.runtime
  if run.status = .waitingApproval then ofExcept (suspension run current)
  else do
    ofExcept (ensure (run.status == .running) (coreError .conflict
      "workflow_execution_state_invalid" "WorkflowRun cannot be executed from its current state"))
    runtime.drive workflow context (.raise outOfFuel) (driveFuel workflow.definition) run current

def execute [PythonText] (runtime : WorkflowRuntime) (definition : WorkflowDefinition)
    (context : WorkflowContext) : WorkflowProgram WorkflowExecutionOutcome :=
  match runtime.validated definition context with
  | .error (.core detail) => validationFailure context.runId detail
  | .error error => .raise error
  | .ok workflow => do
    let run ← workflowRun context.runId
    ofExcept (validateIdentity definition run context.runtime)
    if run.status = .created then runtime.executeCreated workflow context run
    else runtime.executeStarted workflow context run

def recover [PythonText] (runtime : WorkflowRuntime) (definition : WorkflowDefinition)
    (context : WorkflowContext) (request : RecoveryRequest) :
    WorkflowProgram WorkflowExecutionOutcome := do
  let workflow ← ofExcept (runtime.validated definition context)
  ofExcept (ensure (request.runId == context.runId) (coreError .invalidRequest
    "workflow_recovery_run_mismatch" "recovery request does not match Workflow context"))
  let recovered ← workflowOp (.recover request context.runtime)
  ofExcept (validateIdentity definition recovered.run context.runtime)
  runtime.drive workflow context (.raise outOfFuel) (driveFuel definition) recovered.run
    recovered.checkpoint

/-- `approvals`, with the decided state in the place of the pending one. -/
def decidedApprovals (approvals : List ApprovalCheckpointState) (approvalId : ApprovalId)
    (decided : ApprovalCheckpointState) : List ApprovalCheckpointState :=
  approvals.map fun item => if item.request.approvalId == approvalId then decided else item

/-- The states of the nodes after a decision. -/
def decidedStates (current : Checkpoint) (decision : ApprovalDecision)
    (decided : ApprovalCheckpointState) : NodeStates :=
  (statesOf (current.nodeStates.filter fun item => item.nodeId != decision.nodeId)).set
    decision.nodeId (approvalNodeState decision.nodeId (decisionOutcome decision.outcome) decided)

def approvalCancelled : ErrorDetail where
  category := .cancelled
  code := "approval_cancelled"
  message := "approval decision cancelled Workflow execution"
  retryable := false
  causeId := none
  required := by decide

def approvalRejected : ErrorDetail where
  category := .denied
  code := "approval_rejected"
  message := "approval decision rejected Workflow execution"
  retryable := false
  causeId := none
  required := by decide

/-- What `decide_approval` gives for a decision that does not approve. -/
def undecided (definition : WorkflowDefinition) (decision : ApprovalDecision) (run : WorkflowRun)
    (states : NodeStates) (checkpoint : Checkpoint) : Except Raised WorkflowExecutionOutcome := do
  let error := if decision.outcome = .cancelled then approvalCancelled else approvalRejected
  return .result (← WorkflowResult.make run .null (some error)
    (publicOutputRefs definition states) (some checkpoint.ref))

def decideApproval [PythonText] (runtime : WorkflowRuntime) (definition : WorkflowDefinition)
    (context : WorkflowContext) (decision : ApprovalDecision) :
    WorkflowProgram WorkflowExecutionOutcome := do
  let workflow ← ofExcept (runtime.validator.validate definition)
  let run ← workflowRun context.runId
  ofExcept (validateIdentity definition run context.runtime)
  ofExcept (ensure (run.status == .waitingApproval) (coreError .conflict
    "workflow_not_waiting_approval" "WorkflowRun is not waiting for an approval decision"))
  let current ← runtime.loadCheckpoint run context.runtime
  let approval ← ofExcept (approvalState current decision.approvalId)
  let decided ← ofExcept (ApprovalCheckpointState.decide approval.request decision)
  let states := decidedStates current decision decided
  let postDecision ← checkpoint run (some current) states.values
    (pendingAfter definition (insert decision.nodeId (completedOf states.values)))
    (outputRefsOf definition states) current.sideEffects
    (decidedApprovals current.approvals decision.approvalId decided)
  let decidedRun ← workflowOp (.decideApproval ⟨runtime.checkpointProviderId, decision,
    postDecision, run.stateVersion, context.runtime⟩)
  if decision.outcome = .approved then
    runtime.drive workflow context (.raise outOfFuel) (driveFuel definition) decidedRun postDecision
  else ofExcept (undecided definition decision decidedRun states postDecision)

end

end WorkflowRuntime

end CongeriesCore
