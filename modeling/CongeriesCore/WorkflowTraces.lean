import CongeriesCore.AsyncSimulation
import CongeriesCore.GatewayTraces
import CongeriesCore.WorkflowProgress

/-! # Traces of the workflow runtime

What must have happened before the runtime asks one of its collaborators for something, whatever
they have answered so far. A node is dispatched, executed, persisted and committed in this order,
from a checkpoint that the coordinators have taken or given. -/

namespace CongeriesCore.WorkflowTraces

open AsyncProgram AsyncProgram.Program GatewayDispatch WorkflowProgress WorkflowRuntime

abbrev WorkflowTrace := GatewayTrace workflowInterface

abbrev WorkflowEvent := Event (gatewayInterface workflowInterface) Raised

abbrev called (op : WorkflowOp) (outcome : Except Raised op.Answer) : WorkflowEvent :=
  ⟨.call op, outcome⟩

/-! ## What has happened -/

/-- The operation is one between two stages of a node: it prepares the next one. -/
def Prepares : GatewayOp workflowInterface → Prop
  | .authorize _ => False
  | .call .newRunId | .call .newCheckpointRef | .call (.runCreate _) | .call (.loadOutput _ _) =>
    True
  | .call _ => False
  | _ => True

/-- The operation asks for nothing that has to have happened. -/
def Idle : GatewayOp workflowInterface → Prop
  | .authorize _ => False
  | .call (.loadOutput _ _) | .call (.executeAgent _ _ _) | .call (.evaluate _ _)
  | .call (.persistOutput _ _) | .call (.checkpointSave _ _ _ _)
  | .call (.requestApproval _ _ _ _ _) | .call (.decideApproval _) | .call (.complete _ _) => False
  | _ => True

/-- The last event that did not only prepare another is of this kind. -/
def Lately (kind : WorkflowEvent → Prop) (trace : WorkflowTrace) : Prop :=
  ∃ before event, kind event ∧ Grown Prepares (before ++ [event]) trace

/-- The coordinators have taken the checkpoint from the runtime, or have given it. -/
def accepts (checkpoint : Checkpoint) : WorkflowEvent → Prop
  | ⟨.call (.checkpointSave _ saved _ _), .ok _⟩ => saved = checkpoint
  | ⟨.call (.checkpointLoad _ _ _ _ _), .ok loaded⟩ => loaded = checkpoint
  | ⟨.call (.recover _ _), .ok recovered⟩ => recovered.checkpoint = checkpoint
  | ⟨.call (.requestApproval _ _ saved _ _), .ok _⟩ => saved = checkpoint
  | ⟨.call (.decideApproval submission), .ok _⟩ => submission.checkpoint = checkpoint
  | _ => False

def Accepted (checkpoint : Checkpoint) (trace : WorkflowTrace) : Prop :=
  ∃ event ∈ trace, accepts checkpoint event

/-- The policy has granted the execution of the node. -/
def grants (context : WorkflowContext) (node : WorkflowNode) (event : WorkflowEvent) : Prop :=
  ∃ request decision, nodeAccess node context.runtime = .ok request ∧
    decision.effect = .allow ∧ event = ⟨.authorize request, .ok decision⟩

/-- The value is the one that the node is bound to: the input of the workflow, or an output that
was loaded by the reference recorded in the checkpoint. -/
def Supplied (context : WorkflowContext) (checkpoint : Checkpoint) (node : WorkflowNode)
    (value : JsonValue) (trace : WorkflowTrace) : Prop :=
  ∃ binding ∈ node.inputBindings.head?, (binding.source = .workflowInput ∧ value = context.input) ∨
    ∃ sourceId reference request call, binding.sourceNodeId = some sourceId ∧
      (checkpoint.stateOf sourceId).bind NodeCheckpointState.outputRef = some reference ∧
      request.nodeId = sourceId ∧ request.reference = reference ∧
      called (.loadOutput request call) (.ok value) ∈ trace

/-- The child run of a node has been created. -/
def Bred (runId : RunId) (trace : WorkflowTrace) : Prop :=
  ∃ child created, child.runId = runId ∧ called (.runCreate child) (.ok created) ∈ trace

/-- An agent has just returned what is to be persisted. -/
def AgentProduced (runtime : WorkflowRuntime) (node : WorkflowNode)
    (request : PersistNodeOutputRequest) (trace : WorkflowTrace) : Prop :=
  ∃ before runId input call result,
    trace = before ++ [called (.executeAgent runId input call) (.ok result)] ∧
    call.idempotencyKey = some request.idempotencyKey ∧ result.error = none ∧
    runtime.agentValue node result = .ok (some request.value) ∧
    node.outputSchema = some request.schema

/-- The evaluator has just returned what is to be persisted. -/
def EvaluationProduced (request : PersistNodeOutputRequest) (trace : WorkflowTrace) : Prop :=
  ∃ before evaluation call result,
    trace = before ++ [called (.evaluate evaluation call) (.ok result)] ∧
    call.idempotencyKey = some request.idempotencyKey ∧
    result.evaluationId = evaluation.evaluationId ∧ request.value = result.toData ∧
    request.schema = evaluationResultSchema

/-- The output of the node has been persisted, and its state refers to it. -/
def persists (state : NodeCheckpointState) (event : WorkflowEvent) : Prop :=
  ∃ request call reference, event = called (.persistOutput request call) (.ok reference) ∧
    request.nodeId = state.nodeId ∧ if state.outcome = .succeeded then
      state.outputRef = some reference else state.errorRef = some reference

/-- The reference has just been given, for what comes next. -/
def Named (reference : CheckpointRef) (trace : WorkflowTrace) : Prop :=
  ∃ before, Grown GatewayOp.quiet (before ++ [called .newCheckpointRef (.ok reference)]) trace

/-- The first checkpoint of a run. -/
structure Opens (definition : WorkflowDefinition) (checkpoint : Checkpoint) : Prop where
  unlinked : checkpoint.previousCheckpointRef = none
  numbered : checkpoint.sequence = 1
  untouched : checkpoint.nodeStates = []
  pending : ∀ nodeId, nodeId ∈ checkpoint.pendingNodes ↔ nodeId ∈ definition.nodeIds
  unapproved : checkpoint.approvals = []
  unaffected : checkpoint.sideEffects = []

/-! ## What the runtime needs -/

/-- A node is dispatched once, where it can be. -/
def Asks (definition : WorkflowDefinition) (context : WorkflowContext) (request : AccessRequest)
    (trace : WorkflowTrace) : Prop :=
  ∃ node checkpoint, Accepted checkpoint trace ∧ Dispatchable definition checkpoint node ∧
    nodeAccess node context.runtime = .ok request ∧
    ∀ other outcome, (⟨.authorize other, outcome⟩ : WorkflowEvent) ∈ trace →
      other.principal ≠ request.principal

/-- A node is executed after the policy has granted it, with the value it is bound to. -/
def Executes (definition : WorkflowDefinition) (context : WorkflowContext) (type : WorkflowNodeType)
    (value : JsonValue) (call : RuntimeCallContext) (trace : WorkflowTrace) : Prop :=
  ∃ node checkpoint, node.nodeType = type.value ∧ call.scope = node.scope ∧
    Accepted checkpoint trace ∧ Dispatchable definition checkpoint node ∧
    Lately (grants context node) trace ∧ Supplied context checkpoint node value trace

/-- What is persisted is what the node has produced. -/
def Persists (runtime : WorkflowRuntime) (definition : WorkflowDefinition)
    (request : PersistNodeOutputRequest) (trace : WorkflowTrace) : Prop :=
  ∃ node checkpoint, Accepted checkpoint trace ∧ Dispatchable definition checkpoint node ∧
    request.nodeId = node.nodeId ∧ request.scope = node.scope ∧
    (node.nodeType = WorkflowNodeType.agent.value ∧ AgentProduced runtime node request trace ∨
      node.nodeType = WorkflowNodeType.evaluation.value ∧ EvaluationProduced request trace)

/-- A checkpoint that is saved opens a run, or records one node whose output is persisted. -/
def Saves (definition : WorkflowDefinition) (checkpoint : Checkpoint) (trace : WorkflowTrace) :
    Prop :=
  Opens definition checkpoint ∨
    ∃ previous node state, Accepted previous trace ∧
      Progresses definition previous checkpoint node state ∧ state.outcome ≠ .waitingApproval ∧
      Lately (persists state) trace

/-- An approval is requested for a node that the policy has granted. -/
def Requests (definition : WorkflowDefinition) (context : WorkflowContext)
    (request : ApprovalRequest) (checkpoint : Checkpoint) (trace : WorkflowTrace) : Prop :=
  ∃ previous node, Accepted previous trace ∧ Lately (grants context node) trace ∧
    node.nodeType = WorkflowNodeType.approval.value ∧ request.nodeId = node.nodeId ∧
    Progresses definition previous checkpoint node
      (approvalNodeState node.nodeId .waitingApproval (.pending request))

/-- A decision is submitted with the checkpoint that records it after the one that was loaded. -/
def Submits (definition : WorkflowDefinition) (submission : ApprovalSubmission)
    (trace : WorkflowTrace) : Prop :=
  ∃ previous approval decided, Accepted previous trace ∧
    Decides definition previous submission.checkpoint submission.decision approval decided

/-- What is loaded is recorded in a checkpoint, for its node. -/
def Loads (request : LoadNodeOutputRequest) (trace : WorkflowTrace) : Prop :=
  ∃ checkpoint state, Accepted checkpoint trace ∧
    checkpoint.stateOf request.nodeId = some state ∧
    (state.outputRef = some request.reference ∨ state.errorRef = some request.reference)

/-- All nodes have succeeded and the final output has been loaded and checked. -/
def Completed (runtime : WorkflowRuntime) (definition : WorkflowDefinition)
    (checkpoint : Checkpoint) (output : JsonValue) (trace : WorkflowTrace) : Prop :=
  Accepted checkpoint trace ∧
    (∀ nodeId ∈ definition.nodeIds, nodeId ∈ completedOf checkpoint.nodeStates) ∧
    runtime.schemas.validate definition.outputSchema output = .ok () ∧
    ∃ request call, request.nodeId = definition.outputBinding.sourceNodeId ∧
      called (.loadOutput request call) (.ok output) ∈ trace

/-- What has to have happened when the runtime suspends on an operation. -/
def Needed [PythonText] (runtime : WorkflowRuntime) (definition : WorkflowDefinition)
    (context : WorkflowContext) : (op : GatewayOp workflowInterface) → WorkflowTrace → Prop
  | .authorize request, trace => Asks definition context request trace
  | .call (.executeAgent runId input call), trace =>
    Bred runId trace ∧ ∃ value, input = contentInput value ∧
      Executes definition context .agent value call trace
  | .call (.evaluate request call), trace =>
    Executes definition context .evaluation request.value call trace
  | .call (.persistOutput request _), trace => Persists runtime definition request trace
  | .call (.checkpointSave _ checkpoint _ _), trace =>
    Saves definition checkpoint trace ∧ Named checkpoint.ref trace
  | .call (.requestApproval _ request checkpoint _ _), trace =>
    Requests definition context request checkpoint trace ∧ Named checkpoint.ref trace
  | .call (.decideApproval submission), trace =>
    Submits definition submission trace ∧ Named submission.checkpoint.ref trace
  | .call (.loadOutput request _), trace => Loads request trace
  | .call (.complete _ _), trace =>
    ∃ checkpoint output, Completed runtime definition checkpoint output trace
  | _, _ => True

/-- How a call may return: with all nodes completed, with a pending approval, or with an error. -/
def Concludes (runtime : WorkflowRuntime) (definition : WorkflowDefinition) :
    WorkflowExecutionOutcome → WorkflowTrace → Prop
  | .result result, trace => result.error = none →
    ∃ checkpoint, Completed runtime definition checkpoint result.output trace ∧
      result.finalCheckpointRef = some checkpoint.ref
  | .suspension suspension, trace => ∃ checkpoint approval, Accepted checkpoint trace ∧
    suspension.checkpointRef = checkpoint.ref ∧ approval ∈ checkpoint.approvals ∧
    approval.decision = none ∧ approval.request = suspension.approval

end CongeriesCore.WorkflowTraces
