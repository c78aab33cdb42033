import CongeriesCore.Dict
import CongeriesCore.TopologicalOrder
import CongeriesCore.RuntimeSchema
import Mathlib.Data.Finset.Dedup

/-! # Workflow validation

What a definition must satisfy before it is executed: its policy, its schemas, each node by
itself, and the graph that the dependencies and the bindings make. -/

namespace CongeriesCore

def workflowNodeExecuteAction : ActionRef := ⟨"core", "workflow.node.execute", "1", by decide⟩

def evaluationPolicyEvaluateAction : ActionRef :=
  ⟨"core", "evaluation.policy.evaluate", "1", by decide⟩

def qualityCapabilitiesAction : ActionRef :=
  ⟨"core", "evaluation.quality.capabilities", "1", by decide⟩

def qualityEvaluateAction : ActionRef := ⟨"core", "evaluation.quality.evaluate", "1", by decide⟩

/-- `evaluation_actions`. -/
def evaluationActions : List ActionRef :=
  [evaluationPolicyEvaluateAction, qualityCapabilitiesAction, qualityEvaluateAction]

/-- `EVALUATION_RESULT_SCHEMA`. -/
def evaluationResultSchema : SchemaRef := ⟨"core", "evaluation_result", "1", by decide⟩

/-- `ActionRegistry`. -/
structure ActionRegistry where
  actions : List ActionRef

def ActionRegistry.contains (registry : ActionRegistry) (action : ActionRef) : Bool :=
  registry.actions.contains action

structure ValidatedWorkflow where
  definition : WorkflowDefinition
  topologicalOrder : List NodeId

structure WorkflowValidator where
  schemas : SchemaRegistry
  actions : ActionRegistry
  supportedNodes : List (String × String)

namespace WorkflowValidator

/-- `_invalid`. -/
def invalid (code message : String) (given : code ≠ "" ∧ message ≠ "" := by decide) : Raised :=
  coreError .invalidRequest code message given

def unsupported (code message : String) (given : code ≠ "" ∧ message ≠ "" := by decide) : Raised :=
  coreError .unsupportedCapability code message given

/-- `supported_nodes`, or the three types of the direct runtime. -/
def supported (validator : WorkflowValidator) : List (String × String) :=
  if validator.supportedNodes = [] then
    [(WorkflowNodeType.agent.value, "1"), (WorkflowNodeType.approval.value, "1"),
      (WorkflowNodeType.evaluation.value, "1")]
  else validator.supportedNodes

def validatePolicy (definition : WorkflowDefinition) : Except Raised Unit :=
  let policy := definition.executionPolicy
  ensure (policy.maxConcurrency == 1 && !policy.compensationEnabled && policy.maxAttempts == 1)
    (unsupported "workflow_policy_unsupported"
      "the v0.2 direct runtime supports one-at-a-time fail-fast execution")

def requireSchema (validator : WorkflowValidator) (schema : SchemaRef) (code : String)
    (given : code ≠ "") : Except Raised Unit :=
  ensure (validator.schemas.contains schema) (coreError .versionMismatch code
    "Workflow references an unregistered schema" ⟨given, by decide⟩)

/-- A schema that a node may leave out. -/
def requireOptionalSchema (validator : WorkflowValidator) (schema : Option SchemaRef)
    (code : String) (given : code ≠ "") : Except Raised Unit :=
  match schema with
  | none => .ok ()
  | some schema => validator.requireSchema schema code given

def validateAgent (node : WorkflowNode) : Except Raised Unit :=
  match node.config with
  | .agent _ => ensure (node.inputSchema.isSome && node.outputSchema.isSome &&
      node.inputBindings.length == 1) (invalid "workflow_agent_contract_incomplete"
        "AgentNode requires one input binding and input/output schemas")
  | _ => .error (invalid "workflow_agent_config_invalid" "AgentNode requires AgentNodeConfig")

def validateApproval (node : WorkflowNode) : Except Raised Unit :=
  match node.config with
  | .approval config => do
    ensure (node.inputBindings.isEmpty && node.inputSchema.isNone && node.outputSchema.isNone)
      (invalid "workflow_approval_contract_invalid"
        "ApprovalNode does not accept or produce a value in v0.2")
    config.promptRef.scope.requireNarrowerThan node.scope
  | _ => .error (invalid "workflow_approval_config_invalid"
      "ApprovalNode requires ApprovalNodeConfig")

/-- `expected_resources`: the kind and the identity of the resource each action is about. -/
def expectedResource (config : EvaluationNodeConfig) (action : ActionRef) : String × String :=
  if action = evaluationPolicyEvaluateAction then ("evaluation_policy", config.policyRef)
  else ("quality_evaluator", config.qualityEvaluatorId.value)

def permitsExpected (node : WorkflowNode) (config : EvaluationNodeConfig) (action : ActionRef) :
    Bool :=
  node.permissions.any fun permission =>
    permission.action == action && permission.resource.namespace_ == "core" &&
      permission.resource.kind == (expectedResource config action).1 &&
      permission.resource.id.value == (expectedResource config action).2

def validateEvaluation (node : WorkflowNode) : Except Raised Unit :=
  match node.config with
  | .evaluation config => do
    ensure (node.inputSchema.isSome && node.outputSchema == some evaluationResultSchema &&
      node.inputBindings.length == 1) (invalid "workflow_evaluation_contract_incomplete"
        "EvaluationNode requires one input and the fixed result schema")
    ensure node.idempotencyRequired (invalid "workflow_evaluation_idempotency_required"
      "EvaluationNode requires idempotency")
    ensure (evaluationActions.all fun action =>
      node.permissions.any fun permission => permission.action == action)
      (invalid "workflow_evaluation_permission_missing"
        "EvaluationNode must declare every Evaluation action")
    ensure (evaluationActions.all (permitsExpected node config))
      (invalid "workflow_evaluation_permission_resource_invalid"
        "Evaluation permission resource does not match node config")
  | _ => .error (invalid "workflow_evaluation_config_invalid"
      "EvaluationNode requires EvaluationNodeConfig")

/-- What the type of a node asks for. -/
def validateContract (node : WorkflowNode) : Except Raised Unit :=
  if node.nodeType = WorkflowNodeType.agent.value then validateAgent node
  else if node.nodeType = WorkflowNodeType.approval.value then validateApproval node
  else if node.nodeType = WorkflowNodeType.evaluation.value then validateEvaluation node
  else .ok ()

def validateNode (validator : WorkflowValidator) (node : WorkflowNode) : Except Raised Unit := do
  ensure (validator.supported.contains (node.nodeType, node.contractVersion))
    (unsupported "workflow_node_contract_unsupported"
      "Workflow node type or contract version is unsupported")
  ensure (node.retryLimit == 0) (unsupported "workflow_node_retry_unsupported"
    "the v0.2 direct runtime does not schedule node retries")
  ensure (!(node.sideEffecting && !node.idempotencyRequired))
    (invalid "workflow_node_idempotency_required"
      "side-effecting Workflow nodes require idempotency")
  ensure node.checkpoint (invalid "workflow_node_checkpoint_required"
    "the v0.2 direct runtime requires stable node checkpoints")
  ensure (node.permissions.any fun permission => permission.action == workflowNodeExecuteAction)
    (invalid "workflow_node_execute_permission_missing"
      "Workflow node does not declare the execute permission")
  ensure (node.permissions.all fun permission => validator.actions.contains permission.action)
    (invalid "workflow_permission_not_evaluable"
      "Workflow node declares an unregistered permission action")
  validator.requireOptionalSchema node.inputSchema "workflow_node_input_schema_missing" (by decide)
  validator.requireOptionalSchema node.outputSchema "workflow_node_output_schema_missing"
    (by decide)
  validateContract node

/-! ### The order of the nodes -/

def count (counts : Dict NodeId ℤ) (node : NodeId) : ℤ := (counts.get? node).getD 0

def add (counts : Dict NodeId ℤ) (node : NodeId) (change : ℤ) : Dict NodeId ℤ :=
  counts.set node (count counts node + change)

/-- `incoming`, after the loop over the dependencies. -/
def incoming (definition : WorkflowDefinition) : Dict NodeId ℤ :=
  definition.dependencies.foldl (fun counts dependency => add counts dependency.targetNodeId 1)
    (Dict.setAll id (fun _ => 0) .empty definition.nodeIds)

/-- `outgoing[node_id]`, after the loop over the dependencies. -/
def outgoing (definition : WorkflowDefinition) (nodeId : NodeId) : List NodeId :=
  (definition.dependencies.filter fun dependency => dependency.sourceNodeId == nodeId).map
    WorkflowDependency.targetNodeId

structure Pending where
  incoming : Dict NodeId ℤ
  ready : List NodeId

/-- One dependency of `target` is met. -/
def release (pending : Pending) (target : NodeId) : Pending :=
  let incoming := add pending.incoming target (-1)
  if count incoming target = 0 then ⟨incoming, sortNodes (pending.ready ++ [target])⟩
  else ⟨incoming, pending.ready⟩

/-- `while ready`, for at most `fuel` nodes. -/
def visit (definition : WorkflowDefinition) : ℕ → Pending → List NodeId
  | 0, _ => []
  | fuel + 1, pending =>
    match pending.ready with
    | [] => []
    | current :: ready =>
      current :: visit definition fuel
        ((sortNodes (outgoing definition current)).foldl release ⟨pending.incoming, ready⟩)

def initiallyReady (definition : WorkflowDefinition) : List NodeId :=
  sortNodes (definition.nodeIds.filter fun node => count (incoming definition) node = 0)

/-- `_topological_order`; a node is ready once, so the loop ends within one turn for each. -/
def topologicalOrder (definition : WorkflowDefinition) : Except Raised (List NodeId) := do
  let order := visit definition definition.nodes.length
    ⟨incoming definition, initiallyReady definition⟩
  ensure (order.length == definition.nodes.length)
    (invalid "workflow_cycle" "Workflow dependencies contain a cycle")
  return order

/-! ### The bindings -/

/-- `dependencies.get((source_id, target_id))`. -/
def dependency? (definition : WorkflowDefinition) (source target : NodeId) :
    Option WorkflowDependency :=
  definition.dependencies.reverse.find? fun dependency => dependency.key == (source, target)

def validateBinding (definition : WorkflowDefinition) (node : WorkflowNode)
    (binding : WorkflowInputBinding) : Except Raised Unit :=
  if binding.source = .workflowInput then
    ensure (node.inputSchema == some definition.inputSchema)
      (invalid "workflow_input_schema_incompatible"
        "Workflow input and node input schemas must match exactly")
  else match binding.sourceNodeId with
    | none => .error (invalid "workflow_binding_source_missing"
        "Workflow input binding references a missing node")
    | some sourceId => match definition.node? sourceId with
      | none => .error (invalid "workflow_binding_source_missing"
          "Workflow input binding references a missing node")
      | some source => do
        ensure ((dependency? definition sourceId node.nodeId).any
          WorkflowDependency.carriesOutput) (invalid "workflow_output_dependency_missing"
            "node output binding requires an output-carrying dependency")
        ensure (source.outputSchema == node.inputSchema)
          (invalid "workflow_node_schema_incompatible"
            "producer and consumer schemas must match exactly")

/-- A dependency that carries an output is bound by its target. -/
def validateBound (definition : WorkflowDefinition) (dependency : WorkflowDependency) :
    Except Raised Unit :=
  if dependency.carriesOutput then
    match definition.node? dependency.targetNodeId with
    | none => .error (.key dependency.targetNodeId.value)
    | some target => ensure (target.inputBindings.any fun binding =>
        binding.sourceNodeId == some dependency.sourceNodeId)
        (invalid "workflow_output_dependency_unbound"
          "output-carrying dependency has no matching input binding")
  else .ok ()

def validateBindings (definition : WorkflowDefinition) : Except Raised Unit := do
  definition.nodes.forM fun node => node.inputBindings.forM (validateBinding definition node)
  definition.dependencies.forM (validateBound definition)

/-! ### The required output -/

def follow (reachable : Finset NodeId) (dependency : WorkflowDependency) : Finset NodeId :=
  if dependency.sourceNodeId ∈ reachable then insert dependency.targetNodeId reachable
  else reachable

/-- One pass of the `for` loop over the dependencies. -/
def reachOnce (definition : WorkflowDefinition) (reachable : Finset NodeId) : Finset NodeId :=
  definition.dependencies.foldl follow reachable

/-- `while changed`, for at most `fuel` passes that add a node. -/
def reach (definition : WorkflowDefinition) : ℕ → Finset NodeId → Finset NodeId
  | 0, reachable => reachable
  | fuel + 1, reachable =>
    let next := reachOnce definition reachable
    if next = reachable then reachable else reach definition fuel next

/-- The nodes that the workflow input is bound to. -/
def entryNodes (definition : WorkflowDefinition) : List NodeId :=
  (definition.nodes.filter fun node => node.inputBindings.any fun binding =>
    binding.source == .workflowInput).map WorkflowNode.nodeId

/-- Each pass that changes something adds the target of a dependency. -/
def reachable (definition : WorkflowDefinition) : Finset NodeId :=
  reach definition definition.dependencies.length (entryNodes definition).toFinset

def validateRequiredOutput (definition : WorkflowDefinition) : Except Raised Unit := do
  let sourceId := definition.outputBinding.sourceNodeId
  match definition.node? sourceId with
  | none => .error (invalid "workflow_output_node_missing"
      "Workflow output binding references a missing node")
  | some source => do
    ensure definition.outputBinding.required (unsupported "workflow_optional_output_unsupported"
      "the v0.2 direct runtime requires its final output")
    ensure (source.outputSchema == some definition.outputSchema)
      (invalid "workflow_output_schema_incompatible"
        "Workflow and source node output schemas must match exactly")
    ensure (decide (sourceId ∈ reachable definition))
      (invalid "workflow_required_output_unreachable"
        "required Workflow output is unreachable from Workflow input")

def validateDependency (definition : WorkflowDefinition) (dependency : WorkflowDependency) :
    Except Raised Unit :=
  ensure (definition.nodeIds.contains dependency.sourceNodeId &&
      definition.nodeIds.contains dependency.targetNodeId)
    (invalid "workflow_dependency_node_missing" "Workflow dependency references a missing node")

def validate (validator : WorkflowValidator) (definition : WorkflowDefinition) :
    Except Raised ValidatedWorkflow := do
  validatePolicy definition
  validator.requireSchema definition.inputSchema "workflow_input_schema_missing" (by decide)
  validator.requireSchema definition.outputSchema "workflow_output_schema_missing" (by decide)
  ensure (decide definition.nodeIds.Nodup)
    (invalid "workflow_duplicate_node" "Workflow node ids must be unique")
  definition.nodes.forM validator.validateNode
  ensure (decide (definition.dependencies.map WorkflowDependency.key).Nodup)
    (invalid "workflow_duplicate_dependency" "Workflow dependencies must be unique")
  definition.dependencies.forM (validateDependency definition)
  let order ← topologicalOrder definition
  validateBindings definition
  validateRequiredOutput definition
  return ⟨definition, order⟩

end WorkflowValidator

end CongeriesCore
