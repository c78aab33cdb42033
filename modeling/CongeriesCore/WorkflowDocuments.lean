import CongeriesCore.ReferenceReading
import CongeriesCore.WorkflowGraph

/-! # Workflow documents

`to_data` and `from_data` of definitions and of their parts. The configuration of a node is read by
the type of the node; a validated definition has the configurations of its types. -/

namespace CongeriesCore

open JsonValue

/-! ## Permissions, bindings and dependencies -/

namespace WorkflowPermission

def toFields (permission : WorkflowPermission) : JsonFields :=
  [("action", permission.action.toData), ("resource", permission.resource.toData)]

def toData (permission : WorkflowPermission) : JsonValue := .obj permission.toFields

def fromData [PythonText] (data : JsonFields) : Except Raised WorkflowPermission := do
  data.requireKeys ["action", "resource"] "Workflow permission"
  let action ← data.nested "action" "permission action" ActionRef.fromData
  let resource ← data.nested "resource" "permission resource" ResourceRef.fromData
  return ⟨action, resource⟩

theorem decodes [PythonText] : Decodes fromData toData where
  object _ := ⟨_, rfl⟩
  reads permission data reordered := by
    have spells : data.Spells permission.toFields := ⟨by simp [toFields], reordered⟩
    have keys : JsonFields.requireKeys data ["action", "resource"] "Workflow permission" = .ok () :=
      spells.requireKeys
    have action : JsonFields.nested data "action" "permission action" ActionRef.fromData =
        .ok permission.action := spells.nested ActionRef.decodes rfl
    have resource : JsonFields.nested data "resource" "permission resource" ResourceRef.fromData =
        .ok permission.resource := spells.nested ResourceRef.decodes rfl
    rw [fromData, keys, action, resource]
    rfl

end WorkflowPermission

def WorkflowInputSource.value : WorkflowInputSource → String
  | .workflowInput => "workflow_input"
  | .nodeOutput => "node_output"

def WorkflowInputSource.ofValue (value : String) : Except Raised WorkflowInputSource :=
  match value with
  | "workflow_input" => .ok .workflowInput
  | "node_output" => .ok .nodeOutput
  | _ => .error (.value "not a valid WorkflowInputSource")

/-- `WorkflowInputSource(_as_string(value))`. -/
def WorkflowInputSource.read (value : JsonValue) : Except Raised WorkflowInputSource := do
  ofValue (← value.asString "binding source")

namespace WorkflowInputBinding

def make (source : WorkflowInputSource) (sourceNodeId : Option NodeId) :
    Except Raised WorkflowInputBinding :=
  if exact : source = .nodeOutput ↔ sourceNodeId.isSome = true then
    .ok ⟨source, sourceNodeId, exact⟩
  else .error (.value "node output binding requires exactly one source node")

def toFields (binding : WorkflowInputBinding) : JsonFields :=
  [("source", .str binding.source.value),
    ("source_node_id", .ofOption (fun id => .str id.value) binding.sourceNodeId)]

def toData (binding : WorkflowInputBinding) : JsonValue := .obj binding.toFields

def fromData (data : JsonFields) : Except Raised WorkflowInputBinding := do
  data.requireKeys ["source", "source_node_id"] "Workflow input binding"
  let source ← data.required "source" WorkflowInputSource.read
  let sourceNodeId ← data.unlessNone "source_node_id" (asId .node "binding source node")
  make source sourceNodeId

theorem decodes : Decodes fromData toData where
  object _ := ⟨_, rfl⟩
  reads binding data reordered := by
    have spells : data.Spells binding.toFields := ⟨by simp [toFields], reordered⟩
    have keys : JsonFields.requireKeys data ["source", "source_node_id"]
        "Workflow input binding" = .ok () := spells.requireKeys
    have source : JsonFields.required data "source" WorkflowInputSource.read =
        .ok binding.source := by
      apply spells.required rfl
      intro other same
      rw [WorkflowInputSource.read, asString_reordered same]
      cases binding.source <;> rfl
    have node : JsonFields.unlessNone data "source_node_id" (asId .node "binding source node") =
        .ok binding.sourceNodeId := by
      apply spells.unlessNone rfl
      intro id other same
      exact ⟨by rw [same.str_inv]; rfl, asId_reordered same⟩
    rw [fromData, keys, source, node]
    change make _ _ = _
    rw [make, dif_pos binding.exact]

end WorkflowInputBinding

namespace WorkflowDependency

def make (sourceNodeId targetNodeId : NodeId) (carriesOutput : Bool) :
    Except Raised WorkflowDependency :=
  if distinct : sourceNodeId ≠ targetNodeId then
    .ok ⟨sourceNodeId, targetNodeId, carriesOutput, distinct⟩
  else .error (.value "Workflow dependency cannot be a self edge")

def toFields (dependency : WorkflowDependency) : JsonFields :=
  [("source_node_id", .str dependency.sourceNodeId.value),
    ("target_node_id", .str dependency.targetNodeId.value),
    ("carries_output", .bool dependency.carriesOutput)]

def toData (dependency : WorkflowDependency) : JsonValue := .obj dependency.toFields

def fromData (data : JsonFields) : Except Raised WorkflowDependency := do
  data.requireKeys ["source_node_id", "target_node_id", "carries_output"] "Workflow dependency"
  let sourceNodeId ← data.required "source_node_id" (asId .node "dependency source node")
  let targetNodeId ← data.required "target_node_id" (asId .node "dependency target node")
  let carriesOutput ← data.required "carries_output" (asBool "dependency carries_output")
  make sourceNodeId targetNodeId carriesOutput

theorem decodes : Decodes fromData toData where
  object _ := ⟨_, rfl⟩
  reads dependency data reordered := by
    have spells : data.Spells dependency.toFields := ⟨by simp [toFields], reordered⟩
    have keys : JsonFields.requireKeys data ["source_node_id", "target_node_id", "carries_output"]
        "Workflow dependency" = .ok () := spells.requireKeys
    have source : JsonFields.required data "source_node_id" (asId .node "dependency source node") =
        .ok dependency.sourceNodeId := spells.required rfl fun _ => asId_reordered
    have target : JsonFields.required data "target_node_id" (asId .node "dependency target node") =
        .ok dependency.targetNodeId := spells.required rfl fun _ => asId_reordered
    have carries : JsonFields.required data "carries_output" (asBool "dependency carries_output") =
        .ok dependency.carriesOutput := spells.required rfl fun _ => asBool_reordered
    rw [fromData, keys, source, target, carries]
    change make _ _ _ = _
    rw [make, dif_pos dependency.distinct]

end WorkflowDependency

namespace WorkflowOutputBinding

def toFields (binding : WorkflowOutputBinding) : JsonFields :=
  [("source_node_id", .str binding.sourceNodeId.value), ("required", .bool binding.required)]

def toData (binding : WorkflowOutputBinding) : JsonValue := .obj binding.toFields

def fromData (data : JsonFields) : Except Raised WorkflowOutputBinding := do
  data.requireKeys ["source_node_id", "required"] "Workflow output binding"
  let sourceNodeId ← data.required "source_node_id" (asId .node "output source node")
  let required ← data.required "required" (asBool "output required")
  return ⟨sourceNodeId, required⟩

theorem decodes : Decodes fromData toData where
  object _ := ⟨_, rfl⟩
  reads binding data reordered := by
    have spells : data.Spells binding.toFields := ⟨by simp [toFields], reordered⟩
    have keys : JsonFields.requireKeys data ["source_node_id", "required"]
        "Workflow output binding" = .ok () := spells.requireKeys
    have source : JsonFields.required data "source_node_id" (asId .node "output source node") =
        .ok binding.sourceNodeId := spells.required rfl fun _ => asId_reordered
    have required : JsonFields.required data "required" (asBool "output required") =
        .ok binding.required := spells.required rfl fun _ => asBool_reordered
    rw [fromData, keys, source, required]
    rfl

end WorkflowOutputBinding

/-! ## Policies -/

/-- `WorkflowFailureMode(_as_string(value))`: there is one mode. -/
def readFailureMode (value : JsonValue) : Except Raised Unit := do
  requireValue ((← value.asString "failure mode") == "fail_fast") "not a valid WorkflowFailureMode"

namespace ExecutionPolicy

def make (maxConcurrency : ℤ) (compensationEnabled : Bool) (maxAttempts : ℤ) :
    Except Raised ExecutionPolicy :=
  if positive : 1 ≤ maxConcurrency.toNat ∧ 1 ≤ maxAttempts.toNat then
    .ok ⟨maxConcurrency.toNat, compensationEnabled, maxAttempts.toNat, positive⟩
  else .error (.value "Workflow policy limits must be positive")

def toFields (policy : ExecutionPolicy) : JsonFields :=
  [("max_concurrency", .int policy.maxConcurrency), ("failure_mode", .str "fail_fast"),
    ("compensation_enabled", .bool policy.compensationEnabled),
    ("max_attempts", .int policy.maxAttempts)]

def toData (policy : ExecutionPolicy) : JsonValue := .obj policy.toFields

def fromData (data : JsonFields) : Except Raised ExecutionPolicy := do
  data.requireKeys ["max_concurrency", "failure_mode", "compensation_enabled", "max_attempts"]
    "Execution policy"
  let maxConcurrency ← data.int "max_concurrency" "max concurrency"
  data.required "failure_mode" readFailureMode
  let compensationEnabled ← data.required "compensation_enabled" (asBool "compensation enabled")
  let maxAttempts ← data.int "max_attempts" "max attempts"
  make maxConcurrency compensationEnabled maxAttempts

theorem decodes : Decodes fromData toData where
  object _ := ⟨_, rfl⟩
  reads policy data reordered := by
    have spells : data.Spells policy.toFields := ⟨by simp [toFields], reordered⟩
    have keys : JsonFields.requireKeys data ["max_concurrency", "failure_mode",
        "compensation_enabled", "max_attempts"] "Execution policy" = .ok () := spells.requireKeys
    have concurrency : JsonFields.int data "max_concurrency" "max concurrency" =
        .ok (policy.maxConcurrency : ℤ) := spells.int rfl
    have mode : JsonFields.required data "failure_mode" readFailureMode = .ok () := by
      apply spells.required rfl
      intro other same
      rw [readFailureMode, asString_reordered same]
      rfl
    have compensation : JsonFields.required data "compensation_enabled"
        (asBool "compensation enabled") = .ok policy.compensationEnabled :=
      spells.required rfl fun _ => asBool_reordered
    have attempts : JsonFields.int data "max_attempts" "max attempts" =
        .ok (policy.maxAttempts : ℤ) := spells.int rfl
    rw [fromData, keys, concurrency, mode, compensation, attempts]
    change make _ _ _ = _
    simp only [make, Int.toNat_natCast]
    rw [dif_pos policy.positive]

end ExecutionPolicy

/-! ## Configurations -/

namespace AgentNodeConfig

def toFields (config : AgentNodeConfig) : JsonFields :=
  [("agent_id", .str config.agentId.value), ("definition_id", .str config.definitionId.value),
    ("model_binding_ref", .str config.modelBindingRef.value)]

def toData (config : AgentNodeConfig) : JsonValue := .obj config.toFields

def fromData (data : JsonFields) : Except Raised AgentNodeConfig := do
  data.requireKeys ["agent_id", "definition_id", "model_binding_ref"] "AgentNode config"
  let agentId ← data.required "agent_id" (asId .agent "Agent id")
  let definitionId ← data.required "definition_id" (asId .definition "Agent definition id")
  let modelBindingRef ← data.required "model_binding_ref" (asId .modelBinding "model binding ref")
  return ⟨agentId, definitionId, modelBindingRef⟩

theorem decodes : Decodes fromData toData where
  object _ := ⟨_, rfl⟩
  reads config data reordered := by
    have spells : data.Spells config.toFields := ⟨by simp [toFields], reordered⟩
    have keys : JsonFields.requireKeys data ["agent_id", "definition_id", "model_binding_ref"]
        "AgentNode config" = .ok () := spells.requireKeys
    have agent : JsonFields.required data "agent_id" (asId .agent "Agent id") =
        .ok config.agentId := spells.required rfl fun _ => asId_reordered
    have definition : JsonFields.required data "definition_id"
        (asId .definition "Agent definition id") = .ok config.definitionId :=
      spells.required rfl fun _ => asId_reordered
    have binding : JsonFields.required data "model_binding_ref"
        (asId .modelBinding "model binding ref") = .ok config.modelBindingRef :=
      spells.required rfl fun _ => asId_reordered
    rw [fromData, keys, agent, definition, binding]
    rfl

end AgentNodeConfig

namespace ApprovalNodeConfig

theorem offered {allowedOutcomes : List ApprovalOutcome} (given : allowedOutcomes ≠ [])
    (unique : allowedOutcomes.Nodup) : allowedOutcomes ≠ [] ∧ allowedOutcomes.Nodup :=
  ⟨given, unique⟩

def make (promptRef : CheckpointReference) (allowedOutcomes : List ApprovalOutcome)
    (expiresAt : Option DateTime) : Except Raised ApprovalNodeConfig :=
  if given : allowedOutcomes ≠ [] then
    if unique : allowedOutcomes.Nodup then 
      .ok ⟨promptRef, allowedOutcomes, expiresAt, offered given unique⟩
    else .error (.value "ApprovalNode outcomes must be unique")
  else .error (.value "ApprovalNode requires at least one allowed outcome")

def toFields (config : ApprovalNodeConfig) : JsonFields :=
  [("prompt_ref", config.promptRef.toData),
    ("allowed_outcomes", .arr (config.allowedOutcomes.map fun item => .str item.value)),
    ("expires_at", .ofOption (fun time => .str time.isoformat) config.expiresAt)]

def toData (config : ApprovalNodeConfig) : JsonValue := .obj config.toFields

/-- `ApprovalOutcome(_as_string(item))`. -/
def readOutcome (item : JsonValue) : Except Raised ApprovalOutcome := do
  ApprovalOutcome.ofValue (← item.asString "approval outcome")

def readExpiry (value : JsonValue) : Except Raised DateTime := do
  DateTime.fromIsoformat (← value.asString "approval expires_at")

def fromData (data : JsonFields) : Except Raised ApprovalNodeConfig := do
  data.requireKeys ["prompt_ref", "allowed_outcomes", "expires_at"] "ApprovalNode config"
  let promptRef ← data.nested "prompt_ref" "approval prompt reference" CheckpointReference.fromData
  let allowedOutcomes ← data.each "allowed_outcomes" "approval outcomes" readOutcome
  let expiresAt ← data.unlessNone "expires_at" readExpiry
  make promptRef allowedOutcomes expiresAt

theorem decodes : Decodes fromData toData where
  object _ := ⟨_, rfl⟩
  reads config data reordered := by
    have spells : data.Spells config.toFields := ⟨by simp [toFields], reordered⟩
    have keys : JsonFields.requireKeys data ["prompt_ref", "allowed_outcomes", "expires_at"]
        "ApprovalNode config" = .ok () := spells.requireKeys
    have prompt : JsonFields.nested data "prompt_ref" "approval prompt reference"
        CheckpointReference.fromData = .ok config.promptRef :=
      spells.nested CheckpointReference.decodes rfl
    have outcomes : JsonFields.each data "allowed_outcomes" "approval outcomes" readOutcome =
        .ok config.allowedOutcomes := by
      apply spells.eachMember rfl
      intro outcome _ other same
      rw [readOutcome, asString_reordered same]
      exact outcome.ofValue_value
    have found : Dict.lookup "expires_at" config.toFields =
        some (.ofOption (fun time => .str time.isoformat) config.expiresAt) := rfl
    have reads : ∀ (time : DateTime) other, Reordered (.str time.isoformat) other →
        other.isNone = false ∧ readExpiry other = .ok time := by
      intro time other same
      refine ⟨by rw [same.str_inv]; rfl, ?_⟩
      rw [readExpiry, asString_reordered same]
      simp only [ok_bind, DateTime.fromIsoformat_isoformat]
    have expiry : JsonFields.unlessNone data "expires_at" readExpiry = .ok config.expiresAt :=
      spells.unlessNone found reads
    rw [fromData, keys, prompt, outcomes, expiry]
    change make _ _ _ = _
    rw [make, dif_pos config.outcomes.1, dif_pos config.outcomes.2]

end ApprovalNodeConfig

namespace EvaluationNodeConfig

def make (policyRef : String) (qualityEvaluatorId : ProviderId) (qualityProfileRef : String) :
    Except Raised EvaluationNodeConfig :=
  if policy : isTrimmed policyRef = true then
    if profile : isTrimmed qualityProfileRef = true then
      .ok ⟨policyRef, qualityEvaluatorId, qualityProfileRef, policy, profile⟩
    else .error (.value "quality_profile_ref must be non-empty and trimmed")
  else .error (.value "policy_ref must be non-empty and trimmed")

def toFields (config : EvaluationNodeConfig) : JsonFields :=
  [("policy_ref", .str config.policyRef),
    ("quality_evaluator_id", .str config.qualityEvaluatorId.value),
    ("quality_profile_ref", .str config.qualityProfileRef)]

def toData (config : EvaluationNodeConfig) : JsonValue := .obj config.toFields

def fromData (data : JsonFields) : Except Raised EvaluationNodeConfig := do
  data.requireKeys ["policy_ref", "quality_evaluator_id", "quality_profile_ref"]
    "EvaluationNode config"
  let policyRef ← data.required "policy_ref" (asString "Evaluation policy ref")
  let evaluatorId ← data.required "quality_evaluator_id" (asId .provider "quality evaluator id")
  let profileRef ← data.required "quality_profile_ref" (asString "quality profile ref")
  make policyRef evaluatorId profileRef

theorem decodes : Decodes fromData toData where
  object _ := ⟨_, rfl⟩
  reads config data reordered := by
    have spells : data.Spells config.toFields := ⟨by simp [toFields], reordered⟩
    have keys : JsonFields.requireKeys data ["policy_ref", "quality_evaluator_id",
        "quality_profile_ref"] "EvaluationNode config" = .ok () := spells.requireKeys
    have policy : JsonFields.required data "policy_ref" (asString "Evaluation policy ref") =
        .ok config.policyRef := spells.required rfl fun _ => asString_reordered
    have evaluator : JsonFields.required data "quality_evaluator_id"
        (asId .provider "quality evaluator id") = .ok config.qualityEvaluatorId :=
      spells.required rfl fun _ => asId_reordered
    have profile : JsonFields.required data "quality_profile_ref" (asString "quality profile ref") =
        .ok config.qualityProfileRef := spells.required rfl fun _ => asString_reordered
    rw [fromData, keys, policy, evaluator, profile]
    change make _ _ _ = _
    rw [make, dif_pos config.trimmed.1, dif_pos config.trimmed.2]

end EvaluationNodeConfig

namespace WorkflowNodeConfig

/-- The data of an unsupported configuration is a parameter: the configuration does not keep it. -/
def toFields (foreign : JsonFields) : WorkflowNodeConfig → JsonFields
  | .agent config => config.toFields
  | .approval config => config.toFields
  | .evaluation config => config.toFields
  | .unsupported => foreign

def toData (foreign : JsonFields) (config : WorkflowNodeConfig) : JsonValue :=
  .obj (config.toFields foreign)

def fromData (nodeType : String) (data : JsonFields) : Except Raised WorkflowNodeConfig :=
  if nodeType = WorkflowNodeType.agent.value then do return .agent (← AgentNodeConfig.fromData data)
  else if nodeType = WorkflowNodeType.approval.value then do
    return .approval (← ApprovalNodeConfig.fromData data)
  else if nodeType = WorkflowNodeType.evaluation.value then do
    return .evaluation (← EvaluationNodeConfig.fromData data)
  else return .unsupported

end WorkflowNodeConfig

/-- The configuration is one of those that are read for the type of the node. -/
def WorkflowNode.Configured (node : WorkflowNode) : Prop :=
  match node.config with
  | .agent _ => node.nodeType = WorkflowNodeType.agent.value
  | .approval _ => node.nodeType = WorkflowNodeType.approval.value
  | .evaluation _ => node.nodeType = WorkflowNodeType.evaluation.value
  | .unsupported => False

theorem WorkflowNode.Configured.reads {node : WorkflowNode} (configured : node.Configured)
    {foreign data : JsonFields} (reordered : Reordered (node.config.toData foreign) (.obj data)) :
    WorkflowNodeConfig.fromData node.nodeType data = .ok node.config := by
  unfold WorkflowNode.Configured at configured
  cases config : node.config with
  | agent config' =>
    rw [config] at configured reordered
    rw [WorkflowNodeConfig.fromData, if_pos configured, AgentNodeConfig.decodes.reads _ _ reordered]
    rfl
  | approval config' =>
    rw [config] at configured reordered
    rw [WorkflowNodeConfig.fromData, configured, if_neg (by decide), if_pos rfl,
      ApprovalNodeConfig.decodes.reads _ _ reordered]
    rfl
  | evaluation config' =>
    rw [config] at configured reordered
    rw [WorkflowNodeConfig.fromData, configured, if_neg (by decide), if_neg (by decide), if_pos rfl,
      EvaluationNodeConfig.decodes.reads _ _ reordered]
    rfl
  | unsupported =>
    rw [config] at configured
    exact configured.elim

/-! ## Nodes -/

namespace WorkflowNode

def make (nodeId : NodeId) (nodeType contractVersion : String) (inputSchema : Option SchemaRef)
    (inputBindings : List WorkflowInputBinding) (outputSchema : Option SchemaRef) (scope : ScopeRef)
    (permissions : List WorkflowPermission) (timeoutSeconds : Option ℤ) (retryLimit : ℤ)
    (sideEffecting idempotencyRequired checkpoint : Bool) (config : WorkflowNodeConfig) :
    Except Raised WorkflowNode :=
  if typed : isTrimmed nodeType = true then
    if versioned : isTrimmed contractVersion = true then
      if positive : ∀ seconds ∈ timeoutSeconds.map Int.toNat, 1 ≤ seconds then
        if 0 ≤ retryLimit then
          .ok ⟨nodeId, nodeType, contractVersion, inputSchema, inputBindings, outputSchema, scope,
            permissions, timeoutSeconds.map Int.toNat, retryLimit.toNat, sideEffecting,
            idempotencyRequired, checkpoint, config, ⟨typed, versioned⟩, positive⟩
        else .error (.value "node retry limit must not be negative")
      else .error (.value "node timeout must be positive")
    else .error (.value "Workflow node contract version must be non-empty and trimmed")
  else .error (.value "Workflow node type must be non-empty and trimmed")

variable (foreign : JsonFields)

def toFields (node : WorkflowNode) : JsonFields :=
  [("node_id", .str node.nodeId.value), ("node_type", .str node.nodeType),
    ("contract_version", .str node.contractVersion),
    ("input_schema", .ofOption SchemaRef.toData node.inputSchema),
    ("input_bindings", .arr (node.inputBindings.map WorkflowInputBinding.toData)),
    ("output_schema", .ofOption SchemaRef.toData node.outputSchema),
    ("scope", node.scope.toData),
    ("permissions", .arr (node.permissions.map WorkflowPermission.toData)),
    ("timeout_seconds", .ofOption (fun seconds : ℕ => .int seconds) node.timeoutSeconds),
    ("retry_limit", .int node.retryLimit), ("side_effecting", .bool node.sideEffecting),
    ("idempotency_required", .bool node.idempotencyRequired),
    ("checkpoint", .bool node.checkpoint), ("config", node.config.toData foreign)]

def toData (node : WorkflowNode) : JsonValue := .obj (node.toFields foreign)

def documentKeys : List String :=
  ["node_id", "node_type", "contract_version", "input_schema", "input_bindings", "output_schema",
    "scope", "permissions", "timeout_seconds", "retry_limit", "side_effecting",
    "idempotency_required", "checkpoint", "config"]

def fromData [PythonText] (data : JsonFields) : Except Raised WorkflowNode := do
  data.requireKeys documentKeys "Workflow node"
  let nodeType ← data.required "node_type" (asString "node type")
  let config ← data.nested "config" "node config" (WorkflowNodeConfig.fromData nodeType)
  let nodeId ← data.required "node_id" (asId .node "node id")
  let contractVersion ← data.required "contract_version" (asString "node contract version")
  let inputSchema ← data.unlessNone "input_schema"
    (JsonValue.readObject "node input schema" SchemaRef.fromData)
  let inputBindings ← data.each "input_bindings" "node input bindings"
    (JsonValue.readObject "node input binding" WorkflowInputBinding.fromData)
  let outputSchema ← data.unlessNone "output_schema"
    (JsonValue.readObject "node output schema" SchemaRef.fromData)
  let scope ← data.nested "scope" "node scope" ScopeRef.fromData
  let permissions ← data.each "permissions" "node permissions"
    (JsonValue.readObject "node permission" WorkflowPermission.fromData)
  let timeoutSeconds ← data.unlessNone "timeout_seconds" (JsonValue.asInt · "node timeout")
  let retryLimit ← data.int "retry_limit" "node retry limit"
  let sideEffecting ← data.required "side_effecting" (asBool "node side_effecting")
  let idempotencyRequired ← data.required "idempotency_required" (asBool "node idempotency_required")
  let checkpoint ← data.required "checkpoint" (asBool "node checkpoint")
  make nodeId nodeType contractVersion inputSchema inputBindings outputSchema scope permissions
    timeoutSeconds retryLimit sideEffecting idempotencyRequired checkpoint config

theorem toFields_nodup (node : WorkflowNode) :
    ((node.toFields foreign).map Prod.fst).Nodup := by
  simp [toFields]

variable {foreign}

theorem reads [PythonText] {node : WorkflowNode} (configured : node.Configured) {data : JsonFields}
    (reordered : Reordered (node.toData foreign) (.obj data)) : fromData data = .ok node := by
  have spells : data.Spells (node.toFields foreign) := ⟨node.toFields_nodup foreign, reordered⟩
  have keys : JsonFields.requireKeys data documentKeys "Workflow node" = .ok () :=
    spells.requireKeys
  have type : JsonFields.required data "node_type" (asString "node type") = .ok node.nodeType :=
    spells.required rfl fun _ => asString_reordered
  have config : JsonFields.nested data "config" "node config"
      (WorkflowNodeConfig.fromData node.nodeType) = .ok node.config := by
    have found : Dict.lookup "config" (node.toFields foreign) = some (node.config.toData foreign) :=
      rfl
    obtain ⟨other, there, same⟩ := spells.item found
    obtain ⟨_, inner, rfl, -⟩ := same.obj_inv
    rw [JsonFields.nested, JsonFields.object, there]
    exact configured.reads same
  have id : JsonFields.required data "node_id" (asId .node "node id") = .ok node.nodeId :=
    spells.required rfl fun _ => asId_reordered
  have version : JsonFields.required data "contract_version" (asString "node contract version") =
      .ok node.contractVersion := spells.required rfl fun _ => asString_reordered
  have inputSchema : JsonFields.unlessNone data "input_schema"
      (JsonValue.readObject "node input schema" SchemaRef.fromData) = .ok node.inputSchema :=
    spells.unlessNone rfl (SchemaRef.decodes.given _)
  have bindings : JsonFields.each data "input_bindings" "node input bindings"
      (JsonValue.readObject "node input binding" WorkflowInputBinding.fromData) =
      .ok node.inputBindings :=
    spells.each (fun _ _ => WorkflowInputBinding.decodes.readObject _) rfl
  have outputSchema : JsonFields.unlessNone data "output_schema"
      (JsonValue.readObject "node output schema" SchemaRef.fromData) = .ok node.outputSchema :=
    spells.unlessNone rfl (SchemaRef.decodes.given _)
  have scope : JsonFields.nested data "scope" "node scope" ScopeRef.fromData = .ok node.scope :=
    spells.nested ScopeRef.decodes rfl
  have permissions : JsonFields.each data "permissions" "node permissions"
      (JsonValue.readObject "node permission" WorkflowPermission.fromData) = .ok node.permissions :=
    spells.each (fun _ _ => WorkflowPermission.decodes.readObject _) rfl
  have timeout : JsonFields.unlessNone data "timeout_seconds" (JsonValue.asInt · "node timeout") =
      .ok (node.timeoutSeconds.map fun seconds => (seconds : ℤ)) := by
    have found : Dict.lookup "timeout_seconds" (node.toFields foreign) =
        some (.ofOption .int (node.timeoutSeconds.map fun seconds => (seconds : ℤ))) := by
      change some (ofOption _ node.timeoutSeconds) = _
      cases node.timeoutSeconds <;> rfl
    apply spells.unlessNone found
    intro number other same
    exact ⟨by rw [same.int_inv]; rfl, asInt_reordered same⟩
  have retry : JsonFields.int data "retry_limit" "node retry limit" = .ok (node.retryLimit : ℤ) :=
    spells.int rfl
  have effects : JsonFields.required data "side_effecting" (asBool "node side_effecting") =
      .ok node.sideEffecting := spells.required rfl fun _ => asBool_reordered
  have idempotency : JsonFields.required data "idempotency_required"
      (asBool "node idempotency_required") = .ok node.idempotencyRequired :=
    spells.required rfl fun _ => asBool_reordered
  have checkpoint : JsonFields.required data "checkpoint" (asBool "node checkpoint") =
      .ok node.checkpoint := spells.required rfl fun _ => asBool_reordered
  rw [fromData, keys, type]
  simp only [ok_bind, config, id, version, inputSchema, bindings, outputSchema, scope, permissions,
    timeout, retry, effects, idempotency, checkpoint]
  have seconds : (node.timeoutSeconds.map fun seconds => (seconds : ℤ)).map Int.toNat =
      node.timeoutSeconds := by
    cases node.timeoutSeconds <;> rfl
  simp only [make, seconds, Int.toNat_natCast]
  rw [dif_pos node.trimmed.1, dif_pos node.trimmed.2, dif_pos node.positive,
    if_pos (Int.natCast_nonneg _)]

end WorkflowNode

/-! ## Definitions -/

namespace WorkflowDefinition

def make (contractVersion : String) (workflowId : WorkflowId) (definitionId : DefinitionId)
    (version : String) (inputSchema : SchemaRef) (nodes : List WorkflowNode)
    (dependencies : List WorkflowDependency) (outputSchema : SchemaRef)
    (outputBinding : WorkflowOutputBinding) (executionPolicy : ExecutionPolicy) :
    Except Raised WorkflowDefinition :=
  if contractVersion ≠ "1" then .error (.value "unsupported Workflow contract version")
  else if versioned : isTrimmed version = true then
    if given : nodes ≠ [] then
      .ok ⟨workflowId, definitionId, version, inputSchema, nodes, dependencies, outputSchema,
        outputBinding, executionPolicy, versioned, given⟩
    else .error (.value "Workflow requires at least one node")
  else .error (.value "Workflow version must be non-empty and trimmed")

variable (foreign : JsonFields)

def toFields (definition : WorkflowDefinition) : JsonFields :=
  [("contract_version", .str "1"), ("workflow_id", .str definition.workflowId.value),
    ("definition_id", .str definition.definitionId.value), ("version", .str definition.version),
    ("input_schema", definition.inputSchema.toData),
    ("nodes", .arr (definition.nodes.map (WorkflowNode.toData foreign))),
    ("dependencies", .arr (definition.dependencies.map WorkflowDependency.toData)),
    ("output_schema", definition.outputSchema.toData),
    ("output_binding", definition.outputBinding.toData),
    ("execution_policy", definition.executionPolicy.toData)]

def toData (definition : WorkflowDefinition) : JsonValue := .obj (definition.toFields foreign)

def documentKeys : List String :=
  ["contract_version", "workflow_id", "definition_id", "version", "input_schema", "nodes",
    "dependencies", "output_schema", "output_binding", "execution_policy"]

def fromData [PythonText] (data : JsonFields) : Except Raised WorkflowDefinition := do
  data.requireKeys documentKeys "Workflow definition"
  let contractVersion ← data.required "contract_version" (asString "Workflow contract version")
  let workflowId ← data.required "workflow_id" (asId .workflow "Workflow id")
  let definitionId ← data.required "definition_id" (asId .definition "Workflow definition id")
  let version ← data.required "version" (asString "Workflow version")
  let inputSchema ← data.nested "input_schema" "Workflow input schema" SchemaRef.fromData
  let nodes ← data.each "nodes" "Workflow nodes"
    (JsonValue.readObject "Workflow node" WorkflowNode.fromData)
  let dependencies ← data.each "dependencies" "Workflow dependencies"
    (JsonValue.readObject "Workflow dependency" WorkflowDependency.fromData)
  let outputSchema ← data.nested "output_schema" "Workflow output schema" SchemaRef.fromData
  let outputBinding ← data.nested "output_binding" "Workflow output binding"
    WorkflowOutputBinding.fromData
  let executionPolicy ← data.nested "execution_policy" "Workflow execution policy"
    ExecutionPolicy.fromData
  make contractVersion workflowId definitionId version inputSchema nodes dependencies outputSchema
    outputBinding executionPolicy

theorem toFields_nodup (definition : WorkflowDefinition) :
    ((definition.toFields foreign).map Prod.fst).Nodup := by
  simp [toFields]

variable {foreign}

theorem reads [PythonText] {definition : WorkflowDefinition}
    (configured : ∀ node ∈ definition.nodes, node.Configured) {data : JsonFields}
    (reordered : Reordered (definition.toData foreign) (.obj data)) :
    fromData data = .ok definition := by
  have spells : data.Spells (definition.toFields foreign) :=
    ⟨definition.toFields_nodup foreign, reordered⟩
  have keys : JsonFields.requireKeys data documentKeys "Workflow definition" = .ok () :=
    spells.requireKeys
  have contract : JsonFields.required data "contract_version"
      (asString "Workflow contract version") = .ok "1" :=
    spells.required rfl fun _ => asString_reordered
  have workflow : JsonFields.required data "workflow_id" (asId .workflow "Workflow id") =
      .ok definition.workflowId := spells.required rfl fun _ => asId_reordered
  have id : JsonFields.required data "definition_id" (asId .definition "Workflow definition id") =
      .ok definition.definitionId := spells.required rfl fun _ => asId_reordered
  have version : JsonFields.required data "version" (asString "Workflow version") =
      .ok definition.version := spells.required rfl fun _ => asString_reordered
  have inputSchema : JsonFields.nested data "input_schema" "Workflow input schema"
      SchemaRef.fromData = .ok definition.inputSchema := spells.nested SchemaRef.decodes rfl
  have nodes : JsonFields.each data "nodes" "Workflow nodes"
      (JsonValue.readObject "Workflow node" WorkflowNode.fromData) = .ok definition.nodes := by
    apply spells.eachMember rfl
    intro node member other same
    have given := same
    obtain ⟨_, inner, rfl, -⟩ := given.obj_inv
    exact WorkflowNode.reads (configured node member) same
  have dependencies : JsonFields.each data "dependencies" "Workflow dependencies"
      (JsonValue.readObject "Workflow dependency" WorkflowDependency.fromData) =
      .ok definition.dependencies :=
    spells.each (fun _ _ => WorkflowDependency.decodes.readObject _) rfl
  have outputSchema : JsonFields.nested data "output_schema" "Workflow output schema"
      SchemaRef.fromData = .ok definition.outputSchema := spells.nested SchemaRef.decodes rfl
  have outputBinding : JsonFields.nested data "output_binding" "Workflow output binding"
      WorkflowOutputBinding.fromData = .ok definition.outputBinding :=
    spells.nested WorkflowOutputBinding.decodes rfl
  have policy : JsonFields.nested data "execution_policy" "Workflow execution policy"
      ExecutionPolicy.fromData = .ok definition.executionPolicy :=
    spells.nested ExecutionPolicy.decodes rfl
  rw [fromData, keys, contract, workflow, id, version, inputSchema, nodes, dependencies,
    outputSchema, outputBinding, policy]
  simp only [ok_bind]
  rw [make, if_neg (fun other => other rfl), dif_pos definition.valid.1, dif_pos definition.valid.2]

end WorkflowDefinition

/-! ## Validated definitions -/

open WorkflowValidator

/-- A node that passes its checks has the configuration of its type. -/
theorem configured_of_validateNode {validator : WorkflowValidator}
    (default : validator.supportedNodes = []) {node : WorkflowNode}
    (valid : validator.validateNode node = .ok ()) : node.Configured := by
  obtain ⟨_, listed, valid⟩ := bind_ok valid
  obtain ⟨_, -, valid⟩ := bind_ok valid
  obtain ⟨_, -, valid⟩ := bind_ok valid
  obtain ⟨_, -, valid⟩ := bind_ok valid
  obtain ⟨_, -, valid⟩ := bind_ok valid
  obtain ⟨_, -, valid⟩ := bind_ok valid
  obtain ⟨_, -, valid⟩ := bind_ok valid
  obtain ⟨_, -, valid⟩ := bind_ok valid
  rw [ensure_eq_ok, supported, if_pos default, List.contains_iff_mem] at listed
  have type : node.nodeType = WorkflowNodeType.agent.value ∨
      node.nodeType = WorkflowNodeType.approval.value ∨
      node.nodeType = WorkflowNodeType.evaluation.value := by
    simp only [List.mem_cons, Prod.mk.injEq, List.not_mem_nil, or_false] at listed
    rcases listed with ⟨agent, -⟩ | ⟨approval, -⟩ | ⟨evaluation, -⟩
    · exact .inl agent
    · exact .inr (.inl approval)
    · exact .inr (.inr evaluation)
  unfold WorkflowNode.Configured
  unfold validateContract at valid
  rcases type with agent | approval | evaluation
  · rw [if_pos agent, validateAgent] at valid
    cases config : node.config with
    | agent _ => exact agent
    | approval _ | evaluation _ | unsupported =>
      rw [config] at valid
      cases valid
  · rw [approval, if_neg (by decide), if_pos rfl, validateApproval] at valid
    cases config : node.config with
    | approval _ => exact approval
    | agent _ | evaluation _ | unsupported =>
      rw [config] at valid
      cases valid
  · rw [evaluation, if_neg (by decide), if_neg (by decide), if_pos rfl, validateEvaluation] at valid
    cases config : node.config with
    | evaluation _ => exact evaluation
    | agent _ | approval _ | unsupported =>
      rw [config] at valid
      cases valid

/-- The validator with its default node types. -/
def defaultValidator (schemas : SchemaRegistry) (actions : ActionRegistry) : WorkflowValidator :=
  ⟨schemas, actions, []⟩

/-- A definition that some validator with its default node types accepts. -/
abbrev AcceptedWorkflow :=
  {definition : WorkflowDefinition // ∃ schemas actions workflow,
    (defaultValidator schemas actions).validate definition = .ok workflow}

theorem AcceptedWorkflow.configured (accepted : AcceptedWorkflow) :
    ∀ node ∈ accepted.1.nodes, node.Configured := by
  obtain ⟨definition, schemas, actions, workflow, validated⟩ := accepted
  obtain ⟨checks, -⟩ := validate_ok.mp validated
  intro node member
  exact configured_of_validateNode rfl (checks.nodes node member)

/-- Accepted definitions are read again from what they are written as, are then validated to the
same order, and have different encodings. -/
theorem workflow_codec [PythonText] (foreign : JsonFields) :
    (∀ accepted : AcceptedWorkflow,
      WorkflowDefinition.fromData (accepted.1.toFields foreign) = .ok accepted.1) ∧
    (∀ (accepted : AcceptedWorkflow) (schemas : SchemaRegistry) (actions : ActionRegistry),
      (do
        let definition ← WorkflowDefinition.fromData (accepted.1.toFields foreign)
        (defaultValidator schemas actions).validate definition) =
          (defaultValidator schemas actions).validate accepted.1) ∧
    Function.Injective fun accepted : AcceptedWorkflow =>
      (accepted.1.toData foreign).canonical := by
  have again : ∀ accepted : AcceptedWorkflow,
      WorkflowDefinition.fromData (accepted.1.toFields foreign) = .ok accepted.1 :=
    fun accepted => WorkflowDefinition.reads accepted.configured (.same _)
  refine ⟨again, fun accepted _ _ => by rw [again accepted]; rfl, fun first second same => ?_⟩
  have one := reordered_canonical (first.1.toData foreign)
  have two := reordered_canonical (second.1.toData foreign)
  have same : (first.1.toData foreign).canonical = (second.1.toData foreign).canonical := same
  obtain ⟨_, data, is, -⟩ := one.obj_inv
  rw [is] at one
  rw [← same, is] at two
  have left := WorkflowDefinition.reads first.configured one
  have right := WorkflowDefinition.reads second.configured two
  rw [left] at right
  exact Subtype.ext (Except.ok.inj right)

end CongeriesCore
