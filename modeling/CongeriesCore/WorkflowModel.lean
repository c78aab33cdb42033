import CongeriesCore.CheckpointModel
import Mathlib.Data.List.Nodup
import Mathlib.Data.String.Basic
import Mathlib.Order.Bounds.Basic

/-! # Workflow definitions

A workflow is a graph of typed nodes. A dependency may carry the output of its source to its
target; the bindings of a node name where its input comes from. -/

namespace CongeriesCore

/-- A value schema, by its registered name. -/
structure SchemaRef where
  namespace_ : String
  name : String
  version : String
  named : isName namespace_ = true ∧ isName name = true ∧ isTrimmed version = true
  deriving Repr

/-- What a schema reference is compared by. -/
theorem SchemaRef.fields_injective : Function.Injective fun value : SchemaRef =>
    (value.namespace_, value.name, value.version) := by
  intro first second same
  cases first
  cases second
  simpa using same

instance : DecidableEq SchemaRef := SchemaRef.fields_injective.decidableEq

def SchemaRef.toData (schema : SchemaRef) : JsonValue :=
  .obj [("namespace", .str schema.namespace_), ("name", .str schema.name),
    ("version", .str schema.version)]

structure WorkflowPermission where
  action : ActionRef
  resource : ResourceRef
  deriving DecidableEq, Repr

inductive WorkflowInputSource
  | workflowInput
  | nodeOutput
  deriving DecidableEq, Repr

structure WorkflowInputBinding where
  source : WorkflowInputSource
  sourceNodeId : Option NodeId
  exact : source = .nodeOutput ↔ sourceNodeId.isSome = true
  deriving DecidableEq, Repr

structure WorkflowDependency where
  sourceNodeId : NodeId
  targetNodeId : NodeId
  carriesOutput : Bool
  distinct : sourceNodeId ≠ targetNodeId
  deriving DecidableEq, Repr

def WorkflowDependency.key (dependency : WorkflowDependency) : NodeId × NodeId :=
  (dependency.sourceNodeId, dependency.targetNodeId)

structure WorkflowOutputBinding where
  sourceNodeId : NodeId
  required : Bool
  deriving DecidableEq, Repr

/-- `failure_mode` is left out: it has one value. -/
structure ExecutionPolicy where
  maxConcurrency : ℕ
  compensationEnabled : Bool
  maxAttempts : ℕ
  positive : 1 ≤ maxConcurrency ∧ 1 ≤ maxAttempts
  deriving Repr

/-- What an execution policy is compared by. -/
theorem ExecutionPolicy.fields_injective : Function.Injective fun value : ExecutionPolicy =>
    (value.maxConcurrency, value.compensationEnabled, value.maxAttempts) := by
  intro first second same
  cases first
  cases second
  simpa using same

instance : DecidableEq ExecutionPolicy := ExecutionPolicy.fields_injective.decidableEq

structure AgentNodeConfig where
  agentId : AgentId
  definitionId : DefinitionId
  modelBindingRef : ModelBindingRef
  deriving DecidableEq, Repr

structure ApprovalNodeConfig where
  promptRef : CheckpointReference
  allowedOutcomes : List ApprovalOutcome
  expiresAt : Option DateTime
  outcomes : allowedOutcomes ≠ [] ∧ allowedOutcomes.Nodup
  deriving Repr

/-- What the config of an approval is compared by. -/
theorem ApprovalNodeConfig.fields_injective : Function.Injective fun value : ApprovalNodeConfig =>
    (value.promptRef, value.allowedOutcomes, value.expiresAt) := by
  intro first second same
  cases first
  cases second
  simpa using same

instance : DecidableEq ApprovalNodeConfig := ApprovalNodeConfig.fields_injective.decidableEq

structure EvaluationNodeConfig where
  policyRef : String
  qualityEvaluatorId : ProviderId
  qualityProfileRef : String
  trimmed : isTrimmed policyRef = true ∧ isTrimmed qualityProfileRef = true
  deriving DecidableEq, Repr

/-- The data of an unsupported configuration is left out: nothing reads it. -/
inductive WorkflowNodeConfig
  | agent (config : AgentNodeConfig)
  | approval (config : ApprovalNodeConfig)
  | evaluation (config : EvaluationNodeConfig)
  | unsupported
  deriving DecidableEq, Repr

structure WorkflowNode where
  nodeId : NodeId
  nodeType : String
  contractVersion : String
  inputSchema : Option SchemaRef
  inputBindings : List WorkflowInputBinding
  outputSchema : Option SchemaRef
  scope : ScopeRef
  permissions : List WorkflowPermission
  timeoutSeconds : Option ℕ
  retryLimit : ℕ
  sideEffecting : Bool
  idempotencyRequired : Bool
  checkpoint : Bool
  config : WorkflowNodeConfig
  trimmed : isTrimmed nodeType = true ∧ isTrimmed contractVersion = true
  positive : ∀ seconds ∈ timeoutSeconds, 1 ≤ seconds
  deriving DecidableEq, Repr

/-- `WorkflowNodeType`: the types that the runtime knows by name. -/
inductive WorkflowNodeType
  | agent
  | skill
  | tool
  | context
  | approval
  | evaluation
  deriving DecidableEq, Repr

def WorkflowNodeType.value : WorkflowNodeType → String
  | .agent => "agent"
  | .skill => "skill"
  | .tool => "tool"
  | .context => "context"
  | .approval => "approval"
  | .evaluation => "evaluation"

structure WorkflowDefinition where
  workflowId : WorkflowId
  definitionId : DefinitionId
  version : String
  inputSchema : SchemaRef
  nodes : List WorkflowNode
  dependencies : List WorkflowDependency
  outputSchema : SchemaRef
  outputBinding : WorkflowOutputBinding
  executionPolicy : ExecutionPolicy
  valid : isTrimmed version = true ∧ nodes ≠ []
  deriving DecidableEq, Repr

namespace WorkflowDefinition

def nodeIds (definition : WorkflowDefinition) : List NodeId :=
  definition.nodes.map WorkflowNode.nodeId

/-- `{node.node_id: node for node in definition.nodes}.get(node_id)`: the last one wins. -/
def node? (definition : WorkflowDefinition) (nodeId : NodeId) : Option WorkflowNode :=
  definition.nodes.reverse.find? fun node => node.nodeId == nodeId

def Depends (definition : WorkflowDefinition) (source target : NodeId) : Prop :=
  (source, target) ∈ definition.dependencies.map WorkflowDependency.key

instance (definition : WorkflowDefinition) (source target : NodeId) :
    Decidable (definition.Depends source target) :=
  inferInstanceAs (Decidable (_ ∈ _))

theorem Depends.distinct {definition : WorkflowDefinition} {source target : NodeId}
    (depends : definition.Depends source target) : source ≠ target := by
  obtain ⟨dependency, -, key⟩ := List.mem_map.mp depends
  obtain ⟨rfl, rfl⟩ := Prod.mk.inj key
  exact dependency.distinct

theorem mem_of_node? {definition : WorkflowDefinition} {nodeId : NodeId} {node : WorkflowNode}
    (found : definition.node? nodeId = some node) :
    node ∈ definition.nodes ∧ node.nodeId = nodeId := by
  have member := List.mem_of_find?_eq_some found
  have same := List.find?_some found
  exact ⟨List.mem_reverse.mp member, by simpa using same⟩

theorem node?_isSome {definition : WorkflowDefinition} {nodeId : NodeId} :
    (definition.node? nodeId).isSome = true ↔ nodeId ∈ definition.nodeIds := by
  simp [node?, nodeIds]

theorem node?_of_mem {definition : WorkflowDefinition} (unique : definition.nodeIds.Nodup)
    {node : WorkflowNode} (member : node ∈ definition.nodes) :
    definition.node? node.nodeId = some node := by
  have declared : node.nodeId ∈ definition.nodeIds := List.mem_map_of_mem member
  obtain ⟨other, found⟩ := Option.isSome_iff_exists.mp (node?_isSome.mpr declared)
  obtain ⟨inside, same⟩ := mem_of_node? found
  rw [found, List.inj_on_of_nodup_map unique inside member same]

end WorkflowDefinition

/-! ### Nodes in the order of their identities -/

/-- Identities compare by their values, code point by code point. -/
instance : LinearOrder NodeId where
  le first second := first.value ≤ second.value
  lt first second := first.value < second.value
  lt_iff_le_not_ge _ _ := lt_iff_le_not_ge (α := String)
  le_refl node := le_refl node.value
  le_trans _ _ _ one two := String.le_trans one two
  le_antisymm _ _ one two := Identifier.ext_value (String.le_antisymm one two)
  le_total first second := String.le_total first.value second.value
  toDecidableLE first second := inferInstanceAs (Decidable (first.value ≤ second.value))
  toDecidableEq := inferInstance

/-- `sorted(nodes, key=lambda item: item.value)`. -/
def sortNodes (nodes : List NodeId) : List NodeId :=
  nodes.mergeSort fun first second => decide (first ≤ second)

@[simp] theorem mem_sortNodes {nodes : List NodeId} {node : NodeId} :
    node ∈ sortNodes nodes ↔ node ∈ nodes := List.mem_mergeSort

theorem sortNodes_perm (nodes : List NodeId) : (sortNodes nodes).Perm nodes :=
  List.mergeSort_perm _ _

theorem sortNodes_sorted (nodes : List NodeId) : (sortNodes nodes).Pairwise (· ≤ ·) := by
  let before : NodeId → NodeId → Bool := fun first second => decide (first ≤ second)
  have transitive : ∀ first second third, before first second = true →
      before second third = true → before first third = true := by
    intro first second third left right
    have left : first ≤ second := of_decide_eq_true left
    exact decide_eq_true (left.trans (of_decide_eq_true right))
  have total : ∀ first second, (before first second || before second first) = true := by
    intro first second
    rcases le_total first second with below | above
    · simp [before, below]
    · simp [before, above]
  have sorted := List.pairwise_mergeSort transitive total nodes
  exact sorted.imp fun ordered => of_decide_eq_true ordered

/-- The first of some sorted nodes is the least. -/
theorem isLeast_of_sorted {first : NodeId} {rest : List NodeId}
    (sorted : (first :: rest).Pairwise (· ≤ ·)) :
    IsLeast {node | node ∈ first :: rest} first := by
  refine ⟨by simp, fun other member => ?_⟩
  rcases List.mem_cons.mp member with rfl | later
  · exact le_refl other
  · exact (List.pairwise_cons.mp sorted).1 other later

end CongeriesCore
