import CongeriesCore.SampleParameters
import CongeriesCore.WorkflowGraph

/-! # The workflow scheduler

One node at a time, the least of those whose dependencies are completed. From any set of completed
nodes it visits every other one, and from none it visits them in the order of the validator. -/

namespace CongeriesCore

open TopologicalOrder

structure DeterministicScheduler where
  definition : WorkflowDefinition
  completed : Finset NodeId

namespace DeterministicScheduler

def make (workflow : ValidatedWorkflow) (completed : Finset NodeId) :
    Except Raised DeterministicScheduler := do
  requireValue (decide (completed ⊆ workflow.definition.nodeIds.toFinset))
    "scheduler completed set contains an unknown node"
  return ⟨workflow.definition, completed⟩

/-- `_dependencies[node_id]`. -/
def dependencies (scheduler : DeterministicScheduler) (nodeId : NodeId) : List NodeId :=
  (scheduler.definition.dependencies.filter fun dependency =>
    dependency.targetNodeId == nodeId).map WorkflowDependency.sourceNodeId

/-- `sorted(self._nodes, key=lambda item: item.value)`. -/
def sortedIds (scheduler : DeterministicScheduler) : List NodeId :=
  sortNodes scheduler.definition.nodeIds.dedup

def isReady (scheduler : DeterministicScheduler) (nodeId : NodeId) : Bool :=
  decide (nodeId ∉ scheduler.completed) &&
    (scheduler.dependencies nodeId).all fun source => decide (source ∈ scheduler.completed)

def ready (scheduler : DeterministicScheduler) : List WorkflowNode :=
  (scheduler.sortedIds.filter scheduler.isReady).filterMap scheduler.definition.node?

def next (scheduler : DeterministicScheduler) : Option WorkflowNode := scheduler.ready.head?

def markCompleted (scheduler : DeterministicScheduler) (nodeId : NodeId) :
    Except Raised DeterministicScheduler :=
  if nodeId ∈ scheduler.completed then .ok scheduler
  else do
    ensure ((scheduler.ready.map WorkflowNode.nodeId).contains nodeId) (coreError .conflict
      "workflow_node_not_ready" "Workflow node dependencies are not stably completed")
    return { scheduler with completed := insert nodeId scheduler.completed }

def pendingNodes (scheduler : DeterministicScheduler) : List NodeId :=
  scheduler.sortedIds.filter fun nodeId => decide (nodeId ∉ scheduler.completed)

def done (scheduler : DeterministicScheduler) : Bool :=
  scheduler.completed.card == scheduler.definition.nodeIds.toFinset.card

/-- The next node is taken and marked as completed. -/
def Takes (scheduler after : DeterministicScheduler) : Prop :=
  ∃ node, scheduler.next = some node ∧ scheduler.markCompleted node.nodeId = .ok after

/-- The nodes that are taken and marked, for at most `fuel` turns, and the scheduler at the end. -/
def drain : ℕ → DeterministicScheduler → Except Raised (List NodeId × DeterministicScheduler)
  | 0, _ => .error outOfFuel
  | fuel + 1, scheduler =>
    match scheduler.next with
    | none => .ok ([], scheduler)
    | some node => do
      let after ← scheduler.markCompleted node.nodeId
      let (visited, final) ← drain fuel after
      return (node.nodeId :: visited, final)

/-! ### The nodes that are ready -/

variable {scheduler : DeterministicScheduler}

theorem isReady_iff {nodeId : NodeId} (declared : nodeId ∈ scheduler.definition.nodeIds) :
    scheduler.isReady nodeId = true ↔ Ready scheduler.definition.Depends
      scheduler.definition.nodeIds.toFinset scheduler.completed nodeId := by
  have sources : ∀ source, source ∈ scheduler.dependencies nodeId ↔
      scheduler.definition.Depends source nodeId := by
    intro source
    unfold dependencies WorkflowDefinition.Depends
    simp only [List.mem_map, List.mem_filter, beq_iff_eq, WorkflowDependency.key, Prod.mk.injEq]
    constructor
    · rintro ⟨dependency, ⟨member, target⟩, source⟩
      exact ⟨dependency, member, source, target⟩
    · rintro ⟨dependency, member, source, target⟩
      exact ⟨dependency, ⟨member, target⟩, source⟩
  simp only [isReady, Bool.and_eq_true, decide_eq_true_eq, List.all_eq_true, sources]
  constructor
  · intro both
    exact ⟨List.mem_toFinset.mpr declared, both.1, both.2⟩
  · intro ready
    exact ⟨ready.left, ready.met⟩

theorem mem_readyIds {nodeId : NodeId} :
    nodeId ∈ scheduler.sortedIds.filter scheduler.isReady ↔ Ready scheduler.definition.Depends
      scheduler.definition.nodeIds.toFinset scheduler.completed nodeId := by
  rw [List.mem_filter, sortedIds, mem_sortNodes, List.mem_dedup]
  constructor
  · intro ⟨declared, ready⟩
    exact (isReady_iff declared).mp ready
  · intro ready
    have declared := List.mem_toFinset.mp ready.declared
    exact ⟨declared, (isReady_iff declared).mpr ready⟩

/-- The ready nodes carry the identities that are ready, in order. -/
theorem map_ready : scheduler.ready.map WorkflowNode.nodeId =
    scheduler.sortedIds.filter scheduler.isReady := by
  have found : ∀ ids : List NodeId, (∀ nodeId ∈ ids, nodeId ∈ scheduler.definition.nodeIds) →
      (ids.filterMap scheduler.definition.node?).map WorkflowNode.nodeId = ids := by
    intro ids
    induction ids with
    | nil => exact fun _ => rfl
    | cons nodeId ids ih =>
      intro declared
      obtain ⟨node, found⟩ := Option.isSome_iff_exists.mp
        (WorkflowDefinition.node?_isSome.mpr (declared nodeId (by simp)))
      rw [List.filterMap_cons_some found, List.map_cons,
        (WorkflowDefinition.mem_of_node? found).2, ih fun other member => declared other (by simp [member])]
  refine found _ fun nodeId member => ?_
  exact List.mem_toFinset.mp (mem_readyIds.mp member).declared

theorem next_eq_none : scheduler.next = none ↔ ∀ nodeId, ¬ Ready scheduler.definition.Depends
    scheduler.definition.nodeIds.toFinset scheduler.completed nodeId := by
  have empty : scheduler.ready = [] ↔ scheduler.sortedIds.filter scheduler.isReady = [] := by
    rw [← map_ready, List.map_eq_nil_iff]
  rw [next, List.head?_eq_none_iff, empty, List.eq_nil_iff_forall_not_mem]
  exact forall_congr' fun nodeId => not_congr mem_readyIds

theorem next_isLeast {node : WorkflowNode} (taken : scheduler.next = some node) :
    IsLeast {nodeId | Ready scheduler.definition.Depends scheduler.definition.nodeIds.toFinset
      scheduler.completed nodeId} node.nodeId := by
  have sorted : (scheduler.sortedIds.filter scheduler.isReady).Pairwise (· ≤ ·) :=
    (sortNodes_sorted _).filter _
  have same : {nodeId | Ready scheduler.definition.Depends scheduler.definition.nodeIds.toFinset
      scheduler.completed nodeId} =
        {nodeId | nodeId ∈ scheduler.sortedIds.filter scheduler.isReady} := by
    ext nodeId
    exact mem_readyIds.symm
  obtain ⟨rest, split⟩ := List.head?_eq_some_iff.mp taken
  rw [same]
  rw [← map_ready, split, List.map_cons] at sorted ⊢
  exact isLeast_of_sorted sorted

/-- A ready node is marked. -/
theorem markCompleted_ready {nodeId : NodeId} (ready : Ready scheduler.definition.Depends
    scheduler.definition.nodeIds.toFinset scheduler.completed nodeId) :
    scheduler.markCompleted nodeId =
      .ok { scheduler with completed := insert nodeId scheduler.completed } := by
  have member : (scheduler.ready.map WorkflowNode.nodeId).contains nodeId = true := by
    rw [map_ready]
    exact List.contains_iff_mem.mpr (mem_readyIds.mpr ready)
  unfold markCompleted
  rw [if_neg ready.left, member]
  rfl

/-! ### Whole runs of the scheduler -/

theorem drain_greedy {order : List NodeId}
    (greedy : Greedy scheduler.definition.Depends scheduler.definition.nodeIds.toFinset
      scheduler.completed order) {fuel : ℕ} (enough : order.length < fuel) :
    scheduler.drain fuel = .ok (order, { scheduler with
      completed := scheduler.completed ∪ order.toFinset }) := by
  induction order generalizing scheduler fuel with
  | nil =>
    cases greedy with
    | stop stuck =>
      obtain ⟨fuel, rfl⟩ := Nat.exists_eq_succ_of_ne_zero (Nat.ne_zero_of_lt enough)
      unfold drain
      rw [next_eq_none.mpr stuck]
      simp
  | cons nodeId order ih =>
    cases greedy with
    | take least rest =>
      obtain ⟨fuel, rfl⟩ := Nat.exists_eq_succ_of_ne_zero (Nat.ne_zero_of_lt enough)
      unfold drain
      cases taken : scheduler.next with
      | none => exact absurd least.1 (next_eq_none.mp taken nodeId)
      | some node =>
        obtain rfl := (next_isLeast taken).unique least
        have later : drain fuel { scheduler with
            completed := insert node.nodeId scheduler.completed } = _ :=
          ih rest (by simpa using enough)
        simp only [markCompleted_ready least.1, bind, Except.bind, later, pure, Except.pure]
        simp [Finset.insert_union, Finset.union_insert]

/-- Along a run the scheduler keeps its definition and completes declared nodes only. -/
theorem taken_declared {after : DeterministicScheduler}
    (runs : Relation.ReflTransGen Takes scheduler after)
    (known : scheduler.completed ⊆ scheduler.definition.nodeIds.toFinset) :
    after.definition = scheduler.definition ∧
      after.completed ⊆ after.definition.nodeIds.toFinset := by
  induction runs with
  | refl => exact ⟨rfl, known⟩
  | tail _ last ih =>
    obtain ⟨same, known⟩ := ih
    obtain ⟨node, taken, marked⟩ := last
    have ready := (next_isLeast taken).1
    rw [markCompleted_ready ready] at marked
    obtain rfl := Except.ok.inj marked
    exact ⟨same, Finset.insert_subset ready.declared known⟩

/-- On an acyclic graph the scheduler has no next node exactly when it is done. -/
theorem next_eq_none_iff_done (joined : WorkflowValidator.Joined scheduler.definition)
    (acyclic : Acyclic scheduler.definition.Depends)
    (known : scheduler.completed ⊆ scheduler.definition.nodeIds.toFinset) :
    scheduler.next = none ↔ scheduler.done = true := by
  rw [next_eq_none, done, beq_iff_eq]
  constructor
  · intro stuck
    have all := acyclic.finished joined.sources stuck
    rw [Finset.Subset.antisymm known all]
  · intro full nodeId ready
    have all := Finset.eq_of_subset_of_card_le known full.ge
    refine ready.left ?_
    rw [all]
    exact ready.declared

/-- From any completed nodes of a validated workflow, taking the next node and marking it visits
each remaining node once, after its dependencies; no next node is left only when all are done. From
no completed nodes the order is the one of the validator. -/
theorem schedule_exact {validator : WorkflowValidator} {definition : WorkflowDefinition}
    {workflow : ValidatedWorkflow} (validated : validator.validate definition = .ok workflow)
    {completed : Finset NodeId} (known : completed ⊆ definition.nodeIds.toFinset) :
    ∃ scheduler order final, make workflow completed = .ok scheduler ∧
      (∀ fuel, order.length < fuel → scheduler.drain fuel = .ok (order, final)) ∧
      final.done = true ∧
      IsTopological definition.Depends definition.nodeIds.toFinset completed order ∧
      (∀ reached, Relation.ReflTransGen Takes scheduler reached →
        (reached.next = none ↔ reached.done = true)) ∧
      (completed = ∅ → order = workflow.topologicalOrder) := by
  obtain ⟨-, wellFormed, same, ordered⟩ := WorkflowValidator.validate_ok.mp validated
  obtain ⟨definition', topological⟩ := workflow
  obtain rfl : definition' = definition := same
  obtain ⟨order, greedy⟩ :=
    exists_greedy definition'.Depends definition'.nodeIds.toFinset completed
  have topological := greedy.isTopological wellFormed.acyclic wellFormed.joined.sources
  refine ⟨⟨definition', completed⟩, order, ⟨definition', completed ∪ order.toFinset⟩, ?_,
    fun fuel enough => drain_greedy greedy enough, ?_, topological, fun reached runs => ?_, ?_⟩
  · simp [make, requireValue, known, bind, Except.bind, pure, Except.pure]
  · have all : completed ∪ order.toFinset = definition'.nodeIds.toFinset := by
      ext nodeId
      rw [Finset.mem_union, List.mem_toFinset, topological.covers]
      constructor
      · rintro (member | ⟨declared, -⟩)
        · exact known member
        · exact declared
      · intro declared
        by_cases member : nodeId ∈ completed
        · exact .inl member
        · exact .inr ⟨declared, member⟩
    simp [done, all]
  · obtain ⟨same, inside⟩ := taken_declared runs known
    have same : reached.definition = definition' := same
    refine next_eq_none_iff_done ?_ ?_ inside
    · rw [same]
      exact wellFormed.joined
    · rw [same]
      exact wellFormed.acyclic
  · rintro rfl
    exact greedy.unique ordered

end DeterministicScheduler

namespace SampleParameters

def textSchema : SchemaRef := ⟨"core", "text", "1", by decide⟩

def executePermission : WorkflowPermission :=
  ⟨workflowNodeExecuteAction,
    ⟨"core", "workflow_node", ⟨"node", by decide⟩, none, by decide, by decide, nofun⟩⟩

/-- An agent node from text to text. -/
def agentNode (nodeId : NodeId) (binding : WorkflowInputBinding) : WorkflowNode where
  nodeId := nodeId
  nodeType := "agent"
  contractVersion := "1"
  inputSchema := some textSchema
  inputBindings := [binding]
  outputSchema := some textSchema
  scope := sampleScope
  permissions := [executePermission]
  timeoutSeconds := none
  retryLimit := 0
  sideEffecting := false
  idempotencyRequired := false
  checkpoint := true
  config := .agent ⟨⟨"agent-1", agent_checked⟩, ⟨"definition-1", definition_checked⟩,
    ⟨"binding-1", binding_checked⟩⟩
  trimmed := by decide
  positive := nofun

def draftNode : NodeId := ⟨"draft", by decide⟩

def reviewNode : NodeId := ⟨"review", by decide⟩

def draftAndReview : WorkflowDefinition where
  workflowId := ⟨"workflow-1", workflow_checked⟩
  definitionId := ⟨"definition-1", definition_checked⟩
  version := "1"
  inputSchema := textSchema
  nodes := [agentNode reviewNode ⟨.nodeOutput, some draftNode, by decide⟩,
    agentNode draftNode ⟨.workflowInput, none, by decide⟩]
  dependencies := [⟨draftNode, reviewNode, true, by decide⟩]
  outputSchema := textSchema
  outputBinding := ⟨reviewNode, true⟩
  executionPolicy := ⟨1, false, 1, by decide⟩
  valid := by decide

def textValidator : WorkflowValidator where
  schemas := ⟨Dict.empty.set textSchema fun _ => .ok ()⟩
  actions := ⟨[workflowNodeExecuteAction]⟩
  supportedNodes := []

theorem draftAndReview_validated :
    ∃ workflow, textValidator.validate draftAndReview = .ok workflow := by
  have valid : (textValidator.validate draftAndReview).isOk = true := by decide +kernel
  cases validated : textValidator.validate draftAndReview with
  | ok workflow => exact ⟨workflow, rfl⟩
  | error error =>
    rw [validated] at valid
    cases valid

/-- With the draft completed, the review is left. -/
theorem draftAndReview_scheduled : ∃ workflow scheduler order final,
    textValidator.validate draftAndReview = .ok workflow ∧
      DeterministicScheduler.make workflow {draftNode} = .ok scheduler ∧
      (∀ fuel, order.length < fuel → scheduler.drain fuel = .ok (order, final)) ∧
      final.done = true := by
  obtain ⟨workflow, validated⟩ := draftAndReview_validated
  have known : {draftNode} ⊆ draftAndReview.nodeIds.toFinset := by decide
  obtain ⟨scheduler, order, final, made, drained, done, -⟩ :=
    DeterministicScheduler.schedule_exact validated known
  exact ⟨workflow, scheduler, order, final, validated, made, drained, done⟩

end SampleParameters

end CongeriesCore
