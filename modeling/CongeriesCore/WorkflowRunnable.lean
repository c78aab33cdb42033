import CongeriesCore.WorkflowLedger

/-! # What the validator admits, the runtime can run

On a validated workflow the checks that the runtime makes on its own behalf never fail: each node
has what its type asks for, the scheduler does not stall, and from a legal checkpoint every output
that is bound is at hand. -/

namespace CongeriesCore.WorkflowProgress

open TopologicalOrder WorkflowRuntime

/-- The node has the permission, the configuration, the schemas and the bindings that the runtime
relies on. -/
structure Runnable (node : WorkflowNode) : Prop where
  access : ∀ context, ∃ request, nodeAccess node context = .ok request
  agent : node.nodeType = WorkflowNodeType.agent.value → (∃ config, node.config = .agent config) ∧
    node.inputSchema ≠ none ∧ node.outputSchema ≠ none ∧ ∃ binding, node.inputBindings = [binding]
  evaluation : node.nodeType = WorkflowNodeType.evaluation.value →
    (∃ config, node.config = .evaluation config) ∧ node.inputSchema ≠ none ∧
    node.outputSchema = some evaluationResultSchema ∧ ∃ binding, node.inputBindings = [binding]
  approval : node.nodeType = WorkflowNodeType.approval.value →
    (∃ config, node.config = .approval config) ∧ node.inputBindings = [] ∧ node.outputSchema = none

theorem nodeAccess_of_permission {node : WorkflowNode}
    (permitted : node.permissions.any (fun permission =>
      permission.action == workflowNodeExecuteAction) = true) (context : RuntimeCallContext) :
    ∃ request, nodeAccess node context = .ok request := by
  unfold nodeAccess
  cases found : node.permissions.find? fun item => item.action == workflowNodeExecuteAction with
  | some permission => exact ⟨_, rfl⟩
  | none =>
    obtain ⟨permission, member, same⟩ := List.any_eq_true.mp permitted
    exact absurd same (List.find?_eq_none.mp found permission member)

/-- The contract of its type is checked for each node. -/
theorem runnable_of_validated {validator : WorkflowValidator} {node : WorkflowNode}
    (validated : validator.validateNode node = .ok ()) : Runnable node := by
  obtain ⟨_, -, rest⟩ := bind_ok validated
  obtain ⟨_, -, rest⟩ := bind_ok rest
  obtain ⟨_, -, rest⟩ := bind_ok rest
  obtain ⟨_, -, rest⟩ := bind_ok rest
  obtain ⟨_, permitted, rest⟩ := bind_ok rest
  obtain ⟨_, -, rest⟩ := bind_ok rest
  obtain ⟨_, -, rest⟩ := bind_ok rest
  obtain ⟨_, -, contract⟩ := bind_ok rest
  unfold WorkflowValidator.validateContract at contract
  refine ⟨nodeAccess_of_permission (ensure_eq_ok.mp permitted), ?_, ?_, ?_⟩
  · intro type
    rw [if_pos type] at contract
    unfold WorkflowValidator.validateAgent at contract
    split at contract
    · rename_i config held
      have complete := ensure_eq_ok.mp contract
      simp only [Bool.and_eq_true, beq_iff_eq, Option.isSome_iff_ne_none] at complete
      obtain ⟨⟨input, output⟩, single⟩ := complete
      exact ⟨⟨config, held⟩, input, output, List.length_eq_one_iff.mp single⟩
    · cases contract
  · intro type
    have notAgent : node.nodeType ≠ WorkflowNodeType.agent.value := by rw [type]; decide
    have notApproval : node.nodeType ≠ WorkflowNodeType.approval.value := by rw [type]; decide
    rw [if_neg notAgent, if_neg notApproval, if_pos type] at contract
    unfold WorkflowValidator.validateEvaluation at contract
    split at contract
    · rename_i config held
      obtain ⟨_, complete, -⟩ := bind_ok contract
      have complete := ensure_eq_ok.mp complete
      simp only [Bool.and_eq_true, beq_iff_eq, Option.isSome_iff_ne_none] at complete
      obtain ⟨⟨input, output⟩, single⟩ := complete
      exact ⟨⟨config, held⟩, input, output, List.length_eq_one_iff.mp single⟩
    · cases contract
  · intro type
    have notAgent : node.nodeType ≠ WorkflowNodeType.agent.value := by rw [type]; decide
    rw [if_neg notAgent, if_pos type] at contract
    unfold WorkflowValidator.validateApproval at contract
    split at contract
    · rename_i config held
      obtain ⟨_, complete, -⟩ := bind_ok contract
      have complete := ensure_eq_ok.mp complete
      simp only [Bool.and_eq_true, List.isEmpty_iff, Option.isNone_iff_eq_none] at complete
      obtain ⟨⟨bindings, -⟩, output⟩ := complete
      exact ⟨⟨config, held⟩, bindings, output⟩
    · cases contract

/-! ## Outputs -/

section Outputs

variable {definition : WorkflowDefinition} {checkpoint : Checkpoint} {source : WorkflowNode}

theorem find?_node (unique : definition.nodeIds.Nodup) (declared : source ∈ definition.nodes) :
    definition.nodes.find? (fun node => node.nodeId == source.nodeId) = some source := by
  cases found : definition.nodes.find? fun node => node.nodeId == source.nodeId with
  | none =>
    have other := List.find?_eq_none.mp found source declared
    simp at other
  | some node =>
    have same := List.find?_some found
    have same : node.nodeId = source.nodeId := by simpa using same
    rw [List.inj_on_of_nodup_map unique (List.mem_of_find?_eq_some found) declared same]

/-- The output of a node that has one is at hand once the node has succeeded. -/
theorem durableOutput_of_completed (unique : definition.nodeIds.Nodup)
    (runnable : ∀ node ∈ definition.nodes, Runnable node) (legal : Legal definition checkpoint)
    (declared : source ∈ definition.nodes) (typed : source.outputSchema ≠ none)
    (done : source.nodeId ∈ completedOf checkpoint.nodeStates) (missing : Raised) :
    ∃ durable, durableOutput definition (outputRefsOf definition (statesOf checkpoint.nodeStates))
      source.nodeId missing = .ok durable := by
  obtain ⟨state, recorded, succeeded⟩ := Checkpoint.mem_completedOf.mp done
  obtain ⟨schema, typed'⟩ := Option.ne_none_iff_exists'.mp typed
  have kept : state.outputRef ≠ none := by
    rcases legal.durable source.nodeId state recorded succeeded with kept | approval
    · exact kept
    · obtain ⟨node, inside, same, type⟩ := approval
      obtain rfl := List.inj_on_of_nodup_map unique inside declared same
      exact absurd ((runnable node inside).approval type).2.2 typed
  obtain ⟨reference, held⟩ := Option.ne_none_iff_exists'.mp kept
  have listed : source.nodeId ∈ definition.nodeIds := List.mem_map_of_mem declared
  have found : (outputRefsOf definition (statesOf checkpoint.nodeStates)).get? source.nodeId =
      some reference := by
    rw [get?_outputRefsOf, if_pos listed, Checkpoint.get?_statesOf, recorded]
    exact held
  refine ⟨(source, schema, reference), ?_⟩
  unfold durableOutput
  simp only [find?_node unique declared, found, typed']

end Outputs

/-! ## Legal checkpoints -/

/-- The run can be driven on from the checkpoint: the scheduler stalls only when it is done, the
next node has what it needs, and at the end the output of the workflow is at hand. -/
def Drivable (workflow : ValidatedWorkflow) (checkpoint : Checkpoint) : Prop :=
  ∃ scheduler, DeterministicScheduler.make workflow (completedOf checkpoint.nodeStates) =
      .ok scheduler ∧
    (scheduler.next = none ↔ scheduler.done = true) ∧
    (∀ node, scheduler.next = some node → Runnable node ∧
      ∀ binding ∈ node.inputBindings, ∀ sourceId, binding.sourceNodeId = some sourceId →
        node.inputSchema ≠ none → ∃ durable, durableOutput workflow.definition
          (outputRefsOf workflow.definition (statesOf checkpoint.nodeStates)) sourceId
          boundOutputMissing = .ok durable) ∧
    (scheduler.done = true → ∃ durable, durableOutput workflow.definition
      (outputRefsOf workflow.definition (statesOf checkpoint.nodeStates))
      workflow.definition.outputBinding.sourceNodeId finalOutputMissing = .ok durable)

theorem Legal.drivable {validator : WorkflowValidator} {workflow : ValidatedWorkflow}
    {definition : WorkflowDefinition} {checkpoint : Checkpoint}
    (validated : validator.validate definition = .ok workflow)
    (legal : Legal definition checkpoint) : Drivable workflow checkpoint := by
  obtain ⟨own, wellFormed, same, -⟩ := WorkflowValidator.validate_ok.mp validated
  subst same
  have unique := wellFormed.joined.nodes
  have runnable : ∀ node ∈ workflow.definition.nodes, Runnable node := fun node declared =>
    runnable_of_validated (own.nodes node declared)
  have known : completedOf checkpoint.nodeStates ⊆ workflow.definition.nodeIds.toFinset := by
    intro nodeId done
    obtain ⟨state, recorded, -⟩ := Checkpoint.mem_completedOf.mp done
    exact List.mem_toFinset.mpr (legal.declared nodeId state recorded)
  have made : DeterministicScheduler.make workflow (completedOf checkpoint.nodeStates) =
      .ok ⟨workflow.definition, completedOf checkpoint.nodeStates⟩ := by
    unfold DeterministicScheduler.make
    rw [requireValue, if_pos (by simpa using known)]
    rfl
  refine ⟨_, made, DeterministicScheduler.next_eq_none_iff_done wellFormed.joined wellFormed.acyclic
    known, ?_, ?_⟩
  · intro node taken
    have least := DeterministicScheduler.next_isLeast taken
    have declared := DeterministicScheduler.next_declared taken
    refine ⟨runnable node declared, ?_⟩
    intro binding bound sourceId sources typed
    obtain ⟨source, inside, rfl, carries, schema⟩ :=
      wellFormed.outputs node declared binding bound sourceId sources
    obtain ⟨dependency, member, key, -⟩ := carries
    apply durableOutput_of_completed unique runnable legal inside (schema ▸ typed)
    exact least.1.met source.nodeId (List.mem_map.mpr ⟨dependency, member, key⟩)
  · intro done
    obtain ⟨source, inside, same, schema⟩ := wellFormed.output
    rw [← same]
    apply durableOutput_of_completed unique runnable legal inside (by simp [schema])
    have all := Finset.eq_of_subset_of_card_le known (by
      unfold DeterministicScheduler.done at done
      exact (beq_iff_eq.mp done).ge)
    rw [all]
    exact List.mem_toFinset.mpr (List.mem_map_of_mem inside)

end CongeriesCore.WorkflowProgress
