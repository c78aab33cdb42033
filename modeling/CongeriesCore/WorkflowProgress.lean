import CongeriesCore.WorkflowRuntime

/-! # Progress of a workflow

What a checkpoint records of the nodes of a workflow, and what one turn of the runtime adds to it:
the state of one node that was ready. -/

namespace Dict

variable {κ ν μ : Type} [DecidableEq κ]

theorem mem_values {dict : Dict κ ν} {value : ν} :
    value ∈ dict.values ↔ ∃ key, dict.get? key = some value := by
  constructor
  · intro member
    obtain ⟨entry, inside, rfl⟩ := List.mem_map.mp member
    exact ⟨entry.1, get?_of_mem inside⟩
  · intro found
    obtain ⟨key, found⟩ := found
    exact List.mem_map.mpr ⟨(key, value), mem_of_get? found, rfl⟩

omit [DecidableEq κ] in
theorem keys_filterMap {f : κ × ν → Option (κ × μ)} (keeps : ∀ entry item, f entry = some item →
    item.1 = entry.1) (entries : List (κ × ν)) :
    ((entries.filterMap f).map Prod.fst).Sublist (entries.map Prod.fst) := by
  induction entries with
  | nil => exact .slnil
  | cons entry entries ih =>
    cases kept : f entry with
    | none =>
      rw [List.filterMap_cons_none kept]
      exact ih.cons _
    | some item =>
      rw [List.filterMap_cons_some kept, List.map_cons, keeps entry item kept]
      exact ih.cons_cons _

end Dict

namespace CongeriesCore

open AsyncProgram AsyncProgram.Program TopologicalOrder WorkflowRuntime

/-! ## What a checkpoint records -/

namespace Checkpoint

def stateOf (checkpoint : Checkpoint) (nodeId : NodeId) : Option NodeCheckpointState :=
  checkpoint.nodeStates.find? fun state => state.nodeId == nodeId

variable {checkpoint : Checkpoint} {nodeId : NodeId} {state : NodeCheckpointState}

theorem stateOf_eq_some : checkpoint.stateOf nodeId = some state ↔
    state ∈ checkpoint.nodeStates ∧ state.nodeId = nodeId := by
  unfold stateOf
  constructor
  · intro found
    have same := List.find?_some found
    exact ⟨List.mem_of_find?_eq_some found, by simpa using same⟩
  · intro both
    obtain ⟨member, same⟩ := both
    cases found : checkpoint.nodeStates.find? fun state => state.nodeId == nodeId with
    | none =>
      have other := List.find?_eq_none.mp found state member
      simp [same] at other
    | some other =>
      have identity := List.find?_some found
      have identity : other.nodeId = nodeId := by simpa using identity
      have unique := checkpoint.wellFormed.uniqueNodes
      rw [List.inj_on_of_nodup_map unique (List.mem_of_find?_eq_some found) member
        (identity.trans same.symm)]

theorem stateOf_eq_none : checkpoint.stateOf nodeId = none ↔
    ∀ state ∈ checkpoint.nodeStates, state.nodeId ≠ nodeId := by
  simp [stateOf]

theorem mem_completedOf : nodeId ∈ completedOf checkpoint.nodeStates ↔
    ∃ state, checkpoint.stateOf nodeId = some state ∧ state.outcome = .succeeded := by
  simp only [completedOf, List.mem_toFinset, List.mem_map, List.mem_filter, beq_iff_eq,
    stateOf_eq_some]
  constructor
  · intro found
    obtain ⟨state, ⟨member, outcome⟩, same⟩ := found
    exact ⟨state, ⟨member, same⟩, outcome⟩
  · intro found
    obtain ⟨state, ⟨member, same⟩, outcome⟩ := found
    exact ⟨state, ⟨member, outcome⟩, same⟩

theorem get?_statesOf (checkpoint : Checkpoint) (nodeId : NodeId) :
    (statesOf checkpoint.nodeStates).get? nodeId = checkpoint.stateOf nodeId := by
  have unique := checkpoint.wellFormed.uniqueNodes
  cases found : checkpoint.stateOf nodeId with
  | none =>
    have absent := stateOf_eq_none.mp found
    have missing : nodeId ∉ checkpoint.nodeStates.map NodeCheckpointState.nodeId := by
      intro member
      obtain ⟨state, inside, same⟩ := List.mem_map.mp member
      exact absent state inside same
    exact Dict.get?_setAll_of_not_mem NodeCheckpointState.nodeId id .empty missing
  | some state =>
    obtain ⟨member, rfl⟩ := stateOf_eq_some.mp found
    exact Dict.get?_setAll_of_mem NodeCheckpointState.nodeId id .empty unique member

end Checkpoint

theorem DeterministicScheduler.next_declared {scheduler : DeterministicScheduler}
    {node : WorkflowNode} (taken : scheduler.next = some node) :
    node ∈ scheduler.definition.nodes := by
  have member : node ∈ scheduler.ready := List.mem_of_head? taken
  obtain ⟨nodeId, -, found⟩ := List.mem_filterMap.mp member
  exact (WorkflowDefinition.mem_of_node? found).1

namespace WorkflowProgress

/-- Every state stands under its own node. -/
def Keyed (states : NodeStates) : Prop :=
  ∀ nodeId state, states.get? nodeId = some state → state.nodeId = nodeId

theorem Keyed.of_checkpoint {states : NodeStates} {checkpoint : Checkpoint}
    (same : ∀ nodeId, states.get? nodeId = checkpoint.stateOf nodeId) : Keyed states := by
  intro nodeId state found
  rw [same] at found
  exact (Checkpoint.stateOf_eq_some.mp found).2

theorem Keyed.set {states : NodeStates} (keyed : Keyed states) (state : NodeCheckpointState) :
    Keyed (states.set state.nodeId state) := by
  intro nodeId other found
  rw [Dict.get?_set] at found
  split at found
  · cases found
    assumption
  · exact keyed nodeId other found

/-- A checkpoint that was made from a dictionary of states records them. -/
theorem stateOf_sorted {states : NodeStates} {checkpoint : Checkpoint}
    (keyed : Keyed states) (recorded : checkpoint.nodeStates = sortStates states.values)
    (nodeId : NodeId) : checkpoint.stateOf nodeId = states.get? nodeId := by
  have members : ∀ state, state ∈ checkpoint.nodeStates ↔ ∃ key, states.get? key = some state := by
    intro state
    rw [recorded, sortStates, KeyedSort.mem_sortedBy, Dict.mem_values]
  cases found : states.get? nodeId with
  | none =>
    rw [Checkpoint.stateOf_eq_none]
    intro state member same
    obtain ⟨key, holds⟩ := (members state).mp member
    have key_eq := keyed key state holds
    rw [← key_eq, same, found] at holds
    cases holds
  | some state =>
    exact Checkpoint.stateOf_eq_some.mpr
      ⟨(members state).mpr ⟨nodeId, found⟩, keyed nodeId state found⟩

theorem get?_outputRefsOf (definition : WorkflowDefinition) (states : NodeStates)
    (nodeId : NodeId) : (outputRefsOf definition states).get? nodeId =
      if nodeId ∈ definition.nodeIds then
        (states.get? nodeId).bind NodeCheckpointState.outputRef
      else none := by
  unfold outputRefsOf
  generalize chosen : (states.entries.filterMap fun entry =>
    if definition.nodeIds.contains entry.1 then entry.2.outputRef.map fun reference =>
      (entry.1, reference)
    else none) = items
  have unique : (items.map Prod.fst).Nodup := by
    rw [← chosen]
    apply List.Nodup.sublist (Dict.keys_filterMap ?_ states.entries) states.nodup
    intro entry item kept
    split at kept
    · obtain ⟨reference, -, rfl⟩ := Option.map_eq_some_iff.mp kept
      rfl
    · cases kept
  have members : ∀ item, item ∈ items ↔ item.1 ∈ definition.nodeIds ∧
      (states.get? item.1).bind NodeCheckpointState.outputRef = some item.2 := by
    intro item
    rw [← chosen, List.mem_filterMap]
    constructor
    · intro found
      obtain ⟨entry, inside, kept⟩ := found
      split at kept
      · rename_i declared
        obtain ⟨reference, held, rfl⟩ := Option.map_eq_some_iff.mp kept
        refine ⟨by simpa using declared, ?_⟩
        rw [Dict.get?_of_mem inside]
        exact held
      · cases kept
    · intro both
      obtain ⟨declared, held⟩ := both
      obtain ⟨state, found, reference⟩ := Option.bind_eq_some_iff.mp held
      refine ⟨(item.1, state), Dict.mem_of_get? found, ?_⟩
      simp [declared, reference]
  have looked : ∀ item ∈ items, (Dict.setAll Prod.fst Prod.snd .empty items).get? item.1 =
      some item.2 := by
    intro item member
    exact Dict.get?_setAll_of_mem Prod.fst Prod.snd .empty unique member
  cases held : (if nodeId ∈ definition.nodeIds then
      (states.get? nodeId).bind NodeCheckpointState.outputRef else none) with
  | none =>
    apply Dict.get?_setAll_of_not_mem
    intro member
    obtain ⟨item, inside, rfl⟩ := List.mem_map.mp member
    have both := (members item).mp inside
    rw [if_pos both.1, both.2] at held
    cases held
  | some reference =>
    split at held
    · rename_i declared
      exact looked (nodeId, reference) ((members _).mpr ⟨declared, held⟩)
    · cases held

/-! ## One turn -/

/-- What the scheduler may hand out at a checkpoint: the least node that is ready, while no
approval is pending and no evaluation has failed. -/
structure Dispatchable (definition : WorkflowDefinition) (checkpoint : Checkpoint)
    (node : WorkflowNode) : Prop where
  declared : node ∈ definition.nodes
  least : IsLeast {nodeId | Ready definition.Depends definition.nodeIds.toFinset
    (completedOf checkpoint.nodeStates) nodeId} node.nodeId
  decided : ∀ approval ∈ checkpoint.approvals, approval.decision ≠ none
  unfailed : ∀ state ∈ checkpoint.nodeStates, failedEvaluation definition state = none

/-- No side effect is added, or the one of a node that has succeeded. -/
def Affects (state : NodeCheckpointState) (before after : List SideEffectRecord) : Prop :=
  after = before ∨ ∃ effect, after = before ++ [effect] ∧ state.outcome = .succeeded ∧
    effect.operationRef.id.value = state.nodeId.value

/-- The next checkpoint of a run records the state of one node more, or anew. -/
structure Records (previous next : Checkpoint) (state : NodeCheckpointState) : Prop where
  linked : next.previousCheckpointRef = some previous.ref
  numbered : next.sequence = previous.sequence + 1
  recorded : ∀ nodeId, next.stateOf nodeId =
    if state.nodeId = nodeId then some state else previous.stateOf nodeId
  effects : Affects state previous.sideEffects next.sideEffects

/-- The node of the state was handed out at the checkpoint before. -/
structure Progresses (definition : WorkflowDefinition) (previous next : Checkpoint)
    (node : WorkflowNode) (state : NodeCheckpointState) : Prop extends
    Records previous next state where
  own : state.nodeId = node.nodeId
  dispatched : Dispatchable definition previous node
  pending : ∀ nodeId, nodeId ∈ next.pendingNodes ↔ nodeId ∈ definition.nodeIds ∧
    nodeId ∉ completedOf previous.nodeStates ∧ nodeId ≠ node.nodeId
  approvals : next.approvals = previous.approvals ++
    if state.outcome = .waitingApproval then state.approvalState.toList else []

/-- The decision has been recorded with its approval and as the state of its node. -/
structure Decides (definition : WorkflowDefinition) (previous next : Checkpoint)
    (decision : ApprovalDecision) (approval decided : ApprovalCheckpointState) : Prop extends
    Records previous next (approvalNodeState decision.nodeId (decisionOutcome decision.outcome)
      decided) where
  found : previous.approvals.filter (fun item =>
    item.request.approvalId == decision.approvalId) = [approval]
  made : ApprovalCheckpointState.decide approval.request decision = .ok decided
  pending : ∀ nodeId, nodeId ∈ next.pendingNodes ↔ nodeId ∈ definition.nodeIds ∧
    nodeId ∉ completedOf next.nodeStates ∧ nodeId ≠ decision.nodeId
  approvals : next.approvals = decidedApprovals previous.approvals decision.approvalId decided

/-- A checkpoint that `_checkpoint` builds. -/
structure Built (previous : Option Checkpoint) (nodeStates : List NodeCheckpointState)
    (pendingNodes : List NodeId) (sideEffects : List SideEffectRecord)
    (approvals : List ApprovalCheckpointState) (checkpoint : Checkpoint) : Prop where
  linked : checkpoint.previousCheckpointRef = previous.map Checkpoint.ref
  numbered : checkpoint.sequence = previous.elim 1 fun previous => previous.sequence + 1
  nodeStates : checkpoint.nodeStates = sortStates nodeStates
  pendingNodes : checkpoint.pendingNodes = sortNodes pendingNodes
  sideEffects : checkpoint.sideEffects = sideEffects
  approvals : checkpoint.approvals = approvals

theorem returns_checkpoint [Sha256] {run : WorkflowRun} {previous : Option Checkpoint}
    {nodeStates : List NodeCheckpointState} {pending : List NodeId} {outputRefs : OutputRefs}
    {sideEffects : List SideEffectRecord} {approvals : List ApprovalCheckpointState} :
    (checkpoint run previous nodeStates pending outputRefs sideEffects approvals).Returns
      (fun _ _ => True) (Built previous nodeStates pending sideEffects approvals) := by
  unfold checkpoint
  apply returns_bind
  intro checkpointId
  apply returns_bind
  intro createdAt
  apply yields_ofExcept
  intro next created
  obtain ⟨fields, -⟩ := Checkpoint.create_fields created
  cases previous with
  | none => constructor <;> simp only [fields, Option.map_none, Option.elim_none]
  | some previous => constructor <;> simp only [fields, Option.map_some, Option.elim_some]

theorem completedOf_sortStates (nodeStates : List NodeCheckpointState) :
    completedOf (sortStates nodeStates) = completedOf nodeStates := by
  ext nodeId
  simp [completedOf, sortStates]

theorem mem_pendingAfter {definition : WorkflowDefinition} {done : Finset NodeId}
    {nodeId : NodeId} : nodeId ∈ pendingAfter definition done ↔
      nodeId ∈ definition.nodeIds ∧ nodeId ∉ done := by
  simp [pendingAfter]

/-- The run is driven from what its checkpoint records. -/
structure Tracks (definition : WorkflowDefinition) (driving : Driving) : Prop where
  workflow : driving.scheduler.definition = definition
  known : driving.scheduler.completed ⊆ definition.nodeIds.toFinset
  states : ∀ nodeId, driving.states.get? nodeId = driving.checkpoint.stateOf nodeId
  completed : driving.scheduler.completed = completedOf driving.checkpoint.nodeStates
  outputs : ∀ nodeId, driving.outputRefs.get? nodeId =
    if nodeId ∈ definition.nodeIds then
      (driving.checkpoint.stateOf nodeId).bind NodeCheckpointState.outputRef
    else none
  decided : ∀ approval ∈ driving.checkpoint.approvals, approval.decision ≠ none
  unfailed : ∀ state ∈ driving.checkpoint.nodeStates, failedEvaluation definition state = none

namespace Tracks

variable {definition : WorkflowDefinition} {driving : Driving} {node : WorkflowNode}
  {state : NodeCheckpointState}

theorem dispatchable (tracks : Tracks definition driving)
    (taken : driving.scheduler.next = some node) :
    Dispatchable definition driving.checkpoint node := by
  have least := DeterministicScheduler.next_isLeast taken
  have declared := DeterministicScheduler.next_declared taken
  rw [tracks.workflow] at declared
  rw [tracks.workflow, tracks.completed] at least
  exact ⟨declared, least, tracks.decided, tracks.unfailed⟩

theorem ready (tracks : Tracks definition driving) (taken : driving.scheduler.next = some node) :
    Ready definition.Depends definition.nodeIds.toFinset driving.scheduler.completed
      node.nodeId := by
  rw [tracks.completed]
  exact (tracks.dispatchable taken).least.1

/-- A checkpoint made with the state of the node that was handed out. -/
theorem advances (tracks : Tracks definition driving) (taken : driving.scheduler.next = some node)
    (own : state.nodeId = node.nodeId) {pending : List NodeId}
    {sideEffects : List SideEffectRecord} {approvals : List ApprovalCheckpointState}
    {next : Checkpoint}
    (left : ∀ nodeId, nodeId ∈ pending ↔ nodeId ∈ definition.nodeIds ∧
      nodeId ∉ driving.scheduler.completed ∧ nodeId ≠ node.nodeId)
    (effects : Affects state driving.checkpoint.sideEffects sideEffects)
    (added : approvals = driving.checkpoint.approvals ++
      if state.outcome = .waitingApproval then state.approvalState.toList else [])
    (created : Built (some driving.checkpoint) (driving.states.set node.nodeId state).values
      pending sideEffects approvals next) :
    Progresses definition driving.checkpoint next node state := by
  rw [← own] at created
  have keyed := (Keyed.of_checkpoint tracks.states).set state
  refine ⟨⟨created.linked, created.numbered, ?_, ?_⟩, own, tracks.dispatchable taken, ?_, ?_⟩
  · intro nodeId
    rw [stateOf_sorted keyed created.nodeStates, Dict.get?_set, tracks.states]
  · rw [created.sideEffects]
    exact effects
  · intro nodeId
    rw [created.pendingNodes, mem_sortNodes, left, tracks.completed]
  · rw [created.approvals, added]

end Tracks

namespace Records

variable {definition : WorkflowDefinition} {previous next : Checkpoint}
  {state : NodeCheckpointState}

theorem completed (records : Records previous next state) (succeeded : state.outcome = .succeeded) :
    completedOf next.nodeStates = insert state.nodeId (completedOf previous.nodeStates) := by
  ext nodeId
  rw [Finset.mem_insert, Checkpoint.mem_completedOf, Checkpoint.mem_completedOf,
    records.recorded nodeId]
  by_cases same : state.nodeId = nodeId
  · simp [same, succeeded]
  · have other : nodeId ≠ state.nodeId := Ne.symm same
    simp [same, other]

theorem completed_of_ne (records : Records previous next state)
    (left : state.nodeId ∉ completedOf previous.nodeStates) (failed : state.outcome ≠ .succeeded) :
    completedOf next.nodeStates = completedOf previous.nodeStates := by
  ext nodeId
  rw [Checkpoint.mem_completedOf, Checkpoint.mem_completedOf, records.recorded nodeId]
  by_cases same : state.nodeId = nodeId
  · subst same
    rw [Checkpoint.mem_completedOf] at left
    simp [failed, left]
  · rw [if_neg same]

theorem mem (records : Records previous next state) {other : NodeCheckpointState}
    (member : other ∈ next.nodeStates) : other = state ∨ other ∈ previous.nodeStates := by
  have found : next.stateOf other.nodeId = some other :=
    Checkpoint.stateOf_eq_some.mpr ⟨member, rfl⟩
  rw [records.recorded] at found
  split at found
  · cases found
    exact .inl rfl
  · exact .inr (Checkpoint.stateOf_eq_some.mp found).1

/-- What had succeeded stays as it was, where the node had not. -/
theorem kept (records : Records previous next state)
    (left : state.nodeId ∉ completedOf previous.nodeStates) {nodeId : NodeId}
    (done : nodeId ∈ completedOf previous.nodeStates) :
    next.stateOf nodeId = previous.stateOf nodeId := by
  rw [records.recorded, if_neg]
  rintro rfl
  exact left done

end Records

theorem recordEffects_ok [Sha256] {node : WorkflowNode} {dispatched : AgentDispatch}
    {reference : CheckpointReference} {effects recorded : List SideEffectRecord}
    (made : recordEffects node dispatched reference effects = .ok recorded) :
    Affects (agentState node.nodeId reference) effects recorded := by
  unfold recordEffects at made
  split at made
  · obtain ⟨fingerprint, -, same⟩ := bind_ok made
    obtain rfl := Except.ok.inj same
    exact .inr ⟨_, rfl, rfl, rfl⟩
  · obtain rfl := Except.ok.inj made
    exact .inl rfl

/-- The run is driven on from the checkpoint of an agent node that has succeeded. -/
theorem Tracks.completeAgent {definition : WorkflowDefinition} {driving : Driving}
    {node : WorkflowNode} {reference : CheckpointReference} {next : Checkpoint}
    (tracks : Tracks definition driving) (taken : driving.scheduler.next = some node)
    (progresses : Progresses definition driving.checkpoint next node
      (agentState node.nodeId reference)) (run : WorkflowRun) :
    Tracks definition ⟨run, next,
      driving.states.set node.nodeId (agentState node.nodeId reference),
      driving.outputRefs.set node.nodeId reference,
      { driving.scheduler with completed := insert node.nodeId driving.scheduler.completed }⟩ := by
  have ready := tracks.ready taken
  refine ⟨tracks.workflow, ?_, ?_, ?_, ?_, ?_, ?_⟩
  · exact Finset.insert_subset ready.declared tracks.known
  · intro nodeId
    have recorded := progresses.recorded nodeId
    rw [Dict.get?_set, tracks.states]
    exact recorded.symm
  · have completed := progresses.toRecords.completed rfl
    rw [tracks.completed]
    exact completed.symm
  · intro nodeId
    have recorded := progresses.recorded nodeId
    change _ = if nodeId ∈ definition.nodeIds then
      (next.stateOf nodeId).bind NodeCheckpointState.outputRef else none
    rw [Dict.get?_set, recorded]
    by_cases same : node.nodeId = nodeId
    · subst same
      have declared := List.mem_toFinset.mp ready.declared
      simp [agentState, declared]
    · have other : ¬(agentState node.nodeId reference).nodeId = nodeId := same
      rw [if_neg same, if_neg other, tracks.outputs]
  · intro approval member
    rw [progresses.approvals] at member
    apply tracks.decided
    simpa [agentState] using member
  · intro state member
    rcases progresses.toRecords.mem member with rfl | earlier
    · simp [failedEvaluation, agentState]
    · exact tracks.unfailed state earlier

/-- A run is driven from any checkpoint on which nothing is pending and nothing has failed. -/
theorem Tracks.start {workflow : ValidatedWorkflow} {checkpoint : Checkpoint}
    {scheduler : DeterministicScheduler} (run : WorkflowRun)
    (made : DeterministicScheduler.make workflow (completedOf checkpoint.nodeStates) =
      .ok scheduler)
    (decided : ∀ approval ∈ checkpoint.approvals, approval.decision ≠ none)
    (unfailed : ∀ state ∈ checkpoint.nodeStates,
      failedEvaluation workflow.definition state = none) :
    Tracks workflow.definition ⟨run, checkpoint, statesOf checkpoint.nodeStates,
      outputRefsOf workflow.definition (statesOf checkpoint.nodeStates), scheduler⟩ := by
  obtain ⟨_, known, same⟩ := bind_ok made
  obtain rfl := Except.ok.inj same
  refine ⟨rfl, ?_, checkpoint.get?_statesOf, rfl, ?_, decided, unfailed⟩
  · rw [requireValue_eq_ok, decide_eq_true_eq] at known
    exact known
  · intro nodeId
    rw [get?_outputRefsOf, Checkpoint.get?_statesOf]

/-! ## Approvals -/

theorem pendingApproval_none {checkpoint : Checkpoint}
    (none : pendingApproval checkpoint = .ok none) :
    ∀ approval ∈ checkpoint.approvals, approval.decision ≠ .none := by
  unfold pendingApproval at none
  split at none
  · rename_i found
    intro approval member undecided
    have pending := List.filter_eq_nil_iff.mp found approval member
    simp [undecided] at pending
  · cases none
  · cases none

theorem pendingApproval_some {checkpoint : Checkpoint} {approval : ApprovalCheckpointState}
    (found : pendingApproval checkpoint = .ok (some approval)) :
    approval ∈ checkpoint.approvals ∧ approval.decision = none := by
  unfold pendingApproval at found
  split at found
  · cases found
  · rename_i waiting single
    cases found
    have member : approval ∈ checkpoint.approvals.filter fun item => item.decision.isNone := by
      simp [single]
    simpa using List.mem_filter.mp member
  · cases found

theorem approvalState_ok {checkpoint : Checkpoint} {approvalId : ApprovalId}
    {approval : ApprovalCheckpointState}
    (found : approvalState checkpoint approvalId = .ok approval) :
    checkpoint.approvals.filter (fun item => item.request.approvalId == approvalId) =
      [approval] := by
  unfold approvalState at found
  split at found
  · rename_i single
    cases found
    exact single
  · cases found

theorem get?_decidedStates (current : Checkpoint) (decision : ApprovalDecision)
    (decided : ApprovalCheckpointState) (nodeId : NodeId) :
    (decidedStates current decision decided).get? nodeId =
      if decision.nodeId = nodeId then
        some (approvalNodeState decision.nodeId (decisionOutcome decision.outcome) decided)
      else current.stateOf nodeId := by
  unfold decidedStates
  rw [Dict.get?_set]
  split
  · rfl
  · rename_i other
    have unique := current.wellFormed.uniqueNodes
    have fewer : ((current.nodeStates.filter fun item => item.nodeId != decision.nodeId).map
        NodeCheckpointState.nodeId).Nodup := unique.sublist (List.filter_sublist.map _)
    cases found : current.stateOf nodeId with
    | none =>
      have absent := Checkpoint.stateOf_eq_none.mp found
      apply Dict.get?_setAll_of_not_mem
      intro member
      obtain ⟨state, inside, same⟩ := List.mem_map.mp member
      exact absent state (List.mem_filter.mp inside).1 same
    | some state =>
      obtain ⟨member, rfl⟩ := Checkpoint.stateOf_eq_some.mp found
      apply Dict.get?_setAll_of_mem NodeCheckpointState.nodeId id .empty fewer
      exact List.mem_filter.mpr ⟨member, by simpa using Ne.symm other⟩

/-- The checkpoint that is submitted with a decision. -/
theorem Decides.of_built {definition : WorkflowDefinition} {current next : Checkpoint}
    {decision : ApprovalDecision} {approval decided : ApprovalCheckpointState}
    (found : approvalState current decision.approvalId = .ok approval)
    (made : ApprovalCheckpointState.decide approval.request decision = .ok decided)
    (built : Built (some current) (decidedStates current decision decided).values
      (pendingAfter definition (insert decision.nodeId
        (completedOf (decidedStates current decision decided).values)))
      current.sideEffects (decidedApprovals current.approvals decision.approvalId decided) next) :
    Decides definition current next decision approval decided := by
  have recorded := get?_decidedStates current decision decided
  have keyed : Keyed (decidedStates current decision decided) := by
    intro nodeId state held
    rw [recorded] at held
    split at held
    · cases held
      assumption
    · exact (Checkpoint.stateOf_eq_some.mp held).2
  refine ⟨⟨built.linked, built.numbered, ?_, .inl built.sideEffects⟩, approvalState_ok found, made,
    ?_, built.approvals⟩
  · intro nodeId
    rw [stateOf_sorted keyed built.nodeStates, recorded]
    rfl
  · intro nodeId
    rw [built.pendingNodes, mem_sortNodes, mem_pendingAfter, Finset.mem_insert, not_or,
      built.nodeStates, completedOf_sortStates]
    tauto

end WorkflowProgress

end CongeriesCore
