import CongeriesCore.KahnSort
import CongeriesCore.WorkflowValidation

/-! # The graph of a valid workflow

The loop that orders the nodes takes the least ready one at each turn; the loop over the
dependencies closes the nodes that the workflow input reaches. Both are exact, and so is the
validator. -/

namespace CongeriesCore

namespace WorkflowValidator

open KahnSort TopologicalOrder

variable {definition : WorkflowDefinition}

/-! ### Counting dependencies -/

@[simp] theorem count_add (counts : Dict NodeId ℤ) (node other : NodeId) (change : ℤ) :
    count (add counts node change) other =
      if node = other then count counts other + change else count counts other := by
  unfold add
  rw [count, Dict.get?_set]
  split
  · rename_i same
    rw [same]
    rfl
  · rfl

/-- Nodes and dependencies are unique, and dependencies join declared nodes. -/
structure Joined (definition : WorkflowDefinition) : Prop where
  nodes : definition.nodeIds.Nodup
  unique : (definition.dependencies.map WorkflowDependency.key).Nodup
  source : ∀ source target, definition.Depends source target → source ∈ definition.nodeIds
  target : ∀ source target, definition.Depends source target → target ∈ definition.nodeIds

theorem Joined.sources (joined : Joined definition) : ∀ source target,
    definition.Depends source target → source ∈ definition.nodeIds.toFinset :=
  fun source target depends => List.mem_toFinset.mpr (joined.source source target depends)

theorem Joined.targets (joined : Joined definition) : ∀ source target,
    definition.Depends source target → target ∈ definition.nodeIds.toFinset :=
  fun source target depends => List.mem_toFinset.mpr (joined.target source target depends)

/-- Where dependencies are unique, a node waits for as many as it has sources. -/
theorem countP_target (joined : Joined definition) (node : NodeId) :
    definition.dependencies.countP (fun dependency => dependency.targetNodeId = node) =
      unmet definition.Depends definition.nodeIds.toFinset ∅ node := by
  let sources := (definition.dependencies.filter fun dependency =>
    dependency.targetNodeId = node).map WorkflowDependency.sourceNodeId
  have keys : (sources.map fun source => (source, node)).Nodup := by
    have same : sources.map (fun source => (source, node)) =
        (definition.dependencies.filter fun dependency =>
          dependency.targetNodeId = node).map WorkflowDependency.key := by
      unfold sources
      rw [List.map_map]
      refine List.map_congr_left fun dependency member => ?_
      have target := (List.mem_filter.mp member).2
      rw [decide_eq_true_eq] at target
      simp [WorkflowDependency.key, target]
    rw [same]
    exact joined.unique.sublist (List.filter_sublist.map _)
  have members : sources.toFinset =
      (definition.nodeIds.toFinset \ ∅).filter fun source => definition.Depends source node := by
    ext source
    rw [Finset.sdiff_empty, Finset.mem_filter]
    unfold sources WorkflowDefinition.Depends
    simp only [List.mem_toFinset, List.mem_map, List.mem_filter, decide_eq_true_eq,
      WorkflowDependency.key, Prod.mk.injEq]
    constructor
    · rintro ⟨dependency, ⟨member, target⟩, source⟩
      have depends : definition.Depends dependency.sourceNodeId dependency.targetNodeId :=
        List.mem_map.mpr ⟨dependency, member, rfl⟩
      exact ⟨source ▸ joined.source _ _ depends, dependency, member, source, target⟩
    · rintro ⟨-, dependency, member, source, target⟩
      exact ⟨dependency, ⟨member, target⟩, source⟩
  unfold unmet
  rw [← members, List.toFinset_card_of_nodup (keys.of_map _), List.countP_eq_length_filter,
    List.length_map]

theorem count_incoming (joined : Joined definition) (node : NodeId) :
    count (incoming definition) node =
      unmet definition.Depends definition.nodeIds.toFinset ∅ node := by
  have zero : ∀ (nodes : List NodeId) (counts : Dict NodeId ℤ), count counts node = 0 →
      count (counts.setAll id (fun _ => 0) nodes) node = 0 := by
    intro nodes
    induction nodes with
    | nil => exact fun _ held => held
    | cons first nodes ih =>
      intro counts held
      apply ih
      rw [count, Dict.get?_set]
      split
      · rfl
      · exact held
  have counted : ∀ (dependencies : List WorkflowDependency) (counts : Dict NodeId ℤ),
      count (dependencies.foldl (fun counts dependency =>
        add counts dependency.targetNodeId 1) counts) node =
      count counts node + dependencies.countP fun dependency => dependency.targetNodeId = node := by
    intro dependencies
    induction dependencies with
    | nil => simp
    | cons dependency dependencies ih =>
      intro counts
      rw [List.foldl_cons, ih, count_add, List.countP_cons]
      by_cases target : dependency.targetNodeId = node
      · simp [target]
        omega
      · simp [target]
  unfold incoming
  rw [counted, zero _ .empty rfl, zero_add, countP_target joined]

/-! ### One turn of the loop -/

theorem mem_outgoing {current node : NodeId} :
    node ∈ outgoing definition current ↔ definition.Depends current node := by
  unfold outgoing WorkflowDefinition.Depends
  simp only [List.mem_map, List.mem_filter, beq_iff_eq, WorkflowDependency.key, Prod.mk.injEq]
  constructor
  · rintro ⟨dependency, ⟨member, source⟩, target⟩
    exact ⟨dependency, member, source, target⟩
  · rintro ⟨dependency, member, source, target⟩
    exact ⟨dependency, ⟨member, source⟩, target⟩

theorem outgoing_nodup (unique : (definition.dependencies.map WorkflowDependency.key).Nodup)
    (current : NodeId) : (outgoing definition current).Nodup := by
  have keys : ((outgoing definition current).map fun target => (current, target)).Nodup := by
    have same : (outgoing definition current).map (fun target => (current, target)) =
        (definition.dependencies.filter fun dependency =>
          dependency.sourceNodeId == current).map WorkflowDependency.key := by
      unfold outgoing
      rw [List.map_map]
      refine List.map_congr_left fun dependency member => ?_
      have source := (List.mem_filter.mp member).2
      rw [beq_iff_eq] at source
      simp [WorkflowDependency.key, source]
    rw [same]
    exact unique.sublist (List.filter_sublist.map _)
  exact keys.of_map _

theorem release_released (pending : Pending) (target : NodeId)
    (sorted : pending.ready.Pairwise (· ≤ ·)) (nodup : pending.ready.Nodup)
    (apart : target ∉ pending.ready) : Released [target] (count pending.incoming)
      (count (release pending target).incoming) pending.ready (release pending target).ready := by
  have kept : (release pending target).incoming = add pending.incoming target (-1) := by
    unfold release
    dsimp only
    split <;> rfl
  rw [kept]
  apply released_one _ sorted nodup apart
  · intro zero
    have joins : (release pending target).ready = sortNodes (pending.ready ++ [target]) := by
      unfold release
      rw [if_pos zero]
    rw [joins]
    exact ⟨sortNodes_sorted _, sortNodes_perm _⟩
  · intro more
    unfold release
    rw [if_neg more]
  · intro node
    rw [count_add]
    by_cases same : target = node
    · simp [same]
      omega
    · have other : node ≠ target := fun equal => same equal.symm
      simp [same, other]

/-! ### The order of the nodes -/

theorem progress_initially (joined : Joined definition) :
    KahnSort.Progress definition.Depends definition.nodeIds.toFinset ∅ (count (incoming definition))
      (initiallyReady definition) := by
  apply progress_start joined.sources (count_incoming joined) (sortNodes_sorted _)
  · exact (sortNodes_perm _).nodup_iff.mpr (joined.nodes.filter _)
  · intro node
    simp only [initiallyReady, mem_sortNodes, List.mem_filter, decide_eq_true_eq, List.mem_toFinset]

/-- The next node is the least ready one, and the loop goes on knowing as much. -/
theorem progress_step (joined : Joined definition) {done : Finset NodeId} {current : NodeId}
    {counts : Dict NodeId ℤ} {rest : List NodeId}
    (progress : KahnSort.Progress definition.Depends definition.nodeIds.toFinset done (count counts)
      (current :: rest)) :
    let next := (sortNodes (outgoing definition current)).foldl release ⟨counts, rest⟩
    KahnSort.Progress definition.Depends definition.nodeIds.toFinset (insert current done)
      (count next.incoming) next.ready := by
  have targets : ∀ node, node ∈ sortNodes (outgoing definition current) ↔
      definition.Depends current node := fun node => mem_sortNodes.trans mem_outgoing
  have distinct : (sortNodes (outgoing definition current)).Nodup :=
    (sortNodes_perm _).nodup_iff.mpr (outgoing_nodup joined.unique current)
  have irreflexive : ∀ node, ¬ definition.Depends node node := fun _ depends => depends.distinct rfl
  apply progress.step joined.sources joined.targets irreflexive targets
  exact foldl_released (fun pending => count pending.incoming) Pending.ready release_released distinct
    ⟨counts, rest⟩ (List.pairwise_cons.mp progress.sorted).2 (List.nodup_cons.mp progress.nodup).2
    fun node target => progress.apart ((targets node).mp target)

theorem visit_greedy (joined : Joined definition) {fuel : ℕ} {done : Finset NodeId}
    {pending : Pending} (progress : KahnSort.Progress definition.Depends definition.nodeIds.toFinset done
      (count pending.incoming) pending.ready)
    (enough : definition.nodeIds.toFinset.card ≤ fuel + done.card) :
    Greedy definition.Depends definition.nodeIds.toFinset done (visit definition fuel pending) := by
  induction fuel generalizing done pending with
  | zero => exact .stop (progress.finished (by omega))
  | succ fuel ih =>
    obtain ⟨counts, ready⟩ := pending
    cases ready with
    | nil => exact .stop progress.stuck
    | cons current rest =>
      refine .take progress.least (ih (progress_step joined progress) ?_)
      rw [Finset.card_insert_of_notMem progress.least.1.left]
      omega

/-- The loop orders all the nodes if and only if the graph has no cycle. -/
theorem topologicalOrder_ok (joined : Joined definition) {order : List NodeId} :
    topologicalOrder definition = .ok order ↔ Acyclic definition.Depends ∧
      Greedy definition.Depends definition.nodeIds.toFinset ∅ order := by
  have bounded : definition.nodeIds.toFinset.card = definition.nodes.length := by
    rw [List.toFinset_card_of_nodup joined.nodes, WorkflowDefinition.nodeIds, List.length_map]
  have greedy : Greedy definition.Depends definition.nodeIds.toFinset ∅
      (visit definition definition.nodes.length ⟨incoming definition, initiallyReady definition⟩) :=
    visit_greedy joined (progress_initially joined) (by simp [bounded])
  have complete := greedy.complete_iff joined.sources joined.targets
  rw [bounded] at complete
  constructor
  · intro ordered
    obtain ⟨_, checked, same⟩ := bind_ok ordered
    obtain rfl := Except.ok.inj same
    exact ⟨complete.mp (beq_iff_eq.mp (ensure_eq_ok.mp checked)), greedy⟩
  · intro both
    obtain ⟨acyclic, other⟩ := both
    obtain rfl := other.unique greedy
    unfold topologicalOrder
    simp only [complete.mpr acyclic, beq_self_eq_true, ensure, if_true]
    rfl

/-! ### Reachable nodes -/

/-- Dependencies lead out of no such set. -/
def Closed (definition : WorkflowDefinition) (nodes : Finset NodeId) : Prop :=
  ∀ source target, definition.Depends source target → source ∈ nodes → target ∈ nodes

theorem subset_foldl_follow (dependencies : List WorkflowDependency) (nodes : Finset NodeId) :
    nodes ⊆ dependencies.foldl follow nodes := by
  induction dependencies generalizing nodes with
  | nil => exact Finset.Subset.refl nodes
  | cons dependency dependencies ih =>
    refine Finset.Subset.trans ?_ (ih (follow nodes dependency))
    unfold follow
    split
    · exact Finset.subset_insert _ _
    · exact Finset.Subset.refl nodes

theorem target_mem_foldl_follow {dependencies : List WorkflowDependency} {nodes : Finset NodeId}
    {dependency : WorkflowDependency} (member : dependency ∈ dependencies)
    (source : dependency.sourceNodeId ∈ nodes) :
    dependency.targetNodeId ∈ dependencies.foldl follow nodes := by
  induction dependencies generalizing nodes with
  | nil => cases member
  | cons first dependencies ih =>
    rw [List.foldl_cons]
    rcases List.mem_cons.mp member with rfl | later
    · apply subset_foldl_follow dependencies
      rw [follow, if_pos source]
      exact Finset.mem_insert_self _ _
    · exact ih later (subset_foldl_follow [first] nodes source)

/-- A pass adds only targets of what is reached. -/
theorem foldl_follow_forall (reached : NodeId → Prop) {dependencies : List WorkflowDependency}
    {nodes : Finset NodeId} (start : ∀ node ∈ nodes, reached node)
    (goes : ∀ dependency ∈ dependencies, reached dependency.sourceNodeId →
      reached dependency.targetNodeId) :
    ∀ node ∈ dependencies.foldl follow nodes, reached node := by
  induction dependencies generalizing nodes with
  | nil => exact start
  | cons dependency dependencies ih =>
    refine ih ?_ fun other member => goes other (by simp [member])
    unfold follow
    split
    · rename_i source
      intro node member
      rcases Finset.mem_insert.mp member with rfl | member
      · exact goes dependency (by simp) (start _ source)
      · exact start node member
    · exact start

theorem depends_of_mem {dependency : WorkflowDependency}
    (member : dependency ∈ definition.dependencies) :
    definition.Depends dependency.sourceNodeId dependency.targetNodeId :=
  List.mem_map.mpr ⟨dependency, member, rfl⟩

theorem closed_of_reachOnce {nodes : Finset NodeId} (same : reachOnce definition nodes = nodes) :
    Closed definition nodes := by
  intro source target depends member
  obtain ⟨dependency, declared, key⟩ := List.mem_map.mp depends
  obtain ⟨rfl, rfl⟩ := Prod.mk.inj key
  rw [← same]
  exact target_mem_foldl_follow declared member

def targets (definition : WorkflowDefinition) : Finset NodeId :=
  (definition.dependencies.map WorkflowDependency.targetNodeId).toFinset

theorem mem_targets {source target : NodeId} (depends : definition.Depends source target) :
    target ∈ targets definition := by
  obtain ⟨dependency, declared, key⟩ := List.mem_map.mp depends
  obtain ⟨rfl, rfl⟩ := Prod.mk.inj key
  exact List.mem_toFinset.mpr (List.mem_map_of_mem declared)

/-- The passes end in a closed set: one that changes something adds one of the targets. -/
theorem reach_closed {fuel : ℕ} {nodes : Finset NodeId}
    (enough : (targets definition \ nodes).card ≤ fuel) :
    Closed definition (reach definition fuel nodes) := by
  induction fuel generalizing nodes with
  | zero =>
    intro source target depends _
    have none := Finset.card_eq_zero.mp (Nat.le_zero.mp enough)
    exact Finset.sdiff_eq_empty_iff_subset.mp none (mem_targets depends)
  | succ fuel ih =>
    unfold reach
    dsimp only
    split
    · rename_i same
      exact closed_of_reachOnce same
    · rename_i changed
      have grows : nodes ⊆ reachOnce definition nodes := subset_foldl_follow _ nodes
      obtain ⟨node, added, fresh⟩ : ∃ node ∈ reachOnce definition nodes, node ∉ nodes := by
        by_contra none
        push Not at none
        exact changed (Finset.Subset.antisymm none grows)
      have target : node ∈ targets definition := by
        have found : node ∈ nodes ∨ node ∈ targets definition :=
          foldl_follow_forall (fun node => node ∈ nodes ∨ node ∈ targets definition)
            (fun _ member => .inl member)
            (fun dependency member _ => .inr (mem_targets (depends_of_mem member))) node added
        exact found.resolve_left fresh
      have fewer : (targets definition \ reachOnce definition nodes).card <
          (targets definition \ nodes).card := by
        apply Finset.card_lt_card
        refine ⟨Finset.sdiff_subset_sdiff (Finset.Subset.refl _) grows, fun all => ?_⟩
        exact (Finset.mem_sdiff.mp (all (Finset.mem_sdiff.mpr ⟨target, fresh⟩))).2 added
      exact ih (by omega)

theorem subset_reach (fuel : ℕ) (nodes : Finset NodeId) : nodes ⊆ reach definition fuel nodes := by
  induction fuel generalizing nodes with
  | zero => exact Finset.Subset.refl nodes
  | succ fuel ih =>
    unfold reach
    dsimp only
    split
    · exact Finset.Subset.refl nodes
    · exact (subset_foldl_follow _ nodes).trans (ih _)

theorem reach_forall (reached : NodeId → Prop) {fuel : ℕ} {nodes : Finset NodeId}
    (start : ∀ node ∈ nodes, reached node)
    (goes : ∀ source target, definition.Depends source target → reached source → reached target) :
    ∀ node ∈ reach definition fuel nodes, reached node := by
  induction fuel generalizing nodes with
  | zero => exact start
  | succ fuel ih =>
    unfold reach
    dsimp only
    split
    · exact start
    · exact ih (foldl_follow_forall reached start fun dependency member =>
        goes _ _ (depends_of_mem member))

/-- The loop finds the nodes that dependencies lead to from the workflow input. -/
theorem mem_reachable {node : NodeId} : node ∈ reachable definition ↔
    ∃ entry ∈ entryNodes definition, Relation.ReflTransGen definition.Depends entry node := by
  constructor
  · apply reach_forall fun node => ∃ entry ∈ entryNodes definition,
      Relation.ReflTransGen definition.Depends entry node
    · intro entry member
      exact ⟨entry, List.mem_toFinset.mp member, .refl⟩
    · intro source target depends ⟨entry, member, leads⟩
      exact ⟨entry, member, leads.tail depends⟩
  · rintro ⟨entry, member, leads⟩
    have closed : Closed definition (reachable definition) := by
      refine reach_closed ?_
      refine (Finset.card_le_card Finset.sdiff_subset).trans ?_
      have bounded := List.toFinset_card_le
        (definition.dependencies.map WorkflowDependency.targetNodeId)
      simpa [targets] using bounded
    induction leads with
    | refl => exact subset_reach _ _ (List.mem_toFinset.mpr member)
    | tail _ depends ih => exact closed _ _ depends ih

/-! ### What the validator accepts -/

/-- The graph of a definition is sound: the nodes, dependencies and bindings fit together. -/
structure WellFormed (definition : WorkflowDefinition) : Prop where
  joined : Joined definition
  acyclic : Acyclic definition.Depends
  inputs : ∀ node ∈ definition.nodes, ∀ binding ∈ node.inputBindings,
    binding.source = .workflowInput → node.inputSchema = some definition.inputSchema
  outputs : ∀ node ∈ definition.nodes, ∀ binding ∈ node.inputBindings,
    ∀ sourceId, binding.sourceNodeId = some sourceId →
      ∃ source ∈ definition.nodes, source.nodeId = sourceId ∧
        (∃ dependency ∈ definition.dependencies, dependency.key = (sourceId, node.nodeId) ∧
          dependency.carriesOutput = true) ∧ source.outputSchema = node.inputSchema
  bound : ∀ dependency ∈ definition.dependencies, dependency.carriesOutput = true →
    ∃ target ∈ definition.nodes, target.nodeId = dependency.targetNodeId ∧
      ∃ binding ∈ target.inputBindings, binding.sourceNodeId = some dependency.sourceNodeId
  required : definition.outputBinding.required = true
  output : ∃ source ∈ definition.nodes, source.nodeId = definition.outputBinding.sourceNodeId ∧
    source.outputSchema = some definition.outputSchema
  reached : ∃ entry ∈ definition.nodes,
    (∃ binding ∈ entry.inputBindings, binding.source = .workflowInput) ∧
    Relation.ReflTransGen definition.Depends entry.nodeId definition.outputBinding.sourceNodeId

/-- The policy, the schemas and each node by itself pass their own checks. -/
structure OwnChecks (validator : WorkflowValidator) (definition : WorkflowDefinition) : Prop where
  policy : validatePolicy definition = .ok ()
  input : validator.schemas.contains definition.inputSchema = true
  output : validator.schemas.contains definition.outputSchema = true
  nodes : ∀ node ∈ definition.nodes, validator.validateNode node = .ok ()

theorem forM_eq_ok {α : Type} {items : List α} {check : α → Except Raised Unit} {done : Unit} :
    items.forM check = .ok done ↔ ∀ item ∈ items, check item = .ok () := by
  induction items with
  | nil =>
    simp only [List.not_mem_nil, false_imp_iff, implies_true, iff_true]
    rfl
  | cons item items ih =>
    rw [List.forall_mem_cons, ← ih]
    change (check item >>= fun _ => items.forM check) = .ok done ↔ _
    cases checked : check item with
    | ok passed => exact (and_iff_right rfl).symm
    | error error =>
      constructor
      · intro impossible
        cases impossible
      · rintro ⟨impossible, -⟩
        cases impossible

theorem validateDependency_ok {dependency : WorkflowDependency} :
    validateDependency definition dependency = .ok () ↔
      dependency.sourceNodeId ∈ definition.nodeIds ∧
        dependency.targetNodeId ∈ definition.nodeIds := by
  simp [validateDependency]

theorem joined_iff : Joined definition ↔ definition.nodeIds.Nodup ∧
    (definition.dependencies.map WorkflowDependency.key).Nodup ∧
    ∀ dependency ∈ definition.dependencies, validateDependency definition dependency = .ok () := by
  constructor
  · intro joined
    refine ⟨joined.nodes, joined.unique, fun dependency member => ?_⟩
    have depends := depends_of_mem member
    exact validateDependency_ok.mpr ⟨joined.source _ _ depends, joined.target _ _ depends⟩
  · intro ⟨nodes, unique, checked⟩
    refine ⟨nodes, unique, ?_, ?_⟩
    · intro source target depends
      obtain ⟨dependency, member, key⟩ := List.mem_map.mp depends
      obtain ⟨rfl, rfl⟩ := Prod.mk.inj key
      exact (validateDependency_ok.mp (checked dependency member)).1
    · intro source target depends
      obtain ⟨dependency, member, key⟩ := List.mem_map.mp depends
      obtain ⟨rfl, rfl⟩ := Prod.mk.inj key
      exact (validateDependency_ok.mp (checked dependency member)).2

theorem dependency?_any (unique : (definition.dependencies.map WorkflowDependency.key).Nodup)
    {source target : NodeId} :
    (dependency? definition source target).any WorkflowDependency.carriesOutput = true ↔
      ∃ dependency ∈ definition.dependencies, dependency.key = (source, target) ∧
        dependency.carriesOutput = true := by
  unfold dependency?
  rw [Option.any_eq_true]
  constructor
  · rintro ⟨dependency, found, carries⟩
    have key := List.find?_some found
    have member := List.mem_reverse.mp (List.mem_of_find?_eq_some found)
    exact ⟨dependency, member, by simpa using key, carries⟩
  · rintro ⟨dependency, member, key, carries⟩
    obtain ⟨other, found⟩ : ∃ other, definition.dependencies.reverse.find?
        (fun dependency => dependency.key == (source, target)) = some other := by
      rw [← Option.isSome_iff_exists, List.find?_isSome]
      exact ⟨dependency, List.mem_reverse.mpr member, by simp [key]⟩
    have same := List.find?_some found
    rw [beq_iff_eq] at same
    have inside := List.mem_reverse.mp (List.mem_of_find?_eq_some found)
    obtain rfl := List.inj_on_of_nodup_map unique inside member (same.trans key.symm)
    exact ⟨other, found, carries⟩

/-- A declared node with some property. -/
theorem exists_node {definition : WorkflowDefinition} (unique : definition.nodeIds.Nodup)
    {nodeId : NodeId} {node : WorkflowNode} (found : definition.node? nodeId = some node)
    {property : WorkflowNode → Prop} :
    (∃ other ∈ definition.nodes, other.nodeId = nodeId ∧ property other) ↔ property node := by
  obtain ⟨member, own⟩ := WorkflowDefinition.mem_of_node? found
  constructor
  · rintro ⟨other, inside, same, holds⟩
    have equal := WorkflowDefinition.node?_of_mem unique inside
    rw [same, found] at equal
    exact Option.some.inj equal ▸ holds
  · intro holds
    exact ⟨node, member, own, holds⟩

theorem not_exists_node {definition : WorkflowDefinition} {nodeId : NodeId}
    (absent : definition.node? nodeId = none) {property : WorkflowNode → Prop} :
    ¬ ∃ other ∈ definition.nodes, other.nodeId = nodeId ∧ property other := by
  rintro ⟨other, inside, rfl, -⟩
  have declared := WorkflowDefinition.node?_isSome.mpr
    (List.mem_map_of_mem inside : other.nodeId ∈ definition.nodeIds)
  rw [absent] at declared
  cases declared

theorem validateBinding_ok (joined : Joined definition) {node : WorkflowNode}
    {binding : WorkflowInputBinding} : validateBinding definition node binding = .ok () ↔
      (binding.source = .workflowInput → node.inputSchema = some definition.inputSchema) ∧
      ∀ sourceId, binding.sourceNodeId = some sourceId →
        ∃ source ∈ definition.nodes, source.nodeId = sourceId ∧
          (∃ dependency ∈ definition.dependencies, dependency.key = (sourceId, node.nodeId) ∧
            dependency.carriesOutput = true) ∧ source.outputSchema = node.inputSchema := by
  unfold validateBinding
  have exact_ := binding.exact
  by_cases input : binding.source = .workflowInput
  · have none : binding.sourceNodeId = none := by
      rw [input] at exact_
      simpa using exact_
    simp [input, none]
  · have some_ : binding.sourceNodeId.isSome = true := by
      refine exact_.mp ?_
      cases given : binding.source with
      | workflowInput => exact absurd given input
      | nodeOutput => rfl
    obtain ⟨sourceId, named⟩ := Option.isSome_iff_exists.mp some_
    rw [if_neg input, named]
    simp only [input, false_imp_iff, true_and, Option.some.injEq, forall_eq']
    cases found : definition.node? sourceId with
    | none =>
      constructor
      · intro impossible
        cases impossible
      · intro declared
        exact absurd declared (not_exists_node found)
    | some source =>
      rw [exists_node joined.nodes found, ← dependency?_any joined.unique]
      dsimp only
      constructor
      · intro checked
        obtain ⟨_, carries, rest⟩ := bind_ok checked
        exact ⟨ensure_eq_ok.mp carries, beq_iff_eq.mp (ensure_eq_ok.mp rest)⟩
      · intro ⟨carries, same⟩
        rw [carries, same]
        simp [ensure, bind, Except.bind]

theorem validateBound_ok (joined : Joined definition) {dependency : WorkflowDependency} :
    validateBound definition dependency = .ok () ↔ (dependency.carriesOutput = true →
      ∃ target ∈ definition.nodes, target.nodeId = dependency.targetNodeId ∧
        ∃ binding ∈ target.inputBindings, binding.sourceNodeId = some dependency.sourceNodeId) := by
  unfold validateBound
  cases carries : dependency.carriesOutput with
  | false => simp
  | true =>
    simp only [if_true, true_imp_iff]
    cases found : definition.node? dependency.targetNodeId with
    | none =>
      constructor
      · intro impossible
        cases impossible
      · intro declared
        exact absurd declared (not_exists_node found)
    | some target =>
      rw [exists_node joined.nodes found]
      simp

theorem validateRequiredOutput_ok (joined : Joined definition) :
    validateRequiredOutput definition = .ok () ↔ definition.outputBinding.required = true ∧
      (∃ source ∈ definition.nodes, source.nodeId = definition.outputBinding.sourceNodeId ∧
        source.outputSchema = some definition.outputSchema) ∧
      definition.outputBinding.sourceNodeId ∈ reachable definition := by
  unfold validateRequiredOutput
  dsimp only
  cases found : definition.node? definition.outputBinding.sourceNodeId with
  | none =>
    constructor
    · intro impossible
      cases impossible
    · rintro ⟨-, declared, -⟩
      exact absurd declared (not_exists_node found)
  | some source =>
    rw [exists_node joined.nodes found]
    dsimp only
    constructor
    · intro checked
      obtain ⟨_, required, rest⟩ := bind_ok checked
      obtain ⟨_, schema, reached⟩ := bind_ok rest
      exact ⟨ensure_eq_ok.mp required, beq_iff_eq.mp (ensure_eq_ok.mp schema),
        of_decide_eq_true (ensure_eq_ok.mp reached)⟩
    · intro ⟨required, schema, reached⟩
      simp [required, schema, reached, ensure, bind, Except.bind]

theorem mem_entryNodes {nodeId : NodeId} : nodeId ∈ entryNodes definition ↔
    ∃ entry ∈ definition.nodes, entry.nodeId = nodeId ∧
      ∃ binding ∈ entry.inputBindings, binding.source = .workflowInput := by
  simp only [entryNodes, List.mem_map, List.mem_filter, List.any_eq_true, beq_iff_eq]
  constructor
  · rintro ⟨entry, ⟨member, bound⟩, same⟩
    exact ⟨entry, member, same, bound⟩
  · rintro ⟨entry, member, same, bound⟩
    exact ⟨entry, ⟨member, bound⟩, same⟩

/-- The validator returns the greedy order of the graph exactly where the checks pass and the
graph is well formed. -/
theorem validate_ok {validator : WorkflowValidator} {workflow : ValidatedWorkflow} :
    validator.validate definition = .ok workflow ↔ OwnChecks validator definition ∧
      WellFormed definition ∧ workflow.definition = definition ∧
      Greedy definition.Depends definition.nodeIds.toFinset ∅ workflow.topologicalOrder := by
  constructor
  · intro validated
    obtain ⟨_, policy, rest⟩ := bind_ok validated
    obtain ⟨_, input, rest⟩ := bind_ok rest
    obtain ⟨_, output, rest⟩ := bind_ok rest
    obtain ⟨_, uniqueNodes, rest⟩ := bind_ok rest
    obtain ⟨_, nodes, rest⟩ := bind_ok rest
    obtain ⟨_, unique, rest⟩ := bind_ok rest
    obtain ⟨_, joins, rest⟩ := bind_ok rest
    obtain ⟨order, ordered, rest⟩ := bind_ok rest
    obtain ⟨_, bindings, rest⟩ := bind_ok rest
    obtain ⟨_, required, made⟩ := bind_ok rest
    obtain rfl := Except.ok.inj made
    obtain ⟨_, bindings, bounds⟩ := bind_ok bindings
    have joined : Joined definition := joined_iff.mpr
      ⟨of_decide_eq_true (ensure_eq_ok.mp uniqueNodes), of_decide_eq_true (ensure_eq_ok.mp unique),
        forM_eq_ok.mp joins⟩
    have bindings : ∀ node ∈ definition.nodes, ∀ binding ∈ node.inputBindings,
        validateBinding definition node binding = .ok () := fun node member =>
      forM_eq_ok.mp (forM_eq_ok.mp bindings node member)
    obtain ⟨acyclic, greedy⟩ := (topologicalOrder_ok joined).mp ordered
    obtain ⟨required, source, reached⟩ := (validateRequiredOutput_ok joined).mp required
    obtain ⟨entry, bound, leads⟩ := mem_reachable.mp reached
    obtain ⟨node, member, rfl, input'⟩ := mem_entryNodes.mp bound
    exact ⟨⟨policy, ensure_eq_ok.mp input, ensure_eq_ok.mp output, forM_eq_ok.mp nodes⟩,
      { joined := joined
        acyclic := acyclic
        inputs := fun node member binding bound =>
          ((validateBinding_ok joined).mp (bindings node member binding bound)).1
        outputs := fun node member binding bound =>
          ((validateBinding_ok joined).mp (bindings node member binding bound)).2
        bound := fun dependency member =>
          (validateBound_ok joined).mp (forM_eq_ok.mp bounds dependency member)
        required := required
        output := source
        reached := ⟨node, member, input', leads⟩ }, rfl, greedy⟩
  · intro ⟨checks, wellFormed, same, greedy⟩
    obtain ⟨definition', order⟩ := workflow
    obtain rfl : definition' = definition := same
    have joined := wellFormed.joined
    obtain ⟨uniqueNodes, unique, joins⟩ := joined_iff.mp joined
    have ordered := (topologicalOrder_ok joined).mpr ⟨wellFormed.acyclic, greedy⟩
    have bindings : validateBindings definition' = .ok () := by
      have each : (definition'.nodes.forM fun node =>
          node.inputBindings.forM (validateBinding definition' node)) = .ok () :=
        forM_eq_ok.mpr fun node member => forM_eq_ok.mpr fun binding bound =>
          (validateBinding_ok joined).mpr ⟨wellFormed.inputs node member binding bound,
            wellFormed.outputs node member binding bound⟩
      have bounds : definition'.dependencies.forM (validateBound definition') = .ok () :=
        forM_eq_ok.mpr fun dependency member =>
          (validateBound_ok joined).mpr (wellFormed.bound dependency member)
      unfold validateBindings
      rw [each]
      exact bounds
    have required : validateRequiredOutput definition' = .ok () := by
      obtain ⟨entry, member, bound, leads⟩ := wellFormed.reached
      exact (validateRequiredOutput_ok joined).mpr ⟨wellFormed.required, wellFormed.output,
        mem_reachable.mpr ⟨entry.nodeId, mem_entryNodes.mpr ⟨entry, member, rfl, bound⟩, leads⟩⟩
    have nodes : definition'.nodes.forM validator.validateNode = .ok () :=
      forM_eq_ok.mpr checks.nodes
    have joins : definition'.dependencies.forM (validateDependency definition') = .ok () :=
      forM_eq_ok.mpr joins
    unfold validate requireSchema
    simp only [checks.policy, checks.input, checks.output, uniqueNodes, unique, nodes, joins,
      ordered, bindings, required, ensure, decide_true, if_true, bind, Except.bind, pure,
      Except.pure]

/-- Validation is exact: it succeeds if and only if the policy, schemas and nodes pass their own
checks and the graph is well formed, and then orders the nodes by the lexicographically least
topological order. -/
theorem validate_exact (validator : WorkflowValidator) (definition : WorkflowDefinition) :
    ((∃ workflow, validator.validate definition = .ok workflow) ↔
        OwnChecks validator definition ∧ WellFormed definition) ∧
      ∀ workflow, validator.validate definition = .ok workflow →
        workflow.definition = definition ∧
        IsTopological definition.Depends definition.nodeIds.toFinset ∅
          workflow.topologicalOrder ∧
        ∀ other, IsTopological definition.Depends definition.nodeIds.toFinset ∅ other →
          workflow.topologicalOrder = other ∨
            List.Lex (· < ·) workflow.topologicalOrder other := by
  constructor
  · constructor
    · rintro ⟨workflow, validated⟩
      obtain ⟨checks, wellFormed, -⟩ := validate_ok.mp validated
      exact ⟨checks, wellFormed⟩
    · intro ⟨checks, wellFormed⟩
      obtain ⟨order, greedy⟩ := exists_greedy definition.Depends definition.nodeIds.toFinset ∅
      exact ⟨⟨definition, order⟩, validate_ok.mpr ⟨checks, wellFormed, rfl, greedy⟩⟩
  · intro workflow validated
    obtain ⟨-, wellFormed, same, greedy⟩ := validate_ok.mp validated
    exact ⟨same, greedy.isTopological wellFormed.acyclic wellFormed.joined.sources, fun _ => greedy.least⟩

end WorkflowValidator

end CongeriesCore
