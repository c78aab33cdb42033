import CongeriesCore.WorkflowTraces

/-! # The history of a run

The committed checkpoints of a run, the newest first. Each was made from the one before it by a
legal step: what holds of all of them, and of any two. -/

namespace TopologicalOrder

variable {α : Type} [LinearOrder α] {edge : α → α → Prop} {vertices done : Finset α}

theorem Greedy.drop {first rest : List α}
    (greedy : Greedy edge vertices done (first ++ rest)) :
    Greedy edge vertices (first.toFinset ∪ done) rest := by
  induction first generalizing done with
  | nil => simpa using greedy
  | cons vertex first ih =>
    cases greedy with
    | take least later =>
      have dropped := ih later
      simpa [Finset.insert_union, Finset.union_insert] using dropped

/-- What has been taken so far and the least vertex that is ready are taken in this order. -/
theorem Greedy.takes {order first : List α} {vertex : α} (greedy : Greedy edge vertices ∅ order)
    (begun : first <+: order)
    (least : IsLeast {other | Ready edge vertices first.toFinset other} vertex) :
    first ++ [vertex] <+: order := by
  obtain ⟨rest, rfl⟩ := begun
  have dropped := greedy.drop
  rw [Finset.union_empty] at dropped
  cases dropped with
  | stop stuck => exact absurd least.1 (stuck vertex)
  | @take _ other later taken _ =>
    obtain rfl := taken.unique least
    exact ⟨later, by simp⟩

end TopologicalOrder

namespace CongeriesCore.WorkflowProgress

open TopologicalOrder WorkflowRuntime WorkflowTraces

variable {definition : WorkflowDefinition} {previous next : Checkpoint}

/-- A legal step from one committed checkpoint to the next. -/
inductive LegalStep (definition : WorkflowDefinition) (previous next : Checkpoint) : Prop
  | saves {node : WorkflowNode} {state : NodeCheckpointState}
      (finished : state.outcome ≠ .waitingApproval)
      (durable : state.outcome = .succeeded → state.outputRef ≠ none)
      (progresses : Progresses definition previous next node state)
  | requests {node : WorkflowNode} {request : ApprovalRequest}
      (type : node.nodeType = WorkflowNodeType.approval.value)
      (own : request.nodeId = node.nodeId)
      (progresses : Progresses definition previous next node
        (approvalNodeState node.nodeId .waitingApproval (.pending request)))
  | decides {decision : ApprovalDecision} {approval decided : ApprovalCheckpointState}
      (undecided : approval.decision = none)
      (decides : Decides definition previous next decision approval decided)

/-! ## One step -/

/-- What a step keeps of the checkpoint before it. -/
structure Keeps (older newer : Checkpoint) : Prop where
  completed : ∀ nodeId ∈ completedOf older.nodeStates, newer.stateOf nodeId = older.stateOf nodeId
  effects : older.sideEffects <+: newer.sideEffects
  decided : ∀ approval ∈ older.approvals, approval.decision ≠ none → approval ∈ newer.approvals

theorem Keeps.completedOf {older newer : Checkpoint} (keeps : Keeps older newer) :
    completedOf older.nodeStates ⊆ completedOf newer.nodeStates := by
  intro nodeId done
  have same := keeps.completed nodeId done
  rw [Checkpoint.mem_completedOf, ← same, ← Checkpoint.mem_completedOf] at done
  exact done

theorem Keeps.refl (checkpoint : Checkpoint) : Keeps checkpoint checkpoint :=
  ⟨fun _ _ => rfl, List.prefix_refl _, fun _ member _ => member⟩

theorem Keeps.trans {first second third : Checkpoint} (one : Keeps first second)
    (two : Keeps second third) : Keeps first third := by
  refine ⟨?_, one.effects.trans two.effects, ?_⟩
  · intro nodeId done
    rw [two.completed nodeId (one.completedOf done), one.completed nodeId done]
  · intro approval member decided
    exact two.decided approval (one.decided approval member decided) decided

/-- The node is one of the definition that asks for an approval. -/
def IsApproval (definition : WorkflowDefinition) (nodeId : NodeId) : Prop :=
  ∃ node ∈ definition.nodes, node.nodeId = nodeId ∧
    node.nodeType = WorkflowNodeType.approval.value

/-- The node waits for an approval where it can be handed out. -/
structure Waits (definition : WorkflowDefinition) (checkpoint : Checkpoint) (nodeId : NodeId) :
    Prop where
  type : IsApproval definition nodeId
  recorded : ∃ state, checkpoint.stateOf nodeId = some state ∧ state.outcome = .waitingApproval
  least : IsLeast {other | Ready definition.Depends definition.nodeIds.toFinset
    (completedOf checkpoint.nodeStates) other} nodeId

/-- What a committed checkpoint records goes together. -/
structure Legal (definition : WorkflowDefinition) (checkpoint : Checkpoint) : Prop where
  declared : ∀ nodeId state, checkpoint.stateOf nodeId = some state → nodeId ∈ definition.nodeIds
  closed : ∀ nodeId state, checkpoint.stateOf nodeId = some state →
    ∀ source, definition.Depends source nodeId → source ∈ completedOf checkpoint.nodeStates
  durable : ∀ nodeId state, checkpoint.stateOf nodeId = some state → state.outcome = .succeeded →
    state.outputRef ≠ none ∨ IsApproval definition nodeId
  accounted : ∀ nodeId ∈ definition.nodeIds,
    nodeId ∈ checkpoint.pendingNodes ↔ checkpoint.stateOf nodeId = none
  waits : ∀ approval ∈ checkpoint.approvals, approval.decision = none →
    Waits definition checkpoint approval.request.nodeId
  single : ∀ approval ∈ checkpoint.approvals, ∀ other ∈ checkpoint.approvals,
    approval.decision = none → other.decision = none → approval = other
  affected : ∀ effect ∈ checkpoint.sideEffects, ∃ nodeId ∈ completedOf checkpoint.nodeStates,
    effect.operationRef.id.value = nodeId.value

theorem Opens.legal {first : Checkpoint} (opens : Opens definition first) :
    Legal definition first := by
  have unrecorded : ∀ nodeId, first.stateOf nodeId = none := by
    intro nodeId
    rw [Checkpoint.stateOf_eq_none, opens.untouched]
    simp
  refine ⟨?_, ?_, ?_, ?_, ?_, ?_, ?_⟩
  · intro nodeId state recorded
    rw [unrecorded] at recorded
    cases recorded
  · intro nodeId state recorded
    rw [unrecorded] at recorded
    cases recorded
  · intro nodeId state recorded
    rw [unrecorded] at recorded
    cases recorded
  · intro nodeId declared
    simp [opens.pending, declared, unrecorded]
  · simp [opens.unapproved]
  · simp [opens.unapproved]
  · simp [opens.unaffected]

section Records

variable {state : NodeCheckpointState}

theorem Records.keeps (records : Records previous next state)
    (left : state.nodeId ∉ completedOf previous.nodeStates)
    (decided : ∀ approval ∈ previous.approvals, approval.decision ≠ none →
      approval ∈ next.approvals) : Keeps previous next := by
  refine ⟨fun nodeId done => records.kept left done, ?_, decided⟩
  rcases records.effects with same | ⟨effect, added, -⟩
  · rw [same]
  · rw [added]
    exact List.prefix_append _ _

/-- What goes together still does when a step records the state of one node. -/
theorem Legal.records (legal : Legal definition previous) (records : Records previous next state)
    (keeps : Keeps previous next) (own : state.nodeId ∈ definition.nodeIds)
    (met : ∀ source, definition.Depends source state.nodeId →
      source ∈ completedOf previous.nodeStates)
    (durable : state.outcome = .succeeded →
      state.outputRef ≠ none ∨ IsApproval definition state.nodeId)
    (pending : ∀ nodeId, nodeId ∈ definition.nodeIds → nodeId ∉ completedOf next.nodeStates →
      nodeId ≠ state.nodeId → nodeId ∈ next.pendingNodes)
    (waits : ∀ approval ∈ next.approvals, approval.decision = none →
      Waits definition next approval.request.nodeId)
    (single : ∀ approval ∈ next.approvals, ∀ other ∈ next.approvals,
      approval.decision = none → other.decision = none → approval = other) :
    Legal definition next := by
  have recorded : ∀ nodeId other, next.stateOf nodeId = some other →
      nodeId = state.nodeId ∧ other = state ∨ previous.stateOf nodeId = some other := by
    intro nodeId other found
    rw [records.recorded] at found
    split at found
    · rename_i same
      cases found
      exact .inl ⟨same.symm, rfl⟩
    · exact .inr found
  refine ⟨?_, ?_, ?_, ?_, waits, single, ?_⟩
  · intro nodeId other found
    rcases recorded nodeId other found with ⟨rfl, rfl⟩ | earlier
    · exact own
    · exact legal.declared nodeId other earlier
  · intro nodeId other found source depends
    apply keeps.completedOf
    rcases recorded nodeId other found with ⟨rfl, rfl⟩ | earlier
    · exact met source depends
    · exact legal.closed nodeId other earlier source depends
  · intro nodeId other found
    rcases recorded nodeId other found with ⟨rfl, rfl⟩ | earlier
    · exact durable
    · exact legal.durable nodeId other earlier
  · intro nodeId declared
    constructor
    · intro awaits
      rw [Checkpoint.stateOf_eq_none]
      intro other member same
      exact next.wellFormed.disjoint other member (same ▸ awaits)
    · intro unrecorded
      apply pending nodeId declared
      · rw [Checkpoint.mem_completedOf, unrecorded]
        simp
      · rintro rfl
        rw [records.recorded, if_pos rfl] at unrecorded
        cases unrecorded
  · intro effect member
    have earlier : effect ∈ previous.sideEffects → ∃ nodeId ∈ completedOf next.nodeStates,
        effect.operationRef.id.value = nodeId.value := by
      intro old
      obtain ⟨nodeId, done, names⟩ := legal.affected effect old
      exact ⟨nodeId, keeps.completedOf done, names⟩
    rcases records.effects with same | ⟨added, appended, succeeded, names⟩
    · exact earlier (same ▸ member)
    · rw [appended, List.mem_append, List.mem_singleton] at member
      rcases member with old | rfl
      · exact earlier old
      · refine ⟨state.nodeId, ?_, names⟩
        rw [records.completed succeeded]
        exact Finset.mem_insert_self _ _

end Records

/-! ### A node that was handed out -/

section Progresses

variable {node : WorkflowNode} {state : NodeCheckpointState}

theorem Progresses.left (progresses : Progresses definition previous next node state) :
    state.nodeId ∉ completedOf previous.nodeStates := by
  rw [progresses.own]
  exact progresses.dispatched.least.1.left

theorem Progresses.keeps (progresses : Progresses definition previous next node state) :
    Keeps previous next := by
  apply Records.keeps progresses.toRecords progresses.left
  intro approval member _
  rw [progresses.approvals]
  exact List.mem_append_left _ member

/-- No approval but the one that is requested is undecided. -/
theorem Progresses.legal (legal : Legal definition previous)
    (progresses : Progresses definition previous next node state)
    (durable : state.outcome = .succeeded → state.outputRef ≠ none)
    (waits : ∀ approval ∈ state.approvalState, state.outcome = .waitingApproval →
      node.nodeType = WorkflowNodeType.approval.value ∧ approval.request.nodeId = state.nodeId) :
    Legal definition next := by
  have ready := progresses.dispatched.least.1
  have added : ∀ approval ∈ next.approvals, approval.decision = none →
      state.outcome = .waitingApproval ∧ approval ∈ state.approvalState := by
    intro approval member undecided
    rw [progresses.approvals, List.mem_append] at member
    rcases member with old | new
    · exact absurd undecided (progresses.dispatched.decided approval old)
    · split at new
      · rename_i waiting
        exact ⟨waiting, by simpa using new⟩
      · cases new
  apply Legal.records legal progresses.toRecords progresses.keeps
  · rw [progresses.own]
    exact List.mem_toFinset.mp ready.declared
  · rw [progresses.own]
    exact ready.met
  · intro succeeded
    exact .inl (durable succeeded)
  · intro nodeId declared left other
    rw [progresses.pending, ← progresses.own]
    exact ⟨declared, fun done => left (progresses.keeps.completedOf done), other⟩
  · intro approval member undecided
    obtain ⟨waiting, held⟩ := added approval member undecided
    have failed : state.outcome ≠ .succeeded := by simp [waiting]
    have unchanged := progresses.toRecords.completed_of_ne progresses.left failed
    obtain ⟨type, own⟩ := waits approval held waiting
    rw [own]
    refine ⟨⟨node, progresses.dispatched.declared, progresses.own.symm, type⟩, ?_, ?_⟩
    · refine ⟨state, ?_, waiting⟩
      rw [progresses.recorded, if_pos rfl]
    · rw [unchanged, progresses.own]
      exact progresses.dispatched.least
  · intro approval member other inside undecided open_
    obtain ⟨-, held⟩ := added approval member undecided
    obtain ⟨-, same⟩ := added other inside open_
    exact Option.mem_unique held same

end Progresses

/-! ### A decision -/

section Decides

variable {decision : ApprovalDecision} {approval decided : ApprovalCheckpointState}

theorem decide_ok {request : ApprovalRequest}
    (made : ApprovalCheckpointState.decide request decision = .ok decided) :
    decided.decision = some decision ∧ decided.request = request ∧
      decision.nodeId = request.nodeId := by
  unfold ApprovalCheckpointState.decide at made
  split at made
  · rename_i checked
    cases made
    obtain ⟨_, identity, -⟩ := bind_ok checked
    rw [requireValue_eq_ok, beq_iff_eq] at identity
    refine ⟨rfl, rfl, ?_⟩
    exact congrArg (fun identity => identity.2.2.1) identity
  · cases made

/-- The approval is the only one of its identity. -/
theorem Decides.unique (decides : Decides definition previous next decision approval decided) :
    approval ∈ previous.approvals ∧ ∀ other ∈ previous.approvals,
      other.request.approvalId = decision.approvalId → other = approval := by
  have found := decides.found
  constructor
  · have member : approval ∈ previous.approvals.filter fun item =>
        item.request.approvalId == decision.approvalId := by simp [found]
    exact (List.mem_filter.mp member).1
  · intro other inside same
    have member : other ∈ previous.approvals.filter fun item =>
        item.request.approvalId == decision.approvalId :=
      List.mem_filter.mpr ⟨inside, by simpa using same⟩
    rw [found] at member
    exact List.mem_singleton.mp member

theorem mem_decidedApprovals {approvals : List ApprovalCheckpointState} {approvalId : ApprovalId}
    {item : ApprovalCheckpointState}
    (member : item ∈ decidedApprovals approvals approvalId decided) :
    item = decided ∨ item ∈ approvals ∧ item.request.approvalId ≠ approvalId := by
  obtain ⟨earlier, inside, same⟩ := List.mem_map.mp member
  split at same
  · exact .inl same.symm
  · rename_i other
    subst same
    exact .inr ⟨inside, by simpa using other⟩

/-- The node of an approval that is decided was waiting for it. -/
theorem Decides.waiting (legal : Legal definition previous)
    (decides : Decides definition previous next decision approval decided)
    (undecided : approval.decision = none) : Waits definition previous decision.nodeId := by
  rw [(decide_ok decides.made).2.2]
  exact legal.waits approval decides.unique.1 undecided

theorem Decides.keeps (legal : Legal definition previous)
    (decides : Decides definition previous next decision approval decided)
    (undecided : approval.decision = none) : Keeps previous next := by
  apply Records.keeps decides.toRecords
  · rw [Checkpoint.mem_completedOf]
    intro done
    obtain ⟨state, found, waiting⟩ := (decides.waiting legal undecided).recorded
    obtain ⟨other, found', succeeded⟩ := done
    have found' : previous.stateOf decision.nodeId = some other := found'
    rw [found] at found'
    cases found'
    rw [waiting] at succeeded
    cases succeeded
  · intro other member resolved
    rw [decides.approvals]
    refine List.mem_map.mpr ⟨other, member, if_neg ?_⟩
    rw [beq_iff_eq]
    intro same
    rw [decides.unique.2 other member same] at resolved
    exact resolved undecided

theorem Decides.legal (legal : Legal definition previous)
    (decides : Decides definition previous next decision approval decided)
    (undecided : approval.decision = none) : Legal definition next := by
  have waits := decides.waiting legal undecided
  obtain ⟨state, found, -⟩ := waits.recorded
  -- The only approval that was undecided has been decided.
  have resolved : ∀ item ∈ next.approvals, item.decision ≠ none := by
    intro item member open_
    rw [decides.approvals] at member
    rcases mem_decidedApprovals member with rfl | ⟨inside, other⟩
    · rw [(decide_ok decides.made).1] at open_
      cases open_
    · have same := legal.single item inside approval decides.unique.1 open_ undecided
      have approvalId : approval.request.approvalId = decision.approvalId := by
        have member : approval ∈ previous.approvals.filter fun item =>
            item.request.approvalId == decision.approvalId := by simp [decides.found]
        simpa using (List.mem_filter.mp member).2
      exact other (same ▸ approvalId)
  apply Legal.records legal decides.toRecords (decides.keeps legal undecided)
  · exact legal.declared decision.nodeId state found
  · exact legal.closed decision.nodeId state found
  · intro _
    exact .inr waits.type
  · intro nodeId declared left other
    exact (decides.pending nodeId).mpr ⟨declared, left, other⟩
  · intro item member open_
    exact absurd open_ (resolved item member)
  · intro item member other _ open_
    exact absurd open_ (resolved item member)

end Decides

theorem LegalStep.kept (legal : Legal definition previous)
    (step : LegalStep definition previous next) :
    Keeps previous next ∧ Legal definition next := by
  cases step with
  | saves finished durable progresses =>
    refine ⟨progresses.keeps, progresses.legal legal durable ?_⟩
    intro approval _ waiting
    exact absurd waiting finished
  | requests type own progresses =>
    refine ⟨progresses.keeps, progresses.legal legal ?_ ?_⟩
    · intro succeeded
      cases succeeded
    · intro approval held _
      cases held
      exact ⟨type, own⟩
  | decides undecided decides =>
    exact ⟨decides.keeps legal undecided, decides.legal legal undecided⟩

theorem LegalStep.linked (step : LegalStep definition previous next) :
    next.previousCheckpointRef = some previous.ref ∧ next.sequence = previous.sequence + 1 := by
  cases step with
  | saves _ _ progresses => exact ⟨progresses.linked, progresses.numbered⟩
  | requests _ _ progresses => exact ⟨progresses.linked, progresses.numbered⟩
  | decides _ decides => exact ⟨decides.linked, decides.numbered⟩

/-- A step completes no node, or the least that was ready. -/
theorem LegalStep.completed (legal : Legal definition previous)
    (step : LegalStep definition previous next) :
    completedOf next.nodeStates = completedOf previous.nodeStates ∨ ∃ nodeId,
      IsLeast {other | Ready definition.Depends definition.nodeIds.toFinset
        (completedOf previous.nodeStates) other} nodeId ∧
      completedOf next.nodeStates = insert nodeId (completedOf previous.nodeStates) := by
  have records : ∀ state : NodeCheckpointState, Records previous next state →
      IsLeast {other | Ready definition.Depends definition.nodeIds.toFinset
        (completedOf previous.nodeStates) other} state.nodeId →
      completedOf next.nodeStates = completedOf previous.nodeStates ∨ ∃ nodeId,
        IsLeast {other | Ready definition.Depends definition.nodeIds.toFinset
          (completedOf previous.nodeStates) other} nodeId ∧
        completedOf next.nodeStates = insert nodeId (completedOf previous.nodeStates) := by
    intro state records least
    by_cases succeeded : state.outcome = .succeeded
    · exact .inr ⟨state.nodeId, least, records.completed succeeded⟩
    · exact .inl (records.completed_of_ne least.1.left succeeded)
  cases step with
  | saves _ _ progresses =>
    apply records _ progresses.toRecords
    rw [progresses.own]
    exact progresses.dispatched.least
  | requests _ _ progresses =>
    apply records _ progresses.toRecords
    rw [progresses.own]
    exact progresses.dispatched.least
  | decides undecided decides =>
    exact records _ decides.toRecords (decides.waiting legal undecided).least

/-! ## Whole histories -/

/-- The committed checkpoints of a run, the newest first. -/
inductive History (definition : WorkflowDefinition) : List Checkpoint → Prop
  | empty : History definition []
  | opens {first : Checkpoint} (opens : Opens definition first) : History definition [first]
  | follows {previous next : Checkpoint} {older : List Checkpoint}
      (earlier : History definition (previous :: older))
      (step : LegalStep definition previous next) : History definition (next :: previous :: older)

namespace History

variable {checkpoints : List Checkpoint}

theorem of_cons {newest : Checkpoint} (history : History definition (newest :: checkpoints)) :
    History definition checkpoints := by
  cases history with
  | opens _ => exact .empty
  | follows earlier _ => exact earlier

theorem of_suffix {older : List Checkpoint} (history : History definition checkpoints)
    (suffix : older <:+ checkpoints) : History definition older := by
  obtain ⟨newer, rfl⟩ := suffix
  induction newer with
  | nil => exact history
  | cons newest newer ih => exact ih history.of_cons

/-- The checkpoints are linked and numbered without a gap. -/
theorem linked {newest : Checkpoint} (history : History definition (newest :: checkpoints)) :
    newest.previousCheckpointRef = checkpoints.head?.map Checkpoint.ref ∧
      newest.sequence = checkpoints.length + 1 := by
  induction checkpoints generalizing newest with
  | nil =>
    cases history with
    | opens opens => exact ⟨opens.unlinked, opens.numbered⟩
  | cons previous older ih =>
    cases history with
    | follows earlier step =>
      obtain ⟨link, number⟩ := step.linked
      exact ⟨link, by rw [number, (ih earlier).2, List.length_cons]⟩

theorem legal (history : History definition checkpoints) :
    ∀ checkpoint ∈ checkpoints, Legal definition checkpoint := by
  induction history with
  | empty => simp
  | opens opens => simpa using Opens.legal opens
  | @follows previous next older _ step ih =>
    intro checkpoint member
    rcases List.mem_cons.mp member with rfl | earlier
    · exact (step.kept (ih previous (by simp))).2
    · exact ih checkpoint earlier

theorem keeps (history : History definition checkpoints) :
    checkpoints.Pairwise fun newer older => Keeps older newer := by
  induction history with
  | empty => exact .nil
  | opens _ => exact List.pairwise_singleton _ _
  | @follows previous next older earlier step ih =>
    have kept := (step.kept (earlier.legal previous (by simp))).1
    refine List.pairwise_cons.mpr ⟨?_, ih⟩
    intro checkpoint member
    rcases List.mem_cons.mp member with rfl | oldest
    · exact kept
    · exact ((List.pairwise_cons.mp ih).1 checkpoint oldest).trans kept

/-- What a checkpoint has completed is a beginning of the greedy order. -/
theorem scheduled {order : List NodeId} (history : History definition checkpoints)
    (greedy : Greedy definition.Depends definition.nodeIds.toFinset ∅ order) :
    ∀ checkpoint ∈ checkpoints, ∃ done, done <+: order ∧
      completedOf checkpoint.nodeStates = done.toFinset := by
  induction history with
  | empty => simp
  | @opens first opens =>
    intro checkpoint member
    obtain rfl := List.mem_singleton.mp member
    refine ⟨[], List.nil_prefix, ?_⟩
    simp [opens.untouched, completedOf]
  | @follows previous next older earlier step ih =>
    intro checkpoint member
    rcases List.mem_cons.mp member with rfl | old
    · obtain ⟨done, begun, completed⟩ := ih previous (by simp)
      rcases step.completed (earlier.legal previous (by simp)) with same | ⟨nodeId, least, more⟩
      · exact ⟨done, begun, same.trans completed⟩
      · rw [completed] at least
        refine ⟨done ++ [nodeId], greedy.takes begun least, ?_⟩
        ext other
        simp [more, completed]
    · exact ih checkpoint old

end History

end CongeriesCore.WorkflowProgress
