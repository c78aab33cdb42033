import CongeriesCore.AsyncSimulation
import CongeriesCore.WorkflowProgress

/-! # Termination of the workflow runtime

Every turn of the loop completes a node that was not, also a turn that drives the run again. The
nodes that remain bound the turns, so that the fuel of a call is never used up. -/

namespace CongeriesCore.WorkflowTermination

open AsyncProgram AsyncProgram.Program WorkflowProgress WorkflowRuntime

/-- How many nodes of the definition remain. -/
def remaining (definition : WorkflowDefinition) (completed : Finset NodeId) : ℕ :=
  (definition.nodeIds.toFinset \ completed).card

theorem remaining_lt_fuel (definition : WorkflowDefinition) (completed : Finset NodeId) :
    remaining definition completed < driveFuel definition := by
  have fewer : (definition.nodeIds.toFinset \ completed).card ≤ definition.nodeIds.toFinset.card :=
    Finset.card_le_card Finset.sdiff_subset
  have listed : definition.nodeIds.toFinset.card ≤ definition.nodeIds.length :=
    List.toFinset_card_le _
  have nodes : definition.nodeIds.length = definition.nodes.length := List.length_map _
  unfold remaining driveFuel
  omega

theorem remaining_lt {definition : WorkflowDefinition} {completed more : Finset NodeId}
    {nodeId : NodeId} (declared : nodeId ∈ definition.nodeIds.toFinset) (left : nodeId ∉ completed)
    (wider : insert nodeId completed ⊆ more) :
    remaining definition more < remaining definition completed := by
  apply Finset.card_lt_card
  rw [Finset.ssubset_iff_of_subset]
  · refine ⟨nodeId, Finset.mem_sdiff.mpr ⟨declared, left⟩, ?_⟩
    intro member
    exact (Finset.mem_sdiff.mp member).2 (wider (Finset.mem_insert_self _ _))
  · have earlier : completed ⊆ more := (Finset.subset_insert _ _).trans wider
    exact Finset.sdiff_subset_sdiff (Finset.Subset.refl _) earlier

/-- The scheduler has completed what the states at hand say has succeeded. -/
structure Tallies (definition : WorkflowDefinition) (driving : Driving) : Prop where
  workflow : driving.scheduler.definition = definition
  keyed : Keyed driving.states
  completed : ∀ nodeId ∈ driving.scheduler.completed, ∃ state,
    driving.states.get? nodeId = some state ∧ state.outcome = .succeeded

variable {definition : WorkflowDefinition} {driving : Driving} {node : WorkflowNode}

namespace Tallies

theorem start {workflow : ValidatedWorkflow} {checkpoint : Checkpoint}
    {scheduler : DeterministicScheduler} (run : WorkflowRun)
    (made : DeterministicScheduler.make workflow (completedOf checkpoint.nodeStates) =
      .ok scheduler) (outputRefs : OutputRefs) :
    scheduler.completed = completedOf checkpoint.nodeStates ∧ Tallies workflow.definition
      ⟨run, checkpoint, statesOf checkpoint.nodeStates, outputRefs, scheduler⟩ := by
  obtain ⟨_, -, same⟩ := bind_ok made
  obtain rfl := Except.ok.inj same
  refine ⟨rfl, rfl, Keyed.of_checkpoint checkpoint.get?_statesOf, ?_⟩
  intro nodeId done
  rw [Checkpoint.get?_statesOf]
  exact Checkpoint.mem_completedOf.mp done

theorem ready (tallies : Tallies definition driving) (taken : driving.scheduler.next = some node) :
    node.nodeId ∈ definition.nodeIds.toFinset ∧ node.nodeId ∉ driving.scheduler.completed := by
  have least := DeterministicScheduler.next_isLeast taken
  rw [tallies.workflow] at least
  exact ⟨least.1.declared, least.1.left⟩

/-- What had succeeded is still so once the next node has. -/
theorem succeeded (tallies : Tallies definition driving) {state : NodeCheckpointState}
    (succeeds : state.outcome = .succeeded) :
    ∀ nodeId ∈ insert state.nodeId driving.scheduler.completed, ∃ recorded,
      (driving.states.set state.nodeId state).get? nodeId = some recorded ∧
      recorded.outcome = .succeeded := by
  intro nodeId done
  rw [Dict.get?_set]
  by_cases same : state.nodeId = nodeId
  · rw [if_pos same]
    exact ⟨state, rfl, succeeds⟩
  · rw [if_neg same]
    have other : nodeId ≠ state.nodeId := Ne.symm same
    exact tallies.completed nodeId (Finset.mem_of_mem_insert_of_ne done other)

/-- The checkpoint of a node that has succeeded leaves fewer nodes. -/
theorem leaves_fewer (tallies : Tallies definition driving)
    (taken : driving.scheduler.next = some node) {state : NodeCheckpointState}
    (own : state.nodeId = node.nodeId) (succeeds : state.outcome = .succeeded)
    {stable : Checkpoint} {previous : Option Checkpoint} {pending : List NodeId}
    {effects : List SideEffectRecord} {approvals : List ApprovalCheckpointState}
    (built : Built previous (driving.states.set node.nodeId state).values pending effects approvals
      stable) :
    remaining definition (completedOf stable.nodeStates) <
      remaining definition driving.scheduler.completed := by
  obtain ⟨declared, left⟩ := tallies.ready taken
  rw [← own] at built declared left
  apply remaining_lt declared left
  intro nodeId done
  rw [Checkpoint.mem_completedOf, stateOf_sorted (tallies.keyed.set state) built.nodeStates]
  exact tallies.succeeded succeeds nodeId done

/-- So does an agent node once it is marked. -/
theorem marked (tallies : Tallies definition driving) (taken : driving.scheduler.next = some node)
    {reference : CheckpointReference} {scheduler : DeterministicScheduler} (run : WorkflowRun)
    (stable : Checkpoint) (outputRefs : OutputRefs)
    (marks : driving.scheduler.markCompleted node.nodeId = .ok scheduler) :
    Tallies definition ⟨run, stable,
      driving.states.set node.nodeId (agentState node.nodeId reference), outputRefs, scheduler⟩ ∧
      remaining definition scheduler.completed <
        remaining definition driving.scheduler.completed := by
  obtain ⟨declared, left⟩ := tallies.ready taken
  rw [DeterministicScheduler.markCompleted_ready (DeterministicScheduler.next_isLeast taken).1]
    at marks
  obtain rfl := Except.ok.inj marks
  have succeeds : (agentState node.nodeId reference).outcome = .succeeded := rfl
  refine ⟨⟨tallies.workflow, tallies.keyed.set (agentState node.nodeId reference), ?_⟩, ?_⟩
  · exact tallies.succeeded succeeds
  · exact remaining_lt declared left (Finset.Subset.refl _)

end Tallies

section Programs

variable [Sha256] {runtime : WorkflowRuntime} {workflow : ValidatedWorkflow}
  {context : WorkflowContext}

theorem returns_completeAgent {dispatched : AgentDispatch}
    (tallies : Tallies definition driving) (taken : driving.scheduler.next = some node) :
    (runtime.completeAgent definition context driving node dispatched).Returns (fun _ _ => True)
      fun next => Tallies definition next ∧ remaining definition next.scheduler.completed <
        remaining definition driving.scheduler.completed := by
  unfold completeAgent
  split
  · apply returns_bind
    intro reference
    apply returns_bind
    intro effects
    apply returns_bind
    intro stable
    apply returns_bind
    intro run
    apply returns_checked
    intro scheduler marks
    exact returns_ret (tallies.marked taken run stable _ marks)
  · exact returns_raise

/-- An evaluation drives on from a checkpoint that leaves fewer nodes. -/
theorem executeEvaluation_congr {first second : WorkflowRun → Checkpoint →
      WorkflowProgram WorkflowExecutionOutcome}
    (tallies : Tallies workflow.definition driving) (taken : driving.scheduler.next = some node)
    (same : ∀ run stable, remaining workflow.definition (completedOf stable.nodeStates) <
      remaining workflow.definition driving.scheduler.completed →
        first run stable = second run stable) :
    runtime.executeEvaluation workflow context driving node first =
      runtime.executeEvaluation workflow context driving node second := by
  unfold executeEvaluation
  split
  · rfl
  · apply bind_congr (yields_true _)
    intro access _
    apply bind_congr (yields_true _)
    intro dispatched _
    apply bind_congr (yields_true _)
    intro reference _
    apply bind_congr returns_checkpoint
    intro stable made
    apply bind_congr (yields_true _)
    intro committed _
    split
    · rename_i passed
      apply bind_congr (yields_true _)
      intro scheduler _
      have succeeds : (evaluationState node.nodeId dispatched.result.verdict reference).outcome =
          .succeeded := by simp [evaluationState, evaluationOutcome, passed]
      exact same committed stable (tallies.leaves_fewer taken rfl succeeds (made stable rfl))
    · rfl

variable [PythonText]

/-- Two loops with enough fuel are the same, whatever would follow the last of their turns. -/
theorem driveLoop_congr {first second : WorkflowRun → Checkpoint →
      WorkflowProgram WorkflowExecutionOutcome}
    {exhausted drained : WorkflowProgram WorkflowExecutionOutcome} {fuel more : ℕ}
    (tallies : Tallies workflow.definition driving)
    (enough : remaining workflow.definition driving.scheduler.completed < fuel)
    (ample : remaining workflow.definition driving.scheduler.completed < more)
    (same : ∀ run stable, remaining workflow.definition (completedOf stable.nodeStates) <
      remaining workflow.definition driving.scheduler.completed →
        first run stable = second run stable) :
    runtime.driveLoop workflow context exhausted first fuel driving =
      runtime.driveLoop workflow context drained second more driving := by
  induction fuel generalizing driving more with
  | zero => omega
  | succ fuel ih =>
    obtain ⟨more, rfl⟩ := Nat.exists_eq_succ_of_ne_zero (Nat.ne_zero_of_lt ample)
    unfold driveLoop
    split
    · rfl
    · split
      · rfl
      · rename_i node taken
        split
        · rfl
        · split
          · exact executeEvaluation_congr tallies taken same
          · split
            · rfl
            · apply andThen_congr (yields_true _)
              intro outcome _
              cases outcome with
              | error error =>
                cases error with
                | core detail => rfl
                | _ => rfl
              | ok dispatched =>
                cases failure : dispatched.result.error with
                | some detail => simp only [failure]
                | none =>
                  simp only [failure]
                  apply bind_congr (returns_completeAgent tallies taken)
                  intro next advanced
                  obtain ⟨later, fewer⟩ := advanced next rfl
                  apply ih later (by omega) (by omega)
                  intro run stable lower
                  exact same run stable (lower.trans fewer)

theorem drive_congr {exhausted drained : WorkflowProgram WorkflowExecutionOutcome} {fuel more : ℕ}
    (run : WorkflowRun) (checkpoint : Checkpoint)
    (enough : remaining workflow.definition (completedOf checkpoint.nodeStates) < fuel)
    (ample : remaining workflow.definition (completedOf checkpoint.nodeStates) < more) :
    runtime.drive workflow context exhausted fuel run checkpoint =
      runtime.drive workflow context drained more run checkpoint := by
  induction fuel generalizing more run checkpoint with
  | zero => omega
  | succ fuel ih =>
    obtain ⟨more, rfl⟩ := Nat.exists_eq_succ_of_ne_zero (Nat.ne_zero_of_lt ample)
    unfold drive
    apply bind_congr (yields_true _)
    intro pending _
    cases pending with
    | some waiting => rfl
    | none =>
      apply bind_congr (yields_true _)
      intro failure _
      cases failure with
      | some detail => rfl
      | none =>
        apply check_congr
        intro scheduler made
        obtain ⟨completed, tallies⟩ := Tallies.start run made _
        apply driveLoop_congr tallies
        · rw [completed]
          exact enough
        · rw [completed]
          exact ample
        · intro committed stable fewer
          rw [completed] at fewer
          exact ih committed stable (by omega) (by omega)

/-- Driving a run ends within its fuel: neither more of it nor what would follow its last turn makes
a difference, from whatever checkpoint. -/
theorem drive_terminates (exhausted : WorkflowProgram WorkflowExecutionOutcome) (more : ℕ)
    (run : WorkflowRun) (checkpoint : Checkpoint) :
    runtime.drive workflow context exhausted (driveFuel workflow.definition + more) run checkpoint =
      runtime.drive workflow context (.raise outOfFuel) (driveFuel workflow.definition) run
        checkpoint := by
  have few := remaining_lt_fuel workflow.definition (completedOf checkpoint.nodeStates)
  have enough : remaining workflow.definition (completedOf checkpoint.nodeStates) <
      driveFuel workflow.definition + more := by omega
  exact drive_congr run checkpoint enough few

end Programs

end CongeriesCore.WorkflowTermination
