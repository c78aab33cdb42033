import CongeriesCore.WorkflowSafety

/-! # Turns of the workflow runtime

The loop of a call, from one committed checkpoint to the next, and the calls themselves. -/

namespace CongeriesCore.WorkflowTraces

open AsyncProgram AsyncProgram.Program GatewayDispatch WorkflowProgress WorkflowRuntime

variable {runtime : WorkflowRuntime} {definition : WorkflowDefinition} {context : WorkflowContext}
  {trace after : WorkflowTrace}

/-! ## The invariant of a turn -/

/-- The policy has been asked about completed nodes only. -/
def Spent (definition : WorkflowDefinition) (context : WorkflowContext) (completed : Finset NodeId)
    (trace : WorkflowTrace) : Prop :=
  ∀ request outcome, (⟨.authorize request, outcome⟩ : WorkflowEvent) ∈ trace →
    ∃ node ∈ definition.nodes, nodeAccess node context.runtime = .ok request ∧
      node.nodeId ∈ completed

theorem Spent.grown {completed : Finset NodeId} (spent : Spent definition context completed trace)
    (grown : Grown Unasking trace after) : Spent definition context completed after := by
  intro request outcome member
  exact spent request outcome (grown.mem member fun unasking => unasking)

theorem Spent.granted {completed : Finset NodeId} {node : WorkflowNode} {request : AccessRequest}
    {grant : Grant} (spent : Spent definition context completed trace)
    (declared : node ∈ definition.nodes) (access : nodeAccess node context.runtime = .ok request)
    (granting : Granting request grant trace after) :
    Spent definition context (insert node.nodeId completed) after := by
  obtain ⟨decision, before, -, -, early, late⟩ := granting
  have unasked : ∀ op : GatewayOp workflowInterface, op.quiet → Unasking op := fun op quiet =>
    unasking_of_idle (idle_of_quiet quiet)
  intro other outcome member
  have earlier := (late.mono unasked).mem member fun unasking => unasking
  rcases List.mem_append.mp earlier with old | new
  · have older := (early.mono unasked).mem old fun unasking => unasking
    obtain ⟨one, inside, accessed, done⟩ := spent other outcome older
    exact ⟨one, inside, accessed, Finset.mem_insert_of_mem done⟩
  · cases List.mem_singleton.mp new
    exact ⟨node, declared, access, Finset.mem_insert_self _ _⟩

theorem nodeAccess_principal {node : WorkflowNode} {call : RuntimeCallContext}
    {request : AccessRequest} (access : nodeAccess node call = .ok request) :
    request.principal = .core .workflowNode ⟨node.nodeId.value, node.nodeId.checked⟩ := by
  unfold nodeAccess at access
  split at access
  · cases access
  · cases access
    rfl

/-- Requests for two nodes come from two principals. -/
theorem nodeId_of_principal {node other : WorkflowNode} {call : RuntimeCallContext}
    {request asked : AccessRequest} (access : nodeAccess node call = .ok request)
    (accessed : nodeAccess other call = .ok asked) (same : asked.principal = request.principal) :
    other.nodeId = node.nodeId := by
  rw [nodeAccess_principal access, nodeAccess_principal accessed] at same
  have values : other.nodeId.value = node.nodeId.value := by
    have ids := congrArg (fun principal => principal.id.value) same
    exact ids
  exact Identifier.ext_value values

theorem Spent.asks {checkpoint : Checkpoint} {node : WorkflowNode} {request : AccessRequest}
    (spent : Spent definition context (completedOf checkpoint.nodeStates) trace)
    (accepted : Accepted checkpoint trace)
    (dispatchable : Dispatchable definition checkpoint node)
    (access : nodeAccess node context.runtime = .ok request) :
    Asks definition context request trace := by
  refine ⟨node, checkpoint, accepted, dispatchable, access, ?_⟩
  intro other outcome member same
  obtain ⟨one, -, accessed, done⟩ := spent other outcome member
  rw [nodeId_of_principal access accessed same] at done
  exact dispatchable.least.1.left done

/-- What holds whenever the loop comes to its head. -/
structure Turn (definition : WorkflowDefinition) (context : WorkflowContext) (driving : Driving)
    (trace : WorkflowTrace) : Prop where
  accepted : Accepted driving.checkpoint trace
  tracks : Tracks definition driving
  spent : Spent definition context driving.scheduler.completed trace

/-! ## Parts of the ends of a call -/

theorem WorkflowResult.make_error {run : WorkflowRun} {output : JsonValue}
    {error : Option ErrorDetail} {outputRefs : List NodeOutputReference}
    {reference : Option CheckpointRef} {result : WorkflowResult}
    (made : WorkflowResult.make run output error outputRefs reference = .ok result) :
    result.error = error ∧ result.output = output ∧ result.finalCheckpointRef = reference := by
  unfold WorkflowResult.make at made
  split at made
  · split at made
    · cases made
      exact ⟨rfl, rfl, rfl⟩
    · split at made <;> cases made
  · cases made

theorem concludes_failure {run : WorkflowRun} {output : JsonValue} {detail : ErrorDetail}
    {outputRefs : List NodeOutputReference} {reference : Option CheckpointRef}
    {result : WorkflowResult}
    (made : WorkflowResult.make run output (some detail) outputRefs reference = .ok result) :
    Concludes runtime definition (.result result) trace := by
  intro succeeded
  rw [(WorkflowResult.make_error made).1] at succeeded
  cases succeeded

theorem only_workflowRun (runId : RunId) : (workflowRun runId).Only Idle := by
  unfold workflowRun
  apply Only.bind (only_perform.mpr trivial)
  intro run
  exact only_ofExcept

theorem only_terminate (run : WorkflowRun) (detail : ErrorDetail) :
    (terminate run detail).Only Idle := by
  unfold terminate
  exact only_ite (fun _ => only_perform.mpr trivial) fun _ => only_perform.mpr trivial

theorem only_ensureEnded {run : WorkflowRun} {ending : WorkflowProgram Run} {changed : Raised}
    (ends : ending.Only Idle) : (ensureEnded run ending changed).Only Idle := by
  unfold ensureEnded
  apply only_ite (fun _ => only_pure)
  intro _
  exact ends.bind fun _ => only_ofExcept

/-- A scheduler that is done has completed every node. -/
theorem all_completed {driving : Driving} (tracks : Tracks definition driving)
    (done : driving.scheduler.done = true) :
    ∀ nodeId ∈ definition.nodeIds, nodeId ∈ completedOf driving.checkpoint.nodeStates := by
  intro nodeId declared
  rw [← tracks.completed]
  unfold DeterministicScheduler.done at done
  rw [beq_iff_eq, tracks.workflow] at done
  have all := Finset.eq_of_subset_of_card_le tracks.known done.ge
  rw [all]
  exact List.mem_toFinset.mpr declared

theorem WorkflowSuspension.make_ok {run : WorkflowRun} {reference : CheckpointRef}
    {approval : ApprovalRequest} {suspension : WorkflowSuspension}
    (made : WorkflowSuspension.make run reference approval = .ok suspension) :
    suspension.checkpointRef = reference ∧ suspension.approval = approval := by
  unfold WorkflowSuspension.make at made
  split at made
  · split at made
    · cases made
      exact ⟨rfl, rfl⟩
    · cases made
  · cases made

theorem ApprovalRequest.make_nodeId {approvalId : ApprovalId} {runId : RunId} {nodeId : NodeId}
    {correlationId : CorrelationId} {scope : ScopeRef} {allowedOutcomes : List ApprovalOutcome}
    {expiresAt : Option DateTime} {promptRef : CheckpointReference} {request : ApprovalRequest}
    (made : ApprovalRequest.make approvalId runId nodeId correlationId scope allowedOutcomes
      expiresAt promptRef = .ok request) : request.nodeId = nodeId := by
  unfold ApprovalRequest.make at made
  split at made
  · split at made
    · split at made
      · cases made
        rfl
      · cases made
    · cases made
  · cases made

/-- The nodes that are pending besides the one that waits. -/
theorem mem_pendingWithout {driving : Driving} (tracks : Tracks definition driving)
    (waiting nodeId : NodeId) :
    nodeId ∈ driving.scheduler.pendingNodes.filter (fun other => other != waiting) ↔
      nodeId ∈ definition.nodeIds ∧ nodeId ∉ driving.scheduler.completed ∧ nodeId ≠ waiting := by
  unfold DeterministicScheduler.pendingNodes DeterministicScheduler.sortedIds
  rw [tracks.workflow]
  simp only [List.mem_filter, mem_sortNodes, List.mem_dedup, decide_eq_true_eq, bne_iff_ne,
    and_assoc]

section

variable [PythonText]

/-! ## Agent nodes -/

/-- The node that is handed out is dispatched: the policy is asked about it for the first time. -/
theorem guarded_nodeDispatch {α : Type} {driving : Driving} {node : WorkflowNode}
    {request : AccessRequest} {operation : AuthorizedCall → WorkflowProgram α}
    {value : α → WorkflowTrace → Prop} (turn : Turn definition context driving trace)
    (taken : driving.scheduler.next = some node)
    (accessed : nodeAccess node context.runtime = .ok request)
    (operates : ∀ call after, Accepted driving.checkpoint after →
      Lately (grants context node) after →
      Guarded runtime definition context (operation call)
        (fun result last => Grown Unasking after last ∧ value result last) after) :
    Guarded runtime definition context
      (runtime.authorization.dispatcher.dispatch request operation)
      (fun result after => Accepted driving.checkpoint after ∧
        Spent definition context (insert node.nodeId driving.scheduler.completed) after ∧
        value result after) trace := by
  have dispatchable := turn.tracks.dispatchable taken
  apply guarded_dispatch accessed
  · intro after grown
    have spent := turn.spent.grown (grown.mono fun op quiet =>
      unasking_of_idle (idle_of_quiet quiet))
    rw [turn.tracks.completed] at spent
    exact spent.asks (turn.accepted.grown grown) dispatchable accessed
  · intro call after granting granted
    have accepted := turn.accepted.grown granting.grown
    apply guarded_mono (operates call after accepted granted)
    intro result last reached
    obtain ⟨grown, holds⟩ := reached
    have spent := turn.spent.granted dispatchable.declared accessed granting
    exact ⟨accepted.grown grown, spent.grown grown, holds⟩

theorem guarded_dispatchAgent [Sha256] {driving : Driving} {node : WorkflowNode}
    (turn : Turn definition context driving trace) (taken : driving.scheduler.next = some node)
    (type : node.nodeType = WorkflowNodeType.agent.value) :
    Guarded runtime definition context
      (runtime.dispatchAgent definition driving.run context driving.outputRefs node)
      (fun dispatched after => Accepted driving.checkpoint after ∧
        Spent definition context (insert node.nodeId driving.scheduler.completed) after ∧
        Executed runtime node dispatched after) trace := by
  unfold dispatchAgent
  apply guarded_check
  intro access accessed
  apply guarded_nodeDispatch turn taken accessed
  intro call after accepted granted
  exact guarded_agentOperation type accepted (turn.tracks.dispatchable taken) granted
    turn.tracks.outputs

/-- The next checkpoint is made; nothing but its name and the time is asked for. -/
theorem guarded_checkpoint [Sha256] {run : WorkflowRun} {previous : Option Checkpoint}
    {nodeStates : List NodeCheckpointState} {pending : List NodeId} {outputRefs : OutputRefs}
    {effects : List SideEffectRecord} {approvals : List ApprovalCheckpointState} :
    Guarded runtime definition context
      (checkpoint run previous nodeStates pending outputRefs effects approvals)
      (fun next after => Built previous nodeStates pending effects approvals next ∧
        Grown Prepares trace after ∧ Named next.ref after) trace := by
  apply guarded_yields _ returns_checkpoint
  unfold checkpoint
  apply guarded_call
  · trivial
  intro checkpointId
  have clock : (RuntimeControl.now : WorkflowProgram DateTime).Only GatewayOp.quiet :=
    only_now fun _ quiet => quiet
  apply guarded_next (guarded_idle clock fun _ => idle_of_quiet)
  intro createdAt dated grown
  apply guarded_ofExcept
  intro next created
  have prepared : Grown Prepares _ dated := grown.mono fun _ => prepares_of_quiet
  refine ⟨(grown_call .newCheckpointRef trivial _).trans prepared, trace, ?_⟩
  have named : next.ref = checkpointId :=
    congrArg CheckpointFields.checkpointId (Checkpoint.create_fields created).1
  rw [named]
  exact grown

theorem guarded_completeAgent [Sha256] {driving : Driving} {node : WorkflowNode}
    {dispatched : AgentDispatch}
    (tracks : Tracks definition driving) (taken : driving.scheduler.next = some node)
    (type : node.nodeType = WorkflowNodeType.agent.value)
    (accepted : Accepted driving.checkpoint trace)
    (spent : Spent definition context (insert node.nodeId driving.scheduler.completed) trace)
    (executed : Executed runtime node dispatched trace)
    (unfailed : dispatched.result.error = none) :
    Guarded runtime definition context
      (runtime.completeAgent definition context driving node dispatched)
      (fun next after => Turn definition context next after) trace := by
  have dispatchable := tracks.dispatchable taken
  unfold completeAgent
  split
  · rename_i value schema produced typed
    obtain ⟨before, runId, input, call, last, keyed, valued⟩ := executed
    apply guarded_call
    · refine ⟨node, driving.checkpoint, accepted, dispatchable, rfl, rfl, .inl ⟨type, ?_⟩⟩
      exact ⟨before, runId, input, call, dispatched.result, last, keyed, unfailed,
        produced ▸ valued, typed⟩
    intro reference
    apply guarded_check
    intro effects recorded
    have persisted : Lately (persists (agentState node.nodeId reference))
        (trace ++ [called (.persistOutput _ dispatched.nodeContext) (.ok reference)]) :=
      lately_last ⟨_, _, reference, rfl, rfl, by simp [agentState]⟩
    apply guarded_next guarded_checkpoint
    intro stable made reached
    obtain ⟨built, grown, named⟩ := reached
    have progresses := tracks.advances taken rfl (fun nodeId => by simp [mem_pendingAfter, not_or,
      and_comm]) (recordEffects_ok recorded) (by simp [agentState]) built
    have accepted := (accepted.append _).grown grown
    apply guarded_call
    · refine ⟨.inr ⟨driving.checkpoint, node, _, accepted, progresses, ?_, persisted.grown grown⟩,
        named⟩
      simp [agentState]
    intro committed
    apply guarded_check
    intro scheduler marked
    rw [DeterministicScheduler.markCompleted_ready] at marked
    · obtain rfl := Except.ok.inj marked
      apply guarded_return
      refine ⟨accepted_last rfl, tracks.completeAgent taken progresses committed, ?_⟩
      have spent := (spent.grown (grown_call _ trivial _)).grown (grown.mono fun _ =>
        unasking_of_prepares)
      exact spent.grown (grown_call _ trivial _)
    · rw [tracks.workflow]
      exact tracks.ready taken
  · exact guarded_raise

/-! ## Ends of a call -/

theorem guarded_terminalFailure {run : WorkflowRun} {detail : ErrorDetail} {states : NodeStates} :
    Guarded runtime definition context (terminalFailure run detail definition states)
      (Concludes runtime definition) trace := by
  unfold terminalFailure
  apply guarded_next (guarded_idle (only_workflowRun run.runId) fun _ idle => idle)
  intro latest found _
  apply guarded_next (guarded_idle (only_ensureEnded (only_terminate latest detail))
    fun _ idle => idle)
  intro ended last _
  apply guarded_check
  intro result made
  exact guarded_return (concludes_failure made)

theorem guarded_validationFailure {runId : RunId} {detail : ErrorDetail} :
    Guarded runtime definition context (validationFailure runId detail)
      (Concludes runtime definition) trace := by
  unfold validationFailure
  apply guarded_next (guarded_idle (only_workflowRun runId) fun _ idle => idle)
  intro run found _
  have fails : (workflowOp (.fail run.runId run.stateVersion detail)).Only Idle :=
    only_perform.mpr trivial
  apply guarded_next (guarded_idle (only_ensureEnded fails) fun _ idle => idle)
  intro ended last _
  apply guarded_check
  intro result made
  exact guarded_return (concludes_failure made)

theorem guarded_terminalSuccess {driving : Driving} {call : RuntimeCallContext}
    (turn : Turn definition context driving trace) (done : driving.scheduler.done = true) :
    Guarded runtime definition context (runtime.terminalSuccess definition call driving)
      (Concludes runtime definition) trace := by
  unfold terminalSuccess
  apply guarded_check
  intro durable found
  obtain ⟨source, schema, reference⟩ := durable
  have held := Reflects.recorded turn.tracks.outputs (durableOutput_ok found)
  apply guarded_check
  intro request made
  obtain ⟨own, followed⟩ := LoadNodeOutputRequest.make_ok made
  apply guarded_call
  · apply loads_of_recorded turn.accepted
    rw [own, followed]
    exact held
  intro output
  apply guarded_check
  intro _ validated
  have completed : ∀ {after : WorkflowTrace}, Grown (fun _ => True)
      (trace ++ [called (.loadOutput request call) (.ok output)]) after →
      Completed runtime definition driving.checkpoint output after := by
    intro after grown
    have loaded := grown.subset (List.mem_append_right trace (List.mem_singleton_self _))
    exact ⟨(turn.accepted.append _).grown grown, all_completed turn.tracks done, validated,
      request, call, own, loaded⟩
  apply guarded_call
  · exact ⟨driving.checkpoint, output, completed (.refl _)⟩
  intro run
  apply guarded_check
  intro finished _
  apply guarded_check
  intro result made
  obtain ⟨-, output', reference'⟩ := WorkflowResult.make_error made
  apply guarded_return
  intro _
  refine ⟨driving.checkpoint, ?_, reference'⟩
  rw [output']
  exact completed (grown_call _ trivial _)

/-! ## Evaluation nodes -/

/-- The evaluator has just returned a result for its request. -/
def Evaluated (dispatched : EvaluationDispatch) (trace : WorkflowTrace) : Prop :=
  ∃ before evaluation call,
    trace = before ++ [called (.evaluate evaluation call) (.ok dispatched.result)] ∧
    call.idempotencyKey = some dispatched.idempotencyKey ∧
    dispatched.result.evaluationId = evaluation.evaluationId

theorem guarded_evaluationOperation [Sha256] {driving : Driving} {node : WorkflowNode}
    {call : AuthorizedCall} (type : node.nodeType = WorkflowNodeType.evaluation.value)
    (accepted : Accepted driving.checkpoint trace)
    (dispatchable : Dispatchable definition driving.checkpoint node)
    (granted : Lately (grants context node) trace)
    (reflects : Reflects definition driving.checkpoint driving.outputRefs) :
    Guarded runtime definition context
      (runtime.evaluationOperation definition context driving node call)
      (fun dispatched after => Grown Unasking trace after ∧ Evaluated dispatched after) trace := by
  unfold evaluationOperation
  split
  · rename_i config _
    split
    · exact guarded_raise
    · rename_i inputSchema _
      apply guarded_check
      intro key _
      have reads : (nodeDeadline call.context node).Only GatewayOp.quiet :=
        only_nodeDeadline (fun _ quiet => quiet) call.context node
      apply guarded_next (guarded_idle reads fun _ => idle_of_quiet)
      intro deadline timed timely
      apply guarded_check
      intro nodeContext narrowed
      have prepared : Grown Prepares trace timed := timely.mono fun _ => prepares_of_quiet
      apply guarded_next (guarded_nodeInput (accepted.grown prepared) reflects)
      intro inputValue loaded reached
      obtain ⟨loading, supplied⟩ := reached
      have before := prepared.trans loading
      apply guarded_check
      intro evaluationId _
      apply guarded_call
      · refine ⟨node, driving.checkpoint, type, ?_, accepted.grown before, dispatchable,
          granted.grown before, supplied⟩
        exact (RuntimeCallContext.narrow_ok narrowed).1
      intro result
      apply guarded_check
      intro _ checked
      obtain ⟨_, identified, -⟩ := bind_ok checked
      apply guarded_return
      refine ⟨(before.mono fun _ => unasking_of_prepares).trans (grown_call _ trivial _), loaded, _,
        nodeContext, rfl, RuntimeCallContext.narrow_key narrowed, ?_⟩
      simpa using ensure_eq_ok.mp identified
  · exact guarded_raise

/-- A result that passed lets the run be driven on from the checkpoint that records it. -/
theorem guarded_executeEvaluation [Sha256] {workflow : ValidatedWorkflow} {driving : Driving}
    {node : WorkflowNode}
    {redrive : WorkflowRun → Checkpoint → WorkflowProgram WorkflowExecutionOutcome}
    (same : workflow.definition = definition) (turn : Turn definition context driving trace)
    (taken : driving.scheduler.next = some node)
    (type : node.nodeType = WorkflowNodeType.evaluation.value)
    (redrives : ∀ run stable after, Accepted stable after →
      Spent definition context (completedOf stable.nodeStates) after →
      Guarded runtime definition context (redrive run stable) (Concludes runtime definition)
        after) :
    Guarded runtime definition context
      (runtime.executeEvaluation workflow context driving node redrive)
      (Concludes runtime definition) trace := by
  subst same
  have dispatchable := turn.tracks.dispatchable taken
  unfold executeEvaluation
  split
  · exact guarded_raise
  apply guarded_check
  intro access accessed
  have dispatches : Guarded runtime workflow.definition context
      (runtime.authorization.dispatcher.dispatch access
        (runtime.evaluationOperation workflow.definition context driving node))
      (fun dispatched after => Accepted driving.checkpoint after ∧
        Spent workflow.definition context (insert node.nodeId driving.scheduler.completed) after ∧
        Evaluated dispatched after) trace := by
    apply guarded_nodeDispatch turn taken accessed
    intro call after accepted granted
    exact guarded_evaluationOperation type accepted dispatchable granted turn.tracks.outputs
  apply guarded_next dispatches
  intro dispatched after reached
  obtain ⟨accepted, spent, before, evaluation, call, last, keyed, identified⟩ := reached
  apply guarded_call
  · refine ⟨node, driving.checkpoint, accepted, dispatchable, rfl, rfl, .inr ⟨type, ?_⟩⟩
    exact ⟨before, evaluation, call, dispatched.result, last, keyed, identified, rfl, rfl⟩
  intro reference
  have persisted : Lately
      (persists (evaluationState node.nodeId dispatched.result.verdict reference))
      (after ++ [called (.persistOutput _ dispatched.nodeContext) (.ok reference)]) := by
    apply lately_last
    refine ⟨_, _, reference, rfl, rfl, ?_⟩
    cases verdict : dispatched.result.verdict <;> simp [evaluationState, evaluationOutcome]
  have finished : (evaluationState node.nodeId dispatched.result.verdict reference).outcome ≠
      .waitingApproval := by
    cases verdict : dispatched.result.verdict <;> simp [evaluationState, evaluationOutcome]
  apply guarded_next guarded_checkpoint
  intro stable made reached
  obtain ⟨built, grown, named⟩ := reached
  have progresses := turn.tracks.advances taken rfl (fun nodeId => by
    simp [mem_pendingAfter, not_or, and_comm]) (.inl rfl) (by simp [finished]) built
  have accepted := (accepted.append _).grown grown
  apply guarded_call
  · exact ⟨.inr ⟨driving.checkpoint, node, _, accepted, progresses, finished,
      persisted.grown grown⟩, named⟩
  intro committed
  split
  · rename_i passed
    apply guarded_check
    intro _ _
    apply redrives committed stable
    · exact accepted_last rfl
    · have succeeded : (evaluationState node.nodeId dispatched.result.verdict reference).outcome =
          .succeeded := by simp [evaluationState, evaluationOutcome, passed]
      have completed := progresses.toRecords.completed succeeded
      rw [completed, ← turn.tracks.completed]
      have spent := (spent.grown (grown_call _ trivial _)).grown (grown.mono fun _ =>
        unasking_of_prepares)
      exact spent.grown (grown_call _ trivial _)
  · exact guarded_terminalFailure

/-- Only a checkpoint without a failed evaluation is driven from. -/
theorem guarded_stableEvaluationFailure {run : WorkflowRun} {checkpoint : Checkpoint}
    {call : RuntimeCallContext} (accepted : Accepted checkpoint trace) :
    Guarded runtime definition context
      (stableEvaluationFailure definition run call (statesOf checkpoint.nodeStates))
      (fun failure after => Grown Unasking trace after ∧
        (failure = none → ∀ state ∈ checkpoint.nodeStates,
          failedEvaluation definition state = none))
      trace := by
  have recorded : ∀ state, state ∈ sortStates (statesOf checkpoint.nodeStates).values ↔
      state ∈ checkpoint.nodeStates := by
    intro state
    rw [sortStates, KeyedSort.mem_sortedBy, Dict.mem_values]
    simp only [Checkpoint.get?_statesOf, Checkpoint.stateOf_eq_some]
    constructor
    · intro found
      obtain ⟨nodeId, member, -⟩ := found
      exact member
    · intro member
      exact ⟨state.nodeId, member, rfl⟩
  unfold stableEvaluationFailure
  split
  · rename_i none
    apply guarded_return
    refine ⟨.refl trace, ?_⟩
    intro _ state member
    have passed := List.findSome?_eq_none_iff.mp none state ((recorded state).mpr member)
    simpa using passed
  · rename_i state node found
    obtain ⟨listed, member, failed⟩ := List.exists_of_findSome?_eq_some found
    obtain ⟨failing, -, same⟩ := Option.map_eq_some_iff.mp failed
    obtain ⟨rfl, rfl⟩ := Prod.mk.inj same
    split
    · exact guarded_raise
    · rename_i reference held
      apply guarded_check
      intro request made
      obtain ⟨own, followed⟩ := LoadNodeOutputRequest.make_ok made
      apply guarded_call
      · refine ⟨checkpoint, listed, accepted, ?_, .inr (followed ▸ held)⟩
        rw [own]
        exact Checkpoint.stateOf_eq_some.mpr ⟨(recorded listed).mp member, rfl⟩
      intro value
      apply guarded_check
      intro result _
      apply guarded_check
      intro _ _
      apply guarded_return
      refine ⟨grown_call _ trivial _, ?_⟩
      intro impossible
      cases impossible

/-! ## Approval nodes -/

theorem guarded_requestApproval [Sha256] {driving : Driving} {node : WorkflowNode}
    (turn : Turn definition context driving trace) (taken : driving.scheduler.next = some node)
    (type : node.nodeType = WorkflowNodeType.approval.value) :
    Guarded runtime definition context (runtime.requestApproval context driving node)
      (Concludes runtime definition) trace := by
  have dispatchable := turn.tracks.dispatchable taken
  unfold requestApproval
  apply guarded_check
  intro access accessed
  have dispatches : Guarded runtime definition context
      (runtime.authorization.dispatcher.dispatch access
        (runtime.approvalOperation context driving node))
      (fun suspended after => Accepted driving.checkpoint after ∧
        Spent definition context (insert node.nodeId driving.scheduler.completed) after ∧
        Concludes runtime definition (.suspension suspended) after) trace := by
    apply guarded_nodeDispatch turn taken accessed
    intro call after accepted granted
    unfold approvalOperation
    split
    · rename_i config _
      apply guarded_check
      intro approvalId _
      apply guarded_check
      intro request made
      apply guarded_next guarded_checkpoint
      intro waiting saved reached
      obtain ⟨built, grown, named⟩ := reached
      have progresses := turn.tracks.advances taken rfl
        (mem_pendingWithout turn.tracks node.nodeId) (.inl rfl) rfl built
      apply guarded_call
      · exact ⟨⟨driving.checkpoint, node, accepted.grown grown, granted.grown grown, type,
          ApprovalRequest.make_nodeId made, progresses⟩, named⟩
      intro run
      apply guarded_ofExcept
      intro suspended ended
      obtain ⟨reference, approval⟩ := WorkflowSuspension.make_ok ended
      refine ⟨(grown.mono fun _ => unasking_of_prepares).trans (grown_call _ trivial _), waiting,
        .pending request, accepted_last rfl, reference, ?_, rfl, approval.symm⟩
      rw [progresses.approvals]
      simp [approvalNodeState]
    · exact guarded_raise
  apply guarded_next dispatches
  intro suspended after reached
  exact guarded_return reached.2.2

/-! ## The loop -/

theorem guarded_driveLoop [Sha256] {workflow : ValidatedWorkflow}
    {redrive : WorkflowRun → Checkpoint → WorkflowProgram WorkflowExecutionOutcome}
    (same : workflow.definition = definition)
    (redrives : ∀ run stable after, Accepted stable after →
      Spent definition context (completedOf stable.nodeStates) after →
      Guarded runtime definition context (redrive run stable) (Concludes runtime definition)
        after)
    (fuel : ℕ) {driving : Driving} (turn : Turn definition context driving trace) :
    Guarded runtime definition context
      (runtime.driveLoop workflow context (.raise outOfFuel) redrive fuel driving)
      (Concludes runtime definition) trace := by
  subst same
  induction fuel generalizing driving trace with
  | zero => exact guarded_raise
  | succ fuel ih =>
    unfold driveLoop
    split
    · rename_i done
      exact guarded_terminalSuccess turn done
    · split
      · exact guarded_terminalFailure
      · rename_i node taken
        split
        · rename_i approval
          exact guarded_requestApproval turn taken approval
        · split
          · rename_i evaluation
            exact guarded_executeEvaluation rfl turn taken evaluation redrives
          · split
            · exact guarded_raise
            · rename_i agent
              have agent := not_not.mp agent
              apply guarded_andThen (guarded_dispatchAgent turn taken agent)
              · intro dispatched after reached
                obtain ⟨accepted, spent, executed⟩ := reached
                cases failure : dispatched.result.error with
                | some detail =>
                  simp only [failure]
                  exact guarded_terminalFailure
                | none =>
                  simp only [failure]
                  apply guarded_next (guarded_completeAgent turn.tracks taken agent accepted spent
                    executed failure)
                  intro next last turn
                  exact ih turn
              · intro error after
                cases error with
                | core detail => exact guarded_terminalFailure
                | _ => exact guarded_raise

omit [PythonText] in
theorem only_restoreWaiting (run : WorkflowRun) : (restoreWaiting run).Only Idle := by
  unfold restoreWaiting
  apply only_ite
  · intro _
    exact (only_perform.mpr trivial).bind fun _ => only_ofExcept
  · intro _
    exact only_pure

omit [PythonText] in
/-- A checkpoint with a pending approval is what the call suspends on. -/
theorem concludes_suspension {run : WorkflowRun} {checkpoint : Checkpoint}
    {approval : ApprovalCheckpointState} {suspended : WorkflowSuspension}
    (accepted : Accepted checkpoint trace)
    (found : pendingApproval checkpoint = .ok (some approval))
    (made : WorkflowSuspension.make run checkpoint.ref approval.request = .ok suspended) :
    Concludes runtime definition (.suspension suspended) trace := by
  obtain ⟨reference, request⟩ := WorkflowSuspension.make_ok made
  obtain ⟨member, undecided⟩ := pendingApproval_some found
  exact ⟨checkpoint, approval, accepted, reference, member, undecided, request.symm⟩

theorem guarded_drive [Sha256] {workflow : ValidatedWorkflow} {run : WorkflowRun}
    {checkpoint : Checkpoint} (same : workflow.definition = definition) (fuel : ℕ)
    (accepted : Accepted checkpoint trace)
    (spent : Spent definition context (completedOf checkpoint.nodeStates) trace) :
    Guarded runtime definition context
      (runtime.drive workflow context (.raise outOfFuel) fuel run checkpoint)
      (Concludes runtime definition) trace := by
  induction fuel generalizing run checkpoint trace with
  | zero => exact guarded_raise
  | succ fuel ih =>
    unfold drive
    apply guarded_check
    intro pending found
    cases pending with
    | some waiting =>
      apply guarded_next (guarded_idle (only_restoreWaiting run) fun _ idle => idle)
      intro restored after grown
      apply guarded_check
      intro suspended made
      exact guarded_return (concludes_suspension (accepted.grown grown) found made)
    | none =>
      subst same
      apply guarded_next (guarded_stableEvaluationFailure accepted)
      intro failure after reached
      obtain ⟨grown, unfailed⟩ := reached
      cases failure with
      | some detail => exact guarded_terminalFailure
      | none =>
        apply guarded_check
        intro scheduler made
        apply guarded_driveLoop rfl
        · intro committed stable last accepted spent
          exact ih accepted spent
        · have tracks := Tracks.start run made (pendingApproval_none found) (unfailed rfl)
          refine ⟨accepted.grown grown, tracks, ?_⟩
          rw [tracks.completed]
          exact spent.grown grown

/-! ## The entry points -/

omit [PythonText] in
theorem validated_ok {workflow : ValidatedWorkflow}
    (validated : runtime.validated definition context = .ok workflow) :
    workflow.definition = definition := by
  obtain ⟨checked, valid, rest⟩ := bind_ok validated
  obtain ⟨_, _, same⟩ := bind_ok rest
  obtain rfl := Except.ok.inj same
  exact (WorkflowValidator.validate_ok.mp valid).2.2.1

omit [PythonText] in
theorem Spent.mono {completed more : Finset NodeId}
    (spent : Spent definition context completed trace) (wider : completed ⊆ more) :
    Spent definition context more trace := by
  intro request outcome member
  obtain ⟨node, declared, access, done⟩ := spent request outcome member
  exact ⟨node, declared, access, wider done⟩

omit [PythonText] in
theorem only_start (run : WorkflowRun) : (start run).Only Idle := by
  unfold start
  apply (only_perform.mpr trivial).bind
  intro started
  apply (only_perform.mpr trivial).bind
  intro loading
  apply (only_perform.mpr trivial).bind
  intro running
  exact only_ofExcept

theorem guarded_loadCheckpoint {run : WorkflowRun} {call : RuntimeCallContext} :
    Guarded runtime definition context (runtime.loadCheckpoint run call)
      (fun current after => Accepted current after ∧ Grown Unasking trace after) trace := by
  unfold loadCheckpoint
  split
  · exact guarded_raise
  · apply guarded_op
    · trivial
    intro current
    exact ⟨accepted_last rfl, grown_call _ trivial _⟩

theorem guarded_executeCreated [Sha256] {workflow : ValidatedWorkflow} {run : WorkflowRun}
    (same : workflow.definition = definition) (spent : Spent definition context ∅ trace) :
    Guarded runtime definition context (runtime.executeCreated workflow context run)
      (Concludes runtime definition) trace := by
  unfold executeCreated
  apply guarded_next (guarded_idle (only_start run) fun _ idle => idle)
  intro running started grown
  have spent := spent.grown (grown.mono fun _ => unasking_of_idle)
  apply guarded_next guarded_checkpoint
  intro first made reached
  obtain ⟨built, grown, named⟩ := reached
  have spent := spent.grown (grown.mono fun _ => unasking_of_prepares)
  have untouched : first.nodeStates = [] := by
    rw [built.nodeStates]
    exact KeyedSort.sortedBy_perm.eq_nil
  apply guarded_call
  · refine ⟨.inl ⟨built.linked, built.numbered, untouched, ?_, built.approvals,
      built.sideEffects⟩, named⟩
    intro nodeId
    rw [built.pendingNodes, mem_sortNodes, mem_sortNodes, same]
  intro committed
  apply guarded_drive same
  · exact accepted_last rfl
  · exact (spent.grown (grown_call _ trivial _)).mono (Finset.empty_subset _)

theorem guarded_executeStarted [Sha256] {workflow : ValidatedWorkflow} {run : WorkflowRun}
    (same : workflow.definition = definition) (spent : Spent definition context ∅ trace) :
    Guarded runtime definition context (runtime.executeStarted workflow context run)
      (Concludes runtime definition) trace := by
  unfold executeStarted
  apply guarded_check
  intro _ _
  apply guarded_next guarded_loadCheckpoint
  intro current loaded reached
  obtain ⟨accepted, grown⟩ := reached
  split
  · apply guarded_ofExcept
    intro outcome suspended
    obtain ⟨pending, found, rest⟩ := bind_ok suspended
    cases pending with
    | none => cases rest
    | some waiting =>
      obtain ⟨suspended, made, same⟩ := bind_ok rest
      obtain rfl := Except.ok.inj same
      exact concludes_suspension accepted found made
  · apply guarded_check
    intro _ _
    exact guarded_drive same _ accepted ((spent.grown grown).mono (Finset.empty_subset _))

/-- Whatever its collaborators answer, an execution asks them for nothing that has not been
prepared, and concludes as it should. -/
theorem guarded_execute [Sha256] :
    Guarded runtime definition context (runtime.execute definition context)
      (Concludes runtime definition) [] := by
  have spent : Spent definition context ∅ [] := by
    intro request outcome member
    cases member
  unfold WorkflowRuntime.execute
  split
  · exact guarded_validationFailure
  · exact guarded_raise
  · rename_i workflow validated
    have same := validated_ok validated
    apply guarded_next (guarded_idle (only_workflowRun context.runId) fun _ idle => idle)
    intro run found grown
    have spent := spent.grown (grown.mono fun _ => unasking_of_idle)
    apply guarded_check
    intro _ _
    split
    · exact guarded_executeCreated same spent
    · exact guarded_executeStarted same spent

theorem guarded_recover [Sha256] {request : RecoveryRequest} :
    Guarded runtime definition context (runtime.recover definition context request)
      (Concludes runtime definition) [] := by
  have spent : Spent definition context ∅ [] := by
    intro request outcome member
    cases member
  unfold recover
  apply guarded_check
  intro workflow validated
  apply guarded_check
  intro _ _
  apply guarded_call
  · trivial
  intro recovered
  apply guarded_check
  intro _ _
  apply guarded_drive (validated_ok validated)
  · exact accepted_last rfl
  · exact (spent.grown (grown_call _ trivial _)).mono (Finset.empty_subset _)

theorem guarded_decideApproval [Sha256] {decision : ApprovalDecision} :
    Guarded runtime definition context (runtime.decideApproval definition context decision)
      (Concludes runtime definition) [] := by
  have spent : Spent definition context ∅ [] := by
    intro request outcome member
    cases member
  unfold decideApproval
  apply guarded_check
  intro workflow validated
  apply guarded_next (guarded_idle (only_workflowRun context.runId) fun _ idle => idle)
  intro run found grown
  have spent := spent.grown (grown.mono fun _ => unasking_of_idle)
  apply guarded_check
  intro _ _
  apply guarded_check
  intro _ _
  apply guarded_next guarded_loadCheckpoint
  intro current loaded reached
  obtain ⟨accepted, grown⟩ := reached
  have spent := spent.grown grown
  apply guarded_check
  intro approval stated
  apply guarded_check
  intro decided made
  apply guarded_next guarded_checkpoint
  intro next submitted reached
  obtain ⟨built, grown, named⟩ := reached
  have spent := spent.grown (grown.mono fun _ => unasking_of_prepares)
  apply guarded_call
  · exact ⟨⟨current, approval, decided, accepted.grown grown, .of_built stated made built⟩, named⟩
  intro run
  split
  · apply guarded_drive (WorkflowValidator.validate_ok.mp validated).2.2.1
    · exact accepted_last rfl
    · exact (spent.grown (grown_call _ trivial _)).mono (Finset.empty_subset _)
  · apply guarded_ofExcept
    intro outcome ended
    obtain ⟨result, made, same⟩ := bind_ok ended
    obtain rfl := Except.ok.inj same
    exact concludes_failure made

end

end CongeriesCore.WorkflowTraces
