import CongeriesCore.ScopeNarrowing
import CongeriesCore.StageKeys
import CongeriesCore.WorkflowTraces

/-! # Safety of the workflow runtime

One turn after the other, the runtime asks its collaborators for something only where what has
happened so far allows it. The turns of a call share an invariant of its local variables and its
trace; the rules below follow the functions of the runtime. -/

namespace CongeriesCore.WorkflowTraces

open AsyncProgram AsyncProgram.Program GatewayDispatch WorkflowProgress WorkflowRuntime

section Basics

variable {runtime : WorkflowRuntime} {definition : WorkflowDefinition}
  {context : WorkflowContext} {trace after : WorkflowTrace}

theorem needed_of_idle [PythonText] {op : GatewayOp workflowInterface} (idle : Idle op) :
    Needed runtime definition context op trace := by
  cases op with
  | authorize request => exact idle.elim
  | call op => cases op <;> trivial
  | _ => trivial

theorem idle_of_quiet {op : GatewayOp workflowInterface} (quiet : op.quiet) : Idle op := by
  cases op with
  | authorize request => exact quiet
  | call op => exact quiet.elim
  | _ => trivial

theorem prepares_of_quiet {op : GatewayOp workflowInterface} (quiet : op.quiet) : Prepares op := by
  cases op with
  | authorize request => exact quiet
  | call op => exact quiet.elim
  | _ => trivial

theorem needed_of_quiet [PythonText] {op : GatewayOp workflowInterface} (quiet : op.quiet) :
    Needed runtime definition context op trace := needed_of_idle (idle_of_quiet quiet)

/-- The operation asks for no decision of the policy. -/
def Unasking (op : GatewayOp workflowInterface) : Prop :=
  match op with
  | .authorize _ => False
  | _ => True

theorem unasking_of_prepares {op : GatewayOp workflowInterface} (prepares : Prepares op) :
    Unasking op := by
  cases op with
  | authorize request => exact prepares
  | _ => trivial

theorem unasking_of_idle {op : GatewayOp workflowInterface} (idle : Idle op) : Unasking op := by
  cases op with
  | authorize request => exact idle
  | _ => trivial

/-! ### What has happened stays so -/

variable {allowed : GatewayOp workflowInterface → Prop}

theorem Accepted.grown {checkpoint : Checkpoint} (accepted : Accepted checkpoint trace)
    (grown : Grown allowed trace after) : Accepted checkpoint after := by
  obtain ⟨event, member, accepts⟩ := accepted
  exact ⟨event, grown.subset member, accepts⟩

theorem Accepted.append {checkpoint : Checkpoint} (accepted : Accepted checkpoint trace)
    (event : WorkflowEvent) : Accepted checkpoint (trace ++ [event]) := by
  obtain ⟨earlier, member, accepts⟩ := accepted
  exact ⟨earlier, List.mem_append_left _ member, accepts⟩

theorem accepted_last {checkpoint : Checkpoint} {event : WorkflowEvent}
    (taken : accepts checkpoint event) : Accepted checkpoint (trace ++ [event]) :=
  ⟨event, by simp, taken⟩

theorem Lately.grown {kind : WorkflowEvent → Prop} (lately : Lately kind trace)
    (grown : Grown Prepares trace after) : Lately kind after := by
  obtain ⟨before, event, found, earlier⟩ := lately
  exact ⟨before, event, found, earlier.trans grown⟩

theorem lately_last {kind : WorkflowEvent → Prop} {event : WorkflowEvent} (found : kind event) :
    Lately kind (trace ++ [event]) := ⟨trace, event, found, .refl _⟩

theorem grown_call (op : WorkflowOp) (allows : allowed (.call op))
    (outcome : Except Raised op.Answer) :
    Grown allowed trace (trace ++ [called op outcome]) :=
  @Grown.event (gatewayInterface workflowInterface) Raised allowed trace (.call op) allows outcome

end Basics

/-! ## Rules -/

/-- The coroutine meets every need of the runtime, whatever is answered, and what it returns is
as `value` says. -/
@[irreducible] def Guarded [PythonText] {α : Type} (runtime : WorkflowRuntime)
    (definition : WorkflowDefinition) (context : WorkflowContext) (program : WorkflowProgram α)
    (value : α → WorkflowTrace → Prop) (trace : WorkflowTrace) : Prop :=
  Guards (fun _ _ => True) (Needed runtime definition context) program
    (Ends value fun _ => True) trace

section Rules

variable [PythonText] {runtime : WorkflowRuntime} {definition : WorkflowDefinition}
  {context : WorkflowContext} {trace : WorkflowTrace} {α β : Type}
  {value : α → WorkflowTrace → Prop} {later : β → WorkflowTrace → Prop}

theorem guarded_return {result : α} (held : value result trace) :
    Guarded runtime definition context (pure result) value trace := by
  unfold Guarded
  exact held

theorem guarded_raise {error : Raised} :
    Guarded runtime definition context (.raise error) value trace := by
  unfold Guarded
  trivial

theorem guarded_ofExcept {outcome : Except Raised α}
    (held : ∀ result, outcome = .ok result → value result trace) :
    Guarded runtime definition context (ofExcept outcome) value trace := by
  unfold Guarded
  exact safe_checked held trivial

theorem guarded_op {op : WorkflowOp} {value : op.Answer → WorkflowTrace → Prop}
    (needed : Needed runtime definition context (.call op) trace)
    (answered : ∀ answer, value answer (trace ++ [called op (.ok answer)])) :
    Guarded runtime definition context (workflowOp op) value trace := by
  unfold Guarded
  apply safe_perform_traced needed
  intro outcome _
  cases outcome with
  | ok answer => exact answered answer
  | error error => trivial

theorem guarded_call {op : WorkflowOp} {continuation : op.Answer → WorkflowProgram β}
    (needed : Needed runtime definition context (.call op) trace)
    (rest : ∀ answer, Guarded runtime definition context (continuation answer) later
      (trace ++ [called op (.ok answer)])) :
    Guarded runtime definition context (workflowOp op >>= continuation) later trace := by
  unfold Guarded at rest ⊢
  exact safe_perform_bind needed (fun answer _ => rest answer) fun _ _ => trivial

theorem guarded_check {outcome : Except Raised α} {continuation : α → WorkflowProgram β}
    (rest : ∀ result, outcome = .ok result →
      Guarded runtime definition context (continuation result) later trace) :
    Guarded runtime definition context (ofExcept outcome >>= continuation) later trace := by
  unfold Guarded at rest ⊢
  exact safe_guarded trivial rest

theorem guarded_next {program : WorkflowProgram α} {continuation : α → WorkflowProgram β}
    (first : Guarded runtime definition context program value trace)
    (rest : ∀ result after, value result after →
      Guarded runtime definition context (continuation result) later after) :
    Guarded runtime definition context (program >>= continuation) later trace := by
  unfold Guarded at first rest ⊢
  exact first.next rest

/-- What catches an error knows nothing of what has happened. -/
theorem guarded_andThen {program : WorkflowProgram α}
    {continuation : Except Raised α → WorkflowProgram β}
    (first : Guarded runtime definition context program value trace)
    (returned : ∀ result after, value result after →
      Guarded runtime definition context (continuation (.ok result)) later after)
    (raised : ∀ error after,
      Guarded runtime definition context (continuation (.error error)) later after) :
    Guarded runtime definition context (program.andThen continuation) later trace := by
  unfold Guarded at first returned raised ⊢
  apply first.andThen
  intro outcome after reached
  cases outcome with
  | ok result => exact returned result after reached
  | error error => exact raised error after

theorem guarded_mono {weaker : α → WorkflowTrace → Prop} {program : WorkflowProgram α}
    (guarded : Guarded runtime definition context program value trace)
    (weakens : ∀ result after, value result after → weaker result after) :
    Guarded runtime definition context program weaker trace := by
  unfold Guarded at guarded ⊢
  exact guarded.weaken weakens fun _ _ => trivial

/-- Idle operations need nothing. -/
theorem guarded_idle {allowed : GatewayOp workflowInterface → Prop} {program : WorkflowProgram α}
    (only : program.Only allowed) (idle : ∀ op, allowed op → Idle op) :
    Guarded runtime definition context program (fun _ after => Grown allowed trace after)
      trace := by
  unfold Guarded
  have grows : program.Safe (recording fun _ _ => True)
      (.traced (Needed runtime definition context))
      (fun _ after => Grown allowed trace after) trace :=
    only.safe_grown fun op _ allows _ => needed_of_idle (idle op allows)
  apply grows.mono
  intro outcome after grown
  cases outcome with
  | ok result => exact grown
  | error error => trivial

/-- What a coroutine returns in any case it returns here. -/
theorem guarded_yields {held : α → Prop} {program : WorkflowProgram α}
    (guarded : Guarded runtime definition context program value trace)
    (yields : program.Yields (fun _ _ => True) fun outcome => ∀ result, outcome = .ok result →
      held result) :
    Guarded runtime definition context program (fun result after => held result ∧
      value result after) trace := by
  unfold Guarded at guarded ⊢
  apply (guarded.yielding yields).mono
  intro outcome after reached
  cases outcome with
  | ok result => exact ⟨reached.1 result rfl, reached.2⟩
  | error error => trivial

/-- The operation of a dispatch starts just after the policy has granted its node. -/
theorem guarded_dispatch {authorization : GatewayAuthorization} {request : AccessRequest}
    {operation : AuthorizedCall → WorkflowProgram α} {node : WorkflowNode}
    (access : nodeAccess node context.runtime = .ok request)
    (asks : ∀ after, Grown GatewayOp.quiet trace after → Asks definition context request after)
    (operates : ∀ call after, Granting request call.grant trace after →
      Lately (grants context node) after →
      Guarded runtime definition context (operation call) value after) :
    Guarded runtime definition context (authorization.dispatcher.dispatch request operation) value
      trace := by
  unfold Guarded at operates ⊢
  apply guards_dispatch
  · intro op after quiet
    exact needed_of_quiet quiet
  · exact asks
  · intro error after grown
    trivial
  · intro call after _ granting
    apply operates call after granting
    obtain ⟨decision, before, allows, -, -, late⟩ := granting
    exact ⟨before, _, ⟨request, decision, access, allows, rfl⟩,
      late.mono fun _ => prepares_of_quiet⟩

end Rules

/-! ## Parts of a turn -/

section Parts

variable {definition : WorkflowDefinition} {trace : WorkflowTrace}

theorem only_nodeDeadline {allowed : GatewayOp workflowInterface → Prop}
    (quiet : ∀ op : GatewayOp workflowInterface, op.quiet → allowed op) (call : RuntimeCallContext)
    (node : WorkflowNode) : (nodeDeadline call node).Only allowed := by
  unfold nodeDeadline
  split
  · trivial
  · apply (only_now quiet).bind
    intro now
    apply Only.bind only_ofExcept
    intro expiry
    split
    · trivial
    · exact only_ite (fun _ => trivial) fun _ => trivial

theorem durableOutput_ok {outputRefs : OutputRefs} {sourceId : NodeId} {missing : Raised}
    {source : WorkflowNode} {schema : SchemaRef} {reference : CheckpointReference}
    (found : durableOutput definition outputRefs sourceId missing =
      .ok (source, schema, reference)) :
    outputRefs.get? sourceId = some reference := by
  unfold durableOutput at found
  split at found
  · cases found
  · split at found
    · rename_i held _
      cases found
      exact held
    · cases found

theorem LoadNodeOutputRequest.make_ok {runId : RunId} {nodeId : NodeId} {schema : SchemaRef}
    {reference : CheckpointReference} {scope : ScopeRef} {request : LoadNodeOutputRequest}
    (made : LoadNodeOutputRequest.make runId nodeId schema reference scope = .ok request) :
    request.nodeId = nodeId ∧ request.reference = reference := by
  unfold LoadNodeOutputRequest.make at made
  split at made
  · cases made
    exact ⟨rfl, rfl⟩
  · cases made

/-- The references at hand are those that the checkpoint records. -/
def Reflects (definition : WorkflowDefinition) (checkpoint : Checkpoint) (outputRefs : OutputRefs) :
    Prop :=
  ∀ nodeId, outputRefs.get? nodeId = if nodeId ∈ definition.nodeIds then
    (checkpoint.stateOf nodeId).bind NodeCheckpointState.outputRef else none

theorem Reflects.recorded {checkpoint : Checkpoint} {outputRefs : OutputRefs} {nodeId : NodeId}
    {reference : CheckpointReference} (reflects : Reflects definition checkpoint outputRefs)
    (held : outputRefs.get? nodeId = some reference) :
    (checkpoint.stateOf nodeId).bind NodeCheckpointState.outputRef = some reference := by
  rw [reflects] at held
  split at held
  · exact held
  · cases held

/-- The reference of an output that is loaded is recorded. -/
theorem loads_of_recorded {checkpoint : Checkpoint} {request : LoadNodeOutputRequest}
    (accepted : Accepted checkpoint trace)
    (held : (checkpoint.stateOf request.nodeId).bind NodeCheckpointState.outputRef =
      some request.reference) : Loads request trace := by
  obtain ⟨state, found, reference⟩ := Option.bind_eq_some_iff.mp held
  exact ⟨checkpoint, state, accepted, found, .inl reference⟩

theorem forChildRun_ok {call child : RuntimeCallContext} {runId : RunId} {scope : ScopeRef}
    {deadline : Option Deadline} {key : IdempotencyKey}
    (derived : call.forChildRun runId (some scope) deadline (some key) = .ok child) :
    child.scope = scope ∧ child.idempotencyKey = some key := by
  obtain ⟨narrowed, narrows, made⟩ := bind_ok derived
  obtain rfl := Except.ok.inj made
  have keyed := RuntimeCallContext.narrow_key narrows
  exact ⟨(RuntimeCallContext.narrow_ok narrows).1, keyed⟩

end Parts

section Nodes

variable [PythonText] {runtime : WorkflowRuntime} {definition : WorkflowDefinition}
  {context : WorkflowContext} {trace : WorkflowTrace}

theorem guarded_nodeInput {run : WorkflowRun} {checkpoint : Checkpoint} {outputRefs : OutputRefs}
    {node : WorkflowNode} {call : RuntimeCallContext} (accepted : Accepted checkpoint trace)
    (reflects : Reflects definition checkpoint outputRefs) :
    Guarded runtime definition context (nodeInput definition run context outputRefs node call)
      (fun value after => Grown Prepares trace after ∧
        Supplied context checkpoint node value after) trace := by
  unfold nodeInput
  split
  · exact guarded_raise
  · rename_i binding rest bindings
    have first : binding ∈ node.inputBindings.head? := by simp [bindings]
    split
    · rename_i given
      exact guarded_return ⟨.refl trace, binding, first, .inl ⟨given, rfl⟩⟩
    · split
      · exact guarded_raise
      · rename_i sourceId source
        apply guarded_check
        intro durable found
        obtain ⟨node, schema, reference⟩ := durable
        have held := reflects.recorded (durableOutput_ok found)
        apply guarded_check
        intro request made
        obtain ⟨own, followed⟩ := LoadNodeOutputRequest.make_ok made
        have loads : Loads request trace := by
          apply loads_of_recorded accepted
          rw [own, followed]
          exact held
        apply guarded_op
        · exact loads
        intro value
        refine ⟨grown_call (.loadOutput request call) trivial _, binding, first, .inr ?_⟩
        exact ⟨sourceId, reference, request, call, source, held, own, followed, by simp⟩

/-! ### Agent nodes -/

/-- An agent has just returned the result of the node. -/
def Executed (runtime : WorkflowRuntime) (node : WorkflowNode) (dispatched : AgentDispatch)
    (trace : WorkflowTrace) : Prop :=
  ∃ before runId input call,
    trace = before ++ [called (.executeAgent runId input call) (.ok dispatched.result)] ∧
    call.idempotencyKey = some dispatched.idempotencyKey ∧
    runtime.agentValue node dispatched.result = .ok dispatched.value

theorem guarded_agentOperation [Sha256] {run : WorkflowRun} {checkpoint : Checkpoint}
    {outputRefs : OutputRefs} {node : WorkflowNode} {call : AuthorizedCall}
    (type : node.nodeType = WorkflowNodeType.agent.value) (accepted : Accepted checkpoint trace)
    (dispatchable : Dispatchable definition checkpoint node)
    (granted : Lately (grants context node) trace)
    (reflects : Reflects definition checkpoint outputRefs) :
    Guarded runtime definition context
      (runtime.agentOperation definition run context outputRefs node call)
      (fun dispatched after => Grown Unasking trace after ∧ Executed runtime node dispatched after)
      trace := by
  unfold agentOperation
  split
  · rename_i config _
    apply guarded_check
    intro _ _
    apply guarded_check
    intro key _
    have reads : (nodeDeadline call.context node).Only GatewayOp.quiet :=
      only_nodeDeadline (fun _ quiet => quiet) call.context node
    apply guarded_next (guarded_idle reads fun _ => idle_of_quiet)
    intro deadline timed timely
    apply guarded_check
    intro nodeContext narrowed
    have clock : (RuntimeControl.now : WorkflowProgram DateTime).Only GatewayOp.quiet :=
      only_now fun _ quiet => quiet
    apply guarded_next (guarded_idle clock fun _ => idle_of_quiet)
    intro createdAt dated dating
    apply guarded_call
    · trivial
    intro childId
    apply guarded_check
    intro child _
    apply guarded_call
    · trivial
    intro created
    apply guarded_check
    intro _ _
    apply guarded_check
    intro childContext derived
    obtain ⟨within, keyed⟩ := forChildRun_ok derived
    have named := @grown_call dated Prepares .newRunId trivial (.ok childId)
    have bred := @grown_call (dated ++ [called .newRunId (.ok childId)]) Prepares
      (.runCreate child) trivial (.ok created)
    have prepared : Grown Prepares trace _ := (((timely.trans dating).mono fun _ =>
      prepares_of_quiet).trans named).trans bred
    apply guarded_next (guarded_nodeInput (accepted.grown prepared) reflects)
    intro inputValue loaded reached
    obtain ⟨loading, supplied⟩ := reached
    have before := prepared.trans loading
    apply guarded_call
    · refine ⟨⟨child, created, rfl, loading.subset (by simp)⟩, inputValue, rfl, node, checkpoint,
        type, ?_, accepted.grown before, dispatchable, granted.grown before, supplied⟩
      rw [within, (RuntimeCallContext.narrow_ok narrowed).1]
      rfl
    intro result
    apply guarded_check
    intro value valued
    apply guarded_return
    refine ⟨(before.mono fun _ => unasking_of_prepares).trans (grown_call _ trivial _), loaded,
      _, _, childContext, rfl, keyed, valued⟩
  · exact guarded_raise

end Nodes

end CongeriesCore.WorkflowTraces
