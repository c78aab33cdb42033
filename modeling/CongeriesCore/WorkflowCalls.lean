import CongeriesCore.WorkflowTurns

/-! # Calls of the workflow runtime

What a call never does before something else has happened, whatever its collaborators answer, and
how it may end. -/

namespace CongeriesCore.WorkflowTraces

open AsyncProgram AsyncProgram.Program GatewayDispatch WorkflowProgress WorkflowRuntime

inductive WorkflowCall
  | execute
  | recover (request : RecoveryRequest)
  | decideApproval (decision : ApprovalDecision)

def WorkflowCall.program [PythonText] [Sha256] (runtime : WorkflowRuntime)
    (definition : WorkflowDefinition) (context : WorkflowContext) :
    WorkflowCall → WorkflowProgram WorkflowExecutionOutcome
  | .execute => runtime.execute definition context
  | .recover request => runtime.recover definition context request
  | .decideApproval decision => runtime.decideApproval definition context decision

/-! ## Counting -/

/-- Whom the policy is asked about. -/
def asked (event : WorkflowEvent) : Option RuntimePrincipal :=
  match event.1 with
  | .authorize request => some request.principal
  | _ => none

/-- An agent or the evaluator is executed. -/
def isExecution (event : WorkflowEvent) : Bool :=
  match event.1 with
  | .call (.executeAgent _ _ _) | .call (.evaluate _ _) => true
  | _ => false

theorem asked_eq_some {event : WorkflowEvent} {principal : RuntimePrincipal}
    (found : asked event = some principal) :
    ∃ request outcome, event = ⟨.authorize request, outcome⟩ ∧ request.principal = principal := by
  obtain ⟨op, outcome⟩ := event
  cases op with
  | authorize request => exact ⟨request, outcome, rfl, Option.some.inj found⟩
  | _ => cases found

theorem isExecution_eq_false {event : WorkflowEvent} (prepares : Prepares event.1) :
    isExecution event = false := by
  obtain ⟨op, outcome⟩ := event
  cases op with
  | call op =>
    cases op with
    | executeAgent => exact absurd prepares id
    | evaluate => exact absurd prepares id
    | _ => rfl
  | _ => rfl

theorem of_isExecution {event : WorkflowEvent} (found : isExecution event = true) :
    (∃ runId input callContext outcome,
      event = called (.executeAgent runId input callContext) outcome) ∨
    ∃ request callContext outcome, event = called (.evaluate request callContext) outcome := by
  obtain ⟨op, outcome⟩ := event
  cases op with
  | call op =>
    cases op with
    | executeAgent runId input callContext => exact .inl ⟨runId, input, callContext, outcome, rfl⟩
    | evaluate request callContext => exact .inr ⟨request, callContext, outcome, rfl⟩
    | _ => cases found
  | _ => cases found

/-- Answers that are each new are all different. -/
theorem nodup_filterMap {α β : Type} {f : α → Option β} {items : List α}
    (fresh : ∀ before item after, items = before ++ item :: after → ∀ value, f item = some value →
      value ∉ before.filterMap f) : (items.filterMap f).Nodup := by
  induction items using List.reverseRecOn with
  | nil => simp
  | append_singleton items item ih =>
    have earlier : (items.filterMap f).Nodup := by
      apply ih
      intro before inner after split
      exact fresh before inner (after ++ [item]) (by simp [split])
    rw [List.filterMap_append]
    cases found : f item with
    | none => simpa [found] using earlier
    | some value =>
      have new := fresh items item [] rfl value found
      simp only [List.filterMap_cons, found, List.filterMap_nil]
      apply earlier.append (List.nodup_singleton value)
      intro other member single
      rw [List.mem_singleton.mp single] at member
      exact new member

/-- The node that is executed has been granted since the last execution. -/
theorem led_of_executes {definition : WorkflowDefinition} {context : WorkflowContext}
    {type : WorkflowNodeType} {value : JsonValue} {call : RuntimeCallContext}
    {before : WorkflowTrace} (executes : Executes definition context type value call before) :
    ∃ earlier leader since, before = earlier ++ leader :: since ∧ isAuthorize leader = true ∧
      isExecution leader = false ∧ since.countP isExecution = 0 := by
  obtain ⟨node, checkpoint, -, -, -, -, late, -⟩ := executes
  obtain ⟨earlier, leader, granted, added, rfl, quiet⟩ := late
  obtain ⟨request, decision, -, -, rfl⟩ := granted
  let leader : WorkflowEvent := ⟨.authorize request, .ok decision⟩
  refine ⟨earlier, leader, added, by simp [leader], rfl, rfl, ?_⟩
  apply List.countP_eq_zero.mpr
  intro event member
  simp [isExecution_eq_false (quiet event member)]

/-! ## What a call does -/

section Calls

variable [PythonText] [Sha256] {runtime : WorkflowRuntime} {definition : WorkflowDefinition}
  {context : WorkflowContext}

namespace WorkflowCall

variable (call : WorkflowCall)

/-- Whatever is answered, a call meets every need of the runtime and ends as it may. -/
theorem safe : (call.program runtime definition context).Safe (recording fun _ _ => True)
    (.traced (Needed runtime definition context))
    (Ends (Concludes runtime definition) fun _ => True) [] := by
  have guarded : Guarded runtime definition context (call.program runtime definition context)
      (Concludes runtime definition) [] := by
    cases call with
    | execute => exact guarded_execute
    | recover request => exact guarded_recover
    | decideApproval decision => exact guarded_decideApproval
  unfold Guarded at guarded
  exact guarded

/-- What follows from the order of events that the runtime keeps to, all its calls leave. -/
theorem leaves_of_needed {held : WorkflowTrace → Prop}
    (shows : ∀ trace, (∀ before event after, trace = before ++ event :: after →
      Needed runtime definition context event.1 before) → held trace) :
    (call.program runtime definition context).Leaves held := by
  intro rest trace steps
  exact shows trace (call.safe.leaves rest trace steps)

end WorkflowCall

variable (call : WorkflowCall)

/-- A call asks about one node after the other, each time about the least one that is ready at a
checkpoint the coordinators have, while no approval is pending and no evaluation has failed; and
about no node twice. -/
theorem call_asks_in_order : (call.program runtime definition context).Leaves fun trace =>
    (∀ before request outcome after, trace = before ++ ⟨.authorize request, outcome⟩ :: after →
      ∃ node checkpoint, Accepted checkpoint before ∧ Dispatchable definition checkpoint node ∧
        nodeAccess node context.runtime = .ok request) ∧
    (trace.filterMap asked).Nodup := by
  refine call.leaves_of_needed ?_
  intro trace needed
  have asks : ∀ before request outcome after,
      trace = before ++ ⟨.authorize request, outcome⟩ :: after →
        Asks definition context request before := by
    intro before request outcome after split
    exact needed before _ after split
  constructor
  · intro before request outcome after split
    obtain ⟨node, checkpoint, accepted, dispatchable, access, -⟩ :=
      asks before request outcome after split
    exact ⟨node, checkpoint, accepted, dispatchable, access⟩
  · apply nodup_filterMap
    intro before event after split principal found member
    obtain ⟨request, outcome, rfl, own⟩ := asked_eq_some found
    obtain ⟨node, checkpoint, -, -, -, new⟩ := asks before request outcome after split
    obtain ⟨earlier, inside, same⟩ := List.mem_filterMap.mp member
    obtain ⟨other, answer, rfl, other_own⟩ := asked_eq_some same
    exact new other answer inside (other_own.trans own.symm)

/-- What is persisted is what an agent or the evaluator has just returned for the node, under the
same idempotency key and for the same node. -/
theorem call_persists_produced : (call.program runtime definition context).Leaves fun trace =>
    ∀ before request callContext outcome after,
      trace = before ++ called (.persistOutput request callContext) outcome :: after →
        Persists runtime definition request before := by
  refine call.leaves_of_needed ?_
  intro trace needed before request callContext outcome after split
  exact needed before _ after split

/-- A checkpoint is saved under a reference that was just given. It opens a run, or it adds to a
checkpoint that the coordinators have the state of one node, whose output was just persisted. -/
theorem call_saves_persisted : (call.program runtime definition context).Leaves fun trace =>
    ∀ before provider checkpoint version callContext outcome after,
      trace = before ++ called (.checkpointSave provider checkpoint version callContext) outcome ::
        after → Saves definition checkpoint before ∧ Named checkpoint.ref before := by
  refine call.leaves_of_needed ?_
  intro trace needed before provider checkpoint version callContext outcome after split
  exact needed before _ after split

/-- An approval is requested for an approval node that the policy has just granted; a decision is
submitted for an approval of a checkpoint that the coordinators have, as its only change. -/
theorem call_approvals_recorded : (call.program runtime definition context).Leaves fun trace =>
    (∀ before provider request checkpoint version callContext outcome after,
      trace = before ++ called (.requestApproval provider request checkpoint version callContext)
        outcome :: after →
          Requests definition context request checkpoint before ∧ Named checkpoint.ref before) ∧
    ∀ before submission outcome after,
      trace = before ++ called (.decideApproval submission) outcome :: after →
        Submits definition submission before ∧ Named submission.checkpoint.ref before := by
  refine call.leaves_of_needed ?_
  intro trace needed
  constructor
  · intro before provider request checkpoint version callContext outcome after split
    exact needed before _ after split
  · intro before submission outcome after split
    exact needed before _ after split

/-- Outputs are loaded only by references that a checkpoint the coordinators have records for the
node; and a run is completed only after all its nodes, its output being loaded and checked. -/
theorem call_completes_loaded : (call.program runtime definition context).Leaves fun trace =>
    (∀ before request callContext outcome after,
      trace = before ++ called (.loadOutput request callContext) outcome :: after →
        Loads request before) ∧
    ∀ before runId version outcome after,
      trace = before ++ called (.complete runId version) outcome :: after →
        ∃ checkpoint output, Completed runtime definition checkpoint output before := by
  refine call.leaves_of_needed ?_
  intro trace needed
  constructor
  · intro before request callContext outcome after split
    exact needed before _ after split
  · intro before runId version outcome after split
    exact needed before _ after split

/-- A result without an error comes after all nodes have completed, with the output that was loaded
and checked; and a suspension names an approval that is pending in its checkpoint. -/
theorem call_concludes : (call.program runtime definition context).Delivers
    (Concludes runtime definition) := by
  intro value trace steps
  exact call.safe.delivers value trace steps

end Calls

end CongeriesCore.WorkflowTraces
