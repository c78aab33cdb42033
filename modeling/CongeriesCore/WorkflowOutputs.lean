import CongeriesCore.AsyncSimulation
import CongeriesCore.AuthorizationResources
import CongeriesCore.GatewayTraces
import CongeriesCore.WorkflowValidation

/-! # Recoverable node outputs

What a node produced is kept by an injected store behind an authorized gateway. The reference that
the store gives is checked when it is made and again before it is followed. -/

namespace CongeriesCore

open AsyncProgram AsyncProgram.Program GatewayDispatch

structure PersistNodeOutputRequest where
  runId : RunId
  nodeId : NodeId
  schema : SchemaRef
  value : JsonValue
  scope : ScopeRef
  idempotencyKey : IdempotencyKey

structure LoadNodeOutputRequest where
  runId : RunId
  nodeId : NodeId
  schema : SchemaRef
  reference : CheckpointReference
  scope : ScopeRef
  narrower : reference.scope.requireNarrowerThan scope = .ok ()

/-- The constructor call: raises what `__post_init__` raises. -/
def LoadNodeOutputRequest.make (runId : RunId) (nodeId : NodeId) (schema : SchemaRef)
    (reference : CheckpointReference) (scope : ScopeRef) : Except Raised LoadNodeOutputRequest :=
  match narrower : reference.scope.requireNarrowerThan scope with
  | .ok () => .ok ⟨runId, nodeId, schema, reference, scope, narrower⟩
  | .error error => .error error

/-- `NodeOutputStore`. -/
inductive OutputStoreOp
  | persist (request : PersistNodeOutputRequest) (context : RuntimeCallContext)
  | load (request : LoadNodeOutputRequest) (context : RuntimeCallContext)

abbrev OutputStoreOp.Answer : OutputStoreOp → Type
  | .persist _ _ => Returned CheckpointReference
  | .load _ _ => Returned JsonValue

abbrev outputStoreInterface : Interface := ⟨OutputStoreOp, OutputStoreOp.Answer⟩

abbrev OutputProgram := GatewayProgram outputStoreInterface

abbrev outputStoreOp (op : OutputStoreOp) : OutputProgram op.Answer :=
  @providerOp outputStoreInterface op

def workflowOutputLoadAction : ActionRef := ⟨"core", "workflow.output.load", "1", by decide⟩

/-- `WORKFLOW_OUTPUT_RESOURCE_TYPE`. -/
def workflowOutputResourceType : String := "workflow_node_output"

structure AuthorizedNodeOutputPersistence where
  authorization : GatewayAuthorization

namespace AuthorizedNodeOutputPersistence

/-- `_validate_reference`. -/
def validateReference (reference : CheckpointReference) (scope : ScopeRef) (schema : SchemaRef) :
    Except Raised Unit := do
  ensure (reference.resourceType == workflowOutputResourceType) (coreError .protocolFailure
    "workflow_output_reference_type_invalid" "node output reference has the wrong resource type")
  reference.scope.requireNarrowerThan scope
  ensure (reference.version == some schema.version) (coreError .versionMismatch
    "workflow_output_schema_version_mismatch"
    "node output reference version does not match its schema")

def invalidReference : Raised :=
  coreError .protocolFailure "workflow_output_reference_invalid"
    "node output persistence returned an invalid reference"

def persist (gateway : AuthorizedNodeOutputPersistence) (request : PersistNodeOutputRequest)
    (context : RuntimeCallContext) : OutputProgram CheckpointReference := do
  let access ← ofExcept (nodeOutputAccess ⟨request.runId, request.nodeId⟩ request.scope context
    workflowOutputPersistAction)
  let raw ← gateway.authorization.dispatcher.dispatch access fun call =>
    outputStoreOp (.persist request call.context)
  match raw with
  | .malformed => .raise invalidReference
  | .typed reference => do
    ofExcept (validateReference reference request.scope request.schema)
    return reference

/-- `as_json_value`. -/
def asJsonValue : Returned JsonValue → Except Raised JsonValue
  | .typed value => .ok value
  | .malformed => .error (.value "loaded node output must be valid JSON data")

def load (gateway : AuthorizedNodeOutputPersistence) (request : LoadNodeOutputRequest)
    (context : RuntimeCallContext) : OutputProgram JsonValue := do
  ofExcept (validateReference request.reference request.scope request.schema)
  let access ← ofExcept (nodeOutputAccess ⟨request.runId, request.nodeId⟩ request.scope context
    workflowOutputLoadAction)
  let raw ← gateway.authorization.dispatcher.dispatch access fun call =>
    outputStoreOp (.load request call.context)
  ofExcept (asJsonValue raw)

/-! ### What the store is asked -/

abbrev OutputTrace := GatewayTrace outputStoreInterface

/-- The store is asked for this, once the policy has granted the access and in the granted call. -/
def Stores (asks : RuntimeCallContext → OutputStoreOp) (access : Except Raised AccessRequest)
    (op : OutputStoreOp) (trace : OutputTrace) : Prop :=
  ∃ request call, access = .ok request ∧ Granted request call ∧
    Granting request call.grant [] trace ∧ op = asks call.context

def StoreNeeded (asks : RuntimeCallContext → OutputStoreOp) (access : Except Raised AccessRequest) :
    (op : GatewayOp outputStoreInterface) → OutputTrace → Prop
  | .call op, trace => Stores asks access op trace
  | _, _ => True

theorem storeNeeded_of_quiet {asks : RuntimeCallContext → OutputStoreOp}
    {access : Except Raised AccessRequest} (op : GatewayOp outputStoreInterface)
    (trace : OutputTrace) (quiet : op.quiet) : StoreNeeded asks access op trace := by
  cases op with
  | call => exact absurd quiet id
  | _ => trivial

variable {gateway : AuthorizedNodeOutputPersistence} {context : RuntimeCallContext}

/-- The store is asked by a dispatch that has been granted, and what it answers is handed on. -/
theorem guards_store {α : Type} {access : AccessRequest} {asks : RuntimeCallContext → OutputStoreOp}
    {operation : AuthorizedCall → OutputProgram α} {post : Except Raised α → OutputTrace → Prop}
    (refused : ∀ error after, post (.error error) after)
    (operates : ∀ call after, Stores asks (.ok access) (asks call.context) after →
      Guards (fun _ _ => True) (StoreNeeded asks (.ok access)) (operation call) post after) :
    Guards (fun _ _ => True) (StoreNeeded asks (.ok access))
      (gateway.authorization.dispatcher.dispatch access operation) post [] := by
  apply guards_dispatch storeNeeded_of_quiet
  · intro after _
    trivial
  · intro error after _
    exact refused error after
  · intro call after granted granting
    exact operates call after ⟨access, call, rfl, granted, granting, rfl⟩

/-- The reference of an output has been given by the store, just now. -/
def Given (request : PersistNodeOutputRequest) (reference : CheckpointReference)
    (trace : OutputTrace) : Prop :=
  ∃ before callContext, trace = before ++
    [(⟨.call (.persist request callContext), .ok (.typed reference)⟩ :
      Event (gatewayInterface outputStoreInterface) Raised)]

theorem guards_persist (request : PersistNodeOutputRequest) :
    Guards (fun _ _ => True) (StoreNeeded (.persist request)
      (nodeOutputAccess ⟨request.runId, request.nodeId⟩ request.scope context
        workflowOutputPersistAction)) (gateway.persist request context)
      (Ends (fun reference trace => Given request reference trace ∧
        validateReference reference request.scope request.schema = .ok ()) fun _ => True) [] := by
  unfold persist
  cases made : nodeOutputAccess ⟨request.runId, request.nodeId⟩ request.scope context
      workflowOutputPersistAction with
  | error error => trivial
  | ok access =>
    let answered : Except Raised (Returned CheckpointReference) → OutputTrace → Prop :=
      Ends (fun raw trace => ∀ reference, raw = .typed reference → Given request reference trace)
        fun _ => True
    have dispatched : Guards (fun _ _ => True) (StoreNeeded (.persist request) (.ok access))
        (gateway.authorization.dispatcher.dispatch access fun call =>
          outputStoreOp (.persist request call.context)) answered [] := by
      apply guards_store
      · intro error after
        trivial
      · intro call after stores
        apply safe_perform_traced stores
        intro outcome _
        cases outcome with
        | error error => trivial
        | ok raw =>
          rintro reference rfl
          exact ⟨after, call.context, rfl⟩
    apply dispatched.next
    intro raw after given
    cases raw with
    | malformed => trivial
    | typed reference =>
      apply safe_guarded trivial
      intro _ valid
      exact ⟨given reference rfl, valid⟩

theorem guards_load (request : LoadNodeOutputRequest) :
    Guards (fun _ _ => True) (StoreNeeded (.load request)
      (nodeOutputAccess ⟨request.runId, request.nodeId⟩ request.scope context
        workflowOutputLoadAction)) (gateway.load request context)
      (Ends (fun _ _ => True) fun _ => True) [] := by
  unfold load
  apply safe_guarded trivial
  intro _ _
  cases made : nodeOutputAccess ⟨request.runId, request.nodeId⟩ request.scope context
      workflowOutputLoadAction with
  | error error => trivial
  | ok access =>
    have dispatched : Guards (fun _ _ => True) (StoreNeeded (.load request) (.ok access))
        (gateway.authorization.dispatcher.dispatch access fun call =>
          outputStoreOp (.load request call.context))
        (Ends (fun _ _ => True) fun _ => True) [] := by
      apply guards_store
      · intro error after
        trivial
      · intro call after stores
        apply safe_perform_traced stores
        intro outcome _
        cases outcome with
        | error error => trivial
        | ok raw => trivial
    apply dispatched.next
    intro raw after _
    apply safe_checked
    · intro value _
      trivial
    · trivial

/-- A reference that is returned is the one that the store has just given for the request, which was
granted; and the same node, schema and scope will pass all checks before it is followed. -/
theorem persist_loadable (request : PersistNodeOutputRequest) :
    ((gateway.persist request context).Leaves fun trace => ∀ before op outcome after,
      trace = before ++ ⟨.call op, outcome⟩ :: after →
        Stores (.persist request) (nodeOutputAccess ⟨request.runId, request.nodeId⟩ request.scope
          context workflowOutputPersistAction) op before) ∧
    (gateway.persist request context).Delivers fun reference trace =>
      Given request reference trace ∧ ∃ loading,
        LoadNodeOutputRequest.make request.runId request.nodeId request.schema reference
          request.scope = .ok loading ∧
        validateReference loading.reference loading.scope loading.schema = .ok () := by
  have guards : Guards (fun _ _ => True) _ (gateway.persist request context) _ [] :=
    guards_persist request
  constructor
  · intro rest trace steps before op outcome after split
    exact guards.leaves rest trace steps before _ after split
  · intro reference trace steps
    obtain ⟨given, valid⟩ := guards.delivers reference trace steps
    refine ⟨given, ?_⟩
    obtain ⟨_, _, rest⟩ := bind_ok valid
    obtain ⟨_, narrower, _⟩ := bind_ok rest
    refine ⟨⟨request.runId, request.nodeId, request.schema, reference, request.scope, narrower⟩, ?_,
      valid⟩
    unfold LoadNodeOutputRequest.make
    split
    · rfl
    · rename_i failed
      rw [narrower] at failed
      cases failed

/-- A reference that is not of the node's schema, scope and kind is not followed, nor the policy
asked about it; any other only once the policy has granted it. -/
theorem load_checked (request : LoadNodeOutputRequest) :
    (gateway.load request context).Leaves fun trace =>
      (validateReference request.reference request.scope request.schema ≠ .ok () → trace = []) ∧
      ∀ before op outcome after, trace = before ++ ⟨.call op, outcome⟩ :: after →
        Stores (.load request) (nodeOutputAccess ⟨request.runId, request.nodeId⟩ request.scope
          context workflowOutputLoadAction) op before := by
  intro rest trace steps
  constructor
  · intro invalid
    unfold load at steps
    cases checked : validateReference request.reference request.scope request.schema with
    | ok _ => exact absurd checked invalid
    | error error =>
      rw [checked] at steps
      exact (Steps.ended_raise steps).2
  · intro before op outcome after split
    have guards : Guards (fun _ _ => True) _ (gateway.load request context) _ [] :=
      guards_load request
    exact guards.leaves rest trace steps before _ after split

end AuthorizedNodeOutputPersistence

end CongeriesCore
