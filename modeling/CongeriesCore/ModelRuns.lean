import CongeriesCore.ModelGateway

/-! # Runs of a model gateway

What a gateway can come to in calm surroundings: no call is cancelled, the policy grants under
constraints that fit the request, and the events are published. -/

namespace CongeriesCore

open AsyncProgram AsyncProgram.Program GatewayDispatch SampleParameters

/-- The provider and the model have one resource identifier. -/
def ModelSelector.Identified (selector : ModelSelector) : Prop :=
  Identifier.check (selector.providerId.value ++ ":" ++ selector.modelId.value) = .ok ()

theorem modelAccess_identified {selector : ModelSelector} (identified : selector.Identified)
    (context : RuntimeCallContext) (action : ActionRef)
    (constraints : List (String × JsonValue)) :
    ∃ access, modelAccess selector context action constraints = .ok access ∧
      access.action = action ∧ access.context = context ∧ access.scope = context.scope := by
  unfold modelAccess
  rw [Identifier.make_self ⟨_, identified⟩]
  exact ⟨_, rfl, rfl, rfl, rfl⟩

theorem modelAccess_unidentified {selector : ModelSelector} (unidentified : ¬selector.Identified)
    (context : RuntimeCallContext) (action : ActionRef)
    (constraints : List (String × JsonValue)) :
    ∃ message, modelAccess selector context action constraints = .error (.value message) := by
  obtain ⟨message, made⟩ := Identifier.make_error .resource unidentified
  unfold modelAccess
  rw [made]
  exact ⟨message, rfl⟩

namespace ModelGateway

abbrev ModelPermits := (op : GatewayOp modelInterface) → Except Raised op.Answer → Prop

structure Calm (permits : ModelPermits) : Prop where
  active : Uncancelled permits
  now : permits .now (.ok sampleTime)
  emits : ∀ eventType context payload, permits (.call (.emit eventType context payload)) (.ok ())

/-- The gateway may call the model for the request. -/
structure Authorized (gateway : ModelGateway) (request : ModelRequest) (action : ActionRef)
    (context : RuntimeCallContext) : Prop where
  registered : request.selector.providerId ∈ gateway.providers
  identified : request.selector.Identified
  governed : gateway.authorization.governed = true
  known : action ∈ gateway.authorization.actions
  endless : context.deadline = none

/-- The policy may grant what leaves this of the request. -/
structure Leaves (permits : ModelPermits) (request constrained : ModelRequest)
    (constraints : List (String × JsonValue)) : Prop where
  grants : ∀ access, Grants permits access constraints
  effective : constrainModelRequest request constraints = .ok constrained

variable {permits : ModelPermits} {gateway : ModelGateway} {request constrained : ModelRequest}
  {context : RuntimeCallContext} {constraints : List (String × JsonValue)} {action : ActionRef}

theorem checkProvider_ok (authorized : Authorized gateway request action context) :
    gateway.checkProvider request.selector.providerId = .ok () := by
  apply ensure_ok
  simpa using authorized.registered

theorem can_now (calm : Calm permits) :
    (RuntimeControl.now : ModelProgram DateTime).Can permits (· = .ok sampleTime) :=
  can_perform calm.now rfl

theorem can_emit (calm : Calm permits) {eventType : String} {payload : List (String × JsonValue)} :
    (emit eventType context payload).Can permits (· = .ok ()) := by
  have emitted : (modelOp (.emit eventType context payload)).Can permits (· = .ok ()) :=
    can_perform (calm.emits eventType context payload) rfl
  apply emitted.andThen
  intro outcome ended
  subst ended
  rfl

theorem can_emitFailure (calm : Calm permits) {operation : ModelOperation} {detail : ErrorDetail} :
    (emitFailure context operation detail).Can permits (· = .ok ()) :=
  (can_now calm).bind (can_emit calm)

theorem can_emitCompleted (calm : Calm permits) {operation : ModelOperation}
    {response : ModelResponse} :
    (emitCompleted context operation response).Can permits (· = .ok ()) :=
  (can_now calm).bind (can_emit calm)

/-- An authorized call does what its operation does with what is left of the request. -/
theorem can_call {α : Type} {operation : AuthorizedCall → ModelProgram α} {access : AccessRequest}
    {post : Except Raised α → Prop} (calm : Calm permits)
    (authorized : Authorized gateway request action context)
    (leaves : Leaves permits request constrained constraints)
    (accessed : modelAccess request.selector context action (modelConstraints request) = .ok access)
    (operates : ∀ call, constrainModelRequest request call.grant.constraints = .ok constrained →
      call.context.deadline = none → (operation call).Can permits post) :
    (gateway.authorization.dispatcher.dispatch access operation).Can permits post := by
  obtain ⟨same, made, asked, inContext, inScope⟩ := modelAccess_identified
    authorized.identified context action (modelConstraints request)
  rw [made] at accessed
  cases accessed
  apply can_dispatch calm.active (leaves.grants _) authorized.governed (asked ▸ authorized.known)
    (inContext ▸ authorized.endless) (inScope.trans (inContext ▸ rfl))
  intro call _ granted unchanged
  apply operates call
  · rw [granted]
    exact leaves.effective
  · rw [unchanged, inContext]
    exact authorized.endless

/-- A response of the provider that is valid is returned. -/
theorem can_generate {response : ModelResponse} (calm : Calm permits)
    (authorized : Authorized gateway request modelGenerateAction context)
    (leaves : Leaves permits request constrained constraints)
    (answers : ∀ context, permits
      (.call (.generate request.selector.providerId constrained context)) (.ok (.typed response)))
    (valid : validateModelResponse gateway.schemas request response = .ok ()) :
    (gateway.generate request context).Can permits (· = .ok response) := by
  obtain ⟨access, accessed, -⟩ := modelAccess_identified authorized.identified context
    modelGenerateAction (modelConstraints request)
  have answered : ∀ call : AuthorizedCall,
      constrainModelRequest request call.grant.constraints = .ok constrained →
      call.context.deadline = none →
      (do
        let constrained ← ofExcept (constrainModelRequest request call.grant.constraints)
        normalized (call.context.awaitProvider
          (modelOp (.generate request.selector.providerId constrained call.context))) :
            ModelProgram (Returned ModelResponse)).Can permits (· = .ok (.typed response)) := by
    intro call effective endless
    have asked : (modelOp (.generate request.selector.providerId constrained call.context)).Can
        permits (· = .ok (.typed response)) := can_perform (answers call.context) rfl
    apply can_passed effective
    apply (can_awaitProvider calm.active endless asked).andThen
    intro outcome ended
    subst ended
    rfl
  have dispatched := can_call calm authorized leaves accessed answered
  apply (can_now calm).bind
  apply can_passed (checkProvider_ok authorized)
  apply can_passed accessed
  apply (can_emit calm).bind
  apply Can.caught
  apply dispatched.bind
  apply can_passed valid
  apply (can_emitCompleted calm).bind
  rfl

/-- A stream opens as the provider does. -/
theorem can_openStream {outcome : Except Raised Bool} {access : AccessRequest}
    (calm : Calm permits) (authorized : Authorized gateway request modelStreamAction context)
    (leaves : Leaves permits request constrained constraints)
    (opens : ∀ context, permits
      (.call (.stream request.selector.providerId constrained context)) outcome)
    (accessed : modelAccess request.selector context modelStreamAction (modelConstraints request) =
      .ok access) :
    (gateway.openStream request access).Can permits (· = outcome) := by
  apply can_call calm authorized leaves accessed
  intro call effective _
  apply can_passed effective
  exact can_perform (opens call.context) rfl

/-- What a stream does from the opening of its iterator on. -/
def streaming (gateway : ModelGateway) (request : ModelRequest) (context : RuntimeCallContext)
    (fuel : ℕ) : Except Raised Bool → ModelProgram Unit
  | .error error => failing context (.raise error)
  | .ok closable => finallyDo
      (failing context do
        emitStarted request context .stream
        gateway.pump request context fuel false)
      (if closable then modelOp .aclose else pure ())

theorem can_stream {fuel : ℕ} {outcome : Except Raised Bool} {post : Except Raised Unit → Prop}
    (calm : Calm permits) (authorized : Authorized gateway request modelStreamAction context)
    (leaves : Leaves permits request constrained constraints)
    (opens : ∀ context, permits
      (.call (.stream request.selector.providerId constrained context)) outcome)
    (rest : (gateway.streaming request context fuel outcome).Can permits post) :
    (gateway.stream request context fuel).Can permits post := by
  obtain ⟨access, accessed, -⟩ := modelAccess_identified authorized.identified context
    modelStreamAction (modelConstraints request)
  apply (can_now calm).bind
  apply can_passed (checkProvider_ok authorized)
  apply can_passed accessed
  apply (can_openStream calm authorized leaves opens accessed).andThen
  intro opened ended
  subst ended
  cases opened with
  | ok closable => exact rest
  | error error => exact rest

/-- A stream comes to what its loop comes to. -/
theorem reaches_stream {fuel : ℕ} {reached : GatewayOp modelInterface → Prop}
    (calm : Calm permits) (authorized : Authorized gateway request modelStreamAction context)
    (leaves : Leaves permits request constrained constraints)
    (opens : ∀ context, permits
      (.call (.stream request.selector.providerId constrained context)) (.ok false))
    (comes : (gateway.pump request context fuel false).Reaches permits reached) :
    (gateway.stream request context fuel).Reaches permits reached := by
  obtain ⟨access, accessed, -⟩ := modelAccess_identified authorized.identified context
    modelStreamAction (modelConstraints request)
  have opened : (gateway.openStream request access).Can permits (· = .ok false) :=
    can_openStream calm authorized leaves opens accessed
  apply (can_now calm).bind_reaches
  apply passed_reaches (checkProvider_ok authorized)
  apply passed_reaches accessed
  apply opened.andThen_reaches
  intro outcome ended
  subst ended
  apply Reaches.andThen
  apply Reaches.andThen
  exact (can_emit calm).bind_reaches comes

end ModelGateway

end CongeriesCore
