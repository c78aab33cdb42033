import CongeriesCore.GatewayDispatch
import CongeriesCore.ModelContracts

/-! # The model gateway

How a model is asked for a response or for a stream of events. A stream is a generator: it
suspends on the provider's next event, on its own event being taken by the consumer, and at its end
on the closing of the provider's iterator. -/

namespace CongeriesCore

open AsyncProgram AsyncProgram.Program

def modelGenerateAction : ActionRef := ⟨"core", "model.generate", "1", by decide⟩
def modelStreamAction : ActionRef := ⟨"core", "model.stream", "1", by decide⟩

def modelInvocationStarted : String := "core.model.invocation_started"
def modelInvocationCompleted : String := "core.model.invocation_completed"
def modelInvocationFailed : String := "core.model.invocation_failed"

inductive ModelOp
  | emit (eventType : String) (context : RuntimeCallContext) (payload : List (String × JsonValue))
  | generate (providerId : ProviderId) (request : ModelRequest) (context : RuntimeCallContext)
  | stream (providerId : ProviderId) (request : ModelRequest) (context : RuntimeCallContext)
  | anext
  | aclose
  | yield_ (event : ModelEvent)

/-- `stream` answers whether its iterator can be closed. -/
abbrev ModelOp.Answer : ModelOp → Type
  | .emit _ _ _ => Unit
  | .generate _ _ _ => Returned ModelResponse
  | .stream _ _ _ => Bool
  | .anext => Returned ModelEvent
  | .aclose => Unit
  | .yield_ _ => Unit

abbrev modelInterface : Interface := ⟨ModelOp, ModelOp.Answer⟩

abbrev ModelProgram := GatewayProgram modelInterface

abbrev modelOp (op : ModelOp) : ModelProgram op.Answer := @providerOp modelInterface op

/-- What an iterator raises at its end. -/
def stopAsyncIteration : Raised := .other "StopAsyncIteration"

/-! ### Requests and responses -/

/-- `_resource_name`. -/
def resourceName (resource : ResourceRef) : String :=
  ":".intercalate [resource.namespace_, resource.kind, resource.id.value]

/-- The constraints of a request, which a grant may narrow. -/
def modelConstraints (request : ModelRequest) : List (String × JsonValue) :=
  [("model", .str request.selector.modelId.value),
    ("tools", .arr (request.tools.map fun tool => .str (resourceName tool))),
    ("max_input_units", .ofOption (fun limit => .int limit) request.budget.maxInputUnits),
    ("max_output_units", .ofOption (fun limit => .int limit) request.budget.maxOutputUnits)]

/-- `_access_request`. -/
def modelAccess (selector : ModelSelector) (context : RuntimeCallContext) (action : ActionRef)
    (constraints : List (String × JsonValue)) : Except Raised AccessRequest := do
  let resource ← Identifier.make .resource
    (selector.providerId.value ++ ":" ++ selector.modelId.value)
  pure {
    principal := .core .run ⟨context.runId.value, context.runId_checked⟩
    action
    resource := ⟨"core", "model", resource, none, by decide, by decide, nofun⟩
    scope := context.scope
    context
    constraints }

/-- `replace(request, tools=…, budget=…)`, with the tools that the grant leaves. -/
def ModelRequest.narrowed (request : ModelRequest) (names : Option (List String))
    (budget : ModelBudget) : ModelRequest :=
  { request with
    tools := request.tools.filter fun tool => names.all (·.contains (resourceName tool))
    budget
    valid := ⟨request.valid.1, List.Nodup.sublist (List.filter_sublist.map _) request.valid.2⟩ }

/-- `_constrain_request`. -/
def constrainModelRequest (request : ModelRequest) (constraints : List (String × JsonValue)) :
    Except Raised ModelRequest := do
  ensure (!unknownConstraint constraints ["model", "tools", "max_input_units", "max_output_units"])
    (AuthorizedDispatcher.invalidGrant "model grant contains unknown constraints")
  ensure (match Dict.lookup "model" constraints with
    | none | some .null => true
    | some model => model.equals (.str request.selector.modelId.value))
    (AuthorizedDispatcher.invalidGrant "model grant changes the requested model")
  let names ← narrowNames (request.tools.map resourceName) (Dict.lookup "tools" constraints)
    (AuthorizedDispatcher.invalidGrant "model tool constraint is invalid")
    (AuthorizedDispatcher.invalidGrant "model grant broadens requested tools")
  let maxInputUnits ← narrowLimit "model" "max_input_units" request.budget.maxInputUnits
    (Dict.lookup "max_input_units" constraints)
  let maxOutputUnits ← narrowLimit "model" "max_output_units" request.budget.maxOutputUnits
    (Dict.lookup "max_output_units" constraints)
  let budget ← ModelBudget.make maxInputUnits maxOutputUnits
  pure (request.narrowed names budget)

/-- `_protocol_failure`. -/
def modelProtocolFailure (message : String) (given : message ≠ "" := by decide) : Raised :=
  coreError .protocolFailure "model_provider_protocol_failure" message ⟨by decide, given⟩

/-- `_protocol_detail`. -/
def modelProtocolDetail (code message : String) (required : code ≠ "" ∧ message ≠ "" := by decide) :
    ErrorDetail :=
  ⟨.protocolFailure, code, message, false, none, [], required⟩

/-- `_provider_failure`. -/
def modelProviderFailure (error : Raised) : ErrorDetail :=
  ⟨.unavailable, "model_provider_failure", "model provider failed", true, some error.typeName,
    [], by decide⟩

def JsonValue.isNull : JsonValue → Bool
  | .null => true
  | _ => false

/-- The part of `_validate_response` for a request of structured output. -/
def validateStructuredOutput (schemas : SchemaRegistry) (request : ModelRequest)
    (response : ModelResponse) : Except Raised Unit :=
  match request.outputSchema with
  | none => .ok ()
  | some schema => do
    ensure (!response.structuredOutput.isNull)
      (modelProtocolFailure "structured output was requested but not returned")
    schemas.validate schema response.structuredOutput

/-- `_validate_response`. -/
def validateModelResponse (schemas : SchemaRegistry) (request : ModelRequest)
    (response : ModelResponse) : Except Raised Unit := do
  ensure (response.providerId == request.selector.providerId &&
      response.modelId == request.selector.modelId)
    (modelProtocolFailure "model response identity does not match request")
  validateStructuredOutput schemas request response
  ensure (response.toolRequests.isEmpty || request.policy.allowToolRequests)
    (modelProtocolFailure "model returned tool requests when they were disabled")
  ensure (response.toolRequests.all fun proposal =>
      (request.tools.map (·.key)).contains proposal.tool.key)
    (modelProtocolFailure "model proposed an undeclared tool")
  ensure (request.budget.maxInputUnits.all (response.usage.inputUnits ≤ ·) &&
      request.budget.maxOutputUnits.all (response.usage.outputUnits ≤ ·))
    (coreError .invalidRequest "model_budget_exceeded" "model response exceeds the request budget")
  ensure (response.finishReason != .partial_ || request.policy.allowPartial)
    (coreError .partialResult "model_partial_result_rejected"
      "model returned a partial result that policy rejects")

theorem constrainModelRequest_core (request : ModelRequest)
    (constraints : List (String × JsonValue)) :
    Within (fun error => error.isCore = true) (constrainModelRequest request constraints) := by
  apply GatewayDispatch.within_bind GatewayDispatch.ensure_core
  intro _ _
  apply GatewayDispatch.within_bind GatewayDispatch.ensure_core
  intro _ _
  apply GatewayDispatch.within_bind GatewayDispatch.narrowNames_core
  intro names _
  apply GatewayDispatch.within_bind GatewayDispatch.narrowLimit_core
  intro maxInputUnits input
  apply GatewayDispatch.within_bind GatewayDispatch.narrowLimit_core
  intro maxOutputUnits output
  have made : ∃ budget, ModelBudget.make maxInputUnits maxOutputUnits = .ok budget := by
    have inputs := GatewayDispatch.narrowLimit_all input request.budget.positive.1
    have outputs := GatewayDispatch.narrowLimit_all output request.budget.positive.2
    exact ⟨⟨maxInputUnits, maxOutputUnits, inputs, outputs⟩, by
      rw [ModelBudget.make, dif_pos inputs, dif_pos outputs]⟩
  obtain ⟨budget, made⟩ := made
  rw [made]
  exact GatewayDispatch.within_ok

/-- A grant leaves some of the tools, and limits that are not above the requested ones. -/
theorem constrainModelRequest_ok {request constrained : ModelRequest}
    {constraints : List (String × JsonValue)}
    (narrowed : constrainModelRequest request constraints = .ok constrained) :
    (∃ names, constrained = request.narrowed names constrained.budget) ∧
      Narrower constrained.budget.maxInputUnits request.budget.maxInputUnits ∧
      Narrower constrained.budget.maxOutputUnits request.budget.maxOutputUnits := by
  obtain ⟨_, _, narrowed⟩ := bind_ok narrowed
  obtain ⟨_, _, narrowed⟩ := bind_ok narrowed
  obtain ⟨names, _, narrowed⟩ := bind_ok narrowed
  obtain ⟨maxInputUnits, input, narrowed⟩ := bind_ok narrowed
  obtain ⟨maxOutputUnits, output, narrowed⟩ := bind_ok narrowed
  obtain ⟨budget, made, narrowed⟩ := bind_ok narrowed
  obtain rfl : request.narrowed names budget = constrained := Except.ok.inj narrowed
  have budgeted : budget.maxInputUnits = maxInputUnits ∧ budget.maxOutputUnits = maxOutputUnits := by
    unfold ModelBudget.make at made
    split at made
    · split at made
      · cases made
        exact ⟨rfl, rfl⟩
      · cases made
    · cases made
  refine ⟨⟨names, rfl⟩, ?_, ?_⟩
  · change Narrower budget.maxInputUnits _
    rw [budgeted.1]
    exact GatewayDispatch.narrowLimit_ok input
  · change Narrower budget.maxOutputUnits _
    rw [budgeted.2]
    exact GatewayDispatch.narrowLimit_ok output

/-- A grant may leave the request as it is. -/
theorem constrainModelRequest_own (request : ModelRequest) :
    constrainModelRequest request (modelConstraints request) =
      .ok (request.narrowed (some (request.tools.map resourceName)) request.budget) := by
  have names : narrowNames (request.tools.map resourceName)
      (Dict.lookup "tools" (modelConstraints request))
      (AuthorizedDispatcher.invalidGrant "model tool constraint is invalid")
      (AuthorizedDispatcher.invalidGrant "model grant broadens requested tools") =
        .ok (some (request.tools.map resourceName)) := by
    have given : Dict.lookup "tools" (modelConstraints request) =
        some (.arr ((request.tools.map resourceName).map .str)) := by
      simp [modelConstraints, Dict.lookup]
    rw [given]
    exact GatewayDispatch.narrowNames_some fun _ member => member
  have input : narrowLimit "model" "max_input_units" request.budget.maxInputUnits
      (Dict.lookup "max_input_units" (modelConstraints request)) =
        .ok request.budget.maxInputUnits :=
    GatewayDispatch.narrowLimit_some request.budget.positive.1
      fun most given => ⟨most, given, le_refl most⟩
  have output : narrowLimit "model" "max_output_units" request.budget.maxOutputUnits
      (Dict.lookup "max_output_units" (modelConstraints request)) =
        .ok request.budget.maxOutputUnits :=
    GatewayDispatch.narrowLimit_some request.budget.positive.2
      fun most given => ⟨most, given, le_refl most⟩
  have known : unknownConstraint (modelConstraints request)
      ["model", "tools", "max_input_units", "max_output_units"] = false := rfl
  have budget : ModelBudget.make request.budget.maxInputUnits request.budget.maxOutputUnits =
      .ok request.budget := by
    rw [ModelBudget.make, dif_pos request.budget.positive.1, dif_pos request.budget.positive.2]
  have model : (JsonValue.str request.selector.modelId.value).equals
      (.str request.selector.modelId.value) = true := JsonValue.equals_str_self _
  unfold constrainModelRequest
  rw [known, names, input, output]
  change (do
    ensure ((JsonValue.str request.selector.modelId.value).equals
      (.str request.selector.modelId.value)) _
    let budget ← ModelBudget.make request.budget.maxInputUnits request.budget.maxOutputUnits
    pure (request.narrowed (some (request.tools.map resourceName)) budget)) = _
  rw [ensure_ok model, budget]
  rfl

/-! ### The gateway -/

structure ModelGateway where
  providers : List ProviderId
  schemas : SchemaRegistry
  authorization : GatewayAuthorization

namespace ModelGateway

/-- `ModelProviderRegistry.get`. -/
def checkProvider (gateway : ModelGateway) (providerId : ProviderId) : Except Raised Unit :=
  ensure (gateway.providers.contains providerId)
    (retryableError .unavailable "model_provider_not_registered"
      "model provider is not registered")

/-- `_emit`. -/
def emit (eventType : String) (context : RuntimeCallContext) (payload : List (String × JsonValue)) :
    ModelProgram Unit :=
  suppressException (modelOp (.emit eventType context payload))

def emitStarted (request : ModelRequest) (context : RuntimeCallContext)
    (operation : ModelOperation) : ModelProgram Unit :=
  emit modelInvocationStarted context [("operation", .str operation.value),
    ("provider_id", .str request.selector.providerId.value),
    ("model_id", .str request.selector.modelId.value)]

/-- The latency, for which the clock is read, is left out of the payload. -/
def emitCompleted (context : RuntimeCallContext) (operation : ModelOperation)
    (response : ModelResponse) : ModelProgram Unit := do
  let _ ← RuntimeControl.now
  emit modelInvocationCompleted context [("operation", .str operation.value),
    ("provider_id", .str response.providerId.value), ("model_id", .str response.modelId.value),
    ("finish_reason", .str response.finishReason.value),
    ("input_units", .int response.usage.inputUnits),
    ("output_units", .int response.usage.outputUnits), ("outcome", .str "completed")]

/-- `_emit_failure`. -/
def emitFailure (context : RuntimeCallContext) (operation : ModelOperation) (error : ErrorDetail) :
    ModelProgram Unit := do
  let _ ← RuntimeControl.now
  emit modelInvocationFailed context [("operation", .str operation.value),
    ("category", .str error.category.value), ("error_code", .str error.code),
    ("outcome", .str "failed")]

/-- `except CoreError: raise` before `except Exception`. -/
def normalized {α : Type} (program : ModelProgram α) : ModelProgram α :=
  program.catching fun error =>
    match error with
    | .core detail => .raise (.core detail)
    | error =>
      if error.isException then .raise (.core (modelProviderFailure error)) else .raise error

def generate (gateway : ModelGateway) (request : ModelRequest) (context : RuntimeCallContext) :
    ModelProgram ModelResponse := do
  let _ ← RuntimeControl.now
  ofExcept (gateway.checkProvider request.selector.providerId)
  let access ← ofExcept (modelAccess request.selector context modelGenerateAction
    (modelConstraints request))
  emitStarted request context .generate
  let answered : ModelProgram ModelResponse := do
    let returned ← gateway.authorization.dispatcher.dispatch access fun call => do
      let constrained ← ofExcept (constrainModelRequest request call.grant.constraints)
      normalized (call.context.awaitProvider
        (modelOp (.generate request.selector.providerId constrained call.context)))
    match returned with
    | .malformed => .raise (modelProtocolFailure "model provider returned an invalid response")
    | .typed response => do
      ofExcept (validateModelResponse gateway.schemas request response)
      emitCompleted context .generate response
      pure response
  answered.catching fun error =>
    match error with
    | .core detail => do
      emitFailure context .generate detail
      .raise (.core detail)
    | error => .raise error

/-! ### Streams -/

/-- `_emit_failure` and `yield ModelEvent.failure(detail)`. -/
def yieldFailure (context : RuntimeCallContext) (detail : ErrorDetail) : ModelProgram Unit := do
  emitFailure context .stream detail
  modelOp (.yield_ (.failure detail))

/-- What follows `terminal = True`: a `CoreError` from here on is dropped. -/
def closing (program : ModelProgram Unit) : ModelProgram Unit :=
  program.catching fun error =>
    match error with
    | .core _ => pure ()
    | error => .raise error

/-- The `while` loop of `stream`, for at most `fuel` turns. -/
def pump (gateway : ModelGateway) (request : ModelRequest) (context : RuntimeCallContext) :
    ℕ → Bool → ModelProgram Unit
  | 0, _ => .raise outOfFuel
  | fuel + 1, started =>
    (context.awaitProvider (modelOp .anext)).andThen fun
    | .error error =>
      if error = stopAsyncIteration then
        yieldFailure context (modelProtocolDetail "model_stream_missing_terminal"
          "model stream ended without a terminal event")
      else match error with
        | .core detail => yieldFailure context detail
        | error =>
          if error.isException then yieldFailure context (modelProviderFailure error)
          else .raise error
    | .ok .malformed => .raise (.other "AttributeError")
    | .ok (.typed event) =>
      if !started && !event.isStart then
        yieldFailure context (modelProtocolDetail "model_stream_missing_start"
          "model stream must begin with a start event")
      else match event with
        | .completion response => do
          ofExcept (validateModelResponse gateway.schemas request response)
          closing do
            emitCompleted context .stream response
            modelOp (.yield_ (.completion response))
        | .failure error => closing do
          emitFailure context .stream error
          modelOp (.yield_ (.failure error))
        | event => do
          modelOp (.yield_ event)
          gateway.pump request context fuel true

/-- The outer `except CoreError`, while there was no terminal event. -/
def failing (context : RuntimeCallContext) (program : ModelProgram Unit) : ModelProgram Unit :=
  program.catching fun error =>
    match error with
    | .core detail => yieldFailure context detail
    | error => .raise error

/-- The authorized call that opens the provider's iterator. -/
def openStream (gateway : ModelGateway) (request : ModelRequest) (access : AccessRequest) :
    ModelProgram Bool :=
  gateway.authorization.dispatcher.dispatch access fun call => do
    let constrained ← ofExcept (constrainModelRequest request call.grant.constraints)
    modelOp (.stream request.selector.providerId constrained call.context)

/-- `stream`, as its consumer runs it to the end. -/
def stream (gateway : ModelGateway) (request : ModelRequest) (context : RuntimeCallContext)
    (fuel : ℕ) : ModelProgram Unit := do
  let _ ← RuntimeControl.now
  ofExcept (gateway.checkProvider request.selector.providerId)
  let access ← ofExcept (modelAccess request.selector context modelStreamAction
    (modelConstraints request))
  (gateway.openStream request access).andThen fun
    | .error error => failing context (.raise error)
    | .ok closable => finallyDo
        (failing context do
          emitStarted request context .stream
          gateway.pump request context fuel false)
        (if closable then modelOp .aclose else pure ())

end ModelGateway

end CongeriesCore
