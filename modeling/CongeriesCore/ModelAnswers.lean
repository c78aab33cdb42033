import CongeriesCore.ModelStream

/-! # The answers of a model against the granted request

A grant may leave less of a request than was asked. A response is checked against what was asked. -/

namespace CongeriesCore

open AsyncProgram AsyncProgram.Program GatewayDispatch SampleParameters

/-- Its proposals name tools that the request exposes, and its usage is within the budget. -/
structure ModelResponse.Conforms (request : ModelRequest) (response : ModelResponse) : Prop where
  tools : ∀ proposal ∈ response.toolRequests, proposal.tool.key ∈ request.tools.map (·.key)
  input : ∀ limit ∈ request.budget.maxInputUnits, response.usage.inputUnits ≤ limit
  output : ∀ limit ∈ request.budget.maxOutputUnits, response.usage.outputUnits ≤ limit

/-- A policy that grants under these constraints only; all else may answer anything. -/
def grantingAnswers (constraints : List (String × JsonValue)) :
    (op : GatewayOp modelInterface) → Except Raised op.Answer → Prop
  | .authorize _, outcome => ∀ decision, outcome = .ok decision →
      ∀ grant ∈ decision.grant, grant.constraints = constraints
  | _, _ => True

/-- Whatever a provider answers, each response that is returned and each completion that is taken
conforms to what the grant leaves of the request. -/
def AnswersConform (schemas : SchemaRegistry) (request : ModelRequest)
    (constraints : List (String × JsonValue)) : Prop :=
  ∀ constrained, constrainModelRequest request constraints = .ok constrained →
    ∀ (gateway : ModelGateway) (context : RuntimeCallContext), gateway.schemas = schemas →
      (∀ response trace, Steps (recording (grantingAnswers constraints)) ModelResponse
        (gateway.generate request context, []) (.ret response, trace) →
          response.Conforms constrained) ∧
      ∀ (fuel : ℕ) (rest : ModelProgram Unit) (trace : ModelTrace) (response : ModelResponse),
        Steps (recording (grantingAnswers constraints)) Unit
          (gateway.stream request context fuel, []) (rest, trace) →
          .completion response ∈ observed trace → response.Conforms constrained

/-- The provider and the model are identified, and where structured output is asked for, some value
conforms to its schema. -/
structure ModelRequest.Answerable (schemas : SchemaRegistry) (request : ModelRequest) : Prop where
  identified : request.selector.Identified
  structured : ∀ schema ∈ request.outputSchema, ∃ value : JsonValue, value.isNull = false ∧
    schemas.validate schema value = .ok ()

/-- The budget is left as it is, and where tools may be proposed, so are the tools. -/
structure ModelRequest.Kept (request constrained : ModelRequest) : Prop where
  budget : constrained.budget = request.budget
  tools : request.policy.allowToolRequests = true →
    ∀ tool ∈ request.tools, tool.key ∈ constrained.tools.map (·.key)

namespace ModelAnswers

variable {schemas : SchemaRegistry} {request constrained : ModelRequest} {response : ModelResponse}
  {gateway : ModelGateway} {context : RuntimeCallContext}
  {constraints : List (String × JsonValue)}

/-! ### What is checked -/

/-- What a valid response is, of its structured output, its proposals and its usage. -/
structure Checked (schemas : SchemaRegistry) (request : ModelRequest) (response : ModelResponse) :
    Prop where
  structured : ∀ schema ∈ request.outputSchema, response.structuredOutput.isNull = false ∧
    schemas.validate schema response.structuredOutput = .ok ()
  allowed : response.toolRequests ≠ [] → request.policy.allowToolRequests = true
  conforms : response.Conforms request

theorem checked_of_valid (valid : validateModelResponse schemas request response = .ok ()) :
    Checked schemas request response := by
  obtain ⟨_, _, valid⟩ := bind_ok valid
  obtain ⟨_, structured, valid⟩ := bind_ok valid
  obtain ⟨_, allowed, valid⟩ := bind_ok valid
  obtain ⟨_, tools, valid⟩ := bind_ok valid
  obtain ⟨_, usage, _⟩ := bind_ok valid
  have usage := ensure_eq_ok.mp usage
  rw [Bool.and_eq_true] at usage
  constructor
  · intro schema given
    have given : request.outputSchema = some schema := given
    simp only [validateStructuredOutput, given] at structured
    obtain ⟨_, present, structured⟩ := bind_ok structured
    exact ⟨by simpa using ensure_eq_ok.mp present, structured⟩
  · intro proposes
    have allowed := ensure_eq_ok.mp allowed
    simpa [proposes] using allowed
  · constructor
    · intro proposal member
      have tools := List.all_eq_true.mp (ensure_eq_ok.mp tools) proposal member
      exact List.contains_iff_mem.mp tools
    · intro limit given
      have given : request.budget.maxInputUnits = some limit := given
      simpa [given] using usage.1
    · intro limit given
      have given : request.budget.maxOutputUnits = some limit := given
      simpa [given] using usage.2

theorem valid_of_checked (provider : response.providerId = request.selector.providerId)
    (model : response.modelId = request.selector.modelId)
    (checked : Checked schemas request response) (whole : response.finishReason = .stop) :
    validateModelResponse schemas request response = .ok () := by
  have identity : (response.providerId == request.selector.providerId &&
      response.modelId == request.selector.modelId) = true := by
    simp [provider, model]
  have structured : validateStructuredOutput schemas request response = .ok () := by
    unfold validateStructuredOutput
    split
    · rfl
    · rename_i schema given
      obtain ⟨present, valid⟩ := checked.structured schema given
      have passed : (!response.structuredOutput.isNull) = true := by simp [present]
      rw [ensure_ok passed, valid]
      rfl
  have allowed : (response.toolRequests.isEmpty || request.policy.allowToolRequests) = true := by
    cases proposals : response.toolRequests with
    | nil => rfl
    | cons proposal proposals =>
      simp [checked.allowed (by simp [proposals])]
  have tools : (response.toolRequests.all fun proposal =>
      (request.tools.map (·.key)).contains proposal.tool.key) = true := by
    apply List.all_eq_true.mpr
    intro proposal member
    exact List.contains_iff_mem.mpr (checked.conforms.tools proposal member)
  have within : ∀ {limit : Option ℕ} {units : ℕ}, (∀ most ∈ limit, units ≤ most) →
      limit.all (units ≤ ·) = true := by
    intro limit units fits
    cases limit with
    | none => rfl
    | some most => simpa using fits most rfl
  have usage : (request.budget.maxInputUnits.all (response.usage.inputUnits ≤ ·) &&
      request.budget.maxOutputUnits.all (response.usage.outputUnits ≤ ·)) = true := by
    rw [within checked.conforms.input, within checked.conforms.output]
    rfl
  have finished : (response.finishReason != .partial_ || request.policy.allowPartial) = true := by
    rw [whole]
    rfl
  unfold validateModelResponse
  rw [ensure_ok identity, structured, ensure_ok allowed, ensure_ok tools, ensure_ok usage,
    ensure_ok finished]
  rfl

/-- A response is returned for an identified request, and valid. -/
def Answers (schemas : SchemaRegistry) (request : ModelRequest) (response : ModelResponse) : Prop :=
  request.selector.Identified ∧ Checked schemas request response

/-- Only an identified request is accessed. -/
theorem identified_of_access {action : ActionRef} {access : AccessRequest}
    (accessed : modelAccess request.selector context action (modelConstraints request) =
      .ok access) : request.selector.Identified := by
  by_contra unidentified
  obtain ⟨message, refused⟩ := modelAccess_unidentified unidentified context action
    (modelConstraints request)
  rw [refused] at accessed
  cases accessed

theorem returns_generate {permits : ModelGateway.ModelPermits} :
    (gateway.generate request context).Returns permits
      (Answers gateway.schemas request) := by
  apply returns_bind
  intro _
  apply returns_bind
  intro _
  apply returns_checked
  intro access accessed
  apply returns_bind
  intro _
  apply Returns.catching
  · apply returns_bind
    intro returned
    cases returned with
    | malformed => exact returns_raise
    | typed response =>
      apply returns_checked
      intro _ valid
      apply returns_bind
      intro _
      exact returns_ret ⟨identified_of_access accessed, checked_of_valid valid⟩
  · intro error
    split
    · apply returns_bind
      intro _
      exact returns_raise
    · exact returns_raise

/-- What a consumer takes is what the provider has offered, a failure excepted, and a completion is
valid; all this of an identified request. -/
def Passes (offers : ModelEvent → Prop) (schemas : SchemaRegistry) (request : ModelRequest) :
    GatewayOp modelInterface → Prop
  | .call (.yield_ (.completion response)) =>
      offers (.completion response) ∧ Answers schemas request response
  | .call (.yield_ (.failure _)) => True
  | .call (.yield_ event) => offers event ∧ request.selector.Identified
  | _ => True

section Streams

variable {permits : ModelGateway.ModelPermits} {offers : ModelEvent → Prop}

abbrev Streams (permits : ModelGateway.ModelPermits) (offers : ModelEvent → Prop)
    (schemas : SchemaRegistry) (request : ModelRequest) {α : Type} (program : ModelProgram α) :
    Prop :=
  program.Keeps permits (Passes offers schemas request)

theorem streams_emit {eventType : String} {payload : List (String × JsonValue)} :
    Streams permits offers schemas request (ModelGateway.emit eventType context payload) := by
  apply Keeps.catching
  · exact keeps_perform trivial
  · intro error
    split
    · trivial
    · trivial

theorem streams_now :
    Streams permits offers schemas request (RuntimeControl.now : ModelProgram DateTime) :=
  keeps_perform trivial

theorem streams_emitFailure {operation : ModelOperation} {detail : ErrorDetail} :
    Streams permits offers schemas request (ModelGateway.emitFailure context operation detail) := by
  apply streams_now.bind
  intro _
  exact streams_emit

theorem streams_yieldFailure {detail : ErrorDetail} :
    Streams permits offers schemas request (ModelGateway.yieldFailure context detail) := by
  apply streams_emitFailure.bind
  intro _
  exact keeps_perform trivial

theorem streams_failing {program : ModelProgram Unit}
    (streams : Streams permits offers schemas request program) :
    Streams permits offers schemas request (ModelGateway.failing context program) := by
  apply streams.catching
  intro error
  cases error with
  | core detail => exact streams_yieldFailure
  | value | assertion | key | other | cancelledError => trivial

theorem streams_closing {program : ModelProgram Unit}
    (streams : Streams permits offers schemas request program) :
    Streams permits offers schemas request (ModelGateway.closing program) := by
  apply streams.catching
  intro error
  cases error with
  | core detail => trivial
  | value | assertion | key | other | cancelledError => trivial

theorem streams_checkActive :
    Streams permits offers schemas request (context.checkActive : ModelProgram Unit) := by
  have cancelled : ∀ token, (RuntimeControl.cancelled token : ModelProgram Bool).Only
      (Passes offers schemas request) := fun token => only_perform.mpr trivial
  have now : (RuntimeControl.now : ModelProgram DateTime).Only (Passes offers schemas request) :=
    only_perform.mpr trivial
  exact (RuntimeCallContext.only_checkActive cancelled now context).keeps

theorem streams_step : Streams permits offers schemas request
    (context.awaitProvider (modelOp .anext)) := by
  apply streams_checkActive.bind
  intro _
  apply (keeps_perform trivial).bind
  intro _
  apply streams_checkActive.bind
  intro _
  trivial

theorem returns_step
    (offered : ∀ event, permits (.call .anext) (.ok (.typed event)) → offers event) :
    (context.awaitProvider (modelOp .anext)).Returns permits
      fun returned => ∀ event, returned = .typed event → offers event := by
  apply returns_bind
  intro _
  have asked : (modelOp .anext).Returns permits
      fun returned => ∀ event, returned = .typed event → offers event := by
    apply yields_perform
    intro outcome permitted returned same event typed
    subst same
    subst typed
    exact offered event permitted
  apply Yields.bind asked
  · intro returned answered
    apply returns_bind
    intro _
    exact returns_ret (answered returned rfl)
  · intro error _ value impossible
    cases impossible

/-- The loop passes on what the provider offers. -/
theorem streams_pump (identified : request.selector.Identified)
    (offered : ∀ event, permits (.call .anext) (.ok (.typed event)) → offers event) (fuel : ℕ)
    (started : Bool) :
    Streams permits offers gateway.schemas request
      (gateway.pump request context fuel started) := by
  induction fuel generalizing started with
  | zero => trivial
  | succ fuel ih =>
    apply streams_step.andThen (returns_step offered)
    intro outcome answered
    match outcome with
    | .error error =>
      dsimp only
      split
      · exact streams_yieldFailure
      · split
        · exact streams_yieldFailure
        · split
          · exact streams_yieldFailure
          · trivial
    | .ok .malformed => trivial
    | .ok (.typed event) =>
      have offering := answered _ rfl event rfl
      dsimp only
      split
      · exact streams_yieldFailure
      · split
        · rename_i response begun
          apply keeps_checked
          intro _ valid
          apply streams_closing
          have completed : Streams permits offers gateway.schemas request
              (ModelGateway.emitCompleted context .stream response) := by
            apply streams_now.bind
            intro _
            exact streams_emit
          apply completed.bind
          intro _
          exact keeps_perform ⟨offering, identified, checked_of_valid valid⟩
        · apply streams_closing
          apply streams_emitFailure.bind
          intro _
          exact keeps_perform trivial
        · rename_i completes fails
          have passed : Passes offers gateway.schemas request (.call (.yield_ event)) := by
            cases event with
            | completion response => exact absurd rfl (completes response)
            | failure error => trivial
            | start | contentDelta | structuredDelta | toolRequest | usageUpdate =>
              exact ⟨offering, identified⟩
          apply (keeps_perform passed).bind
          intro _
          exact ih true

theorem streams_stream
    (offered : ∀ event, permits (.call .anext) (.ok (.typed event)) → offers event) (fuel : ℕ) :
    Streams permits offers gateway.schemas request (gateway.stream request context fuel) := by
  apply streams_now.bind
  intro _
  apply keeps_ofExcept.bind
  intro _
  apply keeps_checked
  intro access accessed
  have identified := identified_of_access accessed
  have opens : Streams permits offers gateway.schemas request
      (gateway.openStream request access) := by
    apply Only.keeps
    apply only_dispatch
    · intro op own
      cases op with
      | call op => cases own
      | cancelled | now | authorize | authorizationDenied | crossScopeGranted
      | handleAuditFailure => trivial
    · intro call
      apply only_ofExcept.bind
      intro constrained
      exact only_perform.mpr trivial
  apply opens.andThen (yields_true _)
  intro outcome _
  cases outcome with
  | error error => exact streams_failing trivial
  | ok closable =>
    have pumped : Streams permits offers gateway.schemas request (do
        ModelGateway.emitStarted request context .stream
        gateway.pump request context fuel false) := by
      apply streams_emit.bind
      intro _
      exact streams_pump identified offered fuel false
    apply (streams_failing pumped).andThen (yields_true _)
    intro outcome _
    apply Keeps.bind
    · cases closable with
      | false => trivial
      | true => exact keeps_perform trivial
    · intro _
      exact keeps_ofExcept

theorem mem_of_observed {trace : ModelTrace} {event : ModelEvent} (taken : event ∈ observed trace) :
    ∃ outcome, ⟨.call (.yield_ event), outcome⟩ ∈ trace := by
  obtain ⟨⟨op, outcome⟩, member, same⟩ := List.mem_filterMap.mp taken
  cases op with
  | call op =>
    cases op with
    | yield_ other =>
      cases same
      exact ⟨outcome, member⟩
    | emit | generate | stream | anext | aclose => cases same
  | cancelled | now | authorize | authorizationDenied | crossScopeGranted
  | handleAuditFailure => cases same

/-- What a consumer of a stream has taken. -/
theorem passes_observed {fuel : ℕ} {rest : ModelProgram Unit} {trace : ModelTrace}
    (offered : ∀ event, permits (.call .anext) (.ok (.typed event)) → offers event)
    (steps : Steps (recording permits) Unit (gateway.stream request context fuel, [])
      (rest, trace)) :
    ∀ event ∈ observed trace, Passes offers gateway.schemas request (.call (.yield_ event)) := by
  obtain ⟨added, grown, passes⟩ := (streams_stream offered fuel).recorded steps
  intro event taken
  obtain ⟨outcome, member⟩ := mem_of_observed taken
  rw [grown] at member
  exact passes _ (by simpa using member)

end Streams

/-! ### Under a grant -/

/-- What the request is checked for, what is left of it is checked for. -/
theorem conforms_of_kept (kept : request.Kept constrained)
    (checked : Checked schemas request response) : response.Conforms constrained := by
  constructor
  · intro proposal member
    have proposes : response.toolRequests ≠ [] := List.ne_nil_of_mem member
    obtain ⟨tool, exposed, same⟩ := List.mem_map.mp (checked.conforms.tools proposal member)
    rw [← same]
    exact kept.tools (checked.allowed proposes) tool exposed
  · rw [kept.budget]
    exact checked.conforms.input
  · rw [kept.budget]
    exact checked.conforms.output

theorem answerable_of_answers (answers : Answers schemas request response) :
    request.Answerable schemas where
  identified := answers.1
  structured schema given := ⟨response.structuredOutput, answers.2.structured schema given⟩

/-- A response with this structured output, these proposals and this usage. -/
def answering (request : ModelRequest) (structuredOutput : JsonValue)
    (toolRequests : List ToolCallProposal) (inputUnits outputUnits : ℕ) : ModelResponse where
  output := [⟨.text, .str "answer", none, none, .inr ⟨"answer", rfl⟩, nofun, nofun⟩]
  finishReason := .stop
  usage := ⟨inputUnits, outputUnits, "tokens", by decide⟩
  providerId := request.selector.providerId
  modelId := request.selector.modelId
  structuredOutput := structuredOutput
  toolRequests := toolRequests
  warnings := []
  provenance := []
  valid := ⟨.inl (List.cons_ne_nil _ _), nofun⟩

section Necessity

variable {toolRequests : List ToolCallProposal} {inputUnits outputUnits : ℕ}

/-- An answerable request is answered with any declared proposals and any usage in its budget. -/
theorem exists_answer (answerable : request.Answerable schemas)
    (allowed : toolRequests ≠ [] → request.policy.allowToolRequests = true)
    (exposed : ∀ proposal ∈ toolRequests, proposal.tool.key ∈ request.tools.map (·.key))
    (input : ∀ limit ∈ request.budget.maxInputUnits, inputUnits ≤ limit)
    (output : ∀ limit ∈ request.budget.maxOutputUnits, outputUnits ≤ limit) :
    ∃ response : ModelResponse, response.toolRequests = toolRequests ∧
      response.usage.inputUnits = inputUnits ∧ response.usage.outputUnits = outputUnits ∧
      validateModelResponse schemas request response = .ok () := by
  obtain ⟨structuredOutput, structured⟩ : ∃ value : JsonValue, ∀ schema ∈ request.outputSchema,
      value.isNull = false ∧ schemas.validate schema value = .ok () := by
    cases given : request.outputSchema with
    | none => exact ⟨.null, nofun⟩
    | some schema =>
      obtain ⟨value, present, valid⟩ := answerable.structured schema given
      refine ⟨value, fun other same => ?_⟩
      cases same
      exact ⟨present, valid⟩
  refine ⟨answering request structuredOutput toolRequests inputUnits outputUnits, rfl, rfl, rfl, ?_⟩
  exact valid_of_checked rfl rfl ⟨structured, allowed, exposed, input, output⟩ rfl

/-- A gateway whose policy grants, with one provider. -/
def gatewayFor (schemas : SchemaRegistry) (providerId : ProviderId) : ModelGateway :=
  ⟨[providerId], schemas, ⟨[modelGenerateAction, modelStreamAction], true⟩⟩

theorem calm_granting : ModelGateway.Calm (grantingAnswers constraints) :=
  ⟨fun _ => trivial, trivial, fun _ _ _ => trivial⟩

theorem leaves_granting (narrowed : constrainModelRequest request constraints = .ok constrained) :
    ModelGateway.Leaves (grantingAnswers constraints) request constrained constraints where
  grants access := by
    intro decision same grant given
    cases same
    cases given
    rfl
  effective := narrowed

/-- A valid response to the request is returned under each grant. -/
theorem returned_of_valid (identified : request.selector.Identified)
    (narrowed : constrainModelRequest request constraints = .ok constrained)
    (valid : validateModelResponse schemas request response = .ok ()) :
    ∃ trace, Steps (recording (grantingAnswers constraints)) ModelResponse
      ((gatewayFor schemas request.selector.providerId).generate request sampleContext, [])
      (.ret response, trace) := by
  have authorized : (gatewayFor schemas request.selector.providerId).Authorized request
      modelGenerateAction sampleContext :=
    ⟨.head _, identified, rfl, .head _, rfl⟩
  have can := ModelGateway.can_generate calm_granting authorized (leaves_granting narrowed)
    (fun _ => trivial) valid
  obtain ⟨outcome, trace, same, steps⟩ := can.ended []
  subst same
  exact ⟨trace, steps⟩

theorem conforms_of_valid (conform : AnswersConform schemas request constraints)
    (identified : request.selector.Identified)
    (narrowed : constrainModelRequest request constraints = .ok constrained)
    (valid : validateModelResponse schemas request response = .ok ()) :
    response.Conforms constrained := by
  obtain ⟨trace, steps⟩ := returned_of_valid identified narrowed valid
  exact (conform constrained narrowed _ sampleContext rfl).1 response trace steps

/-- Where every usage in the budget is in a narrower one, the two have the same limit. -/
theorem limit_kept {limit requested : Option ℕ} (narrower : Narrower limit requested)
    (kept : ∀ units, (∀ most ∈ requested, units ≤ most) → ∀ most ∈ limit, units ≤ most) :
    limit = requested := by
  rcases narrower with same | ⟨granted, rfl, _, within⟩
  · exact same
  · cases requested with
    | none =>
      have exceeding := kept (granted + 1) nofun granted rfl
      omega
    | some most =>
      have below := within most rfl
      have above := kept most (fun other same => by cases same; exact le_refl _) granted rfl
      have same : granted = most := by omega
      rw [same]

theorem budget_ext {first second : ModelBudget} (input : first.maxInputUnits = second.maxInputUnits)
    (output : first.maxOutputUnits = second.maxOutputUnits) : first = second := by
  cases first
  cases second
  cases input
  cases output
  rfl

theorem positive_within {limit : Option ℕ} : ∀ most ∈ limit, 0 ≤ most := fun _ _ => Nat.zero_le _

theorem kept_of_conform (conform : AnswersConform schemas request constraints)
    (answerable : request.Answerable schemas)
    (narrowed : constrainModelRequest request constraints = .ok constrained) :
    request.Kept constrained := by
  obtain ⟨-, input, output⟩ := constrainModelRequest_ok narrowed
  have conforms : ∀ response, validateModelResponse schemas request response = .ok () →
      response.Conforms constrained :=
    fun response valid => conforms_of_valid conform answerable.identified narrowed valid
  have none : ∀ proposal ∈ ([] : List ToolCallProposal),
      proposal.tool.key ∈ request.tools.map (·.key) := nofun
  constructor
  · apply budget_ext
    · apply limit_kept input
      intro units within
      obtain ⟨response, -, used, -, valid⟩ := exists_answer answerable nofun none within positive_within
      rw [← used]
      exact (conforms response valid).input
    · apply limit_kept output
      intro units within
      obtain ⟨response, -, -, used, valid⟩ := exists_answer answerable nofun none
        positive_within within
      rw [← used]
      exact (conforms response valid).output
  · intro allowed tool exposed
    let proposal : ToolCallProposal := ⟨"call-1", tool, .null, by decide⟩
    have declared : ∀ other ∈ [proposal], other.tool.key ∈ request.tools.map (·.key) := by
      intro other member
      rw [List.mem_singleton.mp member]
      exact List.mem_map_of_mem exposed
    obtain ⟨response, proposed, -, -, valid⟩ := exists_answer answerable (fun _ => allowed) declared
      positive_within positive_within
    exact (conforms response valid).tools proposal (by simp [proposed])

end Necessity

end ModelAnswers

/-- The answers of a model conform to what a grant leaves of a request exactly where the request can
not be answered, or the grant leaves its budget and, where tools may be proposed, its tools. -/
theorem answers_conform_iff (schemas : SchemaRegistry) (request : ModelRequest)
    (constraints : List (String × JsonValue)) :
    AnswersConform schemas request constraints ↔
      (request.Answerable schemas → ∀ constrained,
        constrainModelRequest request constraints = .ok constrained → request.Kept constrained) := by
  constructor
  · intro conform answerable constrained narrowed
    exact ModelAnswers.kept_of_conform conform answerable narrowed
  · intro keeps constrained narrowed gateway context same
    subst same
    have conforms : ∀ response, ModelAnswers.Answers gateway.schemas request response →
        response.Conforms constrained := by
      intro response answers
      have kept := keeps (ModelAnswers.answerable_of_answers answers) constrained narrowed
      exact ModelAnswers.conforms_of_kept kept answers.2
    constructor
    · intro response trace steps
      exact conforms response (ModelAnswers.returns_generate.returned steps response rfl)
    · intro fuel rest trace response steps taken
      have offered : ∀ event : ModelEvent, grantingAnswers constraints (.call .anext)
          (.ok (.typed event)) → True := fun _ _ => trivial
      have passed := ModelAnswers.passes_observed offered steps _ taken
      exact conforms response passed.2

/-- A request that exposes one tool, of which the grant leaves none. -/
def toolRef : ResourceRef := ⟨"core", "tool", ⟨"search", by decide⟩, none, by decide, by decide, nofun⟩

def toolRequest : ModelRequest :=
  { ModelStream.requestOf ModelStream.sampleSelector with
    tools := [toolRef]
    policy := ⟨false, true⟩
    valid := ⟨nofun, List.nodup_singleton _⟩ }

def toollessGrant : List (String × JsonValue) := [("tools", .arr [])]

open ModelAnswers SampleParameters in
/-- A proposal of a tool that the grant has removed is returned. -/
theorem answers_not_conform : ¬AnswersConform ⟨.empty⟩ toolRequest toollessGrant ∧
    ∃ constrained response trace, constrainModelRequest toolRequest toollessGrant = .ok constrained ∧
      constrained.tools = [] ∧ response.toolRequests.map (·.tool) = [toolRef] ∧
      Steps (recording (grantingAnswers toollessGrant)) ModelResponse
        ((gatewayFor ⟨.empty⟩ toolRequest.selector.providerId).generate toolRequest sampleContext, [])
        (.ret response, trace) := by
  obtain ⟨constrained, narrowed, toolless⟩ : ∃ constrained,
      constrainModelRequest toolRequest toollessGrant = .ok constrained ∧ constrained.tools = [] :=
    ⟨_, rfl, rfl⟩
  have answerable : toolRequest.Answerable ⟨.empty⟩ := ⟨ModelStream.identified_sample, nofun⟩
  let proposal : ToolCallProposal := ⟨"call-1", toolRef, .null, by decide⟩
  have declared : ∀ other ∈ [proposal], other.tool.key ∈ toolRequest.tools.map (·.key) := by
    intro other member
    rw [List.mem_singleton.mp member]
    exact .head _
  obtain ⟨response, proposed, -, -, valid⟩ := exists_answer answerable (fun _ => rfl) declared
    positive_within positive_within
  obtain ⟨trace, steps⟩ := returned_of_valid answerable.identified narrowed valid
  constructor
  · intro conform
    have kept := kept_of_conform conform answerable narrowed
    have exposed := kept.tools rfl toolRef (.head _)
    rw [toolless] at exposed
    cases exposed
  · exact ⟨constrained, response, trace, narrowed, toolless, by simp [proposed, proposal], steps⟩

end CongeriesCore
