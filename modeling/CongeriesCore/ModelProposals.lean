import CongeriesCore.ModelAnswers

/-! # The tool calls that a model proposes

A proposal reaches the consumer in an event of a stream or inside a response. -/

namespace CongeriesCore

open AsyncProgram AsyncProgram.Program GatewayDispatch SampleParameters

/-- The proposals that a provider yields as events, and those that its responses hold. -/
structure ProposalBehaviour where
  events : ToolCallProposal → Prop
  answers : ToolCallProposal → Prop

def ModelEvent.proposals : ModelEvent → List ToolCallProposal
  | .toolRequest proposal => [proposal]
  | .completion response => response.toolRequests
  | _ => []

def ProposalBehaviour.Offers (behaviour : ProposalBehaviour) : ModelEvent → Prop
  | .toolRequest proposal => behaviour.events proposal
  | .completion response => ∀ proposal ∈ response.toolRequests, behaviour.answers proposal
  | _ => True

/-- The provider proposes so; all else may answer anything. -/
def proposalAnswers (behaviour : ProposalBehaviour) :
    (op : GatewayOp modelInterface) → Except Raised op.Answer → Prop
  | .call (.generate _ _ _), outcome => ∀ response, outcome = .ok (.typed response) →
      ∀ proposal ∈ response.toolRequests, behaviour.answers proposal
  | .call .anext, outcome => ∀ event, outcome = .ok (.typed event) → behaviour.Offers event
  | _, _ => True

/-- The proposal names a declared tool, by all of its identity, and may be made. -/
def ModelRequest.Declares (request : ModelRequest) (proposal : ToolCallProposal) : Prop :=
  proposal.tool ∈ request.tools ∧ request.policy.allowToolRequests = true

/-- Each proposal that reaches the consumer is declared. -/
def ProposalsDeclared (schemas : SchemaRegistry) (request : ModelRequest)
    (behaviour : ProposalBehaviour) : Prop :=
  ∀ (gateway : ModelGateway) (context : RuntimeCallContext), gateway.schemas = schemas →
    (∀ response trace, Steps (recording (proposalAnswers behaviour)) ModelResponse
      (gateway.generate request context, []) (.ret response, trace) →
        ∀ proposal ∈ response.toolRequests, request.Declares proposal) ∧
    ∀ (fuel : ℕ) (rest : ModelProgram Unit) (trace : ModelTrace) (event : ModelEvent),
      Steps (recording (proposalAnswers behaviour)) Unit
        (gateway.stream request context fuel, []) (rest, trace) →
        event ∈ observed trace → ∀ proposal ∈ event.proposals, request.Declares proposal

/-- The provider yields declared proposals only, and those of its responses that have the key of a
declared tool name that tool. -/
structure ProposalBehaviour.Honest (behaviour : ProposalBehaviour) (schemas : SchemaRegistry)
    (request : ModelRequest) : Prop where
  events : ∀ proposal, behaviour.events proposal → request.Declares proposal
  answers : request.Answerable schemas → request.policy.allowToolRequests = true →
    ∀ proposal, behaviour.answers proposal →
      proposal.tool.key ∈ request.tools.map (·.key) → proposal.tool ∈ request.tools

namespace ModelProposals

variable {behaviour : ProposalBehaviour} {schemas : SchemaRegistry} {request : ModelRequest}
  {gateway : ModelGateway} {context : RuntimeCallContext} {response : ModelResponse}

theorem declares_of_answers (honest : behaviour.Honest schemas request)
    (answers : ModelAnswers.Answers schemas request response)
    (offered : ∀ proposal ∈ response.toolRequests, behaviour.answers proposal) :
    ∀ proposal ∈ response.toolRequests, request.Declares proposal := by
  intro proposal member
  have proposes : response.toolRequests ≠ [] := List.ne_nil_of_mem member
  have allowed := answers.2.allowed proposes
  exact ⟨honest.answers (ModelAnswers.answerable_of_answers answers) allowed proposal
    (offered proposal member) (answers.2.conforms.tools proposal member), allowed⟩

/-- A response that is returned is one of the provider. -/
theorem returns_offered :
    (gateway.generate request context).Returns (proposalAnswers behaviour)
      fun response => ∀ proposal ∈ response.toolRequests, behaviour.answers proposal := by
  have asked : ∀ (constrained : ModelRequest) (called : RuntimeCallContext),
      (modelOp (.generate request.selector.providerId constrained called)).Returns
        (proposalAnswers behaviour) fun returned => ∀ response, returned = .typed response →
          ∀ proposal ∈ response.toolRequests, behaviour.answers proposal := by
    intro constrained called
    apply yields_perform
    intro outcome permitted returned same response typed
    subst same
    subst typed
    exact permitted response rfl
  have awaited : ∀ (constrained : ModelRequest) (called : RuntimeCallContext),
      (called.awaitProvider
        (modelOp (.generate request.selector.providerId constrained called))).Returns
        (proposalAnswers behaviour) fun returned => ∀ response, returned = .typed response →
          ∀ proposal ∈ response.toolRequests, behaviour.answers proposal := by
    intro constrained called
    apply returns_bind
    intro _
    apply (asked constrained called).bind_returns
    intro returned answered
    apply returns_bind
    intro _
    exact returns_ret answered
  apply returns_bind
  intro _
  apply returns_bind
  intro _
  apply returns_bind
  intro access
  apply returns_bind
  intro _
  apply Returns.catching
  · have dispatched : (gateway.authorization.dispatcher.dispatch access fun call => do
        let constrained ← ofExcept (constrainModelRequest request call.grant.constraints)
        ModelGateway.normalized (call.context.awaitProvider
          (modelOp (.generate request.selector.providerId constrained call.context)))).Returns
        (proposalAnswers behaviour) fun returned => ∀ response, returned = .typed response →
          ∀ proposal ∈ response.toolRequests, behaviour.answers proposal := by
      apply returns_dispatch
      intro call
      apply returns_bind
      intro constrained
      apply (awaited constrained call.context).catching
      intro error
      split
      · exact returns_raise
      · split
        · exact returns_raise
        · exact returns_raise
    apply dispatched.bind_returns
    intro returned answered
    cases returned with
    | malformed => exact returns_raise
    | typed response =>
      apply returns_bind
      intro _
      apply returns_bind
      intro _
      exact returns_ret (answered response rfl)
  · intro error
    split
    · apply returns_bind
      intro _
      exact returns_raise
    · exact returns_raise

theorem declared_of_honest (honest : request.selector.Identified → behaviour.Honest schemas request) :
    ProposalsDeclared schemas request behaviour := by
  intro gateway context same
  subst same
  constructor
  · intro response trace steps
    have answers := ModelAnswers.returns_generate.returned steps response rfl
    have offered := returns_offered.returned steps response rfl
    exact declares_of_answers (honest answers.1) answers offered
  · intro fuel rest trace event steps taken
    have offered : ∀ event, proposalAnswers behaviour (.call .anext) (.ok (.typed event)) →
        behaviour.Offers event := fun event permitted => permitted event rfl
    have passed := ModelAnswers.passes_observed offered steps event taken
    cases event with
    | toolRequest proposal =>
      intro other member
      rw [List.mem_singleton.mp member]
      exact (honest passed.2).events proposal passed.1
    | completion response =>
      exact declares_of_answers (honest passed.2.1) passed.2 passed.1
    | start | contentDelta | structuredDelta | usageUpdate | failure => nofun

/-! ### What a dishonest provider brings about -/

theorem calm_proposals : ModelGateway.Calm (proposalAnswers behaviour) :=
  ⟨fun _ => trivial, trivial, fun _ _ _ => trivial⟩

theorem leaves_proposals : ModelGateway.Leaves (proposalAnswers behaviour) request
    (request.narrowed (some (request.tools.map resourceName)) request.budget)
    (modelConstraints request) where
  grants _ := trivial
  effective := constrainModelRequest_own request

/-- A proposal that is yielded after the start is taken. -/
theorem taken_event (schemas : SchemaRegistry) {proposal : ToolCallProposal}
    (identified : request.selector.Identified)
    (proposes : behaviour.events proposal) :
    ∃ rest trace, Steps (recording (proposalAnswers behaviour)) Unit
      ((ModelAnswers.gatewayFor schemas request.selector.providerId).stream request sampleContext 2,
        []) (rest, trace) ∧ .toolRequest proposal ∈ observed trace := by
  have authorized : (ModelAnswers.gatewayFor schemas request.selector.providerId).Authorized request
      modelStreamAction sampleContext :=
    ⟨.head _, identified, rfl, .tail _ (.head _), rfl⟩
  have starts : (modelOp .anext).Can (proposalAnswers behaviour) (· = .ok (.typed .start)) := by
    have permitted : proposalAnswers behaviour (.call .anext) (.ok (.typed .start)) := by
      intro event same
      cases same
      trivial
    exact can_perform permitted rfl
  have requests : (modelOp .anext).Can (proposalAnswers behaviour)
      (· = .ok (.typed (.toolRequest proposal))) := by
    have permitted : proposalAnswers behaviour (.call .anext)
        (.ok (.typed (.toolRequest proposal))) := by
      intro event same
      cases same
      exact proposes
    exact can_perform permitted rfl
  have taken : ∀ event, (modelOp (.yield_ event)).Can (proposalAnswers behaviour) (· = .ok ()) :=
    fun event => can_perform trivial rfl
  have comes : ((ModelAnswers.gatewayFor schemas request.selector.providerId).pump request
      sampleContext 2 false).Reaches (proposalAnswers behaviour)
        fun op => op = GatewayOp.call (ModelOp.yield_ (.toolRequest proposal)) := by
    apply (can_awaitProvider calm_proposals.active rfl starts).andThen_reaches
    intro outcome ended
    subst ended
    apply (taken .start).bind_reaches
    apply (can_awaitProvider calm_proposals.active rfl requests).andThen_reaches
    intro outcome ended
    subst ended
    apply Reaches.bind
    exact @reaches_perform (gatewayInterface modelInterface) Raised (proposalAnswers behaviour) _
      (.call (.yield_ (.toolRequest proposal))) (.ok ()) trivial rfl
  obtain ⟨rest, trace, steps, event, member, same, -⟩ := (ModelGateway.reaches_stream calm_proposals
    authorized leaves_proposals (fun _ => trivial) comes).steps []
  refine ⟨rest, trace, steps, List.mem_filterMap.mpr ⟨event, member, ?_⟩⟩
  obtain ⟨op, outcome⟩ := event
  subst same
  rfl

theorem returned_answer (identified : request.selector.Identified)
    (offered : ∀ proposal ∈ response.toolRequests, behaviour.answers proposal)
    (valid : validateModelResponse schemas request response = .ok ()) :
    ∃ trace, Steps (recording (proposalAnswers behaviour)) ModelResponse
      ((ModelAnswers.gatewayFor schemas request.selector.providerId).generate request sampleContext,
        []) (.ret response, trace) := by
  have authorized : (ModelAnswers.gatewayFor schemas request.selector.providerId).Authorized request
      modelGenerateAction sampleContext :=
    ⟨.head _, identified, rfl, .head _, rfl⟩
  have answers : ∀ context, proposalAnswers behaviour (.call (.generate
      request.selector.providerId (request.narrowed (some (request.tools.map resourceName))
        request.budget) context)) (.ok (.typed response)) := by
    intro context other same
    cases same
    exact offered
  obtain ⟨outcome, trace, same, steps⟩ :=
    (ModelGateway.can_generate calm_proposals authorized leaves_proposals answers valid).ended []
  subst same
  exact ⟨trace, steps⟩

theorem honest_of_declared (declared : ProposalsDeclared schemas request behaviour)
    (identified : request.selector.Identified) : behaviour.Honest schemas request := by
  constructor
  · intro proposal proposes
    obtain ⟨rest, trace, steps, taken⟩ := taken_event schemas identified proposes
    exact (declared _ sampleContext rfl).2 2 rest trace _ steps taken proposal (.head _)
  · intro answerable allowed proposal proposes exposed
    have keyed : ∀ other ∈ [proposal], other.tool.key ∈ request.tools.map (·.key) := by
      intro other member
      rw [List.mem_singleton.mp member]
      exact exposed
    obtain ⟨response, proposed, -, -, valid⟩ := ModelAnswers.exists_answer answerable
      (fun _ => allowed) keyed ModelAnswers.positive_within ModelAnswers.positive_within
    have offered : ∀ other ∈ response.toolRequests, behaviour.answers other := by
      intro other member
      rw [proposed] at member
      rw [List.mem_singleton.mp member]
      exact proposes
    obtain ⟨trace, steps⟩ := returned_answer identified offered valid
    exact ((declared _ sampleContext rfl).1 response trace steps proposal (by simp [proposed])).1

end ModelProposals

/-- Every proposal that reaches the consumer is declared exactly where, for an identified request,
the provider yields declared proposals only, and no proposal of its responses shares the key of a
declared tool without naming it. -/
theorem proposals_declared_iff (schemas : SchemaRegistry) (request : ModelRequest)
    (behaviour : ProposalBehaviour) :
    ProposalsDeclared schemas request behaviour ↔
      (request.selector.Identified → behaviour.Honest schemas request) :=
  ⟨ModelProposals.honest_of_declared, ModelProposals.declared_of_honest⟩

/-- Another tool under the key of `toolRef`, of an extension. -/
def foreignToolRef : ResourceRef :=
  ⟨"core", "tool", ⟨"search", search_checked⟩, some "extension", by decide, by decide, by
    intro extension given
    cases given
    decide⟩

def foreignProposal : ToolCallProposal := ⟨"call-1", foreignToolRef, .null, by decide⟩

open ModelProposals in
/-- A stream event proposes a tool where none may be proposed, and a response proposes a tool that
is declared under another owner only. -/
theorem proposals_not_declared :
    ¬ProposalsDeclared ⟨.empty⟩ (ModelStream.requestOf ModelStream.sampleSelector)
      ⟨(· = foreignProposal), fun _ => False⟩ ∧
    ¬ProposalsDeclared ⟨.empty⟩ toolRequest ⟨fun _ => False, (· = foreignProposal)⟩ := by
  have identified : (ModelStream.requestOf ModelStream.sampleSelector).selector.Identified :=
    ModelStream.identified_sample
  have tooled : toolRequest.selector.Identified := ModelStream.identified_sample
  have other : foreignToolRef ≠ toolRef := by decide
  constructor
  · intro declared
    have allowed := ((honest_of_declared declared identified).events foreignProposal rfl).2
    cases allowed
  · intro declared
    have exposed := (honest_of_declared declared tooled).answers ⟨tooled, nofun⟩ rfl foreignProposal
      rfl (.head _)
    exact other (List.mem_singleton.mp exposed)

end CongeriesCore
