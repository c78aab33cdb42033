import CongeriesCore.AgentModel
import CongeriesCore.AsyncHandling
import CongeriesCore.RunRacing

/-! # The Agent runtime

The direct execution of an AgentRun: its context is resolved, a model generates, and the Run is
brought to an end. The context resolver and the model gateway answer as they choose. -/

namespace CongeriesCore

open AsyncProgram Program

/-! ## Models and contexts -/

structure ModelCapabilities where
  selector : ModelSelector
  operations : Finset ModelOperation
  structuredOutput : Bool
  toolCalls : Bool
  inputKinds : Finset ContentKind
  outputKinds : Finset ContentKind
  maximumBudget : ModelBudget
  usageReporting : Bool
  contractVersion : String
  required : contractVersion ≠ ""

def ModelCapabilities.satisfies (capabilities : ModelCapabilities)
    (required : ModelCapabilityRequirements) : Bool :=
  decide (.generate ∈ capabilities.operations) &&
    (!required.streaming || decide (.stream ∈ capabilities.operations)) &&
    (!required.structuredOutput || capabilities.structuredOutput) &&
    (!required.toolCalls || capabilities.toolCalls) &&
    decide (required.inputKinds ⊆ capabilities.inputKinds) &&
    decide (required.outputKinds ⊆ capabilities.outputKinds)

/-- The constructor call: raises what `__post_init__` raises. -/
def ModelRequest.make (selector : ModelSelector) (input instructions : List ContentBlock)
    (contextEntries : List ContextEntry) (tools : List ResourceRef) (policy : ModelRequestPolicy)
    (budget : ModelBudget) : Except Raised ModelRequest :=
  if given : input ≠ [] then
    if unique : (tools.map (·.key)).Nodup then
      .ok ⟨selector, input, instructions, contextEntries, tools, none, policy, budget, given, unique⟩
    else .error (.value "model request tool references must be unique")
  else .error (.value "model request input must not be empty")

def ModelBinding.selectors (binding : ModelBinding) : List ModelSelector :=
  binding.selector :: binding.fallbacks

def ContextBinding.request (binding : ContextBinding) (definitionId : DefinitionId)
    (context : RuntimeCallContext) : ContextRequest where
  definitionId := definitionId
  context := context
  requirements := binding.requirements
  completenessPolicy := binding.completenessPolicy
  budget := binding.budget
  unique := binding.unique.2

/-! ## Operations -/

inductive AgentOp
  | core (op : CoreOp)
  | resolve (request : ContextRequest) (binding : ContextBinding)
  | capabilities (selector : ModelSelector) (context : RuntimeCallContext)
  | generate (request : ModelRequest) (context : RuntimeCallContext)

abbrev AgentOp.Answer : AgentOp → Type
  | .core op => op.Answer
  | .resolve _ _ => ResolvedContext
  | .capabilities _ _ => ModelCapabilities
  | .generate _ _ => ModelResponse

abbrev AgentInterface : Interface := ⟨AgentOp, AgentOp.Answer⟩

abbrev AgentProgram (α : Type) := Program AgentInterface Raised α

def agentOp (op : AgentOp) : AgentProgram op.Answer := @perform AgentInterface Raised op

instance : RuntimeControl AgentInterface where
  cancelled token := agentOp (.core (.cancelled token))
  now := agentOp (.core .now)

/-- A call of the Run service. -/
def agentRuns {α : Type} (program : CoreProgram α) : AgentProgram α :=
  program.handled fun op => agentOp (.core op)

/-! ## Results -/

def Run.isAgent (run : Run) : Bool :=
  match run.kind with
  | .agent _ => true
  | .workflow _ => false

/-- The Run, and a response if it succeeded or an error if it did not. -/
def validAgentResult (status : RunStatus) (response : Option ModelResponse)
    (error : Option ErrorDetail) : Bool :=
  match status with
  | .succeeded => response.isSome && error.isNone
  | .failed | .cancelled | .paused => response.isNone && error.isSome
  | _ => false

structure AgentExecutionResult where
  run : Run
  response : Option ModelResponse
  error : Option ErrorDetail
  valid : validAgentResult run.status response error = true

/-- The constructor call: raises what `__post_init__` raises. -/
def AgentExecutionResult.make (run : Run) (response : Option ModelResponse)
    (error : Option ErrorDetail) : Except Raised AgentExecutionResult :=
  if valid : validAgentResult run.status response error = true then .ok ⟨run, response, error, valid⟩
  else .error (.value <| match run.status with
    | .succeeded => "successful Agent execution requires only a response"
    | .failed | .cancelled | .paused => "unsuccessful Agent execution requires only an error"
    | _ => "Agent execution result requires a final or paused Run")

def agentChangedKind : Raised := .assertion "AgentRun changed Run kind"

def agentTerminalizationConflict : Raised :=
  retryableError .conflict "agent_terminalization_conflict"
    "Agent Run state changed while terminalizing"

/-- `_run_error`. -/
def agentRunError (run : Run) (fallback : ErrorDetail) : ErrorDetail :=
  match run.errorSummary with
  | some summary => summary.detail
  | none =>
    if run.status = .cancelled then
      ⟨.cancelled, "run_cancelled", "Agent Run was cancelled", false, none, [], by decide⟩
    else fallback

/-- `_competing_result`. -/
def competingResult (run : Run) (fallback : ErrorDetail) : Except Raised AgentExecutionResult :=
  if !run.isAgent then .error agentChangedKind
  else if [RunStatus.failed, .cancelled, .paused].contains run.status then
    AgentExecutionResult.make run none (some (agentRunError run fallback))
  else .error (.core fallback)

/-! ## Execution -/

/-- `except CoreError`. -/
def exceptCore {α : Type} (program : AgentProgram α) (handler : ErrorDetail → AgentProgram α) :
    AgentProgram α :=
  program.catching fun
    | .core detail => handler detail
    | error => .raise error

/-- What validates the references of a specification. -/
structure AgentCapabilityResolver where
  validateSkill : CapabilityRef → Except Raised Unit
  validateTool : CapabilityRef → Except Raised Unit

abbrev AgentKey := AgentId × DefinitionId

structure AgentRuntime where
  agents : Dict AgentKey AgentSpec
  capabilities : Option AgentCapabilityResolver

namespace AgentRuntime

/-- `_versioned_ref`. -/
def versionedRef : AgentReference → Except Raised CapabilityRef
  | .capability ref => .ok ref
  | .resource ref =>
    match CapabilityRef.fromResource ref "1" with
    | .ok ref => .ok ref
    | .error _ => .error (coreError .invalidRequest "agent_capability_owner_required"
        "Agent capability resolution requires an owning extension")

/-- `_validate_capabilities`. -/
def validateCapabilities (runtime : AgentRuntime) (spec : AgentSpec) : Except Raised Unit :=
  if spec.skillRefs.isEmpty && spec.toolRefs.isEmpty then .ok ()
  else match runtime.capabilities with
    | none => .error (retryableError .unavailable "agent_capability_resolver_unavailable"
        "AgentSpec capabilities require a Skill/Tool resolver")
    | some resolver => do
      for ref in spec.skillRefs do
        resolver.validateSkill (← versionedRef ref)
      for ref in spec.toolRefs do
        resolver.validateTool (← versionedRef ref)

/-- `_validate_context`. -/
def validateContext (run : Run) (context : RuntimeCallContext) : Except Raised Unit :=
  ensure (context.runId == run.runId && context.rootRunId == run.rootRunId &&
      context.parentRunId == run.parentRunId && context.workspaceId == run.workspaceId &&
      context.sessionRef == run.sessionRef && context.scope == run.scope)
    (coreError .invalidRequest "agent_call_context_mismatch"
      "RuntimeCallContext does not match AgentRun boundaries")

/-- The checks of a loaded Run, and the specification that it is executed by. -/
def specification (runtime : AgentRuntime) (loaded : Run) (context : RuntimeCallContext) :
    Except Raised AgentSpec := do
  match loaded.kind with
  | .workflow _ => .error (coreError .invalidRequest "agent_run_required"
      "AgentRuntime requires an AgentRun")
  | .agent agent => do
    validateContext loaded context
    ensure (loaded.status == .created) (coreError .conflict "agent_run_already_started"
      "minimal Agent execution requires a CREATED AgentRun")
    match runtime.agents.get? (agent.agentId, loaded.definitionId) with
    | none => .error (coreError .unavailable "agent_spec_not_registered"
        "AgentSpec is not registered")
    | some spec => do
      ensure (spec.modelBinding.ref == agent.modelBindingRef) (coreError .invalidRequest
        "agent_model_binding_mismatch" "AgentRun model binding does not match AgentSpec")
      runtime.validateCapabilities spec
      return spec

/-- The resources of the tools, as a model is offered them. -/
def offered : AgentReference → ResourceRef
  | .capability ref => ref.resource
  | .resource ref => ref

/-- One turn of the loop of `_generate`: none where the model does not satisfy the binding. -/
def tryModel (spec : AgentSpec) (input : List ContentBlock) (contextEntries : List ContextEntry)
    (context : RuntimeCallContext) (selector : ModelSelector) : AgentProgram (Option ModelResponse) := do
  let capabilities ← agentOp (.capabilities selector context)
  if !ModelCapabilities.satisfies capabilities spec.modelBinding.required then return none
  else do
    let request ← ofExcept (ModelRequest.make selector input spec.instructions contextEntries
      (spec.toolRefs.map offered) spec.modelBinding.defaultPolicy spec.modelBinding.defaultBudget)
    let response ← agentOp (.generate request context)
    return some response

/-- The loop of `_generate`, with `last_error`. -/
def generateFrom (spec : AgentSpec) (input : List ContentBlock) (contextEntries : List ContextEntry)
    (context : RuntimeCallContext) : Raised → List ModelSelector → AgentProgram ModelResponse
  | lastError, [] => .raise lastError
  | _, selector :: selectors =>
    (tryModel spec input contextEntries context selector).andThen fun
      | .ok (some response) => .ret response
      | .ok none => generateFrom spec input contextEntries context
          (coreError .unsupportedCapability "model_binding_incompatible"
            "model does not satisfy Agent binding requirements") selectors
      | .error (.core detail) =>
        if detail.category = .unavailable ∨ detail.category = .unsupportedCapability then
          generateFrom spec input contextEntries context (.core detail) selectors
        else .raise (.core detail)
      | .error error => .raise error

/-- `_generate`. -/
def generate (spec : AgentSpec) (input : List ContentBlock) (contextEntries : List ContextEntry)
    (context : RuntimeCallContext) : AgentProgram ModelResponse :=
  generateFrom spec input contextEntries context (coreError .unavailable
    "model_binding_unavailable" "no ModelProvider binding is available")
    spec.modelBinding.selectors

/-- The turns of `_terminalize` that are left, and what follows the last. -/
def terminalizeFrom (runId : RunId) (error : ErrorDetail) : ℕ → AgentProgram Run
  | 0 => do
    let latest ← agentRuns (RunService.get runId)
    if !latest.isAgent then .raise agentChangedKind
    else if latest.status.terminal || latest.status == .paused then return latest
    else .raise agentTerminalizationConflict
  | turns + 1 => do
    let current ← agentRuns (RunService.get runId)
    if !current.isAgent then .raise agentChangedKind
    else if current.status.terminal || current.status == .paused then return current
    else
      (agentRuns (if error.category = .cancelled then RunService.cancel runId current.stateVersion
        else RunService.fail runId current.stateVersion error)).andThen fun
        | .ok result =>
          if !result.isAgent then .raise (.assertion "AgentRun terminalization changed Run kind")
          else .ret result
        | .error (.core conflict) =>
          if conflict.category = .conflict then terminalizeFrom runId error turns
          else .raise (.core conflict)
        | .error raised => .raise raised

/-- `_terminalize`. -/
def terminalize (runId : RunId) (error : ErrorDetail) : AgentProgram Run :=
  terminalizeFrom runId error 2

/-- The completion of a Run for which a model has responded. -/
def complete (runId : RunId) (version : ℕ) (response : ModelResponse) :
    AgentProgram AgentExecutionResult :=
  (agentRuns (RunService.complete runId version)).andThen fun
    | .ok completed =>
      if !completed.isAgent then .raise (.assertion "AgentRun completion changed Run kind")
      else ofExcept (AgentExecutionResult.make completed (some response) none)
    | .error (.core detail) =>
      if detail.category = .conflict then do
        let latest ← agentRuns (RunService.get runId)
        if latest.isAgent && latest.status == .succeeded then
          ofExcept (AgentExecutionResult.make latest (some response) none)
        else ofExcept (competingResult latest detail)
      else .raise (.core detail)
    | .error error => .raise error

/-- The body of the `try`. -/
def attempt (spec : AgentSpec) (runId : RunId) (loaded : Run) (input : List ContentBlock)
    (context : RuntimeCallContext) : AgentProgram AgentExecutionResult := do
  context.checkActive
  let started ← agentRuns (RunService.start runId loaded.stateVersion)
  let loading ← agentRuns (RunService.advance runId started.stateVersion .contextLoading)
  let request := spec.contextBinding.request spec.definitionId context
  let resolved ← agentOp (.resolve request spec.contextBinding)
  ofExcept (ensure (!(ResolvedContext.completeness resolved == .partial_ &&
      spec.contextBinding.completenessPolicy == .requireComplete))
    (coreError .partialResult "partial_context_rejected"
      "Agent context policy requires complete context"))
  let running ← agentRuns (RunService.advance runId loading.stateVersion .running)
  let response ← generate spec input (ResolvedContext.entries resolved) context
  ofExcept (ensure (response.toolRequests.isEmpty || !spec.toolRefs.isEmpty)
    (coreError .protocolFailure "unexpected_tool_request"
      "model proposed a Tool for an Agent without Tools"))
  context.checkActive
  complete runId running.stateVersion response

/-- What `execute` does of a Run that has passed its preconditions. -/
def executeSpec (spec : AgentSpec) (runId : RunId) (loaded : Run) (input : List ContentBlock)
    (context : RuntimeCallContext) : AgentProgram AgentExecutionResult :=
  exceptCore (attempt spec runId loaded input context) fun detail => do
    let terminal ← terminalize runId detail
    if terminal.status = .succeeded then .raise (.core detail)
    else ofExcept (AgentExecutionResult.make terminal none (some (agentRunError terminal detail)))

def execute (runtime : AgentRuntime) (runId : RunId) (input : List ContentBlock)
    (context : RuntimeCallContext) : AgentProgram AgentExecutionResult := do
  ofExcept (ensure (!input.isEmpty) (coreError .invalidRequest "agent_input_required"
    "Agent execution input must not be empty"))
  let loaded ← agentRuns (RunService.get runId)
  let spec ← ofExcept (runtime.specification loaded context)
  executeSpec spec runId loaded input context

end AgentRuntime

end CongeriesCore
