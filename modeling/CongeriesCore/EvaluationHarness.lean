import CongeriesCore.EvaluationModel
import CongeriesCore.GatewayDispatch
import CongeriesCore.RuntimeSchema

/-! # The evaluation harness

The fixed fail-fast pipeline of schema, policy and quality, with the gateways through which it
calls its providers, and the audit of the verdict that closes it. -/

namespace CongeriesCore

open AsyncProgram AsyncProgram.Program

structure QualityEvaluatorCapabilities where
  evaluatorId : ProviderId
  contractVersion : String
  requestVersions : List String
  resultVersions : List String
  inputSchemas : List SchemaRef
  profileKinds : List String
  evidenceKinds : List String
  valid : contractVersion = evaluationContractVersion ∧
    (∀ values ∈ [requestVersions, resultVersions, profileKinds, evidenceKinds],
      values ≠ [] ∧ values.Nodup ∧ ∀ value ∈ values, isTrimmed value = true) ∧
    inputSchemas ≠ [] ∧ inputSchemas.Nodup

inductive EvaluationOp
  | evaluationStarted (request : EvaluationRequest) (context : RuntimeCallContext)
  | verdictRecorded (request : EvaluationRequest) (result : EvaluationResult)
      (context : RuntimeCallContext)
  | policyEvaluate (policyRef : String) (request : EvaluationRequest)
      (context : RuntimeCallContext)
  | qualityCapabilities (evaluatorId : ProviderId) (context : RuntimeCallContext)
  | qualityEvaluate (evaluatorId : ProviderId) (request : EvaluationRequest)
      (context : RuntimeCallContext)

abbrev EvaluationOp.Answer : EvaluationOp → Type
  | .evaluationStarted _ _ => Unit
  | .verdictRecorded _ _ _ => Unit
  | .policyEvaluate _ _ _ => Returned EvaluationStageResult
  | .qualityCapabilities _ _ => Returned QualityEvaluatorCapabilities
  | .qualityEvaluate _ _ _ => Returned EvaluationStageResult

abbrev evaluationInterface : Interface := ⟨EvaluationOp, EvaluationOp.Answer⟩

abbrev EvaluationProgram := GatewayProgram evaluationInterface

abbrev evaluationOp (op : EvaluationOp) : EvaluationProgram op.Answer :=
  @providerOp evaluationInterface op

/-! ### The gateways -/

def evaluationProtocolFailure (code : String) (given : code ≠ "" := by decide) : Raised :=
  coreError .protocolFailure code "Evaluation provider returned an invalid contract"
    ⟨given, by decide⟩

/-- `_access_request`. -/
def evaluationAccess [Sha256] (request : EvaluationRequest) (context : RuntimeCallContext)
    (action : ActionRef) (resourceKind resourceId : String)
    (named : isName resourceKind = true := by decide) : Except Raised AccessRequest := do
  let resource ← Identifier.make .resource resourceId
  pure {
    principal := .core .run ⟨context.runId.value, context.runId_checked⟩
    action
    resource := ⟨"core", resourceKind, resource, none, by decide, named, nofun⟩
    scope := request.scope
    context
    constraints := [("evaluation_id", .str request.evaluationId.value),
      ("request_version", .str request.contractVersion),
      ("schema", .str ("/".intercalate [request.inputSchema.namespace_, request.inputSchema.name,
        request.inputSchema.version])),
      ("request_fingerprint", .str request.fingerprint)] }

/-- `_validate_grant_constraints`: a grant may omit what was requested, and change nothing. -/
def validateEvaluationGrant (call : AuthorizedCall) : Except Raised Unit :=
  ensure (call.grant.constraints.all fun item =>
    match Dict.lookup item.1 call.request.constraints with
    | some requested => requested.equals item.2
    | none => false)
    (coreError .denied "invalid_grant" "Evaluation grant constraints do not match the request")

/-- `_validate_stage_result`. -/
def validateStageResult (returned : Returned EvaluationStageResult) (stage : EvaluationStage)
    (verdicts : List EvaluationVerdict) : Except Raised EvaluationStageResult :=
  match returned with
  | .malformed => .error (evaluationProtocolFailure "malformed_evaluation_stage_result")
  | .typed result =>
    if result.stage = stage ∧ result.verdict ∈ verdicts then .ok result
    else .error (evaluationProtocolFailure "invalid_evaluation_stage_result")

/-- `_validate_evidence`. -/
def validateEvidence (result : EvaluationStageResult) (request : EvaluationRequest)
    (evidenceKinds : List String) : Except Raised Unit :=
  result.evidenceRefs.forM fun reference => do
    ensure (reference.scope.isEqualOrDescendantOf request.scope)
      (evaluationProtocolFailure "evaluation_evidence_scope_mismatch")
    ensure (evidenceKinds.isEmpty || evidenceKinds.contains reference.resourceType)
      (evaluationProtocolFailure "evaluation_evidence_kind_unsupported")

/-- What stands before the first colon of `ref.partition(":")`, if there is one. -/
def profileKind (ref : String) : Option String :=
  if ref.toList.contains ':' then some (String.ofList (ref.toList.takeWhile (· != ':'))) else none

/-- `_validate_capabilities`; reading an attribute of another value raises. -/
def validateCapabilities (request : EvaluationRequest) :
    Returned QualityEvaluatorCapabilities → Except Raised QualityEvaluatorCapabilities
  | .malformed => .error (.other "AttributeError")
  | .typed capabilities => do
    ensure (capabilities.evaluatorId == request.qualityEvaluatorId)
      (evaluationProtocolFailure "quality_evaluator_identity_mismatch")
    ensure (capabilities.requestVersions.contains evaluationContractVersion)
      (evaluationProtocolFailure "evaluation_request_version_unsupported")
    ensure (capabilities.resultVersions.contains evaluationContractVersion)
      (evaluationProtocolFailure "evaluation_result_version_unsupported")
    ensure (capabilities.inputSchemas.contains request.inputSchema)
      (coreError .unsupportedCapability "evaluation_input_schema_unsupported"
        "quality evaluator does not support the Evaluation input schema")
    ensure ((profileKind request.qualityProfileRef).any capabilities.profileKinds.contains)
      (coreError .unsupportedCapability "evaluation_quality_profile_unsupported"
        "quality evaluator does not support the external profile kind")
    pure capabilities

structure EvaluationHarness where
  schemas : SchemaRegistry
  policies : List String
  policyAuthorization : GatewayAuthorization
  evaluators : List ProviderId
  capabilitiesAuthorization : GatewayAuthorization
  qualityAuthorization : GatewayAuthorization

namespace EvaluationHarness

variable [Sha256]

/-- `EvaluationPolicyGateway.evaluate`. -/
def evaluatePolicy (harness : EvaluationHarness) (request : EvaluationRequest)
    (context : RuntimeCallContext) : EvaluationProgram EvaluationStageResult := do
  ofExcept (ensure (harness.policies.contains request.policyRef)
    (coreError .unavailable "evaluation_policy_not_registered"
      "Evaluation policy is not registered"))
  let access ← ofExcept (evaluationAccess request context evaluationPolicyEvaluateAction
    "evaluation_policy" request.policyRef)
  harness.policyAuthorization.dispatcher.dispatch access fun call => do
    ofExcept (validateEvaluationGrant call)
    let returned ← call.context.awaitProvider
      (evaluationOp (.policyEvaluate request.policyRef request call.context))
    let result ← ofExcept (validateStageResult returned .policy
      [.passed, .policyDenied, .policyIndeterminate])
    ofExcept (validateEvidence result request [])
    pure result

def checkEvaluator (harness : EvaluationHarness) (request : EvaluationRequest) :
    Except Raised Unit :=
  ensure (harness.evaluators.contains request.qualityEvaluatorId)
    (coreError .unavailable "quality_evaluator_not_registered"
      "quality evaluator is not registered")

/-- `QualityEvaluatorGateway.capabilities`. -/
def capabilities (harness : EvaluationHarness) (request : EvaluationRequest)
    (context : RuntimeCallContext) : EvaluationProgram QualityEvaluatorCapabilities := do
  ofExcept (harness.checkEvaluator request)
  let access ← ofExcept (evaluationAccess request context qualityCapabilitiesAction
    "quality_evaluator" request.qualityEvaluatorId.value)
  harness.capabilitiesAuthorization.dispatcher.dispatch access fun call => do
    ofExcept (validateEvaluationGrant call)
    let returned ← call.context.awaitProvider
      (evaluationOp (.qualityCapabilities request.qualityEvaluatorId call.context))
    ofExcept (validateCapabilities request returned)

/-- `QualityEvaluatorGateway.evaluate`. -/
def evaluateQuality (harness : EvaluationHarness) (request : EvaluationRequest)
    (context : RuntimeCallContext) : EvaluationProgram EvaluationStageResult := do
  ofExcept (harness.checkEvaluator request)
  let capabilities ← harness.capabilities request context
  let access ← ofExcept (evaluationAccess request context qualityEvaluateAction
    "quality_evaluator" request.qualityEvaluatorId.value)
  harness.qualityAuthorization.dispatcher.dispatch access fun call => do
    ofExcept (validateEvaluationGrant call)
    let returned ← call.context.awaitProvider
      (evaluationOp (.qualityEvaluate request.qualityEvaluatorId request call.context))
    let result ← ofExcept (validateStageResult returned .quality [.passed, .qualityFailed])
    ofExcept (validateEvidence result request capabilities.evidenceKinds)
    pure result

/-! ### The pipeline -/

/-- `SchemaEvaluator.evaluate`. -/
def evaluateSchema (harness : EvaluationHarness) (request : EvaluationRequest) :
    Except Raised EvaluationStageResult := do
  ensure (harness.schemas.contains request.inputSchema)
    (coreError .versionMismatch "schema_not_registered"
      "Evaluation input schema is not registered")
  match harness.schemas.validate request.inputSchema request.value with
  | .ok () => EvaluationStageResult.make .schema .passed "schema_valid"
  | .error (.core detail) =>
    if detail.code ≠ "schema_validation_failed" then throw (.core detail)
    else EvaluationStageResult.make .schema .schemaFailed "schema_validation_failed"
  | .error error => throw error

/-- `_stage_context`. -/
def stageContext (context : RuntimeCallContext) (request : EvaluationRequest)
    (stage : EvaluationStage) : Except Raised RuntimeCallContext :=
  match context.idempotencyKey with
  | none => .error (.assertion "Evaluation parent idempotency was validated")
  | some parent => do
    let material := ":".intercalate [parent.value, request.evaluationId.value,
      evaluationContractVersion, request.fingerprint, stage.value]
    let key ← Identifier.make .idempotency (Sha256.text material).value
    context.narrow (some request.scope) none (some key)

/-- `_error_verdict`. -/
def errorVerdict (error : ErrorDetail) : EvaluationVerdict :=
  match error.category with
  | .timeout => .timedOut
  | .cancelled => .cancelled
  | _ => .error

/-- `_safe_error`: the message and the cause may contain what was evaluated. -/
def safeError (error : ErrorDetail) : ErrorDetail where
  category := error.category
  code := error.code
  message := "Evaluation stage did not complete successfully"
  retryable := error.retryable
  causeId := none
  required := ⟨error.required.1, by decide⟩

/-- The stages of an evaluation, up to the one that ended it. -/
structure Stages where
  earlier : List EvaluationStageResult
  terminal : EvaluationStageResult
  error : Option ErrorDetail

/-- A stage in the `try` of `evaluate`: the next one is inside the branch of its success, and what
it raises is its own result. -/
def attempt (stage : EvaluationStage) (earlier : List EvaluationStageResult)
    (program : EvaluationProgram EvaluationStageResult)
    (next : EvaluationStageResult → EvaluationProgram Stages) : EvaluationProgram Stages :=
  program.andThen fun
    | .ok result => if result.verdict = .passed then next result else pure ⟨earlier, result, none⟩
    | .error (.core detail) => do
      let error := safeError detail
      let terminal ← ofExcept (EvaluationStageResult.make stage (errorVerdict error) error.code)
      pure ⟨earlier, terminal, some error⟩
    | .error error => .raise error

def stages (harness : EvaluationHarness) (request : EvaluationRequest)
    (context : RuntimeCallContext) : EvaluationProgram Stages :=
  attempt .schema [] (ofExcept (harness.evaluateSchema request)) fun schemaResult =>
    attempt .policy [schemaResult] (do
      let policyContext ← ofExcept (stageContext context request .policy)
      let policyResult ← harness.evaluatePolicy request policyContext
      policyContext.checkActive
      pure policyResult) fun policyResult =>
        attempt .quality [schemaResult, policyResult] (do
          let qualityContext ← ofExcept (stageContext context request .quality)
          let qualityResult ← harness.evaluateQuality request qualityContext
          qualityContext.checkActive
          pure qualityResult) fun qualityResult =>
            pure ⟨[schemaResult, policyResult], qualityResult, none⟩

/-- `_finish`. -/
def finish (request : EvaluationRequest) (context : RuntimeCallContext) (stages : Stages) :
    EvaluationProgram EvaluationResult := do
  let result ← ofExcept (resultFromStages request.evaluationId stages.earlier stages.terminal
    stages.error)
  auditOrHandle (evaluationOp (.verdictRecorded request result context))
    (fun runId detail => gatewayOp (.handleAuditFailure runId detail)) context.runId
  pure result

/-- The checks of `evaluate` before anything is started. -/
def checkPreconditions (request : EvaluationRequest) (context : RuntimeCallContext) :
    EvaluationProgram Unit := do
  ofExcept (ensure context.idempotencyKey.isSome
    (coreError .invalidRequest "evaluation_idempotency_required"
      "Evaluation requires a parent idempotency key"))
  ofExcept (request.scope.requireNarrowerThan context.scope)
  context.checkActive

def evaluate (harness : EvaluationHarness) (request : EvaluationRequest)
    (context : RuntimeCallContext) : EvaluationProgram EvaluationResult := do
  checkPreconditions request context
  suppressException (evaluationOp (.evaluationStarted request context))
  let stages ← harness.stages request context
  finish request context stages

end EvaluationHarness

end CongeriesCore
