import CongeriesCore.CheckpointModel
import CongeriesCore.WorkflowValidation

/-! # Evaluation contracts

The requests, the stage results and the terminal record of an evaluation. What a
constructor refuses can not be built here: a stage has the verdicts of its own table, and a
result is an ordered prefix of the stages of which only the last one may have failed. -/

namespace CongeriesCore

def evaluationContractVersion : String := "1"

inductive EvaluationStage
  | schema
  | policy
  | quality
  deriving DecidableEq, Repr

def EvaluationStage.value : EvaluationStage → String
  | .schema => "schema"
  | .policy => "policy"
  | .quality => "quality"

inductive EvaluationVerdict
  | passed
  | schemaFailed
  | policyDenied
  | policyIndeterminate
  | qualityFailed
  | error
  | timedOut
  | cancelled
  deriving DecidableEq, Repr

namespace EvaluationVerdict

def value : EvaluationVerdict → String
  | .passed => "passed"
  | .schemaFailed => "schema_failed"
  | .policyDenied => "policy_denied"
  | .policyIndeterminate => "policy_indeterminate"
  | .qualityFailed => "quality_failed"
  | .error => "error"
  | .timedOut => "timed_out"
  | .cancelled => "cancelled"

/-- `_ERROR_VERDICTS`. -/
def isError : EvaluationVerdict → Bool
  | .error | .timedOut | .cancelled => true
  | _ => false

end EvaluationVerdict

/-- `_ALLOWED_STAGE_VERDICTS`. -/
def EvaluationStage.allowed : EvaluationStage → EvaluationVerdict → Bool
  | _, .passed | .schema, .schemaFailed | .policy, .policyDenied | .policy, .policyIndeterminate
  | .quality, .qualityFailed => true
  | _, verdict => verdict.isError

structure EvaluationRequest where
  contractVersion : String
  evaluationId : EvaluationId
  value : JsonValue
  inputSchema : SchemaRef
  policyRef : String
  qualityEvaluatorId : ProviderId
  qualityProfileRef : String
  scope : ScopeRef
  constraints : Dict String JsonValue
  valid : contractVersion = evaluationContractVersion ∧ isTrimmed policyRef = true ∧
    isTrimmed qualityProfileRef = true ∧
    constraints.entries.all (fun constraint => isTrimmed constraint.1) = true

namespace EvaluationRequest

def toData (request : EvaluationRequest) : JsonValue :=
  .obj [("contract_version", .str request.contractVersion),
    ("evaluation_id", .str request.evaluationId.value), ("value", request.value),
    ("input_schema", request.inputSchema.toData), ("policy_ref", .str request.policyRef),
    ("quality_evaluator_id", .str request.qualityEvaluatorId.value),
    ("quality_profile_ref", .str request.qualityProfileRef), ("scope", request.scope.toData),
    ("constraints", .obj request.constraints.entries)]

def fingerprint [Sha256] (request : EvaluationRequest) : String := request.toData.sha256.value

end EvaluationRequest

/-- `_json_scalar`. -/
def JsonValue.isScalar : JsonValue → Bool
  | .arr _ | .obj _ => false
  | _ => true

structure EvaluationStageResult where
  stage : EvaluationStage
  verdict : EvaluationVerdict
  reasonCode : String
  measurements : Dict String JsonValue
  evidenceRefs : List CheckpointReference
  valid : stage.allowed verdict = true ∧ isTrimmed reasonCode = true ∧
    measurements.entries.all (fun item => isTrimmed item.1 && item.2.isScalar) = true ∧
    evidenceRefs.Nodup

namespace EvaluationStageResult

/-- The constructor call of Core, which leaves out measurements and evidence. -/
def make (stage : EvaluationStage) (verdict : EvaluationVerdict) (reasonCode : String) :
    Except Raised EvaluationStageResult :=
  if allows : stage.allowed verdict = true then
    if trimmed : isTrimmed reasonCode = true then
      .ok ⟨stage, verdict, reasonCode, .empty, [], allows, trimmed, rfl, .nil⟩
    else .error (.value "reason_code must be non-empty and trimmed")
  else .error (.value "verdict is not valid for Evaluation stage")

def toData (result : EvaluationStageResult) : JsonValue :=
  .obj [("stage", .str result.stage.value), ("verdict", .str result.verdict.value),
    ("reason_code", .str result.reasonCode), ("measurements", .obj result.measurements.entries),
    ("evidence_refs", .arr (result.evidenceRefs.map (·.toData)))]

end EvaluationStageResult

def ErrorDetail.toData (error : ErrorDetail) : JsonValue :=
  .obj [("category", .str error.category.value), ("code", .str error.code),
    ("message", .str error.message), ("retryable", .bool error.retryable),
    ("cause_id", .ofOption .str error.causeId),
    ("metadata", .obj (error.metadata.map fun entry => (entry.1, entry.2.value)))]

/-- `tuple(dict.fromkeys(references))`: each reference once, at its first place. -/
def uniqueReferences (references : List CheckpointReference) : List CheckpointReference :=
  references.reverse.dedup.reverse

def evaluationStages : List EvaluationStage := [.schema, .policy, .quality]

/-- `EvaluationResult.__post_init__`. -/
def checkEvaluationResult (contractVersion : String) (verdict : EvaluationVerdict)
    (stageResults : List EvaluationStageResult) (terminalStage : EvaluationStage)
    (evidenceRefs : List CheckpointReference) (error : Option ErrorDetail) :
    Except Raised Unit := do
  requireValue (contractVersion == evaluationContractVersion)
    "unsupported Evaluation result contract version"
  match stageResults.getLast? with
  | none => throw (.value "Evaluation result requires at least one stage result")
  | some terminal => do
    let stages := stageResults.map (·.stage)
    requireValue (stages == evaluationStages.take stages.length && terminalStage == terminal.stage)
      "Evaluation stages must be an ordered terminal prefix"
    requireValue (stageResults.dropLast.all (·.verdict == .passed))
      "only the terminal Evaluation stage may be non-successful"
    requireValue (terminal.verdict == verdict)
      "final verdict must match the terminal stage verdict"
    requireValue (verdict != .passed || stages.length == 3)
      "passed Evaluation requires all three stages"
    requireValue (!verdict.isError || error.isSome)
      "error, timeout, and cancellation require ErrorDetail"
    requireValue (verdict.isError || error.isNone)
      "expected Evaluation verdicts must not carry ErrorDetail"
    requireValue (verdict != .timedOut || error.all (·.category == .timeout))
      "timed_out verdict requires a timeout error category"
    requireValue (verdict != .cancelled || error.all (·.category == .cancelled))
      "cancelled verdict requires a cancelled error category"
    requireValue (evidenceRefs == uniqueReferences (stageResults.flatMap (·.evidenceRefs)))
      "result evidence must be the ordered stage evidence union"

structure EvaluationResult where
  contractVersion : String
  evaluationId : EvaluationId
  verdict : EvaluationVerdict
  stageResults : List EvaluationStageResult
  terminalStage : EvaluationStage
  evidenceRefs : List CheckpointReference
  error : Option ErrorDetail
  checked : checkEvaluationResult contractVersion verdict stageResults terminalStage evidenceRefs
    error = .ok ()

namespace EvaluationResult

/-- The constructor call: raises what `__post_init__` raises. -/
def make (contractVersion : String) (evaluationId : EvaluationId) (verdict : EvaluationVerdict)
    (stageResults : List EvaluationStageResult) (terminalStage : EvaluationStage)
    (evidenceRefs : List CheckpointReference) (error : Option ErrorDetail) :
    Except Raised EvaluationResult :=
  match checked : checkEvaluationResult contractVersion verdict stageResults terminalStage
    evidenceRefs error with
  | .error raised => .error raised
  | .ok () => .ok ⟨contractVersion, evaluationId, verdict, stageResults, terminalStage,
      evidenceRefs, error, checked⟩

def toData (result : EvaluationResult) : JsonValue :=
  .obj [("contract_version", .str result.contractVersion),
    ("evaluation_id", .str result.evaluationId.value), ("verdict", .str result.verdict.value),
    ("stage_results", .arr (result.stageResults.map (·.toData))),
    ("terminal_stage", .str result.terminalStage.value),
    ("evidence_refs", .arr (result.evidenceRefs.map (·.toData))),
    ("error", .ofOption ErrorDetail.toData result.error)]

def digest [Sha256] (result : EvaluationResult) : String := result.toData.sha256.value

/-- A result has a last stage. -/
theorem stageResults_ne_nil (result : EvaluationResult) : result.stageResults ≠ [] := by
  intro none
  obtain ⟨_, -, rest⟩ := bind_ok result.checked
  simp [none] at rest

def terminal (result : EvaluationResult) : EvaluationStageResult :=
  result.stageResults.getLast result.stageResults_ne_nil

end EvaluationResult

/-- `result_from_stages`, over at least one stage. -/
def resultFromStages (evaluationId : EvaluationId) (stages : List EvaluationStageResult)
    (terminal : EvaluationStageResult) (error : Option ErrorDetail) :
    Except Raised EvaluationResult :=
  EvaluationResult.make evaluationContractVersion evaluationId terminal.verdict
    (stages ++ [terminal]) terminal.stage
    (uniqueReferences ((stages ++ [terminal]).flatMap (·.evidenceRefs))) error

end CongeriesCore
