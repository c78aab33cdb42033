import CongeriesCore.CheckpointDocuments
import CongeriesCore.EvaluationModel
import CongeriesCore.RunDocuments
import CongeriesCore.WorkflowGraph

/-! # Encoded evaluation results

`from_data` of an evaluation result and of its stages. The workflow runtime persists the result of
an evaluation node and reads it again when it recovers. -/

namespace CongeriesCore

open JsonValue

/-- `_require_keys` of the evaluation contracts. -/
def requireContractKeys (data : JsonFields) (expected : List String) (name : String) :
    Except Raised Unit :=
  requireValue (expected.all (fun key => (Dict.lookup key data).isSome) &&
    data.all fun field => expected.contains field.1)
    (name ++ " fields do not match the versioned contract")

/-- `EvaluationStage(value)`. -/
def EvaluationStage.ofValue (value : String) : Except Raised EvaluationStage :=
  match value with
  | "schema" => .ok .schema
  | "policy" => .ok .policy
  | "quality" => .ok .quality
  | _ => .error (.value "not a valid EvaluationStage")

theorem EvaluationStage.ofValue_value (stage : EvaluationStage) :
    ofValue stage.value = .ok stage := by
  cases stage <;> rfl

/-- `EvaluationVerdict(value)`. -/
def EvaluationVerdict.ofValue (value : String) : Except Raised EvaluationVerdict :=
  match value with
  | "passed" => .ok .passed
  | "schema_failed" => .ok .schemaFailed
  | "policy_denied" => .ok .policyDenied
  | "policy_indeterminate" => .ok .policyIndeterminate
  | "quality_failed" => .ok .qualityFailed
  | "error" => .ok .error
  | "timed_out" => .ok .timedOut
  | "cancelled" => .ok .cancelled
  | _ => .error (.value "not a valid EvaluationVerdict")

theorem EvaluationVerdict.ofValue_value (verdict : EvaluationVerdict) :
    ofValue verdict.value = .ok verdict := by
  cases verdict <;> rfl

/-- `_json_scalar`. -/
def JsonValue.asScalar (value : JsonValue) : Except Raised JsonValue :=
  if value.isScalar then .ok value
  else .error (.value "measurements must contain JSON scalar values")

/-- A dictionary is built again from its entries. -/
theorem Dict.setAll_entries {κ ν : Type} [DecidableEq κ] (dict : Dict κ ν) :
    Dict.setAll Prod.fst Prod.snd .empty dict.entries = dict := by
  have entries := @Dict.entries_setAll κ ν _ (κ × ν) Prod.fst Prod.snd .empty dict.entries
    dict.nodup fun _ _ => List.not_mem_nil
  have same : (Dict.setAll Prod.fst Prod.snd .empty dict.entries).entries = dict.entries := by
    rw [entries]
    simp [Dict.empty]
  obtain ⟨given, nodup⟩ := dict
  cases built : Dict.setAll Prod.fst Prod.snd .empty given with
  | mk others nodup' =>
    rw [built] at same
    cases same
    rfl

/-! ## Stages -/

namespace EvaluationStageResult

/-- `__post_init__` over the measurements, one after the other. -/
def checkMeasurement (measurement : String × JsonValue) : Except Raised Unit := do
  requireValue (isTrimmed measurement.1) "measurement key must be non-empty and trimmed"
  let _ ← measurement.2.asScalar

/-- The constructor call. -/
def build (stage : EvaluationStage) (verdict : EvaluationVerdict) (reasonCode : String)
    (measurements : Dict String JsonValue) (evidenceRefs : List CheckpointReference) :
    Except Raised EvaluationStageResult := do
  requireValue (stage.allowed verdict) "verdict is not valid for Evaluation stage"
  requireValue (isTrimmed reasonCode) "reason_code must be non-empty and trimmed"
  measurements.entries.forM checkMeasurement
  if valid : stage.allowed verdict = true ∧ isTrimmed reasonCode = true ∧
      measurements.entries.all (fun item => isTrimmed item.1 && item.2.isScalar) = true ∧
      evidenceRefs.Nodup then
    return ⟨stage, verdict, reasonCode, measurements, evidenceRefs, valid⟩
  else .error (.value "evidence references must be unique")

def fromData [PythonText] (data : JsonFields) : Except Raised EvaluationStageResult := do
  requireContractKeys data ["stage", "verdict", "reason_code", "measurements", "evidence_refs"]
    "Evaluation stage result"
  let rawMeasurements ← data.object "measurements" "measurements"
  let stage ← EvaluationStage.ofValue (← data.pythonText "stage")
  let verdict ← EvaluationVerdict.ofValue (← data.pythonText "verdict")
  let reasonCode ← data.pythonText "reason_code"
  let measurements ← rawMeasurements.mapM fun entry => do return (entry.1, ← entry.2.asScalar)
  let evidenceRefs ← data.each "evidence_refs" "evidence references"
    (JsonValue.readObject "evidence reference" CheckpointReference.fromData)
  build stage verdict reasonCode (Dict.setAll Prod.fst Prod.snd .empty measurements) evidenceRefs

theorem build_self (result : EvaluationStageResult) :
    build result.stage result.verdict result.reasonCode result.measurements result.evidenceRefs =
      .ok result := by
  obtain ⟨stage, verdict, reasonCode, measurements, evidenceRefs, valid⟩ := result
  have measured : measurements.entries.forM checkMeasurement = .ok () := by
    apply WorkflowValidator.forM_eq_ok.mpr
    intro measurement member
    have both := List.all_eq_true.mp valid.2.2.1 measurement member
    obtain ⟨trimmed, scalar⟩ := Bool.and_eq_true_iff.mp both
    unfold checkMeasurement asScalar
    rw [trimmed, scalar]
    rfl
  have allowed : requireValue (stage.allowed verdict)
      "verdict is not valid for Evaluation stage" = .ok () := requireValue_eq_ok.mpr valid.1
  have trimmed : requireValue (isTrimmed reasonCode)
      "reason_code must be non-empty and trimmed" = .ok () := requireValue_eq_ok.mpr valid.2.1
  change build stage verdict reasonCode measurements evidenceRefs = _
  unfold build
  rw [allowed, trimmed, measured]
  simp only [ok_bind]
  rw [dif_pos valid]
  rfl

theorem readMeasurements (measurements : Dict String JsonValue)
    (scalar : measurements.entries.all (fun item => isTrimmed item.1 && item.2.isScalar) = true) :
    (measurements.entries.mapM fun entry => do return (entry.1, ← entry.2.asScalar) :
      Except Raised (List (String × JsonValue))) = .ok measurements.entries := by
  have each := @mapM_written _ _ _ Raised id
    (fun entry : String × JsonValue => do return (entry.1, ← entry.2.asScalar)) id
    measurements.entries
  rw [List.map_id] at each
  apply each
  intro entry member
  have both := List.all_eq_true.mp scalar entry member
  have single := (Bool.and_eq_true_iff.mp both).2
  rw [id, asScalar, single]
  rfl

theorem readEvidence (references : List CheckpointReference) :
    (references.map CheckpointReference.toData).mapM
      (JsonValue.readObject "evidence reference" CheckpointReference.fromData) =
        .ok references := by
  have each := @mapM_written _ _ _ Raised CheckpointReference.toData
    (JsonValue.readObject "evidence reference" CheckpointReference.fromData) id references
  rw [List.map_id] at each
  apply each
  intro reference _
  exact CheckpointReference.decodes.encoded "evidence reference" reference

theorem fromData_toData [PythonText] (result : EvaluationStageResult) :
    result.toData.readObject "stage result" fromData = .ok result := by
  let data : JsonFields := [("stage", .str result.stage.value),
    ("verdict", .str result.verdict.value), ("reason_code", .str result.reasonCode),
    ("measurements", .obj result.measurements.entries),
    ("evidence_refs", .arr (result.evidenceRefs.map (·.toData)))]
  change fromData data = _
  have keys : requireContractKeys data ["stage", "verdict", "reason_code", "measurements",
      "evidence_refs"] "Evaluation stage result" = .ok () := rfl
  have measured : data.object "measurements" "measurements" =
      .ok result.measurements.entries := rfl
  have stage : data.pythonText "stage" = .ok result.stage.value := rfl
  have verdict : data.pythonText "verdict" = .ok result.verdict.value := rfl
  have reasonCode : data.pythonText "reason_code" = .ok result.reasonCode := rfl
  have evidence : data.each "evidence_refs" "evidence references"
      (JsonValue.readObject "evidence reference" CheckpointReference.fromData) =
        .ok result.evidenceRefs := readEvidence result.evidenceRefs
  rw [fromData, keys, measured, stage, verdict, reasonCode, evidence]
  simp only [ok_bind, EvaluationStage.ofValue_value, EvaluationVerdict.ofValue_value,
    readMeasurements _ result.valid.2.2.1, Dict.setAll_entries]
  exact result.build_self

end EvaluationStageResult

/-! ## Results -/

namespace EvaluationResult

/-- The error of a result, where there is one. -/
def readError (value : JsonValue) : Except Raised (Option ErrorDetail) :=
  if value.isNone then .ok none
  else do return some (← value.readObject "Evaluation error" ErrorDetail.fromData)

def fromData [PythonText] (data : JsonFields) : Except Raised EvaluationResult := do
  requireContractKeys data ["contract_version", "evaluation_id", "verdict", "stage_results",
    "terminal_stage", "evidence_refs", "error"] "Evaluation result"
  let rawError ← data.item "error"
  let contractVersion ← data.pythonText "contract_version"
  let evaluationId ← Identifier.make .evaluation (← data.pythonText "evaluation_id")
  let verdict ← EvaluationVerdict.ofValue (← data.pythonText "verdict")
  let stageResults ← data.each "stage_results" "stage results"
    (JsonValue.readObject "stage result" EvaluationStageResult.fromData)
  let terminalStage ← EvaluationStage.ofValue (← data.pythonText "terminal_stage")
  let evidenceRefs ← data.each "evidence_refs" "evidence references"
    (JsonValue.readObject "evidence reference" CheckpointReference.fromData)
  let error ← readError rawError
  make contractVersion evaluationId verdict stageResults terminalStage evidenceRefs error

/-- The check of a result reads no more of an error than whether there is one and its category. -/
theorem check_decoded {contractVersion : String} {verdict : EvaluationVerdict}
    {stageResults : List EvaluationStageResult} {terminalStage : EvaluationStage}
    {evidenceRefs : List CheckpointReference} {error : Option ErrorDetail} :
    checkEvaluationResult contractVersion verdict stageResults terminalStage evidenceRefs
        (error.map ErrorDetail.decoded) =
      checkEvaluationResult contractVersion verdict stageResults terminalStage evidenceRefs
        error := by
  cases error with
  | none => rfl
  | some detail => rfl

/-- The result with an empty cause of its error taken for none. -/
def decoded (result : EvaluationResult) : EvaluationResult :=
  { result with
    error := result.error.map ErrorDetail.decoded
    checked := check_decoded.trans result.checked }

theorem make_self (result : EvaluationResult) :
    make result.contractVersion result.evaluationId result.verdict result.stageResults
      result.terminalStage result.evidenceRefs result.error = .ok result := by
  obtain ⟨contractVersion, evaluationId, verdict, stageResults, terminalStage, evidenceRefs, error,
    checked⟩ := result
  unfold make
  split
  · rename_i refused
    rw [checked] at refused
    cases refused
  · rfl

theorem readStages [PythonText] (stages : List EvaluationStageResult) :
    (stages.map EvaluationStageResult.toData).mapM
      (JsonValue.readObject "stage result" EvaluationStageResult.fromData) = .ok stages := by
  have each := @mapM_written _ _ _ Raised EvaluationStageResult.toData
    (JsonValue.readObject "stage result" EvaluationStageResult.fromData) id stages
  rw [List.map_id] at each
  apply each
  intro stage _
  exact stage.fromData_toData

theorem readError_toData (error : Option ErrorDetail) :
    readError (ofOption ErrorDetail.toData error) = .ok (error.map ErrorDetail.decoded) := by
  cases error with
  | none => rfl
  | some detail =>
    have read : (ErrorDetail.toData detail).readObject "Evaluation error" ErrorDetail.fromData =
        .ok detail.decoded := detail.fromData_toFields
    change (do return some (← (ErrorDetail.toData detail).readObject "Evaluation error"
      ErrorDetail.fromData)) = _
    rw [read]
    rfl

theorem read_back [PythonText] (result : EvaluationResult) :
    result.toData.readObject "stable Evaluation result" fromData = .ok result.decoded := by
  let data : JsonFields := [("contract_version", .str result.contractVersion),
    ("evaluation_id", .str result.evaluationId.value), ("verdict", .str result.verdict.value),
    ("stage_results", .arr (result.stageResults.map (·.toData))),
    ("terminal_stage", .str result.terminalStage.value),
    ("evidence_refs", .arr (result.evidenceRefs.map (·.toData))),
    ("error", .ofOption ErrorDetail.toData result.error)]
  change fromData data = _
  have keys : requireContractKeys data ["contract_version", "evaluation_id", "verdict",
      "stage_results", "terminal_stage", "evidence_refs", "error"] "Evaluation result" = .ok () :=
    rfl
  have raw : data.item "error" = .ok (.ofOption ErrorDetail.toData result.error) := rfl
  have version : data.pythonText "contract_version" = .ok result.contractVersion := rfl
  have evaluationId : data.pythonText "evaluation_id" = .ok result.evaluationId.value := rfl
  have verdict : data.pythonText "verdict" = .ok result.verdict.value := rfl
  have stages : data.each "stage_results" "stage results"
      (JsonValue.readObject "stage result" EvaluationStageResult.fromData) =
        .ok result.stageResults := readStages result.stageResults
  have terminal : data.pythonText "terminal_stage" = .ok result.terminalStage.value := rfl
  have evidence : data.each "evidence_refs" "evidence references"
      (JsonValue.readObject "evidence reference" CheckpointReference.fromData) =
        .ok result.evidenceRefs := EvaluationStageResult.readEvidence result.evidenceRefs
  rw [fromData, keys, raw, version, evaluationId, verdict, stages, terminal, evidence]
  simp only [ok_bind, Identifier.make_self, EvaluationStage.ofValue_value,
    EvaluationVerdict.ofValue_value, readError_toData]
  exact result.decoded.make_self

end EvaluationResult

end CongeriesCore
