import CongeriesCore.EvaluationModel
import CongeriesCore.ReferenceReading
import CongeriesCore.RunLifecycle

/-! # Run documents

`to_data` and `from_data` of Runs. What is read of a Run that was written is the Run, except that an
empty cause of an error is read as none. -/

namespace CongeriesCore

open JsonValue

/-! ## Errors -/

/-- `ErrorCategory(value)`. -/
def ErrorCategory.ofValue (value : String) : Except Raised ErrorCategory :=
  match value with
  | "invalid_request" => .ok .invalidRequest
  | "denied" => .ok .denied
  | "unavailable" => .ok .unavailable
  | "timeout" => .ok .timeout
  | "cancelled" => .ok .cancelled
  | "conflict" => .ok .conflict
  | "version_mismatch" => .ok .versionMismatch
  | "partial_result" => .ok .partialResult
  | "unsupported_capability" => .ok .unsupportedCapability
  | "protocol_failure" => .ok .protocolFailure
  | _ => .error (.value "not a valid ErrorCategory")

theorem ErrorCategory.ofValue_value (category : ErrorCategory) :
    ofValue category.value = .ok category := by
  cases category <;> rfl

def JsonScalar.ofValue (value : JsonValue) : Except Raised JsonScalar :=
  match value with
  | .null => .ok .null
  | .bool value => .ok (.bool value)
  | .int value => .ok (.int value)
  | .float bits => .ok (.float bits)
  | .str value => .ok (.str value)
  | .arr _ | .obj _ => .error (.value "error metadata must contain JSON scalar values")

theorem JsonScalar.ofValue_value (scalar : JsonScalar) : ofValue scalar.value = .ok scalar := by
  cases scalar <;> rfl

namespace ErrorDetail

def make (category : ErrorCategory) (code message : String) (retryable : Bool)
    (causeId : Option String) (metadata : List (String × JsonScalar)) : Except Raised ErrorDetail :=
  if required : code ≠ "" ∧ message ≠ "" then
    .ok ⟨category, code, message, retryable, causeId, metadata, required⟩
  else .error (.value "error code and message are required")

def toFields (detail : ErrorDetail) : JsonFields :=
  [("category", .str detail.category.value), ("code", .str detail.code),
    ("message", .str detail.message), ("retryable", .bool detail.retryable),
    ("cause_id", .ofOption .str detail.causeId),
    ("metadata", .obj (detail.metadata.map fun entry => (entry.1, entry.2.value)))]

def fromData (data : JsonFields) : Except Raised ErrorDetail := do
  let rawMetadata ← (data.getOr "metadata" (.obj [])).asObject "error metadata"
  let metadata ← rawMetadata.mapM fun entry => do return (entry.1, ← JsonScalar.ofValue entry.2)
  let category ← ErrorCategory.ofValue (← data.text "category")
  let code ← data.text "code"
  let message ← data.text "message"
  let retryable := (data.getOr "retryable" (.bool false)).truthy
  let causeId ← data.textIf "cause_id" .ok
  make category code message retryable causeId metadata

/-- The detail with an empty cause taken for none. -/
def decoded (detail : ErrorDetail) : ErrorDetail :=
  { detail with causeId := detail.causeId.filter (· ≠ "") }

theorem readMetadata (metadata : List (String × JsonScalar)) :
    ((metadata.map fun entry => (entry.1, entry.2.value)).mapM
      fun entry => do return (entry.1, ← JsonScalar.ofValue entry.2) :
        Except Raised (List (String × JsonScalar))) = .ok metadata := by
  have each := @mapM_written _ _ _ Raised (fun entry => (entry.1, entry.2.value))
    (fun entry : String × JsonValue => do return (entry.1, ← JsonScalar.ofValue entry.2)) id metadata
  rw [List.map_id] at each
  apply each
  intro entry _
  rw [JsonScalar.ofValue_value]
  rfl

theorem readCause (detail : ErrorDetail) :
    JsonFields.textIf detail.toFields "cause_id" .ok = .ok detail.decoded.causeId := by
  unfold decoded
  cases cause : detail.causeId with
  | none => simp [JsonFields.textIf, JsonFields.get, toFields, Dict.lookup, cause, truthy, ofOption]
  | some text =>
    by_cases empty : text = ""
    · simp [JsonFields.textIf, JsonFields.get, toFields, Dict.lookup, cause, truthy, ofOption, empty,
        Option.filter]
    · simp [JsonFields.textIf, JsonFields.get, JsonFields.text, JsonFields.item, toFields,
        Dict.lookup, cause, truthy, ofOption, empty, asText, Option.filter, bind, Except.bind, pure,
        Except.pure]

theorem fromData_toFields (detail : ErrorDetail) :
    fromData detail.toFields = .ok detail.decoded := by
  have metadata : (JsonFields.getOr detail.toFields "metadata" (.obj [])).asObject
      "error metadata" = .ok (detail.metadata.map fun entry => (entry.1, entry.2.value)) := rfl
  have category : JsonFields.text detail.toFields "category" = .ok detail.category.value := rfl
  have code : JsonFields.text detail.toFields "code" = .ok detail.code := rfl
  have message : JsonFields.text detail.toFields "message" = .ok detail.message := rfl
  have retryable : (JsonFields.getOr detail.toFields "retryable" (.bool false)).truthy =
      detail.retryable := rfl
  rw [fromData]
  simp only [metadata, ok_bind, readMetadata, category, ErrorCategory.ofValue_value, code, message,
    retryable, readCause]
  rw [make, dif_pos detail.required]
  rfl

theorem decoded_eq_iff (detail : ErrorDetail) : detail.decoded = detail ↔ detail.causeId ≠ some "" := by
  obtain ⟨category, code, message, retryable, causeId, metadata, required⟩ := detail
  unfold decoded
  cases causeId with
  | none => simp
  | some text =>
    by_cases empty : text = ""
    · simp [empty]
    · simp [empty, Option.filter]

end ErrorDetail

namespace ErrorSummary

def make (detail : ErrorDetail) (attempt : ℤ) (occurredAt : DateTime) : Except Raised ErrorSummary :=
  if positive : 1 ≤ attempt.toNat then .ok ⟨detail, attempt.toNat, occurredAt, positive⟩
  else .error (.value "error attempt must be positive")

def toFields (summary : ErrorSummary) : JsonFields :=
  [("detail", .obj summary.detail.toFields), ("attempt", .int summary.attempt),
    ("occurred_at", .str summary.occurredAt.isoformat)]

def fromData (data : JsonFields) : Except Raised ErrorSummary := do
  let detail ← data.nested "detail" "error detail" ErrorDetail.fromData
  let attempt ← data.int "attempt" "error attempt"
  let occurredAt ← DateTime.fromIsoformat (← data.text "occurred_at")
  make detail attempt occurredAt

def decoded (summary : ErrorSummary) : ErrorSummary :=
  { summary with detail := summary.detail.decoded }

theorem fromData_toFields (summary : ErrorSummary) :
    fromData summary.toFields = .ok summary.decoded := by
  have detail : JsonFields.nested summary.toFields "detail" "error detail" ErrorDetail.fromData =
      .ok summary.detail.decoded := summary.detail.fromData_toFields
  have attempt : JsonFields.int summary.toFields "attempt" "error attempt" =
      .ok (summary.attempt : ℤ) := rfl
  have occurred : JsonFields.text summary.toFields "occurred_at" =
      .ok summary.occurredAt.isoformat := rfl
  rw [fromData]
  simp only [detail, attempt, occurred, ok_bind, DateTime.fromIsoformat_isoformat, make,
    Int.toNat_natCast]
  rw [dif_pos summary.positive]
  rfl

theorem decoded_eq_iff (summary : ErrorSummary) :
    summary.decoded = summary ↔ summary.detail.causeId ≠ some "" := by
  rw [← ErrorDetail.decoded_eq_iff]
  constructor
  · intro same
    exact congrArg ErrorSummary.detail same
  · intro same
    rw [decoded, same]

end ErrorSummary

/-! ## Attempts -/

theorem objectIf_written {α : Type} {write : α → JsonFields} {data : JsonFields}
    {key fieldName : String} {value : Option α}
    (found : Dict.lookup key data = some (.ofOption (fun value => .obj (write value)) value)) :
    data.objectIf key fieldName = .ok (value.map write) := by
  have get : data.get key = .ofOption (fun value => .obj (write value)) value := by
    rw [JsonFields.get, found]
    rfl
  rw [JsonFields.objectIf, get]
  cases value <;> rfl

theorem mapM_option {α β γ : Type} {write : α → β} {read : β → Except Raised γ} {become : α → γ}
    {value : Option α} (reads : ∀ value, read (write value) = .ok (become value)) :
    (value.map write).mapM read = .ok (value.map become) := by
  cases value with
  | none => rfl
  | some value =>
    change (do return some (← read (write value))) = _
    rw [reads value]
    rfl

def AttemptOutcome.value : AttemptOutcome → String
  | .succeeded => "succeeded"
  | .retryableFailure => "retryable_failure"
  | .finalFailure => "final_failure"
  | .cancelled => "cancelled"
  | .interrupted => "interrupted"

def AttemptOutcome.ofValue (value : String) : Except Raised AttemptOutcome :=
  match value with
  | "succeeded" => .ok .succeeded
  | "retryable_failure" => .ok .retryableFailure
  | "final_failure" => .ok .finalFailure
  | "cancelled" => .ok .cancelled
  | "interrupted" => .ok .interrupted
  | _ => .error (.value "not a valid AttemptOutcome")

theorem AttemptOutcome.written (outcome : AttemptOutcome) :
    outcome.value ≠ "" ∧ ofValue outcome.value = .ok outcome := by
  cases outcome <;> exact ⟨by decide, rfl⟩

namespace AttemptRecord

def make (attempt : ℤ) (startedAt : DateTime) (endedAt : Option DateTime)
    (outcome : Option AttemptOutcome) (checkpointRef : Option CheckpointRef)
    (error : Option ErrorSummary) : Except Raised AttemptRecord :=
  if positive : 1 ≤ attempt.toNat then
    match endedAt, outcome with
    | none, none =>
      .ok ⟨attempt.toNat, startedAt, none, checkpointRef, error, positive, unended startedAt⟩
    | some ended, some outcome =>
      if ordered : startedAt ≤ ended then
        .ok ⟨attempt.toNat, startedAt, some (ended, outcome), checkpointRef, error, positive, by
          simpa using ordered⟩
      else .error (.value "attempt cannot end before it starts")
    | _, _ => .error (.value "attempt end time and outcome must be set together")
  else .error (.value "attempt must be positive")

def toFields (record : AttemptRecord) : JsonFields :=
  [("attempt", .int record.attempt), ("started_at", .str record.startedAt.isoformat),
    ("ended_at", .ofOption (fun time => .str time.isoformat) (record.closed.map Prod.fst)),
    ("outcome", .ofOption (fun outcome => .str outcome.value) (record.closed.map Prod.snd)),
    ("checkpoint_ref", .ofOption (fun ref => .str ref.value) record.checkpointRef),
    ("error", .ofOption (fun error => .obj error.toFields) record.error)]

def fromData (data : JsonFields) : Except Raised AttemptRecord := do
  let errorData ← data.objectIf "error" "attempt error"
  let attempt ← data.int "attempt" "attempt"
  let startedAt ← DateTime.fromIsoformat (← data.text "started_at")
  let endedAt ← data.textIf "ended_at" DateTime.fromIsoformat
  let outcome ← data.textIf "outcome" AttemptOutcome.ofValue
  let checkpointRef ← data.idIf .checkpoint "checkpoint_ref"
  let error ← errorData.mapM ErrorSummary.fromData
  make attempt startedAt endedAt outcome checkpointRef error

def decoded (record : AttemptRecord) : AttemptRecord :=
  { record with error := record.error.map ErrorSummary.decoded }

theorem fromData_toFields (record : AttemptRecord) :
    fromData record.toFields = .ok record.decoded := by
  have spells : JsonFields.Spells record.toFields record.toFields := ⟨by simp [toFields], .same _⟩
  have errorData : JsonFields.objectIf record.toFields "error" "attempt error" =
      .ok (record.error.map ErrorSummary.toFields) := objectIf_written rfl
  have attempt : JsonFields.int record.toFields "attempt" "attempt" = .ok (record.attempt : ℤ) := rfl
  have started : JsonFields.text record.toFields "started_at" = .ok record.startedAt.isoformat := rfl
  have ended : JsonFields.textIf record.toFields "ended_at" DateTime.fromIsoformat =
      .ok (record.closed.map Prod.fst) := spells.textIf DateTime.isoformat_written rfl
  have outcome : JsonFields.textIf record.toFields "outcome" AttemptOutcome.ofValue =
      .ok (record.closed.map Prod.snd) := spells.textIf AttemptOutcome.written rfl
  have checkpoint : JsonFields.idIf .checkpoint record.toFields "checkpoint_ref" =
      .ok record.checkpointRef := spells.idIf rfl
  have error := @mapM_option _ _ _ _ _ _ record.error ErrorSummary.fromData_toFields
  rw [fromData]
  simp only [errorData, attempt, started, ended, outcome, checkpoint, ok_bind, error,
    DateTime.fromIsoformat_isoformat]
  obtain ⟨number, start, closed, ref, error, positive, ordered⟩ := record
  simp only [make, Int.toNat_natCast]
  rw [dif_pos positive]
  cases closed with
  | none => rfl
  | some pair =>
    change (if ordered : start ≤ pair.1 then _ else _) = _
    rw [dif_pos (ordered pair rfl)]
    rfl

theorem decoded_eq_iff (record : AttemptRecord) :
    record.decoded = record ↔ ∀ error ∈ record.error, error.detail.causeId ≠ some "" := by
  obtain ⟨number, start, closed, ref, error, positive, ordered⟩ := record
  cases error with
  | none => simp [decoded]
  | some error => simp [decoded, error.decoded_eq_iff]

end AttemptRecord

/-! ## Runs -/

def RunStatus.ofValue (value : String) : Except Raised RunStatus :=
  match value with
  | "created" => .ok .created
  | "starting" => .ok .starting
  | "context_loading" => .ok .contextLoading
  | "running" => .ok .running
  | "waiting_approval" => .ok .waitingApproval
  | "paused" => .ok .paused
  | "retrying" => .ok .retrying
  | "recovering" => .ok .recovering
  | "succeeded" => .ok .succeeded
  | "failed" => .ok .failed
  | "cancelled" => .ok .cancelled
  | _ => .error (.value "not a valid RunStatus")

theorem RunStatus.written (status : RunStatus) :
    status.value ≠ "" ∧ ofValue status.value = .ok status := by
  cases status <;> exact ⟨by decide, rfl⟩

def AuditFailureMode.value : AuditFailureMode → String
  | .pause => "pause"
  | .fail => "fail"

def AuditFailureMode.ofValue (value : String) : Except Raised AuditFailureMode :=
  match value with
  | "pause" => .ok .pause
  | "fail" => .ok .fail
  | _ => .error (.value "not a valid AuditFailureMode")

namespace RunControlPolicy

def toFields (policy : RunControlPolicy) : JsonFields :=
  [("audit_failure_mode", .str policy.auditFailureMode.value)]

def fromData (data : JsonFields) : Except Raised RunControlPolicy := do
  return ⟨← AuditFailureMode.ofValue (← data.text "audit_failure_mode")⟩

/-- An empty object stands for the default. -/
def read (data : JsonFields) : Except Raised RunControlPolicy :=
  if data.isEmpty then return {} else fromData data

theorem read_toFields (policy : RunControlPolicy) : read policy.toFields = .ok policy := by
  obtain ⟨mode⟩ := policy
  cases mode <;> rfl

end RunControlPolicy

/-- `RunKind`, which selects the class of a Run. -/
inductive RunClass
  | agent
  | workflow

def RunClass.ofValue (value : String) : Except Raised RunClass :=
  match value with
  | "agent" => .ok .agent
  | "workflow" => .ok .workflow
  | _ => .error (.value "not a valid RunKind")

/-- `_DecodedRunFields`. -/
structure DecodedRunFields where
  runId : RunId
  kind : RunClass
  definitionId : DefinitionId
  rootRunId : RunId
  parentRunId : Option RunId
  workspaceId : WorkspaceId
  sessionRef : Option SessionRef
  scope : ScopeRef
  status : RunStatus
  attempt : ℤ
  stateVersion : ℤ
  createdAt : DateTime
  startedAt : Option DateTime
  updatedAt : Option DateTime
  endedAt : Option DateTime
  errorSummary : Option ErrorSummary
  continuationStatus : Option RunStatus
  attemptHistory : List AttemptRecord
  controlPolicy : RunControlPolicy

/-- The constructor call of a Run of the class. -/
def DecodedRunFields.make (common : DecodedRunFields) (kind : RunKind) : Except Raised Run :=
  if common.attempt < 1 then .error (.value "run attempt must be positive")
  else if common.stateVersion < 0 then .error (.value "state version must not be negative")
  else Run.make {
    runId := common.runId
    kind := kind
    definitionId := common.definitionId
    rootRunId := common.rootRunId
    parentRunId := common.parentRunId
    workspaceId := common.workspaceId
    sessionRef := common.sessionRef
    scope := common.scope
    status := common.status
    attempt := common.attempt.toNat
    stateVersion := common.stateVersion.toNat
    createdAt := common.createdAt
    startedAt := common.startedAt
    updatedAt := common.updatedAt
    endedAt := common.endedAt
    errorSummary := common.errorSummary
    continuationStatus := common.continuationStatus
    attemptHistory := common.attemptHistory
    controlPolicy := common.controlPolicy }

namespace RunKind

def toFields : RunKind → JsonFields
  | .agent fields =>
    [("agent_id", .str fields.agentId.value),
      ("model_binding_ref", .str fields.modelBindingRef.value)]
  | .workflow fields =>
    [("workflow_id", .str fields.workflowId.value), ("graph_version", .str fields.graphVersion),
      ("latest_checkpoint_ref", .ofOption (fun ref => .str ref.value) fields.latestCheckpointRef)]

end RunKind

namespace Run

def commonFields (run : RunFields) : JsonFields :=
  [("run_id", .str run.runId.value), ("kind", .str run.kind.value),
    ("definition_id", .str run.definitionId.value), ("root_run_id", .str run.rootRunId.value),
    ("parent_run_id", .ofOption (fun id => .str id.value) run.parentRunId),
    ("workspace_id", .str run.workspaceId.value),
    ("session_ref", .ofOption SessionRef.toData run.sessionRef), ("scope", run.scope.toData),
    ("status", .str run.status.value), ("attempt", .int run.attempt),
    ("state_version", .int run.stateVersion), ("created_at", .str run.createdAt.isoformat),
    ("started_at", .ofOption (fun time => .str time.isoformat) run.startedAt),
    ("updated_at", .ofOption (fun time => .str time.isoformat) run.updatedAt),
    ("ended_at", .ofOption (fun time => .str time.isoformat) run.endedAt),
    ("error_summary", .ofOption (fun error => .obj error.toFields) run.errorSummary),
    ("continuation_status", .ofOption (fun status => .str status.value) run.continuationStatus),
    ("attempt_history", .arr (run.attemptHistory.map fun record => .obj record.toFields)),
    ("control_policy", .obj run.controlPolicy.toFields)]

def toFields (run : RunFields) : JsonFields := commonFields run ++ run.kind.toFields

def commonFromData (data : JsonFields) : Except Raised DecodedRunFields := do
  let rawScope ← data.object "scope" "run scope"
  let rawPolicy ← (data.getOr "control_policy" (.obj [])).asObject "run control_policy"
  let rawHistory ← (data.getOr "attempt_history" (.arr [])).asArray "run attempt_history"
  let sessionData ← data.objectIf "session_ref" "run session_ref"
  let errorData ← data.objectIf "error_summary" "run error_summary"
  let historyData ← rawHistory.mapM (·.asObject "run attempt history item")
  let runId ← data.id .run "run_id"
  let kind ← RunClass.ofValue (← data.text "kind")
  let definitionId ← data.id .definition "definition_id"
  let rootRunId ← data.id .run "root_run_id"
  let parentRunId ← data.idIf .run "parent_run_id"
  let workspaceId ← data.id .workspace "workspace_id"
  let sessionRef ← sessionData.mapM SessionRef.fromData
  let scope ← ScopeRef.fromData rawScope
  let status ← RunStatus.ofValue (← data.text "status")
  let attempt ← data.int "attempt" "run attempt"
  let stateVersion ← data.int "state_version" "run state version"
  let createdAt ← DateTime.fromIsoformat (← data.text "created_at")
  let startedAt ← data.textIf "started_at" DateTime.fromIsoformat
  let updatedAt ← data.textIf "updated_at" DateTime.fromIsoformat
  let endedAt ← data.textIf "ended_at" DateTime.fromIsoformat
  let errorSummary ← errorData.mapM ErrorSummary.fromData
  let continuationStatus ← data.textIf "continuation_status" RunStatus.ofValue
  let attemptHistory ← historyData.mapM AttemptRecord.fromData
  let controlPolicy ← RunControlPolicy.read rawPolicy
  return ⟨runId, kind, definitionId, rootRunId, parentRunId, workspaceId, sessionRef, scope, status,
    attempt, stateVersion, createdAt, startedAt, updatedAt, endedAt, errorSummary,
    continuationStatus, attemptHistory, controlPolicy⟩

def fromData (data : JsonFields) : Except Raised Run := do
  let common ← commonFromData data
  match common.kind with
  | .agent => do
    let agentId ← data.id .agent "agent_id"
    let modelBindingRef ← data.id .modelBinding "model_binding_ref"
    common.make (.agent ⟨agentId, modelBindingRef⟩)
  | .workflow => do
    let workflowId ← data.id .workflow "workflow_id"
    let graphVersion ← data.text "graph_version"
    let latestCheckpointRef ← data.idIf .checkpoint "latest_checkpoint_ref"
    common.make (.workflow ⟨workflowId, graphVersion, latestCheckpointRef⟩)

end Run

/-! ## What is read of a written Run -/

/-- The fields with empty causes taken for none. -/
def RunFields.decoded (fields : RunFields) : RunFields :=
  { fields with
    errorSummary := fields.errorSummary.map ErrorSummary.decoded
    attemptHistory := fields.attemptHistory.map AttemptRecord.decoded }

/-- The checks of a Run do not look into its errors. -/
theorem RunFields.check_decoded (fields : RunFields) : fields.decoded.check = fields.check := by
  have attempts : fields.decoded.attemptHistory.map AttemptRecord.attempt =
      fields.attemptHistory.map AttemptRecord.attempt := by
    change (fields.attemptHistory.map AttemptRecord.decoded).map AttemptRecord.attempt = _
    rw [List.map_map]
    rfl
  have last : (fields.decoded.attemptHistory.getLast?.all fun record =>
      record.attempt ≤ fields.decoded.attempt) =
      fields.attemptHistory.getLast?.all fun record => record.attempt ≤ fields.attempt := by
    change ((fields.attemptHistory.map AttemptRecord.decoded).getLast?.all _) = _
    rw [List.getLast?_map]
    cases fields.attemptHistory.getLast? <;> rfl
  have opened : fields.decoded.openLast = fields.openLast := by
    have history : fields.decoded.attemptHistory = fields.attemptHistory.map AttemptRecord.decoded :=
      rfl
    unfold RunFields.openLast
    rw [history, ← List.map_reverse]
    cases fields.attemptHistory.reverse with
    | nil => rfl
    | cons record records =>
      change ((records.map AttemptRecord.decoded).all _ && _) = _
      rw [List.all_map]
      rfl
  unfold RunFields.check
  rw [attempts, last, opened]
  rfl

namespace Run

def decoded (run : Run) : Run :=
  ⟨run.toRunFields.decoded, by rw [RunFields.check_decoded]; exact run.checked⟩

theorem make_decoded (run : Run) : make run.toRunFields.decoded = .ok run.decoded := by
  unfold make
  split
  · rfl
  · rename_i refused
    rw [RunFields.check_decoded, run.checked] at refused
    cases refused

theorem commonFields_nodup (run : RunFields) : ((toFields run).map Prod.fst).Nodup := by
  unfold toFields commonFields
  cases run.kind <;> simp [RunKind.toFields]

end Run

def RunKind.toClass : RunKind → RunClass
  | .agent _ => .agent
  | .workflow _ => .workflow

theorem RunKind.ofValue_value (kind : RunKind) :
    RunClass.ofValue kind.value = .ok kind.toClass := by
  cases kind <;> rfl

theorem SessionRef.decodes : Decodes fromData toData where
  object _ := ⟨_, rfl⟩
  reads session data reordered := by
    have spells : data.Spells _ := ⟨by simp, reordered⟩
    have namespaceText : JsonFields.text data "namespace" = .ok session.namespace_ :=
      spells.text rfl
    have id : JsonFields.id .session data "session_id" = .ok session.sessionId := spells.id rfl
    rw [fromData, namespaceText, id]
    change make _ _ = _
    rw [make, dif_pos session.trimmed]

namespace Run

/-- What is read of the fields that all Runs have. -/
def commonOf (run : RunFields) : DecodedRunFields where
  runId := run.runId
  kind := run.kind.toClass
  definitionId := run.definitionId
  rootRunId := run.rootRunId
  parentRunId := run.parentRunId
  workspaceId := run.workspaceId
  sessionRef := run.sessionRef
  scope := run.scope
  status := run.status
  attempt := run.attempt
  stateVersion := run.stateVersion
  createdAt := run.createdAt
  startedAt := run.startedAt
  updatedAt := run.updatedAt
  endedAt := run.endedAt
  errorSummary := run.errorSummary.map ErrorSummary.decoded
  continuationStatus := run.continuationStatus
  attemptHistory := run.attemptHistory.map AttemptRecord.decoded
  controlPolicy := run.controlPolicy

theorem commonFromData_toFields (run : RunFields) :
    commonFromData (toFields run) = .ok (commonOf run) := by
  have spells : JsonFields.Spells (toFields run) (toFields run) := ⟨commonFields_nodup run, .same _⟩
  obtain ⟨scopeFields, scopeObject⟩ := ScopeRef.decodes.object run.scope
  have rawScope : JsonFields.object (toFields run) "scope" "run scope" = .ok scopeFields := by
    change run.scope.toData.asObject "run scope" = _
    rw [scopeObject]
    rfl
  have scope : ScopeRef.fromData scopeFields = .ok run.scope :=
    ScopeRef.decodes.reads run.scope scopeFields (by rw [scopeObject]; exact .same _)
  have rawPolicy : (JsonFields.getOr (toFields run) "control_policy" (.obj [])).asObject
      "run control_policy" = .ok run.controlPolicy.toFields := rfl
  have rawHistory : (JsonFields.getOr (toFields run) "attempt_history" (.arr [])).asArray
      "run attempt_history" = .ok (run.attemptHistory.map fun record => .obj record.toFields) := rfl
  have sessionData : JsonFields.objectIf (toFields run) "session_ref" "run session_ref" =
      .ok (run.sessionRef.map fun session => [("namespace", .str session.namespace_),
        ("session_id", .str session.sessionId.value)]) := objectIf_written rfl
  have errorData : JsonFields.objectIf (toFields run) "error_summary" "run error_summary" =
      .ok (run.errorSummary.map ErrorSummary.toFields) := objectIf_written rfl
  have historyData : (run.attemptHistory.map fun record => JsonValue.obj record.toFields).mapM
      (·.asObject "run attempt history item") = .ok (run.attemptHistory.map AttemptRecord.toFields) :=
    mapM_written fun _ _ => rfl
  have history : (run.attemptHistory.map AttemptRecord.toFields).mapM AttemptRecord.fromData =
      .ok (run.attemptHistory.map AttemptRecord.decoded) :=
    mapM_written fun record _ => record.fromData_toFields
  have session := @mapM_option _ _ _ (fun session : SessionRef =>
    ([("namespace", .str session.namespace_), ("session_id", .str session.sessionId.value)] :
      JsonFields)) SessionRef.fromData id run.sessionRef fun session =>
        SessionRef.decodes.reads session _ (.same _)
  have error := @mapM_option _ _ _ _ _ _ run.errorSummary ErrorSummary.fromData_toFields
  have runId : JsonFields.id .run (toFields run) "run_id" = .ok run.runId := spells.id rfl
  have kind : JsonFields.text (toFields run) "kind" = .ok run.kind.value := rfl
  have definition : JsonFields.id .definition (toFields run) "definition_id" =
      .ok run.definitionId := spells.id rfl
  have root : JsonFields.id .run (toFields run) "root_run_id" = .ok run.rootRunId := spells.id rfl
  have parent : JsonFields.idIf .run (toFields run) "parent_run_id" = .ok run.parentRunId :=
    spells.idIf rfl
  have workspace : JsonFields.id .workspace (toFields run) "workspace_id" = .ok run.workspaceId :=
    spells.id rfl
  have status : JsonFields.text (toFields run) "status" = .ok run.status.value := rfl
  have attempt : JsonFields.int (toFields run) "attempt" "run attempt" = .ok (run.attempt : ℤ) := rfl
  have version : JsonFields.int (toFields run) "state_version" "run state version" =
      .ok (run.stateVersion : ℤ) := rfl
  have created : JsonFields.text (toFields run) "created_at" = .ok run.createdAt.isoformat := rfl
  have started : JsonFields.textIf (toFields run) "started_at" DateTime.fromIsoformat =
      .ok run.startedAt := spells.textIf DateTime.isoformat_written rfl
  have updated : JsonFields.textIf (toFields run) "updated_at" DateTime.fromIsoformat =
      .ok run.updatedAt := spells.textIf DateTime.isoformat_written rfl
  have ended : JsonFields.textIf (toFields run) "ended_at" DateTime.fromIsoformat =
      .ok run.endedAt := spells.textIf DateTime.isoformat_written rfl
  have continuation : JsonFields.textIf (toFields run) "continuation_status" RunStatus.ofValue =
      .ok run.continuationStatus := spells.textIf RunStatus.written rfl
  have status_ := (RunStatus.written run.status).2
  rw [commonFromData]
  simp only [rawScope, rawPolicy, rawHistory, sessionData, errorData, historyData, runId, kind,
    RunKind.ofValue_value, definition, root, parent, workspace, session, scope, status, status_,
    attempt, version, created, started, updated, ended, error, continuation, history,
    RunControlPolicy.read_toFields, DateTime.fromIsoformat_isoformat, ok_bind, Option.map_id_fun,
    id_eq]
  rfl

theorem commonOf_make (run : Run) : (commonOf run.toRunFields).make run.kind = .ok run.decoded := by
  have positive : ¬ ((run.attempt : ℤ) < 1) := by
    obtain ⟨_, checked, -⟩ := bind_ok run.checked
    have least := of_decide_eq_true (requireValue_eq_ok.mp checked)
    omega
  have natural : ¬ ((run.stateVersion : ℤ) < 0) := by omega
  unfold DecodedRunFields.make commonOf
  simp only [positive, natural, if_false, Int.toNat_natCast]
  exact run.make_decoded

/-- A written Run is read with empty causes taken for none. -/
theorem fromData_toFields (run : Run) : fromData (toFields run.toRunFields) = .ok run.decoded := by
  have made := run.commonOf_make
  have spells : JsonFields.Spells (toFields run.toRunFields) (toFields run.toRunFields) :=
    ⟨commonFields_nodup _, .same _⟩
  have nodup := commonFields_nodup run.toRunFields
  rw [fromData, commonFromData_toFields]
  obtain ⟨fields, checked⟩ := run
  cases kind : fields.kind with
  | agent agent =>
    have split : toFields fields = commonFields fields ++ (RunKind.agent agent).toFields := by
      rw [toFields, kind]
    have class_ : (commonOf fields).kind = .agent := by
      rw [commonOf, kind]
      rfl
    have agentId : JsonFields.id .agent (toFields fields) "agent_id" = .ok agent.agentId :=
      spells.id (by rw [split]; rfl)
    have binding : JsonFields.id .modelBinding (toFields fields) "model_binding_ref" =
        .ok agent.modelBindingRef := spells.id (by rw [split]; rfl)
    simp only [ok_bind, class_, agentId, binding]
    rw [← made, kind]
  | workflow workflow =>
    have split : toFields fields = commonFields fields ++ (RunKind.workflow workflow).toFields := by
      rw [toFields, kind]
    have class_ : (commonOf fields).kind = .workflow := by
      rw [commonOf, kind]
      rfl
    have workflowId : JsonFields.id .workflow (toFields fields) "workflow_id" =
        .ok workflow.workflowId := spells.id (by rw [split]; rfl)
    have graph : JsonFields.text (toFields fields) "graph_version" = .ok workflow.graphVersion :=
      spells.text (by rw [split]; rfl)
    have latest : JsonFields.idIf .checkpoint (toFields fields) "latest_checkpoint_ref" =
        .ok workflow.latestCheckpointRef := spells.idIf (by rw [split]; rfl)
    simp only [ok_bind, class_, workflowId, graph, latest]
    rw [← made, kind]

/-- The errors of a Run and of its attempts. -/
def errors (run : Run) : List ErrorSummary :=
  run.errorSummary.toList ++ run.attemptHistory.flatMap fun record => record.error.toList

theorem decoded_eq_iff (run : Run) :
    run.decoded = run ↔ ∀ error ∈ run.errors, error.detail.causeId ≠ some "" := by
  obtain ⟨fields, checked⟩ := run
  have summary : fields.errorSummary.map ErrorSummary.decoded = fields.errorSummary ↔
      ∀ error ∈ fields.errorSummary.toList, error.detail.causeId ≠ some "" := by
    cases fields.errorSummary with
    | none => simp
    | some error => simp [error.decoded_eq_iff]
  have history : fields.attemptHistory.map AttemptRecord.decoded = fields.attemptHistory ↔
      ∀ error ∈ fields.attemptHistory.flatMap fun record => record.error.toList,
        error.detail.causeId ≠ some "" := by
    rw [map_eq_self]
    simp only [AttemptRecord.decoded_eq_iff, List.mem_flatMap, Option.mem_toList]
    constructor
    · rintro all error ⟨record, member, found⟩
      exact all record member error found
    · intro all record member error found
      exact all error ⟨record, member, found⟩
  rw [errors, List.forall_mem_append, ← summary, ← history]
  constructor
  · intro same
    have whole := congrArg Run.toRunFields same
    exact ⟨congrArg RunFields.errorSummary whole, congrArg RunFields.attemptHistory whole⟩
  · rintro ⟨one, two⟩
    have whole : fields.decoded = fields := by
      rw [RunFields.decoded, one, two]
    unfold decoded
    simp only [whole]

end Run

/-- A Run is read as it was written where no error of it has an empty cause. -/
theorem run_codec_iff (run : Run) : Run.fromData (Run.toFields run.toRunFields) = .ok run ↔
    ∀ error ∈ run.errors, error.detail.causeId ≠ some "" := by
  rw [run.fromData_toFields, ← run.decoded_eq_iff, Except.ok.injEq]

open SampleParameters in
/-- A Run with an error whose cause is empty. -/
def causelessRun : Run where
  toRunFields := { sampleRun.toRunFields with
    errorSummary := some ⟨⟨.unavailable, "provider_down", "provider is down", true, some "", [],
      providerDown_required⟩, 1, sampleRun.createdAt, Nat.one_pos⟩ }
  checked := sampleRun.checked

/-- The empty cause is read as none. -/
theorem run_empty_cause : ¬ ∀ run : Run, Run.fromData (Run.toFields run.toRunFields) = .ok run := by
  intro codec
  have read := codec causelessRun
  rw [causelessRun.fromData_toFields] at read
  have same := causelessRun.decoded_eq_iff.mp (Except.ok.inj read)
  have listed : ∃ error ∈ causelessRun.errors, error.detail.causeId = some "" :=
    ⟨_, .head _, rfl⟩
  obtain ⟨error, member, empty⟩ := listed
  exact same error member empty

end CongeriesCore
