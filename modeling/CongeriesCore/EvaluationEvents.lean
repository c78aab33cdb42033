import CongeriesCore.EvaluationModel
import CongeriesCore.EventCreation
import CongeriesCore.EventIdentity

/-! # Evaluation verdict events

`RuntimeEventPublisher.evaluation_verdict_recorded` over an `EventDispatcher`. The identity of
the event is the digest of the result, so that a publication that is tried again comes to the
same entry of the outbox. What the entry stands for also holds the identities of the call. -/

namespace CongeriesCore

open AsyncProgram

def SchemaRef.path (schema : SchemaRef) : String :=
  String.intercalate "/" [schema.namespace_, schema.name, schema.version]

/-- The arguments of `evaluation_verdict_recorded`. -/
structure VerdictPublication where
  request : EvaluationRequest
  result : EvaluationResult
  context : RuntimeCallContext

namespace VerdictPublication

section Data

variable [Sha256] (publication : VerdictPublication)

def values : List (String × JsonValue) :=
  [("evaluation_id", .str publication.request.evaluationId.value),
    ("schema_ref", .str publication.request.inputSchema.path),
    ("evaluator_id", .str publication.request.qualityEvaluatorId.value),
    ("profile_ref", .str publication.request.qualityProfileRef),
    ("verdict", .str publication.result.verdict.value),
    ("terminal_stage", .str publication.result.terminalStage.value),
    ("reason_code", .str publication.result.terminal.reasonCode),
    ("error_code", .ofOption (fun error => .str error.code) publication.result.error),
    ("evidence_refs", .arr (publication.result.evidenceRefs.map (·.toData))),
    ("result_digest", .str publication.result.digest)]

def entries : List (String × PayloadField) :=
  publication.values.map fun field => (field.1, ⟨field.2, .internal⟩)

theorem entries_keys : publication.entries.map Prod.fst = ["evaluation_id", "schema_ref",
    "evaluator_id", "profile_ref", "verdict", "terminal_stage", "reason_code", "error_code",
    "evidence_refs", "result_digest"] := rfl

theorem entries_nodup : (publication.entries.map Prod.fst).Nodup := by
  rw [entries_keys]
  decide

theorem entries_trimmed : publication.entries.all (fun field => isTrimmed field.1) = true := by
  have trimmed : (publication.entries.map Prod.fst).all isTrimmed = true := by
    rw [entries_keys]
    decide +kernel
  simpa using trimmed

def payload : ClassifiedPayload :=
  ⟨⟨publication.entries, publication.entries_nodup⟩, publication.entries_trimmed⟩

def fields : EventFields where
  eventType := "core.evaluation.verdict_recorded"
  schemaVersion := "1"
  runId := publication.context.runId
  rootRunId := publication.context.rootRunId
  parentRunId := publication.context.parentRunId
  scope := publication.request.scope
  trace := publication.context.trace
  sensitivity := .internal
  deliveryClass := .audit
  payload := publication.payload

/-- `EventId(f"evaluation-verdict:{result.digest}")`. -/
def eventId : EventId where
  value := "evaluation-verdict:" ++ publication.result.digest
  checked := labelled_checked (by decide) (by simp [isPySpace]) _

/-- `_run_principal`. -/
def principal : RuntimePrincipal :=
  .core .run ⟨publication.context.runId.value, publication.context.runId.checked⟩

end Data

/-- The same result for the same request, in calls of one Run with one trace. -/
def SameData (first second : VerdictPublication) : Prop :=
  first.request = second.request ∧ first.result = second.result ∧
    first.context.runId = second.context.runId ∧
    first.context.rootRunId = second.context.rootRunId ∧
    first.context.parentRunId = second.context.parentRunId ∧
    first.context.trace = second.context.trace

theorem SameData.refl (publication : VerdictPublication) : publication.SameData publication :=
  ⟨rfl, rfl, rfl, rfl, rfl, rfl⟩

variable [Sha256] {publication : VerdictPublication}

theorem SameData.fields {first second : VerdictPublication} (same : first.SameData second) :
    first.fields = second.fields := by
  obtain ⟨request, result, runId, rootRunId, parentRunId, trace⟩ := same
  unfold VerdictPublication.fields payload entries values
  simp only [request, result, runId, rootRunId, parentRunId, trace]

end VerdictPublication

/-! ### Equality of payloads -/

theorem ScopeRef.chainToData_equals (chain : List ScopeKey) :
    (ScopeRef.chainToData chain).equals (ScopeRef.chainToData chain) = true := by
  induction chain with
  | nil => exact JsonValue.equals_null
  | cons key ancestors ih =>
    apply JsonValue.equals_obj_self
    · simp
    · intro field member
      simp only [List.mem_cons, List.not_mem_nil, or_false] at member
      rcases member with rfl | rfl | rfl | rfl
      · exact JsonValue.equals_str_self _
      · exact JsonValue.equals_str_self _
      · exact JsonValue.equals_str_self _
      · exact ih

theorem ResourceRef.toData_equals (resource : ResourceRef) :
    resource.toData.equals resource.toData = true := by
  apply JsonValue.equals_obj_self
  · simp
  · intro field member
    simp only [List.mem_cons, List.not_mem_nil, or_false] at member
    rcases member with rfl | rfl | rfl | rfl
    · exact JsonValue.equals_str_self _
    · exact JsonValue.equals_str_self _
    · exact JsonValue.equals_str_self _
    · exact JsonValue.equals_ofOption_str_self (fun text => text) _

theorem CheckpointReference.toData_equals (reference : CheckpointReference) :
    reference.toData.equals reference.toData = true := by
  apply JsonValue.equals_obj_self
  · simp
  · intro field member
    simp only [List.mem_cons, List.not_mem_nil, or_false] at member
    rcases member with rfl | rfl | rfl | rfl
    · exact JsonValue.equals_str_self _
    · exact reference.resource.toData_equals
    · exact ScopeRef.chainToData_equals _
    · exact JsonValue.equals_ofOption_str_self (fun text => text) _

namespace VerdictPublication

variable [Sha256]

theorem values_equal (publication : VerdictPublication) : ∀ field ∈ publication.values,
    field.2.equals field.2 = true := by
  have refs : (JsonValue.arr (publication.result.evidenceRefs.map (·.toData))).equals
      (.arr (publication.result.evidenceRefs.map (·.toData))) = true := by
    apply JsonValue.equals_arr_self
    intro item member
    obtain ⟨reference, -, rfl⟩ := List.mem_map.mp member
    exact reference.toData_equals
  intro field member
  simp only [values, List.mem_cons, List.not_mem_nil, or_false] at member
  rcases member with rfl | rfl | rfl | rfl | rfl | rfl | rfl | rfl | rfl | rfl
  · exact JsonValue.equals_str_self _
  · exact JsonValue.equals_str_self _
  · exact JsonValue.equals_str_self _
  · exact JsonValue.equals_str_self _
  · exact JsonValue.equals_str_self _
  · exact JsonValue.equals_str_self _
  · exact JsonValue.equals_str_self _
  · exact JsonValue.equals_ofOption_str_self ErrorDetail.code _
  · exact refs
  · exact JsonValue.equals_str_self _

theorem payload_equals (publication : VerdictPublication) :
    publication.payload.equals publication.payload = true := by
  apply ClassifiedPayload.equals_self
  intro field member
  obtain ⟨value, listed, rfl⟩ := List.mem_map.mp member
  exact publication.values_equal value listed

end VerdictPublication

end CongeriesCore
