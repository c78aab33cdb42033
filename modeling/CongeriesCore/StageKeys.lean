import CongeriesCore.EncodedReferences
import CongeriesCore.EvaluationTotality
import CongeriesCore.JoinedText
import CongeriesCore.WorkflowIdentities

/-! # The idempotency keys of evaluation stages

The material of a stage's key joins texts with `:`, some of which may hold a `:` themselves.
Read from its end it still tells the stage and the fingerprint of the request, and the
fingerprint tells the identity of the evaluation, which leaves the key of the caller. -/

namespace CongeriesCore

/-! ## Encoded requests -/

namespace EvaluationRequest

/-- The objects in the value and the constraints are objects of Python, which have no key
twice. -/
def Keyed (request : EvaluationRequest) : Prop :=
  request.value.keyed = true ∧ JsonValue.keyedFields request.constraints.entries = true

/-- The same request, up to the order of keys in the value and the constraints. -/
structure Same (first second : EvaluationRequest) : Prop where
  contractVersion : first.contractVersion = second.contractVersion
  evaluationId : first.evaluationId = second.evaluationId
  value : Reordered first.value second.value
  inputSchema : first.inputSchema = second.inputSchema
  policyRef : first.policyRef = second.policyRef
  qualityEvaluatorId : first.qualityEvaluatorId = second.qualityEvaluatorId
  qualityProfileRef : first.qualityProfileRef = second.qualityProfileRef
  scope : first.scope = second.scope
  constraints : Reordered (.obj first.constraints.entries) (.obj second.constraints.entries)

theorem same_of_canonical {first second : EvaluationRequest}
    (same : first.toData.canonical = second.toData.canonical) : first.Same second := by
  have looked := lookup_of_canonical (by simp) (by simp) same
  constructor
  · simpa [Dict.lookup] using looked "contract_version"
  · apply Identifier.ext_value
    simpa [Dict.lookup] using looked "evaluation_id"
  · apply JsonValue.reordered_of_canonical
    simpa [Dict.lookup] using looked "value"
  · apply SchemaRef.eq_of_canonical
    simpa [Dict.lookup] using looked "input_schema"
  · simpa [Dict.lookup] using looked "policy_ref"
  · apply Identifier.ext_value
    simpa [Dict.lookup] using looked "quality_evaluator_id"
  · simpa [Dict.lookup] using looked "quality_profile_ref"
  · apply ScopeRef.eq_of_canonical
    simpa [Dict.lookup] using looked "scope"
  · apply JsonValue.reordered_of_canonical
    simpa [Dict.lookup] using looked "constraints"

theorem canonical_of_same {first second : EvaluationRequest} (keyed : first.Keyed)
    (same : first.Same second) : first.toData.canonical = second.toData.canonical := by
  have value := JsonValue.canonical_of_reordered same.value keyed.1
  have constraints := JsonValue.canonical_of_reordered same.constraints (by
    rw [JsonValue.keyed, keyed.2, Bool.and_true, decide_eq_true_eq]
    exact first.constraints.nodup)
  have encoded : ∀ request : EvaluationRequest, request.toData.canonical =
      .obj ((List.map (fun field => (field.1, field.2.canonical)) [
        ("contract_version", .str request.contractVersion),
        ("evaluation_id", .str request.evaluationId.value), ("value", request.value),
        ("input_schema", request.inputSchema.toData), ("policy_ref", .str request.policyRef),
        ("quality_evaluator_id", .str request.qualityEvaluatorId.value),
        ("quality_profile_ref", .str request.qualityProfileRef),
        ("scope", request.scope.toData),
        ("constraints", .obj request.constraints.entries)]).foldr JsonValue.insertField []) := by
    intro request
    rw [toData, JsonValue.canonical_obj, JsonValue.canonicalFields_eq_foldr]
    rfl
  rw [encoded, encoded, same.contractVersion, same.evaluationId, same.inputSchema,
    same.policyRef, same.qualityEvaluatorId, same.qualityProfileRef, same.scope]
  simp only [List.map_cons, List.map_nil, value, constraints]

end EvaluationRequest

/-! ## The material -/

theorem RuntimeCallContext.narrow_key {context narrowed : RuntimeCallContext}
    {scope : Option ScopeRef} {deadline : Option Deadline} {key : IdempotencyKey}
    (made : context.narrow scope deadline (some key) = .ok narrowed) :
    narrowed.idempotencyKey = some key := by
  unfold narrow at made
  obtain ⟨_, _, rest⟩ := bind_ok made
  dsimp only at rest
  split at rest
  · split at rest
    · cases rest
    · obtain rfl := Except.ok.inj rest
      rfl
  · obtain rfl := Except.ok.inj rest
    rfl

namespace EvaluationHarness

open WorkflowRuntime

section Material

variable [Sha256]

/-- `material` of `_stage_context`. -/
def stageMaterial (parent : IdempotencyKey) (request : EvaluationRequest)
    (stage : EvaluationStage) : String :=
  ":".intercalate [parent.value, request.evaluationId.value, evaluationContractVersion,
    request.fingerprint, stage.value]

theorem stageContext_key {context narrowed : RuntimeCallContext} {request : EvaluationRequest}
    {stage : EvaluationStage} (made : stageContext context request stage = .ok narrowed) :
    ∃ parent key, context.idempotencyKey = some parent ∧ narrowed.idempotencyKey = some key ∧
      key.value = (Sha256.text (stageMaterial parent request stage)).value := by
  unfold stageContext at made
  split at made
  · cases made
  · rename_i parent given
    obtain ⟨key, keyed, rest⟩ := bind_ok made
    refine ⟨parent, key, given, ?_, Identifier.make_value keyed⟩
    exact RuntimeCallContext.narrow_key rest

omit [Sha256] in
theorem stage_plain (stage : EvaluationStage) : ':' ∉ stage.value.toList := by
  cases stage <;> simp [EvaluationStage.value]

omit [Sha256] in
/-- A digest is spelled in hexadecimal digits. -/
theorem digest_plain (digest : Sha256Digest) : ':' ∉ digest.value.toList := by
  intro member
  have hex := digest.matches_
  rw [isSha256, Bool.and_eq_true, List.all_eq_true] at hex
  exact absurd (hex.2 _ member) (by decide)

theorem stageMaterial_toList (parent : IdempotencyKey) (request : EvaluationRequest)
    (stage : EvaluationStage) :
    (stageMaterial parent request stage).toList =
      ((((parent.value.toList ++ ':' :: request.evaluationId.value.toList) ++
        ':' :: evaluationContractVersion.toList) ++ ':' :: request.fingerprint.toList) ++
          ':' :: stage.value.toList) := by
  simp [stageMaterial]

/-- The material tells the caller's key, the fingerprint and the stage, given that equal
fingerprints are of requests with one identity. -/
theorem stageMaterial_inj {parent parent' : IdempotencyKey} {request request' : EvaluationRequest}
    {stage stage' : EvaluationStage}
    (identified : request.fingerprint = request'.fingerprint →
      request.evaluationId = request'.evaluationId)
    (same : stageMaterial parent request stage = stageMaterial parent' request' stage') :
    parent = parent' ∧ request.fingerprint = request'.fingerprint ∧ stage = stage' := by
  have texts := congrArg String.toList same
  rw [stageMaterial_toList, stageMaterial_toList] at texts
  obtain ⟨texts, stages⟩ :=
    JoinedText.append_cons_inj (stage_plain stage) (stage_plain stage') texts
  obtain ⟨texts, fingerprints⟩ :=
    JoinedText.append_cons_inj (digest_plain _) (digest_plain _) texts
  have fingerprints := String.toList_inj.mp fingerprints
  rw [identified fingerprints] at texts
  have texts := List.append_cancel_right (List.append_cancel_right texts)
  refine ⟨Identifier.ext_value (String.toList_inj.mp texts), fingerprints, ?_⟩
  have values := String.toList_inj.mp stages
  cases stage <;> cases stage' <;> first | rfl | exact absurd values (by decide)

end Material

end EvaluationHarness

open EvaluationHarness WorkflowRuntime

/-- Stage keys are equal if and only if the key of the caller, the request and the stage are,
where neither the digests of the materials nor those of the requests collide. -/
theorem stage_keys_eq_iff [Sha256] {context context' narrowed narrowed' : RuntimeCallContext}
    {request request' : EvaluationRequest} {stage stage' : EvaluationStage}
    (keyed : request.Keyed)
    (made : stageContext context request stage = .ok narrowed)
    (made' : stageContext context' request' stage' = .ok narrowed')
    (materials : ∀ parent parent', context.idempotencyKey = some parent →
      context'.idempotencyKey = some parent' →
        SeparatesTexts (stageMaterial parent request stage)
          (stageMaterial parent' request' stage'))
    (documents : request.toData.sha256 = request'.toData.sha256 →
      request.toData.canonical = request'.toData.canonical) :
    narrowed.idempotencyKey = narrowed'.idempotencyKey ↔
      context.idempotencyKey = context'.idempotencyKey ∧ request.Same request' ∧
        stage = stage' := by
  obtain ⟨parent, key, given, produced, value⟩ := stageContext_key made
  obtain ⟨parent', key', given', produced', value'⟩ := stageContext_key made'
  have digests : key = key' ↔ Sha256.text (stageMaterial parent request stage) =
      Sha256.text (stageMaterial parent' request' stage') := by
    rw [← Sha256Digest.value_inj, ← value, ← value']
    exact ⟨congrArg Identifier.value, Identifier.ext_value⟩
  have fingerprinted : request.fingerprint = request'.fingerprint →
      request.toData.canonical = request'.toData.canonical := by
    intro same
    exact documents (Sha256Digest.value_inj.mp same)
  rw [produced, produced', given, given', Option.some.injEq, Option.some.injEq, digests]
  constructor
  · intro same
    have texts := materials parent parent' given given' same
    obtain ⟨parents, fingerprints, stages⟩ := stageMaterial_inj
      (fun same => (EvaluationRequest.same_of_canonical (fingerprinted same)).evaluationId) texts
    exact ⟨parents, EvaluationRequest.same_of_canonical (fingerprinted fingerprints), stages⟩
  · rintro ⟨rfl, same, rfl⟩
    have fingerprints : request.fingerprint = request'.fingerprint := by
      rw [EvaluationRequest.fingerprint, EvaluationRequest.fingerprint, JsonValue.sha256,
        JsonValue.sha256, EvaluationRequest.canonical_of_same keyed same]
    rw [stageMaterial, stageMaterial, same.evaluationId, fingerprints]

open SampleParameters in
/-- The policy stage and the quality stage of one evaluation have different keys. -/
theorem stage_keys_sample :
    ∃ policy quality,
      stageContext EvaluationHarness.keyedContext (requestFor "policy:1" (by decide)) .policy =
        .ok policy ∧
      stageContext EvaluationHarness.keyedContext (requestFor "policy:1" (by decide)) .quality =
        .ok quality ∧
      policy.idempotencyKey ≠ quality.idempotencyKey := by
  have stands : ∀ stage, ∃ narrowed, stageContext EvaluationHarness.keyedContext
      (requestFor "policy:1" (by decide)) stage = .ok narrowed := by
    intro stage
    have ok : (stageContext EvaluationHarness.keyedContext (requestFor "policy:1" (by decide))
        stage).isOk = true := by
      cases stage <;> decide +kernel
    cases made : stageContext EvaluationHarness.keyedContext
        (requestFor "policy:1" (by decide)) stage with
    | ok narrowed => exact ⟨narrowed, rfl⟩
    | error error =>
      rw [made] at ok
      cases ok
  obtain ⟨policy, made⟩ := stands .policy
  obtain ⟨quality, made'⟩ := stands .quality
  refine ⟨policy, quality, made, made', ?_⟩
  rw [Ne, stage_keys_eq_iff ⟨rfl, rfl⟩ made made' ?_ fun _ => rfl]
  · rintro ⟨-, -, same⟩
    cases same
  · intro parent parent' given given'
    cases given
    cases given'
    exact fun same => absurd same (by decide +kernel)

end CongeriesCore
