import CongeriesCore.EvaluationHarness

/-! # Totality of the evaluation harness

Whatever its providers do, an evaluation is to end with an audited result or with a `CoreError`
of a precondition or of the audit. -/

namespace CongeriesCore

open AsyncProgram AsyncProgram.Program

/-- A `CoreError` whose code a stage result may carry as its reason. -/
def Raised.isReportable : Raised → Bool
  | .core detail => isTrimmed detail.code
  | _ => false

/-- What surrounds a harness: the exceptions of its providers, of its authorization and of its
audit, whether a quality evaluator may return something else than capabilities, and the names that
do not identify a resource but under which policies may be registered. -/
structure HarnessSurroundings where
  raises : Raised → Prop
  malformed : Prop
  odd : String → Prop

/-- Every exception can be reported by a stage, capabilities are capabilities, and policies are
registered under names that identify a resource. -/
structure HarnessSurroundings.Reportable (surroundings : HarnessSurroundings) : Prop where
  raises : ∀ error, surroundings.raises error → error.isReportable = true
  intact : ¬surroundings.malformed
  named : ∀ name, isTrimmed name = true → surroundings.odd name → Identifier.check name = .ok ()

def evaluationAnswers (surroundings : HarnessSurroundings) :
    (op : EvaluationOp) → Except Raised op.Answer → Prop
  | .evaluationStarted _ _, outcome => Within (fun error => error.isException = true) outcome
  | .verdictRecorded _ _ _, outcome => Within surroundings.raises outcome
  | .policyEvaluate _ _ _, outcome => Within surroundings.raises outcome
  | .qualityCapabilities _ _, outcome => Within surroundings.raises outcome ∧
      (outcome = .ok .malformed → surroundings.malformed)
  | .qualityEvaluate _ _ _, outcome => Within surroundings.raises outcome

abbrev harnessAnswers (surroundings : HarnessSurroundings) :
    (op : GatewayOp evaluationInterface) → Except Raised op.Answer → Prop :=
  gatewayAnswers surroundings.raises (evaluationAnswers surroundings)

namespace EvaluationHarness

/-- The harness was put together in its surroundings. -/
structure Regular (harness : EvaluationHarness) (surroundings : HarnessSurroundings) : Prop where
  validators : ∀ entry ∈ harness.schemas.validators.entries, ∀ value,
    Within (fun error => error.isTypeOrValueError = true ∨ surroundings.raises error) (entry.2 value)
  named : ∀ name ∈ harness.policies, Identifier.check name = .ok () ∨ surroundings.odd name

/-- Nothing but the clock and the cancellation token has been read. -/
def Unstarted (trace : List (Event (gatewayInterface evaluationInterface) Raised)) : Prop :=
  ∀ event ∈ trace, event.1 = .now ∨ ∃ token, event.1 = .cancelled token

/-- How an evaluation is to end. -/
def Concludes (request : EvaluationRequest) (context : RuntimeCallContext) :
    Except Raised EvaluationResult →
      List (Event (gatewayInterface evaluationInterface) Raised) → Prop
  | .ok result, trace => ⟨.call (.verdictRecorded request result context), .ok ()⟩ ∈ trace
  | .error error, trace => error.isCore = true ∧ (Unstarted trace ∨ ∃ result failure,
      ⟨.call (.verdictRecorded request result context), .error failure⟩ ∈ trace)

end EvaluationHarness

/-- Every evaluation that ends does so as it is to. -/
def HarnessTotal [Sha256] (surroundings : HarnessSurroundings) : Prop :=
  ∀ harness : EvaluationHarness, harness.Regular surroundings →
    ∀ (request : EvaluationRequest) (context : RuntimeCallContext)
      (outcome : Except Raised EvaluationResult)
      (trace : List (Event (gatewayInterface evaluationInterface) Raised)),
      Steps (recording (harnessAnswers surroundings)) EvaluationResult
        (harness.evaluate request context, []) (.ofExcept outcome, trace) →
      EvaluationHarness.Concludes request context outcome trace

namespace EvaluationHarness

/-! ### The result of the stages -/

/-- The stages that an evaluation came to, in order, all but the last of them passed. -/
structure Stages.Valid (stages : Stages) : Prop where
  ordered : (stages.earlier ++ [stages.terminal]).map (·.stage) =
    evaluationStages.take (stages.earlier.length + 1)
  earlier : ∀ result ∈ stages.earlier, result.verdict = .passed
  complete : stages.terminal.verdict = .passed → stages.earlier.length = 2
  plain : stages.error = none → stages.terminal.verdict.isError = false
  failed : ∀ error, stages.error = some error → stages.terminal.verdict = errorVerdict error

theorem errorVerdict_isError (error : ErrorDetail) : (errorVerdict error).isError = true := by
  unfold errorVerdict
  split
  · rfl
  · rfl
  · rfl

theorem errorVerdict_timedOut {error : ErrorDetail} (late : errorVerdict error = .timedOut) :
    error.category = .timeout := by
  unfold errorVerdict at late
  split at late
  · assumption
  · cases late
  · cases late

theorem errorVerdict_cancelled {error : ErrorDetail} (late : errorVerdict error = .cancelled) :
    error.category = .cancelled := by
  unfold errorVerdict at late
  split at late
  · cases late
  · assumption
  · cases late

/-- The constructor of the result accepts the stages. -/
theorem check_stages {stages : Stages} (valid : stages.Valid) :
    checkEvaluationResult evaluationContractVersion stages.terminal.verdict
      (stages.earlier ++ [stages.terminal]) stages.terminal.stage
      (uniqueReferences ((stages.earlier ++ [stages.terminal]).flatMap (·.evidenceRefs)))
      stages.error = .ok () := by
  obtain ⟨earlier, terminal, error⟩ := stages
  obtain ⟨ordered, passed, complete, plain, failed⟩ := valid
  dsimp only at *
  have length : ((earlier ++ [terminal]).map (·.stage)).length = earlier.length + 1 := by simp
  have prefixed : ((earlier ++ [terminal]).map (·.stage) ==
      evaluationStages.take ((earlier ++ [terminal]).map (·.stage)).length) = true := by
    rw [length, ordered, beq_self_eq_true]
  have allPassed : ((earlier ++ [terminal]).dropLast.all (·.verdict == .passed)) = true := by
    rw [List.dropLast_concat, List.all_eq_true]
    intro result member
    rw [passed result member]
    rfl
  have full : (terminal.verdict != .passed ||
      ((earlier ++ [terminal]).map (·.stage)).length == 3) = true := by
    rw [length]
    cases verdict : terminal.verdict == .passed with
    | false => simp [bne, verdict]
    | true => simp [complete (eq_of_beq verdict)]
  have carried : (!terminal.verdict.isError || error.isSome) = true := by
    cases error with
    | none => simp [plain rfl]
    | some detail => simp
  have uncarried : (terminal.verdict.isError || error.isNone) = true := by
    cases error with
    | none => simp
    | some detail => simp [failed detail rfl, errorVerdict_isError]
  have late : (terminal.verdict != .timedOut || error.all (·.category == .timeout)) = true := by
    cases error with
    | none => simp
    | some detail =>
      rw [failed detail rfl]
      by_cases timedOut : errorVerdict detail = .timedOut
      · simp [errorVerdict_timedOut timedOut]
      · simp [timedOut]
  have stopped : (terminal.verdict != .cancelled || error.all (·.category == .cancelled)) = true := by
    cases error with
    | none => simp
    | some detail =>
      rw [failed detail rfl]
      by_cases cancelled : errorVerdict detail = .cancelled
      · simp [errorVerdict_cancelled cancelled]
      · simp [cancelled]
  unfold checkEvaluationResult
  rw [List.getLast?_concat]
  simp only [beq_self_eq_true, prefixed, allPassed, full, carried, uncarried, late, stopped,
    requireValue, if_true, Bool.and_self]
  rfl

theorem resultFromStages_ok (evaluationId : EvaluationId) {stages : Stages} (valid : stages.Valid) :
    ∃ result, resultFromStages evaluationId stages.earlier stages.terminal stages.error =
      .ok result := by
  have accepted := check_stages valid
  unfold resultFromStages EvaluationResult.make
  split
  · rename_i refused
    rw [accepted] at refused
    cases refused
  · exact ⟨_, rfl⟩

/-! ### What the stages raise -/

/-- A value with `post`, or an exception that a stage result can report. -/
def Reports {α : Type} (post : α → Prop) : Except Raised α → Prop
  | .ok value => post value
  | .error error => error.isReportable = true

theorem Reports.bind {α β : Type} {middle : α → Prop} {post : β → Prop} {first : Except Raised α}
    {rest : α → Except Raised β} (reports : Reports middle first)
    (continues : ∀ value, middle value → Reports post (rest value)) :
    Reports post (first >>= rest) := by
  cases first with
  | ok value => exact continues value reports
  | error error => exact reports

theorem reports_ensure {condition : Bool} {detail : ErrorDetail}
    (trimmed : isTrimmed detail.code = true) :
    Reports (fun _ => True) (ensure condition (.core detail)) := by
  cases condition with
  | true => trivial
  | false => exact trimmed

variable {surroundings : HarnessSurroundings}

/-- The program ends with a value that has `post`, or with what a stage can report. -/
abbrev Reporting {α : Type} (surroundings : HarnessSurroundings) (post : α → Prop)
    (program : EvaluationProgram α) : Prop :=
  program.Yields (harnessAnswers surroundings) (Reports post)

theorem Reporting.bind {α β : Type} {middle : α → Prop} {post : β → Prop}
    {program : EvaluationProgram α} {rest : α → EvaluationProgram β}
    (first : Reporting surroundings middle program)
    (continues : ∀ value, middle value → Reporting surroundings post (rest value)) :
    Reporting surroundings post (program >>= rest) :=
  Yields.bind first continues fun _ reported => reported

theorem reporting_ofExcept {α : Type} {post : α → Prop} {outcome : Except Raised α}
    (reports : Reports post outcome) : Reporting surroundings post (ofExcept outcome) :=
  yields_ofExcept reports

theorem reports_access [Sha256] {request : EvaluationRequest} {context : RuntimeCallContext}
    {action : ActionRef} {resourceKind resourceId : String} {named : isName resourceKind = true}
    (identified : Identifier.check resourceId = .ok ()) :
    Reports (fun _ => True)
      (evaluationAccess request context action resourceKind resourceId named) := by
  have made : Identifier.make .resource resourceId = .ok ⟨resourceId, identified⟩ :=
    Identifier.make_self ⟨resourceId, identified⟩
  unfold evaluationAccess
  rw [made]
  trivial

theorem reports_grant (call : AuthorizedCall) :
    Reports (fun _ => True) (validateEvaluationGrant call) :=
  reports_ensure (by decide)

/-- What a stage of the pipeline makes of its provider's answer. -/
def Judged (stage : EvaluationStage) (result : EvaluationStageResult) : Prop :=
  result.stage = stage ∧ result.verdict.isError = false

theorem reports_stageResult {returned : Returned EvaluationStageResult} {stage : EvaluationStage}
    {verdicts : List EvaluationVerdict} (plain : verdicts.all (!·.isError) = true) :
    Reports (Judged stage) (validateStageResult returned stage verdicts) := by
  cases returned with
  | malformed => exact (by decide : isTrimmed "malformed_evaluation_stage_result" = true)
  | typed result =>
    unfold validateStageResult
    dsimp only
    split
    · rename_i judged
      have plainly := List.all_eq_true.mp plain _ judged.2
      exact ⟨judged.1, by simpa using plainly⟩
    · exact (by decide : isTrimmed "invalid_evaluation_stage_result" = true)

theorem reports_evidence (result : EvaluationStageResult) (request : EvaluationRequest)
    (evidenceKinds : List String) :
    Reports (fun _ => True) (validateEvidence result request evidenceKinds) := by
  unfold validateEvidence
  induction result.evidenceRefs with
  | nil => trivial
  | cons reference references ih =>
    have inScope : ∀ condition : Bool, Reports (fun _ => True) (ensure condition
        (evaluationProtocolFailure "evaluation_evidence_scope_mismatch")) :=
      fun _ => reports_ensure (by decide)
    have kind : ∀ condition : Bool, Reports (fun _ => True) (ensure condition
        (evaluationProtocolFailure "evaluation_evidence_kind_unsupported")) :=
      fun _ => reports_ensure (by decide)
    exact ((inScope _).bind fun _ _ => kind _).bind fun _ _ => ih

theorem reports_capabilities {request : EvaluationRequest}
    {returned : Returned QualityEvaluatorCapabilities} (intact : returned ≠ .malformed) :
    Reports (fun _ => True) (validateCapabilities request returned) := by
  cases returned with
  | malformed => exact absurd rfl intact
  | typed capabilities =>
    exact (reports_ensure (by decide)).bind fun _ _ => (reports_ensure (by decide)).bind fun _ _ =>
      (reports_ensure (by decide)).bind fun _ _ => (reports_ensure (by decide)).bind fun _ _ =>
        (reports_ensure (by decide)).bind fun _ _ => trivial

theorem reports_narrow (context : RuntimeCallContext) (scope : ScopeRef) (key : IdempotencyKey) :
    Reports (fun _ => True) (context.narrow (some scope) none (some key)) := by
  have narrower : Reports (fun _ => True) (scope.requireNarrowerThan context.scope) := by
    unfold ScopeRef.requireNarrowerThan
    split
    · trivial
    · exact (by decide : isTrimmed "scope_broadening_denied" = true)
  unfold RuntimeCallContext.narrow
  apply narrower.bind
  intro _ _
  cases own : context.deadline with
  | none => trivial
  | some deadline =>
    have kept : (none <|> some deadline : Option Deadline) = some deadline := rfl
    rw [kept]
    dsimp only
    split
    · exact (by decide : isTrimmed "deadline_broadening_denied" = true)
    · trivial

theorem reports_stageContext [Sha256] {context : RuntimeCallContext} {request : EvaluationRequest}
    {stage : EvaluationStage} (keyed : context.idempotencyKey.isSome = true) :
    Reports (fun _ => True) (stageContext context request stage) := by
  obtain ⟨parent, given⟩ := Option.isSome_iff_exists.mp keyed
  unfold stageContext
  rw [given]
  dsimp only
  generalize ":".intercalate _ = material
  let key : IdempotencyKey := ⟨(Sha256.text material).value, digest_checked _⟩
  have made : Identifier.make .idempotency (Sha256.text material).value = .ok key :=
    Identifier.make_self key
  rw [made]
  exact reports_narrow context request.scope key

section Reportable

variable [Sha256] {harness : EvaluationHarness} {request : EvaluationRequest}
  {context : RuntimeCallContext} (reportable : surroundings.Reportable)

include reportable

omit [Sha256] in
theorem reportable_dispatch {α : Type} {post : α → Prop} :
    GatewayDispatch.Bears surroundings.raises (Reports post) := by
  intro error raised
  rcases raised with raised | ⟨detail, rfl, listed⟩
  · exact reportable.raises error raised
  · have trimmed : ∀ code ∈ dispatchCodes, isTrimmed code = true := by decide
    exact trimmed detail.code listed

omit [Sha256] in
theorem reporting_checkActive (context : RuntimeCallContext) :
    Reporting surroundings (fun _ => True) context.checkActive := by
  have bears : GatewayDispatch.Bears surroundings.raises (Reports fun _ : Unit => True) :=
    reportable_dispatch reportable
  apply (GatewayDispatch.dispatches_checkActive context).mono
  intro outcome within
  cases outcome with
  | ok _ => trivial
  | error error => exact bears error (within error rfl)

omit [Sha256] in
theorem reporting_op {op : EvaluationOp} {post : op.Answer → Prop}
    (within : ∀ outcome, evaluationAnswers surroundings op outcome →
      Within surroundings.raises outcome)
    (answers : ∀ answer, evaluationAnswers surroundings op (.ok answer) → post answer) :
    Reporting surroundings post (evaluationOp op) := by
  apply yields_perform
  intro outcome answered
  cases outcome with
  | ok answer => exact answers answer answered
  | error error => exact reportable.raises error (within _ answered error rfl)

theorem reporting_evaluatePolicy (regular : harness.Regular surroundings) :
    Reporting surroundings (Judged .policy) (harness.evaluatePolicy request context) := by
  have registered : Reports (fun _ => harness.policies.contains request.policyRef = true)
      (ensure (harness.policies.contains request.policyRef)
        (coreError .unavailable "evaluation_policy_not_registered"
          "Evaluation policy is not registered")) := by
    cases harness.policies.contains request.policyRef with
    | true => rfl
    | false => exact (by decide : isTrimmed "evaluation_policy_not_registered" = true)
  apply (reporting_ofExcept registered).bind
  intro _ found
  have identified : Identifier.check request.policyRef = .ok () := by
    rcases regular.named request.policyRef (List.contains_iff_mem.mp found) with plain | odd
    · exact plain
    · exact reportable.named request.policyRef request.valid.2.1 odd
  apply (reporting_ofExcept (reports_access identified)).bind
  intro access _
  apply GatewayDispatch.yields_dispatch (reportable_dispatch reportable)
  intro call _
  apply (reporting_ofExcept (reports_grant call)).bind
  intro _ _
  have asked : Reporting surroundings (fun _ => True)
      (evaluationOp (.policyEvaluate request.policyRef request call.context)) :=
    reporting_op reportable (fun _ answered => answered) fun _ _ => trivial
  have awaited : Reporting surroundings (fun _ => True) (call.context.awaitProvider
      (evaluationOp (.policyEvaluate request.policyRef request call.context))) :=
    GatewayDispatch.yields_awaitProvider (reportable_dispatch reportable) asked
  apply awaited.bind
  intro returned _
  apply (reporting_ofExcept (reports_stageResult (by decide))).bind
  intro result judged
  apply (reporting_ofExcept (reports_evidence result request [])).bind
  intro _ _
  exact judged

omit [Sha256] reportable in
theorem reports_checkEvaluator : Reports (fun _ => True) (harness.checkEvaluator request) :=
  reports_ensure (by decide)

theorem reporting_capabilities :
    Reporting surroundings (fun _ => True) (harness.capabilities request context) := by
  apply (reporting_ofExcept reports_checkEvaluator).bind
  intro _ _
  apply (reporting_ofExcept (reports_access request.qualityEvaluatorId.checked)).bind
  intro access _
  apply GatewayDispatch.yields_dispatch (reportable_dispatch reportable)
  intro call _
  apply (reporting_ofExcept (reports_grant call)).bind
  intro _ _
  have asked : Reporting surroundings (fun returned => returned ≠ .malformed)
      (evaluationOp (.qualityCapabilities request.qualityEvaluatorId call.context)) := by
    have within : ∀ outcome, evaluationAnswers surroundings
        (.qualityCapabilities request.qualityEvaluatorId call.context) outcome →
        Within surroundings.raises outcome := fun _ answered => answered.1
    apply reporting_op reportable within
    intro returned answered malformed
    exact reportable.intact (answered.2 (congrArg Except.ok malformed))
  have awaited : Reporting surroundings (fun returned => returned ≠ .malformed)
      (call.context.awaitProvider
        (evaluationOp (.qualityCapabilities request.qualityEvaluatorId call.context))) :=
    GatewayDispatch.yields_awaitProvider (reportable_dispatch reportable) asked
  apply awaited.bind
  intro returned intact
  exact reporting_ofExcept (reports_capabilities intact)

theorem reporting_evaluateQuality :
    Reporting surroundings (Judged .quality) (harness.evaluateQuality request context) := by
  apply (reporting_ofExcept reports_checkEvaluator).bind
  intro _ _
  apply (reporting_capabilities reportable).bind
  intro capabilities _
  apply (reporting_ofExcept (reports_access request.qualityEvaluatorId.checked)).bind
  intro access _
  apply GatewayDispatch.yields_dispatch (reportable_dispatch reportable)
  intro call _
  apply (reporting_ofExcept (reports_grant call)).bind
  intro _ _
  have asked : Reporting surroundings (fun _ => True)
      (evaluationOp (.qualityEvaluate request.qualityEvaluatorId request call.context)) :=
    reporting_op reportable (fun _ answered => answered) fun _ _ => trivial
  have awaited : Reporting surroundings (fun _ => True) (call.context.awaitProvider
      (evaluationOp (.qualityEvaluate request.qualityEvaluatorId request call.context))) :=
    GatewayDispatch.yields_awaitProvider (reportable_dispatch reportable) asked
  apply awaited.bind
  intro returned _
  apply (reporting_ofExcept (reports_stageResult (by decide))).bind
  intro result judged
  apply (reporting_ofExcept (reports_evidence result request capabilities.evidenceKinds)).bind
  intro _ _
  exact judged

/-! ### The pipeline -/

omit [Sha256] in
theorem reports_evaluateSchema (regular : harness.Regular surroundings) :
    Reports (Judged .schema) (harness.evaluateSchema request) := by
  have found : Reports (fun _ => True) (ensure (harness.schemas.contains request.inputSchema)
      (coreError .versionMismatch "schema_not_registered"
        "Evaluation input schema is not registered")) := reports_ensure (by decide)
  have validated : Within (fun error => error.isReportable = true)
      (harness.schemas.validate request.inputSchema request.value) := by
    intro error raised
    unfold SchemaRegistry.validate at raised
    split at raised
    · cases raised
      decide
    · rename_i validator registered
      have member := Dict.mem_of_get? registered
      split at raised
      · cases raised
      · rename_i failure failed
        split at raised
        · cases raised
          exact (by decide : isTrimmed "schema_validation_failed" = true)
        · cases raised
          have allowed := regular.validators _ member request.value _ failed
          rename_i other
          rcases allowed with converted | allowed
          · exact absurd converted other
          · exact reportable.raises _ allowed
  unfold evaluateSchema
  apply found.bind
  intro _ _
  split
  · exact ⟨rfl, rfl⟩
  · rename_i detail raised
    split
    · exact validated _ raised
    · exact ⟨rfl, rfl⟩
  · rename_i error raised
    exact validated _ raised

/-- The stages never raise, and their result can be made. -/
def Finished : Except Raised Stages → Prop
  | .ok stages => stages.Valid
  | .error _ => False

omit [Sha256] reportable in
theorem finished_attempt {stage : EvaluationStage} {earlier : List EvaluationStageResult}
    {program : EvaluationProgram EvaluationStageResult}
    {next : EvaluationStageResult → EvaluationProgram Stages}
    (ordered : earlier.map (·.stage) ++ [stage] = evaluationStages.take (earlier.length + 1))
    (passed : ∀ result ∈ earlier, result.verdict = .passed)
    (attempts : Reporting surroundings (Judged stage) program)
    (continues : ∀ result, Judged stage result → result.verdict = .passed →
      (next result).Yields (harnessAnswers surroundings) Finished) :
    (attempt stage earlier program next).Yields (harnessAnswers surroundings) Finished := by
  apply Yields.andThen attempts
  intro outcome reported
  cases outcome with
  | ok result =>
    apply yields_ite
    · intro successful
      exact continues result reported successful
    · intro unsuccessful
      have listed : (earlier ++ [result]).map (·.stage) =
          evaluationStages.take (earlier.length + 1) := by
        rw [List.map_append, List.map_singleton, reported.1, ordered]
      exact ⟨listed, passed, fun successful => absurd successful unsuccessful,
        fun _ => reported.2, fun _ impossible => nomatch impossible⟩
  | error error =>
    cases error with
    | core detail =>
      have trimmed : isTrimmed (safeError detail).code = true := reported
      have allows : stage.allowed (errorVerdict (safeError detail)) = true := by
        have isError := errorVerdict_isError (safeError detail)
        cases verdict : errorVerdict (safeError detail) with
        | error | timedOut | cancelled => cases stage <;> rfl
        | passed | schemaFailed | policyDenied | policyIndeterminate | qualityFailed =>
          rw [verdict] at isError
          cases isError
      obtain ⟨terminal, made, ofStage, verdict⟩ : ∃ terminal, EvaluationStageResult.make stage
          (errorVerdict (safeError detail)) (safeError detail).code = .ok terminal ∧
          terminal.stage = stage ∧ terminal.verdict = errorVerdict (safeError detail) := by
        unfold EvaluationStageResult.make
        rw [dif_pos allows, dif_pos trimmed]
        exact ⟨_, rfl, rfl, rfl⟩
      have listed : (earlier ++ [terminal]).map (·.stage) =
          evaluationStages.take (earlier.length + 1) := by
        rw [List.map_append, List.map_singleton, ofStage, ordered]
      have isError : terminal.verdict.isError = true := verdict ▸ errorVerdict_isError _
      dsimp only
      rw [made]
      refine ⟨listed, passed, fun successful => ?_, fun impossible => ?_, fun error given => ?_⟩
      · rw [successful] at isError
        cases isError
      · cases impossible
      · cases given
        exact verdict
    | value | assertion | key | other | cancelledError => cases reported

/-- Whatever the providers do, the stages end with a result that can be made. -/
theorem finished_stages (regular : harness.Regular surroundings)
    (keyed : context.idempotencyKey.isSome = true) :
    (harness.stages request context).Yields (harnessAnswers surroundings) Finished := by
  apply finished_attempt rfl (by simp) (reporting_ofExcept
    (reports_evaluateSchema reportable regular))
  intro schemaResult schema schemaPassed
  have policy : Reporting surroundings (Judged .policy) (do
      let policyContext ← ofExcept (stageContext context request .policy)
      let policyResult ← harness.evaluatePolicy request policyContext
      policyContext.checkActive
      pure policyResult) := by
    apply (reporting_ofExcept (reports_stageContext keyed)).bind
    intro policyContext _
    apply (reporting_evaluatePolicy reportable regular).bind
    intro policyResult judged
    apply (reporting_checkActive reportable policyContext).bind
    intro _ _
    exact judged
  apply finished_attempt _ (by simpa using schemaPassed) policy
  · intro policyResult judged policyPassed
    have quality : Reporting surroundings (Judged .quality) (do
        let qualityContext ← ofExcept (stageContext context request .quality)
        let qualityResult ← harness.evaluateQuality request qualityContext
        qualityContext.checkActive
        pure qualityResult) := by
      apply (reporting_ofExcept (reports_stageContext keyed)).bind
      intro qualityContext _
      apply (reporting_evaluateQuality reportable).bind
      intro qualityResult judged
      apply (reporting_checkActive reportable qualityContext).bind
      intro _ _
      exact judged
    have passed : ∀ result ∈ [schemaResult, policyResult], result.verdict = .passed := by
      simp [schemaPassed, policyPassed]
    have ordered : [schemaResult, policyResult].map (·.stage) = [.schema, .policy] := by
      simp [schema.1, judged.1]
    apply finished_attempt _ passed quality
    · intro qualityResult qualityJudged qualityPassed
      refine ⟨?_, passed, fun _ => rfl, fun _ => qualityJudged.2, fun _ impossible => ?_⟩
      · rw [List.map_append, ordered, List.map_singleton, qualityJudged.1]
        rfl
      · cases impossible
    · rw [ordered]
      rfl
  · rw [List.map_singleton, schema.1]
    rfl

/-! ### The end of an evaluation -/

omit [Sha256] reportable in
theorem core_of_reportable {error : Raised} (reported : error.isReportable = true) :
    error.isCore = true := by
  cases error with
  | core detail => rfl
  | value | assertion | key | other | cancelledError => cases reported

omit [Sha256] in
theorem reporting_preconditions : Reporting surroundings
    (fun _ => context.idempotencyKey.isSome = true) (checkPreconditions request context) := by
  have keyed : Reports (fun _ => context.idempotencyKey.isSome = true)
      (ensure context.idempotencyKey.isSome
        (coreError .invalidRequest "evaluation_idempotency_required"
          "Evaluation requires a parent idempotency key")) := by
    cases context.idempotencyKey.isSome with
    | true => rfl
    | false => exact (by decide : isTrimmed "evaluation_idempotency_required" = true)
  have narrower : Reports (fun _ => True) (request.scope.requireNarrowerThan context.scope) := by
    unfold ScopeRef.requireNarrowerThan
    split
    · trivial
    · exact (by decide : isTrimmed "scope_broadening_denied" = true)
  apply (reporting_ofExcept keyed).bind
  intro _ held
  apply (reporting_ofExcept narrower).bind
  intro _ _
  apply (reporting_checkActive reportable context).mono
  intro outcome reported
  cases outcome with
  | ok _ => exact held
  | error error => exact reported

omit [Sha256] reportable in
/-- The preconditions only read. -/
theorem unstarted_preconditions {outcome : Except Raised Unit}
    {trace : List (Event (gatewayInterface evaluationInterface) Raised)}
    (steps : Steps (recording (harnessAnswers surroundings)) Unit
      (checkPreconditions request context, []) (.ofExcept outcome, trace)) : Unstarted trace := by
  let reads : GatewayOp evaluationInterface → Prop := fun op =>
    op = .now ∨ ∃ token, op = .cancelled token
  have active : (context.checkActive : EvaluationProgram Unit).Only reads :=
    RuntimeCallContext.only_checkActive (fun token => only_perform.mpr (.inr ⟨token, rfl⟩))
      (only_perform.mpr (.inl rfl)) context
  have only : (checkPreconditions request context).Only reads :=
    only_ofExcept.bind fun _ => only_ofExcept.bind fun _ => active
  obtain ⟨added, grown, among⟩ := only.recorded steps
  rw [grown]
  exact among

omit [Sha256] reportable in
theorem yields_started : (suppressException
    (evaluationOp (.evaluationStarted request context))).Yields (harnessAnswers surroundings)
      (fun outcome => outcome = .ok ()) := by
  have started : (evaluationOp (.evaluationStarted request context)).Yields
      (harnessAnswers surroundings)
      (Within fun error : Raised => error.isException = true) :=
    yields_perform fun _ answered => answered
  apply Yields.catching started
  · intro _ _
    rfl
  · intro error within
    rw [if_pos (within error rfl)]
    rfl

omit [Sha256] in
/-- The audit returns, or what is raised is a `CoreError` after it has failed. -/
theorem audit_ended {result : EvaluationResult} {outcome : Except Raised Unit}
    {before after : List (Event (gatewayInterface evaluationInterface) Raised)}
    (steps : Steps (recording (harnessAnswers surroundings)) Unit
      (auditOrHandle (evaluationOp (.verdictRecorded request result context))
        (fun runId detail => gatewayOp (.handleAuditFailure runId detail)) context.runId, before)
      (.ofExcept outcome, after)) :
    (outcome = .ok () ∧ ⟨.call (.verdictRecorded request result context), .ok ()⟩ ∈ after) ∨
      ∃ error failure, outcome = .error error ∧ error.isCore = true ∧
        ⟨.call (.verdictRecorded request result context), .error failure⟩ ∈ after := by
  obtain ⟨middle, between, audited, rest⟩ := Steps.andThen_ended steps
  obtain ⟨permitted, grown⟩ := GatewayDispatch.op_ended (P := evaluationInterface)
    (.call (.verdictRecorded request result context)) audited
  have recorded : ⟨.call (.verdictRecorded request result context), middle⟩ ∈ after := by
    apply (Steps.grows rest).subset
    rw [grown]
    exact List.mem_append_right _ (.head _)
  cases middle with
  | ok done =>
    have returned : (.ok () : Except Raised Unit) = outcome := (Steps.ended_ofExcept rest).1
    exact .inl ⟨returned.symm, recorded⟩
  | error failure =>
    right
    have core := core_of_reportable (reportable.raises failure (permitted failure rfl))
    cases failure with
    | value | assertion | key | other | cancelledError => cases core
    | core detail =>
      rcases Steps.bind_ended rest with ⟨done, state, handled, raised⟩ | ⟨error, ended, raised⟩
      · have failed : (.error (.core detail) : Except Raised Unit) = outcome :=
          (Steps.ended_ofExcept raised).1
        exact ⟨_, _, failed.symm, rfl, recorded⟩
      · have unhandled : Steps (recording (harnessAnswers surroundings)) Unit
            (gatewayOp (.handleAuditFailure context.runId detail), between)
            (.ofExcept (.error error), after) := raised
        have within := (GatewayDispatch.op_ended (P := evaluationInterface)
          (.handleAuditFailure context.runId detail) unhandled).1
        exact ⟨error, _, ended, core_of_reportable (reportable.raises error (within error rfl)),
          recorded⟩

omit [Sha256] in
theorem concludes_finish {stages : Stages} (valid : stages.Valid)
    {outcome : Except Raised EvaluationResult}
    {before after : List (Event (gatewayInterface evaluationInterface) Raised)}
    (steps : Steps (recording (harnessAnswers surroundings)) EvaluationResult
      (finish request context stages, before) (.ofExcept outcome, after)) :
    Concludes request context outcome after := by
  obtain ⟨result, made⟩ := resultFromStages_ok request.evaluationId valid
  have closing : finish request context stages = (do
      auditOrHandle (evaluationOp (.verdictRecorded request result context))
        (fun runId detail => gatewayOp (.handleAuditFailure runId detail)) context.runId
      pure result) := by
    unfold finish
    rw [made]
    rfl
  rw [closing] at steps
  rcases Steps.bind_ended steps with ⟨done, between, audited, rest⟩ | ⟨error, ended, raised⟩
  · have returned : (.ok result : Except Raised EvaluationResult) = outcome ∧ after = between :=
      Steps.ended_ofExcept rest
    have closed : Steps (recording (harnessAnswers surroundings)) Unit
        (auditOrHandle (evaluationOp (.verdictRecorded request result context))
          (fun runId detail => gatewayOp (.handleAuditFailure runId detail)) context.runId, before)
        (.ofExcept (.ok done), between) := audited
    rcases audit_ended reportable closed with ⟨-, recorded⟩ | ⟨_, _, impossible, -⟩
    · rw [← returned.1, returned.2]
      exact recorded
    · cases impossible
  · have failed : Steps (recording (harnessAnswers surroundings)) Unit
        (auditOrHandle (evaluationOp (.verdictRecorded request result context))
          (fun runId detail => gatewayOp (.handleAuditFailure runId detail)) context.runId, before)
        (.ofExcept (.error error), after) := raised
    rcases audit_ended reportable failed with ⟨impossible, -⟩ | ⟨_, failure, same, core, recorded⟩
    · cases impossible
    · cases same
      rw [ended]
      exact ⟨core, .inr ⟨result, failure, recorded⟩⟩

theorem concludes_evaluate (regular : harness.Regular surroundings)
    {outcome : Except Raised EvaluationResult}
    {trace : List (Event (gatewayInterface evaluationInterface) Raised)}
    (steps : Steps (recording (harnessAnswers surroundings)) EvaluationResult
      (harness.evaluate request context, []) (.ofExcept outcome, trace)) :
    Concludes request context outcome trace := by
  rcases Steps.bind_ended steps with ⟨_, entered, passed, rest⟩ | ⟨error, ended, refused⟩
  · have keyed := (reporting_preconditions reportable).returned passed
    rcases Steps.bind_ended rest with ⟨_, begun, _, rest⟩ | ⟨error, _, unsuppressed⟩
    · rcases Steps.bind_ended rest with ⟨stages, judged, staged, rest⟩ | ⟨error, _, raised⟩
      · have valid := (finished_stages reportable regular keyed).returned staged
        exact concludes_finish reportable valid rest
      · exact ((finished_stages reportable regular keyed).raised raised).elim
    · have returned := yields_started.raised unsuppressed
      cases returned
  · have reported := (reporting_preconditions reportable).raised refused
    have refused : Steps (recording (harnessAnswers surroundings)) Unit
      (checkPreconditions request context, []) (.ofExcept (.error error), trace) := refused
    have unstarted := unstarted_preconditions refused
    rw [ended]
    exact ⟨core_of_reportable reported, .inl unstarted⟩

end Reportable

/-! ### Evaluations that escape -/

section Escapes

/-- The run ends with an exception that is no `CoreError`. -/
abbrev Escapes {α : Type} (outcome : Except Raised α) : Prop :=
  ∃ error, outcome = .error error ∧ error.isCore = false

def textSchema : SchemaRef := ⟨"app", "text", "1", by decide⟩

/-- A harness with one policy and one quality evaluator. -/
def harnessFor (policyRef : String) : EvaluationHarness where
  schemas := ⟨⟨[(textSchema, fun _ => .ok ())], by simp⟩⟩
  policies := [policyRef]
  policyAuthorization := ⟨evaluationActions, true⟩
  evaluators := [⟨"quality-1", by decide⟩]
  capabilitiesAuthorization := ⟨evaluationActions, true⟩
  qualityAuthorization := ⟨evaluationActions, true⟩

def requestFor (policyRef : String) (trimmed : isTrimmed policyRef = true) : EvaluationRequest where
  contractVersion := "1"
  evaluationId := ⟨"evaluation-1", by decide⟩
  value := .str "draft"
  inputSchema := textSchema
  policyRef := policyRef
  qualityEvaluatorId := ⟨"quality-1", by decide⟩
  qualityProfileRef := "profile:1"
  scope := SampleParameters.sampleScope
  constraints := .empty
  valid := ⟨rfl, trimmed, by decide, rfl⟩

def keyedContext : RuntimeCallContext :=
  { SampleParameters.sampleContext with idempotencyKey := some ⟨"evaluation-key", by decide⟩ }

def passedStage (stage : EvaluationStage) (reasonCode : String)
    (trimmed : isTrimmed reasonCode = true) : EvaluationStageResult :=
  ⟨stage, .passed, reasonCode, .empty, [], by cases stage <;> rfl, trimmed, rfl, .nil⟩

theorem regular_harnessFor {policyRef : String}
    (named : Identifier.check policyRef = .ok () ∨ surroundings.odd policyRef) :
    (harnessFor policyRef).Regular surroundings := by
  constructor
  · intro entry member value
    rw [List.mem_singleton.mp member]
    exact GatewayDispatch.within_ok
  · intro name member
    rw [List.mem_singleton.mp member]
    exact named

theorem can_attempt {stage : EvaluationStage} {earlier : List EvaluationStageResult}
    {program : EvaluationProgram EvaluationStageResult} {result : EvaluationStageResult}
    {next : EvaluationStageResult → EvaluationProgram Stages} {post : Except Raised Stages → Prop}
    (passed : result.verdict = .passed)
    (attempts : program.Can (harnessAnswers surroundings) (· = .ok result))
    (continues : (next result).Can (harnessAnswers surroundings) post) :
    (attempt stage earlier program next).Can (harnessAnswers surroundings) post := by
  apply attempts.andThen
  intro outcome ended
  subst ended
  dsimp only
  rw [if_pos passed]
  exact continues

/-- What a stage can not report leaves the pipeline as an exception that is no `CoreError`. -/
theorem can_attempt_escapes {stage : EvaluationStage} {earlier : List EvaluationStageResult}
    {program : EvaluationProgram EvaluationStageResult} {error : Raised}
    {next : EvaluationStageResult → EvaluationProgram Stages}
    (unreported : error.isReportable = false)
    (attempts : program.Can (harnessAnswers surroundings) (· = .error error)) :
    (attempt stage earlier program next).Can (harnessAnswers surroundings) Escapes := by
  apply attempts.andThen
  intro outcome ended
  subst ended
  cases error with
  | core detail =>
    have untrimmed : ¬isTrimmed (safeError detail).code = true := by
      intro trimmed
      have reported : isTrimmed detail.code = true := trimmed
      have hidden : isTrimmed detail.code = false := unreported
      rw [reported] at hidden
      cases hidden
    dsimp only
    unfold EvaluationStageResult.make
    split
    · exact ⟨_, rfl, rfl⟩
    · exact ⟨_, rfl, rfl⟩
  | value | assertion | key | other | cancelledError => exact ⟨_, rfl, rfl⟩

theorem can_evaluationOp (op : EvaluationOp) {outcome : Except Raised op.Answer}
    (permitted : evaluationAnswers surroundings op outcome) :
    (evaluationOp op).Can (harnessAnswers surroundings) (· = outcome) := by
  have answered : gatewayAnswers (P := evaluationInterface) surroundings.raises
      (evaluationAnswers surroundings) (.call op) outcome := permitted
  exact GatewayDispatch.can_op (P := evaluationInterface) (.call op) answered

variable [Sha256]

theorem stageContext_keyed (request : EvaluationRequest) (stage : EvaluationStage)
    (within : request.scope = SampleParameters.sampleScope) :
    ∃ context, stageContext keyedContext request stage = .ok context ∧ context.deadline = none ∧
      context.scope = request.scope := by
  unfold stageContext
  dsimp only [keyedContext]
  generalize ":".intercalate _ = material
  let key : IdempotencyKey := ⟨(Sha256.text material).value, digest_checked _⟩
  have made : Identifier.make .idempotency (Sha256.text material).value = .ok key :=
    Identifier.make_self key
  have narrowed : keyedContext.narrow (some request.scope) none (some key) =
      .ok { keyedContext with scope := request.scope, idempotencyKey := some key } := by
    rw [within]
    rfl
  rw [made]
  exact ⟨_, narrowed, rfl, rfl⟩

omit [Sha256] in
/-- A grant that repeats the constraints of its request is accepted. -/
theorem validateEvaluationGrant_same {call : AuthorizedCall}
    (nodup : (call.request.constraints.map Prod.fst).Nodup)
    (texts : ∀ item ∈ call.request.constraints, ∃ text, item.2 = .str text)
    (granted : call.grant.constraints = call.request.constraints) :
    validateEvaluationGrant call = .ok () := by
  unfold validateEvaluationGrant
  apply ensure_eq_ok.mpr
  rw [granted, List.all_eq_true]
  intro item member
  let constraints : Dict String JsonValue := ⟨call.request.constraints, nodup⟩
  have found : constraints.get? item.1 = some item.2 := Dict.get?_of_mem member
  have looked : Dict.lookup item.1 call.request.constraints = some item.2 := found
  obtain ⟨text, same⟩ := texts item member
  rw [looked, same]
  exact JsonValue.equals_str_self text

/-- The grant that repeats the constraints of the request is accepted. -/
theorem evaluationAccess_granted (request : EvaluationRequest) (context : RuntimeCallContext)
    (action : ActionRef) {resourceKind resourceId : String} (named : isName resourceKind = true)
    (identified : Identifier.check resourceId = .ok ()) :
    ∃ access, evaluationAccess request context action resourceKind resourceId named = .ok access ∧
      access.action = action ∧ access.context = context ∧ access.scope = request.scope ∧
      ∀ call : AuthorizedCall, call.request = access →
        call.grant.constraints = access.constraints → validateEvaluationGrant call = .ok () := by
  have made : Identifier.make .resource resourceId = .ok ⟨resourceId, identified⟩ :=
    Identifier.make_self ⟨resourceId, identified⟩
  unfold evaluationAccess
  rw [made]
  refine ⟨_, rfl, rfl, rfl, rfl, ?_⟩
  intro call requested granted
  rw [← requested] at granted
  have listed := congrArg AccessRequest.constraints requested
  apply validateEvaluationGrant_same _ _ granted
  · rw [listed]
    simp
  · rw [listed]
    simp

/-- Under a policy that grants what is asked, an evaluation provider is called. -/
theorem can_call {α : Type} {request : EvaluationRequest} {context : RuntimeCallContext}
    {action : ActionRef} {resourceKind resourceId : String} {named : isName resourceKind = true}
    {authorization : GatewayAuthorization} {operation : AuthorizedCall → EvaluationProgram α}
    {post : Except Raised α → Prop} (identified : Identifier.check resourceId = .ok ())
    (governed : authorization.governed = true) (known : action ∈ authorization.actions)
    (endless : context.deadline = none) (within : context.scope = request.scope)
    (operates : ∀ call, call.context = context →
      (operation call).Can (harnessAnswers surroundings) post) :
    (do
      let access ← ofExcept (evaluationAccess request context action resourceKind resourceId named)
      authorization.dispatcher.dispatch access fun call => do
        ofExcept (validateEvaluationGrant call)
        operation call : EvaluationProgram α).Can (harnessAnswers surroundings) post := by
  have accessed := evaluationAccess_granted request context action named identified
  generalize evaluationAccess request context action resourceKind resourceId named = outcome at *
  obtain ⟨access, rfl, asked, inContext, scope, granted⟩ := accessed
  have registered : access.action ∈ authorization.actions := by
    rw [asked]
    exact known
  have unbounded : access.context.deadline = none := by
    rw [inContext]
    exact endless
  have inScope : access.scope = access.context.scope := by rw [scope, inContext, within]
  apply can_passed rfl
  apply GatewayDispatch.can_dispatch GatewayDispatch.uncancelled_answers
    (GatewayDispatch.grants_answers _ access.constraints) governed registered unbounded inScope
  intro call held constraints same
  rw [granted call held.requested constraints]
  exact operates call (same.trans inContext)

/-- Everything that the request names is registered, and authorized. -/
structure Furnished (harness : EvaluationHarness) (request : EvaluationRequest) : Prop where
  policy : harness.policies.contains request.policyRef = true
  policyGoverned : harness.policyAuthorization.governed = true
  policyKnown : evaluationPolicyEvaluateAction ∈ harness.policyAuthorization.actions
  evaluator : harness.evaluators.contains request.qualityEvaluatorId = true
  capabilitiesGoverned : harness.capabilitiesAuthorization.governed = true
  capabilitiesKnown : qualityCapabilitiesAction ∈ harness.capabilitiesAuthorization.actions

variable {harness : EvaluationHarness} {request : EvaluationRequest} {context : RuntimeCallContext}

theorem can_policy_raises {error : Raised} (raised : surroundings.raises error)
    (furnished : harness.Furnished request) (identified : Identifier.check request.policyRef = .ok ())
    (endless : context.deadline = none) (within : context.scope = request.scope) :
    (harness.evaluatePolicy request context).Can (harnessAnswers surroundings)
      (· = .error error) := by
  apply can_passed (ensure_ok furnished.policy)
  apply can_call identified furnished.policyGoverned furnished.policyKnown endless within
  intro call inContext
  have called := can_evaluationOp (.policyEvaluate request.policyRef request call.context)
    (GatewayDispatch.within_error raised)
  exact (GatewayDispatch.can_awaitProvider_raises GatewayDispatch.uncancelled_answers
    (inContext ▸ endless) called).raises rfl

theorem can_policy_passes (furnished : harness.Furnished request)
    (identified : Identifier.check request.policyRef = .ok ()) (endless : context.deadline = none)
    (within : context.scope = request.scope) :
    (harness.evaluatePolicy request context).Can (harnessAnswers surroundings)
      (· = .ok (passedStage .policy "content_allowed" (by decide))) := by
  apply can_passed (ensure_ok furnished.policy)
  apply can_call identified furnished.policyGoverned furnished.policyKnown endless within
  intro call inContext
  have permitted : evaluationAnswers surroundings
      (.policyEvaluate request.policyRef request call.context)
      (.ok (.typed (passedStage .policy "content_allowed" (by decide)))) :=
    GatewayDispatch.within_ok
  have called := can_evaluationOp _ permitted
  apply (GatewayDispatch.can_awaitProvider GatewayDispatch.uncancelled_answers
      (inContext ▸ endless) called).bind
  rfl

/-- A policy whose name identifies no resource ends its stage with a `ValueError`. -/
theorem can_policy_odd {error : Raised} (furnished : harness.Furnished request)
    (unidentified : Identifier.make .resource request.policyRef = .error error) :
    (harness.evaluatePolicy request context).Can (harnessAnswers surroundings)
      (· = .error error) := by
  have refused : evaluationAccess request context evaluationPolicyEvaluateAction
      "evaluation_policy" request.policyRef = .error error := by
    unfold evaluationAccess
    rw [unidentified]
    rfl
  apply can_passed (ensure_ok furnished.policy)
  exact can_failed refused rfl

/-- Capabilities of another type end the quality stage with an `AttributeError`. -/
theorem can_quality_malformed (malformed : surroundings.malformed)
    (furnished : harness.Furnished request) (endless : context.deadline = none)
    (within : context.scope = request.scope) :
    (harness.evaluateQuality request context).Can (harnessAnswers surroundings)
      (· = .error (.other "AttributeError")) := by
  have asked : (harness.capabilities request context).Can (harnessAnswers surroundings)
      (· = .error (.other "AttributeError")) := by
    apply can_passed (ensure_ok furnished.evaluator)
    apply can_call request.qualityEvaluatorId.checked furnished.capabilitiesGoverned
      furnished.capabilitiesKnown endless within
    intro call inContext
    have permitted : evaluationAnswers surroundings
        (.qualityCapabilities request.qualityEvaluatorId call.context) (.ok .malformed) :=
      ⟨GatewayDispatch.within_ok, fun _ => malformed⟩
    have called := can_evaluationOp _ permitted
    apply (GatewayDispatch.can_awaitProvider GatewayDispatch.uncancelled_answers
      (inContext ▸ endless) called).bind
    rfl
  apply can_passed (ensure_ok furnished.evaluator)
  exact asked.raises rfl

/-! #### From a stage to the whole -/

theorem can_stages_policy {error : Raised} (unreported : error.isReportable = false)
    (schema : harness.evaluateSchema request =
      .ok (passedStage .schema "schema_valid" (by decide)))
    (within : request.scope = SampleParameters.sampleScope)
    (raises : ∀ context : RuntimeCallContext, context.deadline = none →
      context.scope = request.scope →
      (harness.evaluatePolicy request context).Can (harnessAnswers surroundings)
        (· = .error error)) :
    (harness.stages request keyedContext).Can (harnessAnswers surroundings) Escapes := by
  obtain ⟨policyContext, made, endless, scope⟩ := stageContext_keyed request .policy within
  unfold stages
  rw [schema]
  apply can_attempt rfl (can_ofExcept rfl)
  apply can_attempt_escapes unreported
  apply can_passed made
  exact (raises policyContext endless scope).raises rfl

theorem can_stages_quality {error : Raised} (unreported : error.isReportable = false)
    (schema : harness.evaluateSchema request =
      .ok (passedStage .schema "schema_valid" (by decide)))
    (within : request.scope = SampleParameters.sampleScope)
    (furnished : harness.Furnished request) (identified : Identifier.check request.policyRef = .ok ())
    (raises : ∀ context : RuntimeCallContext, context.deadline = none →
      context.scope = request.scope →
      (harness.evaluateQuality request context).Can (harnessAnswers surroundings)
        (· = .error error)) :
    (harness.stages request keyedContext).Can (harnessAnswers surroundings) Escapes := by
  obtain ⟨policyContext, made, endless, scope⟩ := stageContext_keyed request .policy within
  obtain ⟨qualityContext, qualityMade, qualityEndless, qualityScope⟩ :=
    stageContext_keyed request .quality within
  unfold stages
  rw [schema]
  apply can_attempt rfl (can_ofExcept rfl)
  have policy : (do
      let policyContext ← ofExcept (stageContext keyedContext request .policy)
      let policyResult ← harness.evaluatePolicy request policyContext
      policyContext.checkActive
      pure policyResult : EvaluationProgram EvaluationStageResult).Can
        (harnessAnswers surroundings)
        (· = .ok (passedStage .policy "content_allowed" (by decide))) := by
    apply can_passed made
    apply (can_policy_passes furnished identified endless scope).bind
    apply (GatewayDispatch.can_checkActive GatewayDispatch.uncancelled_answers endless).bind
    rfl
  apply can_attempt rfl policy
  apply can_attempt_escapes unreported
  apply can_passed qualityMade
  exact (raises qualityContext qualityEndless qualityScope).raises rfl

theorem can_evaluate (within : request.scope = SampleParameters.sampleScope)
    (escapes : (harness.stages request keyedContext).Can (harnessAnswers surroundings) Escapes) :
    (harness.evaluate request keyedContext).Can (harnessAnswers surroundings) Escapes := by
  have narrower : request.scope.requireNarrowerThan keyedContext.scope = .ok () := by
    rw [within]
    exact ScopeRef.requireNarrowerThan_self _
  have preconditions : (checkPreconditions request keyedContext).Can
      (harnessAnswers surroundings) (· = .ok ()) := by
    apply can_passed (ensure_ok rfl)
    apply can_passed narrower
    exact GatewayDispatch.can_checkActive GatewayDispatch.uncancelled_answers rfl
  have started : (suppressException
      (evaluationOp (.evaluationStarted request keyedContext))).Can
        (harnessAnswers surroundings) (· = .ok ()) := by
    have answered : evaluationAnswers surroundings (.evaluationStarted request keyedContext)
        (.ok ()) := GatewayDispatch.within_ok
    apply (can_evaluationOp _ answered).andThen
    intro outcome ended
    subst ended
    rfl
  apply preconditions.bind
  apply started.bind
  apply escapes.andThen
  intro outcome escaped
  obtain ⟨error, raised, uncoded⟩ := escaped
  subst raised
  exact ⟨error, rfl, uncoded⟩

omit [Sha256] in
theorem furnished_harnessFor (policyRef : String) (trimmed : isTrimmed policyRef = true) :
    (harnessFor policyRef).Furnished (requestFor policyRef trimmed) where
  policy := by simp [harnessFor, requestFor]
  policyGoverned := rfl
  policyKnown := .head _
  evaluator := by simp [harnessFor, requestFor]
  capabilitiesGoverned := rfl
  capabilitiesKnown := .tail _ (.head _)

theorem not_total (regular : harness.Regular surroundings)
    (within : request.scope = SampleParameters.sampleScope)
    (escapes : (harness.stages request keyedContext).Can (harnessAnswers surroundings) Escapes) :
    ¬HarnessTotal surroundings := by
  intro total
  obtain ⟨outcome, trace, ⟨error, raised, uncoded⟩, steps⟩ := (can_evaluate within escapes).ended []
  subst raised
  have coded := (total _ regular _ _ _ _ steps).1
  rw [uncoded] at coded
  cases coded

/-- What the harness has for the request: a schema that accepts its value, and everything else. -/
structure SetUp (harness : EvaluationHarness) (request : EvaluationRequest) : Prop where
  schema : harness.evaluateSchema request = .ok (passedStage .schema "schema_valid" (by decide))
  within : request.scope = SampleParameters.sampleScope
  furnished : harness.Furnished request

omit [Sha256] in
theorem setUp_harnessFor (policyRef : String) (trimmed : isTrimmed policyRef = true) :
    (harnessFor policyRef).SetUp (requestFor policyRef trimmed) :=
  ⟨rfl, rfl, furnished_harnessFor policyRef trimmed⟩

theorem escapes_raised {error : Raised} (setUp : harness.SetUp request)
    (identified : Identifier.check request.policyRef = .ok ()) (raised : surroundings.raises error)
    (unreported : error.isReportable = false) :
    (harness.stages request keyedContext).Can (harnessAnswers surroundings) Escapes := by
  apply can_stages_policy unreported setUp.schema setUp.within
  intro context endless within
  exact can_policy_raises raised setUp.furnished identified endless within

theorem escapes_malformed (setUp : harness.SetUp request)
    (identified : Identifier.check request.policyRef = .ok ()) (malformed : surroundings.malformed) :
    (harness.stages request keyedContext).Can (harnessAnswers surroundings) Escapes := by
  have unreported : (Raised.other "AttributeError").isReportable = false := rfl
  apply can_stages_quality unreported setUp.schema setUp.within setUp.furnished identified
  intro context endless within
  exact can_quality_malformed malformed setUp.furnished endless within

theorem escapes_odd (setUp : harness.SetUp request)
    (unidentified : Identifier.check request.policyRef ≠ .ok ()) :
    (harness.stages request keyedContext).Can (harnessAnswers surroundings) Escapes := by
  obtain ⟨message, made⟩ := Identifier.make_error .resource unidentified
  have unreported : (Raised.value message).isReportable = false := rfl
  apply can_stages_policy unreported setUp.schema setUp.within
  intro context _ _
  exact can_policy_odd setUp.furnished made

end Escapes

/-- A provider that raises what can not be reported ends the evaluation. -/
theorem evaluate_escapes [Sha256] {error : Raised} (raised : surroundings.raises error)
    (unreported : error.isReportable = false) (trimmed : isTrimmed "policy-1" = true) :
    ∃ error trace, error.isCore = false ∧ Steps (recording (harnessAnswers surroundings))
      EvaluationResult ((harnessFor "policy-1").evaluate (requestFor "policy-1" trimmed)
        keyedContext, []) (.ofExcept (.error error), trace) := by
  have identified : Identifier.check "policy-1" = .ok () := by decide
  have setUp : (harnessFor "policy-1").SetUp (requestFor "policy-1" trimmed) :=
    setUp_harnessFor "policy-1" trimmed
  have named : Identifier.check (requestFor "policy-1" trimmed).policyRef = .ok () := identified
  have escapes := escapes_raised setUp named raised unreported
  obtain ⟨outcome, trace, ⟨error, raised, uncoded⟩, steps⟩ :=
    (can_evaluate setUp.within escapes).ended []
  subst raised
  exact ⟨error, trace, uncoded, steps⟩

/-- The evaluations of a harness are total only where all its surroundings can be reported. -/
theorem reportable_of_total [Sha256] (total : HarnessTotal surroundings) :
    surroundings.Reportable := by
  have identified : Identifier.check "policy-1" = .ok () := by decide
  have trimmed : isTrimmed "policy-1" = true := by decide
  have regular : (harnessFor "policy-1").Regular surroundings := regular_harnessFor (.inl identified)
  have setUp : (harnessFor "policy-1").SetUp (requestFor "policy-1" trimmed) :=
    setUp_harnessFor "policy-1" trimmed
  have named : Identifier.check (requestFor "policy-1" trimmed).policyRef = .ok () := identified
  constructor
  · intro error raised
    by_contra reported
    have unreported : error.isReportable = false := by simpa using reported
    exact not_total regular setUp.within (escapes_raised setUp named raised unreported) total
  · intro malformed
    exact not_total regular setUp.within (escapes_malformed setUp named malformed) total
  · intro name trimmed odd
    by_contra unidentified
    have regular : (harnessFor name).Regular surroundings := regular_harnessFor (.inr odd)
    have setUp : (harnessFor name).SetUp (requestFor name trimmed) := setUp_harnessFor name trimmed
    have unnamed : Identifier.check (requestFor name trimmed).policyRef ≠ .ok () := unidentified
    exact not_total regular setUp.within (escapes_odd setUp unnamed) total

end EvaluationHarness

/-- Surroundings in which the providers raise nothing but `error`. -/
def surroundingsRaising (error : Raised) : HarnessSurroundings :=
  ⟨fun raised => raised = error, False, fun _ => False⟩

/-- A code that is not empty, and can not be a reason. -/
def untrimmedError : Raised := coreError .unavailable "provider down " "provider is down"

end CongeriesCore
