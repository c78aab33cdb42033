import CongeriesCore.EvaluationTotality

/-! # The course of an evaluation

Whatever its surroundings do, an evaluation runs a stage only after the stage before it has
passed, and what it has run makes up a result that its constructor accepts. -/

namespace CongeriesCore

open AsyncProgram AsyncProgram.Program

/-- What has happened in an evaluation. -/
abbrev EvaluationTrace := List (Event (gatewayInterface evaluationInterface) Raised)

/-- The stage whose provider is asked. -/
def asks : GatewayOp evaluationInterface → Option EvaluationStage
  | .call (.policyEvaluate _ _ _) => some .policy
  | .call (.qualityCapabilities _ _) => some .quality
  | .call (.qualityEvaluate _ _ _) => some .quality
  | _ => none

/-- The verdict is recorded, or the failure to record it is handled. -/
def closes : GatewayOp evaluationInterface → Bool
  | .call (.verdictRecorded _ _ _) => true
  | .handleAuditFailure _ _ => true
  | _ => false

/-- The stage ended with the verdict that lets the next one run. -/
def StagePassed (outcome : Except Raised EvaluationStageResult) : Prop :=
  ∃ result, outcome = .ok result ∧ result.verdict = .passed

/-- What the result of an evaluation shows of a stage: its result, or the category and the code
of its error. -/
def Shows : Except Raised EvaluationStageResult → EvaluationStageResult → Prop
  | .ok result, shown => shown = result
  | .error (.core detail), shown => shown.verdict = EvaluationHarness.errorVerdict detail ∧
      shown.reasonCode = detail.code
  | .error _, _ => False

namespace EvaluationHarness

variable [Sha256]

/-- The `try` of `evaluate` between the policy context and the check after its provider. -/
def policyStage (harness : EvaluationHarness) (request : EvaluationRequest)
    (context : RuntimeCallContext) : EvaluationProgram EvaluationStageResult := do
  let policyContext ← ofExcept (stageContext context request .policy)
  let policyResult ← harness.evaluatePolicy request policyContext
  policyContext.checkActive
  pure policyResult

def qualityStage (harness : EvaluationHarness) (request : EvaluationRequest)
    (context : RuntimeCallContext) : EvaluationProgram EvaluationStageResult := do
  let qualityContext ← ofExcept (stageContext context request .quality)
  let qualityResult ← harness.evaluateQuality request qualityContext
  qualityContext.checkActive
  pure qualityResult

theorem stages_eq (harness : EvaluationHarness) (request : EvaluationRequest)
    (context : RuntimeCallContext) :
    harness.stages request context =
      attempt .schema [] (ofExcept (harness.evaluateSchema request)) fun schemaResult =>
        attempt .policy [schemaResult] (harness.policyStage request context) fun policyResult =>
          attempt .quality [schemaResult, policyResult] (harness.qualityStage request context)
            fun qualityResult => pure ⟨[schemaResult, policyResult], qualityResult, none⟩ := rfl

/-- The stages that were run between two moments, with what they ended with: each of them after
the one before it had passed, and as many as that allows. -/
inductive Course (surroundings : HarnessSurroundings) (harness : EvaluationHarness)
    (request : EvaluationRequest) (context : RuntimeCallContext) :
    EvaluationTrace → List (Except Raised EvaluationStageResult) → EvaluationTrace → Prop
  | schema {before : EvaluationTrace} (ended : ¬StagePassed (harness.evaluateSchema request)) :
      Course surroundings harness request context before [harness.evaluateSchema request] before
  | policy {before after : EvaluationTrace} {policy : Except Raised EvaluationStageResult}
      (passed : StagePassed (harness.evaluateSchema request))
      (ran : Steps (recording (harnessAnswers surroundings)) EvaluationStageResult
        (harness.policyStage request context, before) (.ofExcept policy, after))
      (ended : ¬StagePassed policy) :
      Course surroundings harness request context before
        [harness.evaluateSchema request, policy] after
  | quality {before middle after : EvaluationTrace}
      {policy quality : Except Raised EvaluationStageResult}
      (passed : StagePassed (harness.evaluateSchema request))
      (ran : Steps (recording (harnessAnswers surroundings)) EvaluationStageResult
        (harness.policyStage request context, before) (.ofExcept policy, middle))
      (passed' : StagePassed policy)
      (ran' : Steps (recording (harnessAnswers surroundings)) EvaluationStageResult
        (harness.qualityStage request context, middle) (.ofExcept quality, after)) :
      Course surroundings harness request context before
        [harness.evaluateSchema request, policy, quality] after

/-- The result shows the stages that were run, and passes if and only if all three did. -/
structure Consistent (outcomes : List (Except Raised EvaluationStageResult))
    (result : EvaluationResult) : Prop where
  shows : List.Forall₂ Shows outcomes result.stageResults
  passed : result.verdict = .passed ↔
    outcomes.length = 3 ∧ ∀ outcome ∈ outcomes, StagePassed outcome

/-- How an evaluation goes on after its stages: an error that no stage result can carry is raised,
and otherwise the constructor accepts the result, of which only the audit is left. -/
inductive Closing (request : EvaluationRequest)
    (outcomes : List (Except Raised EvaluationStageResult)) (ended : EvaluationTrace) :
    Except Raised EvaluationResult → EvaluationTrace → Prop
  | unreported {error raised : Raised} (last : outcomes.getLast? = some (.error raised))
      (unreported : raised.isReportable = false) : Closing request outcomes ended (.error error) ended
  | reported {stages : Stages} {result : EvaluationResult}
      {outcome : Except Raised EvaluationResult} {closing : EvaluationTrace}
      (made : resultFromStages request.evaluationId stages.earlier stages.terminal stages.error =
        .ok result) (consistent : Consistent outcomes result)
      (audited : ∀ event ∈ closing, closes event.1 = true)
      (returned : ∀ value, outcome = .ok value → value = result) :
      Closing request outcomes ended outcome (ended ++ closing)

section Stages

variable {surroundings : HarnessSurroundings} {harness : EvaluationHarness}
  {request : EvaluationRequest} {context : RuntimeCallContext}

/-! ## What a stage returns -/

/-- What the program returns, if it does, has `post`. -/
abbrev Giving {α : Type} (surroundings : HarnessSurroundings) (post : α → Prop)
    (program : EvaluationProgram α) : Prop :=
  program.Yields (harnessAnswers surroundings) fun outcome => ∀ value, outcome = .ok value →
    post value

omit [Sha256] in
theorem giving_rest {α β : Type} {post : β → Prop} {program : EvaluationProgram α}
    {rest : α → EvaluationProgram β} (gives : ∀ value, Giving surroundings post (rest value)) :
    Giving surroundings post (program >>= rest) :=
  Yields.bind (yields_true program) (fun value _ => gives value) fun _ _ _ impossible =>
    nomatch impossible

omit [Sha256] in
theorem giving_judged {stage : EvaluationStage} {verdicts : List EvaluationVerdict}
    {returned : Returned EvaluationStageResult} {evidenceKinds : List String}
    (plain : verdicts.all (!·.isError) = true) :
    Giving surroundings (Judged stage) (do
      let result ← ofExcept (validateStageResult returned stage verdicts)
      ofExcept (validateEvidence result request evidenceKinds)
      pure result : EvaluationProgram EvaluationStageResult) := by
  have judged : (ofExcept (validateStageResult returned stage verdicts) :
      EvaluationProgram EvaluationStageResult).Yields (harnessAnswers surroundings)
        (Reports (Judged stage)) := yields_ofExcept (reports_stageResult plain)
  apply Yields.bind judged
  · intro result judged
    apply giving_rest
    intro _ value same
    cases same
    exact judged
  · intro _ _ _ impossible
    cases impossible

theorem giving_policyStage :
    Giving surroundings (Judged .policy) (harness.policyStage request context) := by
  apply giving_rest
  intro policyContext
  have policy : Giving surroundings (Judged .policy)
      (harness.evaluatePolicy request policyContext) := by
    apply giving_rest
    intro _
    apply giving_rest
    intro access
    apply GatewayDispatch.yields_dispatch (fun _ _ _ impossible => nomatch impossible)
    intro call _
    apply giving_rest
    intro _
    apply giving_rest
    intro returned
    exact giving_judged (by decide)
  apply Yields.bind policy
  · intro result judged
    apply giving_rest
    intro _ value same
    cases same
    exact judged result rfl
  · intro _ _ _ impossible
    cases impossible

theorem giving_qualityStage :
    Giving surroundings (Judged .quality) (harness.qualityStage request context) := by
  apply giving_rest
  intro qualityContext
  have quality : Giving surroundings (Judged .quality)
      (harness.evaluateQuality request qualityContext) := by
    apply giving_rest
    intro _
    apply giving_rest
    intro capabilities
    apply giving_rest
    intro access
    apply GatewayDispatch.yields_dispatch (fun _ _ _ impossible => nomatch impossible)
    intro call _
    apply giving_rest
    intro _
    apply giving_rest
    intro returned
    exact giving_judged (by decide)
  apply Yields.bind quality
  · intro result judged
    apply giving_rest
    intro _ value same
    cases same
    exact judged result rfl
  · intro _ _ _ impossible
    cases impossible

omit [Sha256] in
theorem judged_schema {result : EvaluationStageResult}
    (made : harness.evaluateSchema request = .ok result) : Judged .schema result := by
  unfold evaluateSchema at made
  obtain ⟨_, -, rest⟩ := bind_ok made
  split at rest
  · cases rest
    exact ⟨rfl, rfl⟩
  · split at rest
    · cases rest
    · cases rest
      exact ⟨rfl, rfl⟩
  · cases rest

/-! ## What the stages leave -/

omit [Sha256] in
theorem stage_allows_error (stage : EvaluationStage) (detail : ErrorDetail) :
    stage.allowed (errorVerdict detail) = true := by
  have isError := errorVerdict_isError detail
  cases verdict : errorVerdict detail with
  | error | timedOut | cancelled => cases stage <;> rfl
  | passed | schemaFailed | policyDenied | policyIndeterminate | qualityFailed =>
    rw [verdict] at isError
    cases isError

/-- A stage that ended the evaluation. -/
inductive Ending (stage : EvaluationStage) (earlier : List EvaluationStageResult) :
    Except Raised EvaluationStageResult → Except Raised Stages → Prop
  | judged {result : EvaluationStageResult} (unsuccessful : result.verdict ≠ .passed) :
      Ending stage earlier (.ok result) (.ok ⟨earlier, result, none⟩)
  | failed {detail : ErrorDetail} {terminal : EvaluationStageResult}
      (ofStage : terminal.stage = stage) (verdict : terminal.verdict = errorVerdict detail)
      (reason : terminal.reasonCode = detail.code) :
      Ending stage earlier (.error (.core detail))
        (.ok ⟨earlier, terminal, some (safeError detail)⟩)
  | unreported {error raised : Raised} (unreported : error.isReportable = false) :
      Ending stage earlier (.error error) (.error raised)

omit [Sha256] in
theorem attempt_ended {stage : EvaluationStage} {earlier : List EvaluationStageResult}
    {program : EvaluationProgram EvaluationStageResult}
    {next : EvaluationStageResult → EvaluationProgram Stages} {outcome : Except Raised Stages}
    {before after : EvaluationTrace}
    (steps : Steps (recording (harnessAnswers surroundings)) Stages
      (attempt stage earlier program next, before) (.ofExcept outcome, after)) :
    ∃ answer middle, Steps (recording (harnessAnswers surroundings)) EvaluationStageResult
        (program, before) (.ofExcept answer, middle) ∧
      ((∃ result, answer = .ok result ∧ result.verdict = .passed ∧
          Steps (recording (harnessAnswers surroundings)) Stages (next result, middle)
            (.ofExcept outcome, after)) ∨
        ¬StagePassed answer ∧ Ending stage earlier answer outcome ∧ after = middle) := by
  obtain ⟨answer, middle, first, rest⟩ := Steps.andThen_ended steps
  refine ⟨answer, middle, first, ?_⟩
  cases answer with
  | ok result =>
    dsimp only at rest
    split at rest
    · rename_i passed
      exact .inl ⟨result, rfl, passed, rest⟩
    · rename_i unsuccessful
      have ended : (.ok ⟨earlier, result, none⟩ : Except Raised Stages) = outcome ∧
          after = middle := Steps.ended_ofExcept rest
      obtain ⟨rfl, same⟩ := ended
      refine .inr ⟨?_, .judged unsuccessful, same⟩
      rintro ⟨other, equal, passed⟩
      cases equal
      exact unsuccessful passed
  | error error =>
    have failed : ¬StagePassed (.error error) := by
      rintro ⟨_, impossible, -⟩
      cases impossible
    right
    refine ⟨failed, ?_⟩
    cases error with
    | core detail =>
      dsimp only at rest
      rcases Steps.bind_ended rest with ⟨terminal, made, terminating, ended⟩ | ⟨raised, same, ended⟩
      · have returned : (EvaluationStageResult.make stage (errorVerdict (safeError detail))
            (safeError detail).code) = .ok terminal ∧ made = middle :=
          Steps.ofExcept_returned terminating
        have ended : (.ok ⟨earlier, terminal, some (safeError detail)⟩ : Except Raised Stages) =
            outcome ∧ after = made := Steps.ended_ofExcept ended
        obtain ⟨rfl, same⟩ := ended
        have terminated := returned.1
        unfold EvaluationStageResult.make at terminated
        split at terminated
        · split at terminated
          · cases terminated
            exact ⟨.failed rfl rfl rfl, same.trans returned.2⟩
          · cases terminated
        · cases terminated
      · have refused : (EvaluationStageResult.make stage (errorVerdict (safeError detail))
            (safeError detail).code) = .error raised ∧ after = middle :=
          Steps.ofExcept_raised ended
        rw [same]
        refine ⟨.unreported ?_, refused.2⟩
        have terminated := refused.1
        unfold EvaluationStageResult.make at terminated
        split at terminated
        · split at terminated
          · cases terminated
          · rename_i untrimmed
            have code : isTrimmed (safeError detail).code = false := by simpa using untrimmed
            exact code
        · rename_i disallowed
          exact absurd (stage_allows_error stage detail) disallowed
    | value | assertion | key | other | cancelledError =>
      obtain ⟨rfl, same⟩ := Steps.raise_ended rest
      exact ⟨.unreported rfl, same⟩

/-- What the stages leave of their outcomes. -/
inductive Leaves (outcomes : List (Except Raised EvaluationStageResult)) :
    Except Raised Stages → Prop
  | stages {stages : Stages} (valid : stages.Valid)
      (shows : List.Forall₂ Shows outcomes (stages.earlier ++ [stages.terminal]))
      (passed : stages.terminal.verdict = .passed ↔
        outcomes.length = 3 ∧ ∀ outcome ∈ outcomes, StagePassed outcome) :
      Leaves outcomes (.ok stages)
  | unreported {error raised : Raised} (last : outcomes.getLast? = some (.error raised))
      (unreported : raised.isReportable = false) : Leaves outcomes (.error error)

omit [Sha256] in
/-- The stages before one that ended the evaluation, and it, make up a result. -/
theorem leaves_ending {stage : EvaluationStage} {earlier : List EvaluationStageResult}
    (answers : List (Except Raised EvaluationStageResult))
    {answer : Except Raised EvaluationStageResult} {outcome : Except Raised Stages}
    (ordered : earlier.map (·.stage) ++ [stage] = evaluationStages.take (earlier.length + 1))
    (passed : ∀ result ∈ earlier, result.verdict = .passed)
    (shows : List.Forall₂ Shows answers earlier)
    (judged : ∀ result, answer = .ok result → Judged stage result)
    (unpassed : ¬StagePassed answer) (ending : Ending stage earlier answer outcome) :
    Leaves (answers ++ [answer]) outcome := by
  have incomplete : ¬((answers ++ [answer]).length = 3 ∧
      ∀ outcome ∈ answers ++ [answer], StagePassed outcome) := by
    rintro ⟨-, every⟩
    exact unpassed (every answer (by simp))
  have listed : ∀ terminal : EvaluationStageResult, terminal.stage = stage →
      (earlier ++ [terminal]).map (·.stage) = evaluationStages.take (earlier.length + 1) := by
    intro terminal ofStage
    rw [List.map_append, List.map_singleton, ofStage, ordered]
  cases ending with
  | @judged result unsuccessful =>
    have own := judged result rfl
    constructor
    · refine ⟨listed result own.1, passed, fun successful => absurd successful unsuccessful,
        fun _ => own.2, ?_⟩
      intro _ impossible
      cases impossible
    · exact List.rel_append shows (.cons rfl .nil)
    · exact iff_of_false unsuccessful incomplete
  | @failed detail terminal ofStage verdict reason =>
    have isError : terminal.verdict.isError = true := by
      rw [verdict]
      exact errorVerdict_isError detail
    have unsuccessful : terminal.verdict ≠ .passed := by
      intro successful
      rw [successful] at isError
      cases isError
    constructor
    · refine ⟨listed terminal ofStage, passed, fun successful => absurd successful unsuccessful,
        ?_, ?_⟩
      · intro impossible
        cases impossible
      · intro error given
        cases given
        exact verdict
    · exact List.rel_append shows (.cons ⟨verdict, reason⟩ .nil)
    · exact iff_of_false unsuccessful incomplete
  | unreported unreported =>
    exact .unreported (by simp) unreported

/-- The stages run in their course, and leave what it shows. -/
theorem stages_ended {outcome : Except Raised Stages} {before after : EvaluationTrace}
    (steps : Steps (recording (harnessAnswers surroundings)) Stages
      (harness.stages request context, before) (.ofExcept outcome, after)) :
    ∃ outcomes, Course surroundings harness request context before outcomes after ∧
      Leaves outcomes outcome := by
  rw [stages_eq] at steps
  obtain ⟨schema, begun, first, rest⟩ := attempt_ended steps
  obtain ⟨rfl, rfl⟩ : harness.evaluateSchema request = schema ∧ begun = before :=
    Steps.ended_ofExcept first
  rcases rest with ⟨schemaResult, made, schemaPassed, steps⟩ | ⟨unpassed, ending, rfl⟩
  · have schemaJudged := judged_schema made
    have passed : StagePassed (harness.evaluateSchema request) := ⟨_, made, schemaPassed⟩
    obtain ⟨policy, middle, ran, rest⟩ := attempt_ended steps
    have policyJudged := giving_policyStage.ended ran
    rcases rest with ⟨policyResult, rfl, policyPassed, steps⟩ | ⟨unpassed, ending, rfl⟩
    · have policyJudged := policyJudged policyResult rfl
      have passed' : StagePassed (.ok policyResult) := ⟨_, rfl, policyPassed⟩
      have ordered : [schemaResult, policyResult].map (·.stage) = [.schema, .policy] := by
        simp [schemaJudged.1, policyJudged.1]
      have bothPassed : ∀ result ∈ [schemaResult, policyResult], result.verdict = .passed := by
        simp [schemaPassed, policyPassed]
      have shows : List.Forall₂ Shows [harness.evaluateSchema request, .ok policyResult]
          [schemaResult, policyResult] := by
        rw [made]
        exact .cons rfl (.cons rfl .nil)
      obtain ⟨quality, ended, ran', rest⟩ := attempt_ended steps
      have qualityJudged := giving_qualityStage.ended ran'
      have ranQuality : Steps (recording (harnessAnswers surroundings)) EvaluationStageResult
          (harness.qualityStage request context, middle) (.ofExcept quality, after) := by
        rcases rest with ⟨_, _, _, steps⟩ | ⟨-, -, rfl⟩
        · obtain ⟨-, rfl⟩ := Steps.ret_ended steps
          exact ran'
        · exact ran'
      refine ⟨_, .quality passed ran passed' ranQuality, ?_⟩
      · rcases rest with ⟨qualityResult, rfl, qualityPassed, steps⟩ | ⟨unpassed, ending, rfl⟩
        · obtain ⟨rfl, -⟩ := Steps.ret_ended steps
          have qualityJudged := qualityJudged qualityResult rfl
          constructor
          · refine ⟨?_, bothPassed, fun _ => rfl, fun _ => qualityJudged.2,
              fun _ impossible => nomatch impossible⟩
            rw [List.map_append, ordered, List.map_singleton, qualityJudged.1]
            rfl
          · exact List.rel_append shows (.cons rfl .nil)
          · apply iff_of_true qualityPassed
            refine ⟨rfl, ?_⟩
            intro outcome member
            simp only [List.mem_cons, List.not_mem_nil, or_false] at member
            rcases member with rfl | rfl | rfl
            · exact passed
            · exact passed'
            · exact ⟨_, rfl, qualityPassed⟩
        · refine leaves_ending [_, _] ?_ bothPassed shows qualityJudged unpassed ending
          rw [ordered]
          rfl
    · refine ⟨_, .policy passed ran unpassed, ?_⟩
      have shows : List.Forall₂ Shows [harness.evaluateSchema request] [schemaResult] := by
        rw [made]
        exact .cons rfl .nil
      apply leaves_ending [_] _ (by simpa using schemaPassed) shows policyJudged
        unpassed ending
      rw [List.map_singleton, schemaJudged.1]
      rfl
  · refine ⟨_, .schema unpassed, ?_⟩
    exact leaves_ending [] rfl (by simp) .nil (fun _ made => judged_schema made)
      unpassed ending

/-! ## What happens on the way -/

/-- A policy that passed, before a quality provider was asked anything. -/
def PolicyPassed (surroundings : HarnessSurroundings) (harness : EvaluationHarness)
    (request : EvaluationRequest) (context : RuntimeCallContext) (trace : EvaluationTrace) : Prop :=
  ∃ started policy ended, Steps (recording (harnessAnswers surroundings)) EvaluationStageResult
      (harness.policyStage request context, started) (.ofExcept policy, ended) ∧
    StagePassed policy ∧ ended <+: trace ∧ ∀ event ∈ ended, asks event.1 ≠ some .quality

/-- Providers are asked only after the stages before theirs have passed. -/
def FailFast (surroundings : HarnessSurroundings) (harness : EvaluationHarness)
    (request : EvaluationRequest) (context : RuntimeCallContext) (trace : EvaluationTrace) : Prop :=
  ∀ event ∈ trace,
    (asks event.1 = some .policy → StagePassed (harness.evaluateSchema request)) ∧
    (asks event.1 = some .quality → StagePassed (harness.evaluateSchema request) ∧
      PolicyPassed surroundings harness request context trace)

omit [Sha256] in
theorem only_checkActive {allowed : GatewayOp evaluationInterface → Prop}
    (own : ∀ op : GatewayOp evaluationInterface, op.own → allowed op)
    (context : RuntimeCallContext) :
    (context.checkActive : EvaluationProgram Unit).Only allowed :=
  RuntimeCallContext.only_checkActive (fun _ => only_perform.mpr (own (.cancelled _) trivial))
    (only_perform.mpr (own .now trivial)) context

omit [Sha256] in
theorem unasked_of_own (stage : EvaluationStage) (op : GatewayOp evaluationInterface)
    (own : op.own) : asks op ≠ some stage := by
  cases op with
  | call _ => cases own
  | _ => nofun

theorem only_policyStage :
    (harness.policyStage request context).Only fun op => asks op ≠ some .quality := by
  have own := unasked_of_own .quality
  have policy : ∀ policyContext, (harness.evaluatePolicy request policyContext).Only
      fun op => asks op ≠ some .quality := by
    intro policyContext
    refine only_ofExcept.bind fun _ => only_ofExcept.bind fun access => ?_
    apply GatewayDispatch.only_dispatch own
    intro call
    refine only_ofExcept.bind fun _ => Only.bind ?_ fun returned =>
      only_ofExcept.bind fun result => only_ofExcept.bind fun _ => trivial
    have asked : (evaluationOp (.policyEvaluate request.policyRef request call.context)).Only
        fun op => asks op ≠ some .quality := by
      apply only_perform.mpr
      intro impossible
      cases impossible
    exact (only_checkActive own _).bind fun _ => asked.bind fun _ =>
      (only_checkActive own _).bind fun _ => trivial
  exact only_ofExcept.bind fun _ => (policy _).bind fun _ =>
    (only_checkActive own _).bind fun _ => trivial

omit [Sha256] in
/-- An evaluation is in a stage, or the stage has passed. -/
theorem attempt_reached {stage : EvaluationStage} {earlier : List EvaluationStageResult}
    {program : EvaluationProgram EvaluationStageResult}
    {next : EvaluationStageResult → EvaluationProgram Stages} {target : EvaluationProgram Stages}
    {before after : EvaluationTrace}
    (steps : Steps (recording (harnessAnswers surroundings)) Stages
      (attempt stage earlier program next, before) (target, after)) :
    (∃ rest, Steps (recording (harnessAnswers surroundings)) EvaluationStageResult
      (program, before) (rest, after)) ∨
    ∃ result middle, result.verdict = .passed ∧
      Steps (recording (harnessAnswers surroundings)) EvaluationStageResult
        (program, before) (.ofExcept (.ok result), middle) ∧
      Steps (recording (harnessAnswers surroundings)) Stages (next result, middle)
        (target, after) := by
  rcases Steps.andThen_reached steps with first | ⟨answer, middle, first, rest⟩
  · exact .inl first
  · have stopped : ∀ {program : EvaluationProgram Stages},
        Steps (recording (harnessAnswers surroundings)) Stages (program, middle)
          (target, after) → (program.Only fun _ => False) → after = middle := by
      intro program steps only
      obtain ⟨added, grown, among⟩ := only.recorded steps
      cases added with
      | nil => simpa using grown
      | cons event added => exact (among event (by simp)).elim
    cases answer with
    | ok result =>
      dsimp only at rest
      split at rest
      · rename_i passed
        exact .inr ⟨result, middle, passed, first, rest⟩
      · rw [stopped rest only_pure]
        exact .inl ⟨_, first⟩
    | error error =>
      have still : after = middle := by
        cases error with
        | core detail => exact stopped rest (only_ofExcept.bind fun _ => trivial)
        | value | assertion | key | other | cancelledError => exact stopped rest trivial
      rw [still]
      exact .inl ⟨_, first⟩

theorem failFast_stages {before after : EvaluationTrace} {target : EvaluationProgram Stages}
    (unasked : ∀ event ∈ before, asks event.1 = none)
    (steps : Steps (recording (harnessAnswers surroundings)) Stages
      (harness.stages request context, before) (target, after)) :
    FailFast surroundings harness request context after := by
  rw [stages_eq] at steps
  rcases attempt_reached steps with ⟨rest, first⟩ | ⟨schema, begun, passed, first, later⟩
  · obtain ⟨-, rfl⟩ := Steps.ofExcept_ended first
    intro event member
    rw [unasked event member]
    exact ⟨nofun, nofun⟩
  · obtain ⟨made, rfl⟩ := Steps.ended_ofExcept first
    have schemaPassed : StagePassed (harness.evaluateSchema request) := ⟨schema, made, passed⟩
    have within : ∀ {rest middle}, Steps (recording (harnessAnswers surroundings))
        EvaluationStageResult (harness.policyStage request context, begun) (rest, middle) →
        ∀ event ∈ middle, asks event.1 ≠ some .quality := by
      intro rest middle steps event member
      obtain ⟨added, grown, among⟩ := only_policyStage.recorded steps
      rw [grown] at member
      rcases List.mem_append.mp member with earlier | new
      · rw [unasked event earlier]
        nofun
      · exact among event new
    rcases attempt_reached later with ⟨rest, running⟩ | ⟨policy, middle, passed', ran, last⟩
    · intro event member
      exact ⟨fun _ => schemaPassed, fun quality => absurd quality (within running event member)⟩
    · intro event member
      exact ⟨fun _ => schemaPassed, fun _ => ⟨schemaPassed, begun, .ok policy, middle, ran,
        ⟨policy, rfl, passed'⟩, Steps.grows last, within ran⟩⟩

/-- What asks nothing leaves an evaluation fail-fast. -/
theorem FailFast.append {trace added : EvaluationTrace}
    (failFast : FailFast surroundings harness request context trace)
    (unasked : ∀ event ∈ added, asks event.1 = none) :
    FailFast surroundings harness request context (trace ++ added) := by
  intro event member
  rcases List.mem_append.mp member with earlier | new
  · obtain ⟨policy, quality⟩ := failFast event earlier
    refine ⟨policy, fun asked => ?_⟩
    obtain ⟨passed, started, outcome, ended, ran, passed', grown, before⟩ := quality asked
    exact ⟨passed, started, outcome, ended, ran, passed', grown.trans (List.prefix_append _ _),
      before⟩
  · rw [unasked event new]
    exact ⟨nofun, nofun⟩

/-! ## A whole evaluation -/

omit [Sha256] in
theorem resultFromStages_fields {evaluationId : EvaluationId}
    {earlier : List EvaluationStageResult} {terminal : EvaluationStageResult}
    {error : Option ErrorDetail} {result : EvaluationResult}
    (made : resultFromStages evaluationId earlier terminal error = .ok result) :
    result.verdict = terminal.verdict ∧ result.stageResults = earlier ++ [terminal] := by
  unfold resultFromStages EvaluationResult.make at made
  split at made
  · cases made
  · cases made
    exact ⟨rfl, rfl⟩

omit [Sha256] in
theorem only_preconditions :
    (checkPreconditions request context).Only fun op => asks op = none := by
  have own : ∀ op : GatewayOp evaluationInterface, op.own → asks op = none := by
    intro op own
    cases op with
    | call _ => cases own
    | _ => rfl
  exact only_ofExcept.bind fun _ => only_ofExcept.bind fun _ => only_checkActive own context

omit [Sha256] in
theorem only_started : (suppressException
    (evaluationOp (.evaluationStarted request context))).Only fun op => asks op = none := by
  have asked : (evaluationOp (.evaluationStarted request context)).Only
      fun op => asks op = none := only_perform.mpr rfl
  apply asked.catching
  intro error
  exact only_ite (fun _ => trivial) fun _ => trivial

omit [Sha256] in
theorem only_finish (stages : Stages) :
    (finish request context stages).Only fun op => closes op = true := by
  refine only_ofExcept.bind fun result => Only.bind ?_ fun _ => trivial
  have asked : (evaluationOp (.verdictRecorded request result context)).Only
      fun op => closes op = true := only_perform.mpr rfl
  apply asked.catching
  intro error
  cases error with
  | core detail => exact Only.bind (only_perform.mpr rfl) fun _ => trivial
  | value | assertion | key | other | cancelledError => trivial

omit [Sha256] in
theorem unasked_of_closes {op : GatewayOp evaluationInterface} (closing : closes op = true) :
    asks op = none := by
  cases op with
  | call op =>
    cases op with
    | verdictRecorded _ _ _ => rfl
    | _ => cases closing
  | handleAuditFailure _ _ => rfl
  | _ => cases closing

omit [Sha256] in
theorem unasked_append {program rest : EvaluationProgram Unit} {before after : EvaluationTrace}
    (only : program.Only fun op => asks op = none)
    (steps : Steps (recording (harnessAnswers surroundings)) Unit (program, before) (rest, after))
    (unasked : ∀ event ∈ before, asks event.1 = none) :
    ∀ event ∈ after, asks event.1 = none := by
  obtain ⟨added, rfl, among⟩ := only.recorded steps
  intro event member
  rcases List.mem_append.mp member with earlier | new
  · exact unasked event earlier
  · exact among event new

theorem failFast_of_unasked {trace : EvaluationTrace}
    (unasked : ∀ event ∈ trace, asks event.1 = none) :
    FailFast surroundings harness request context trace := by
  intro event member
  rw [unasked event member]
  exact ⟨nofun, nofun⟩

theorem failFast_evaluate {program : EvaluationProgram EvaluationResult} {trace : EvaluationTrace}
    (steps : Steps (recording (harnessAnswers surroundings)) EvaluationResult
      (harness.evaluate request context, []) (program, trace)) :
    FailFast surroundings harness request context trace := by
  have nothing : ∀ event ∈ ([] : EvaluationTrace), asks event.1 = none := by simp
  rcases Steps.bind_reached steps with ⟨_, checking⟩ | ⟨_, entered, checked, steps⟩
  · exact failFast_of_unasked (unasked_append only_preconditions checking nothing)
  · have unasked := unasked_append only_preconditions checked nothing
    rcases Steps.bind_reached steps with ⟨_, starting⟩ | ⟨_, begun, started, steps⟩
    · exact failFast_of_unasked (unasked_append only_started starting unasked)
    · have unasked := unasked_append only_started started unasked
      rcases Steps.bind_reached steps with ⟨_, staging⟩ | ⟨stages, judged, staged, steps⟩
      · exact failFast_stages unasked staging
      · obtain ⟨added, rfl, closing⟩ := (only_finish stages).recorded steps
        exact (failFast_stages unasked staged).append fun event member =>
          unasked_of_closes (closing event member)

omit [Sha256] in
theorem closing_finish {outcomes : List (Except Raised EvaluationStageResult)} {stages : Stages}
    (valid : stages.Valid)
    (shows : List.Forall₂ Shows outcomes (stages.earlier ++ [stages.terminal]))
    (passed : stages.terminal.verdict = .passed ↔
      outcomes.length = 3 ∧ ∀ outcome ∈ outcomes, StagePassed outcome)
    {outcome : Except Raised EvaluationResult} {ended after : EvaluationTrace}
    (steps : Steps (recording (harnessAnswers surroundings)) EvaluationResult
      (finish request context stages, ended) (.ofExcept outcome, after)) :
    Closing request outcomes ended outcome after := by
  obtain ⟨result, made⟩ := resultFromStages_ok request.evaluationId valid
  obtain ⟨verdict, stageResults⟩ := resultFromStages_fields made
  have consistent : Consistent outcomes result := by
    constructor
    · rw [stageResults]
      exact shows
    · rw [verdict]
      exact passed
  obtain ⟨closing, rfl, audited⟩ := (only_finish stages).recorded steps
  refine .reported made consistent audited ?_
  rintro value rfl
  rcases Steps.bind_ended steps with ⟨built, middle, building, rest⟩ | ⟨_, impossible, -⟩
  · have built : resultFromStages request.evaluationId stages.earlier stages.terminal
        stages.error = .ok built ∧ middle = ended :=
      Steps.ofExcept_returned building
    rcases Steps.bind_ended rest with ⟨_, _, _, returned⟩ | ⟨_, impossible, -⟩
    · have same := (Steps.ret_ended returned).1
      cases same
      rw [made] at built
      exact (Except.ok.inj built.1).symm
    · cases impossible
  · cases impossible

theorem closing_evaluate {outcome : Except Raised EvaluationResult} {trace : EvaluationTrace}
    (steps : Steps (recording (harnessAnswers surroundings)) EvaluationResult
      (harness.evaluate request context, []) (.ofExcept outcome, trace)) :
    (Unstarted trace ∧ ∃ error, outcome = .error error) ∨
      ∃ started outcomes ended, Course surroundings harness request context started outcomes ended ∧
        (∀ event ∈ started, asks event.1 = none) ∧ Closing request outcomes ended outcome trace := by
  have nothing : ∀ event ∈ ([] : EvaluationTrace), asks event.1 = none := by simp
  rcases Steps.bind_ended steps with ⟨_, entered, checked, steps⟩ | ⟨error, refused, checking⟩
  · right
    have unasked := unasked_append only_preconditions checked nothing
    rcases Steps.bind_ended steps with ⟨_, begun, started, steps⟩ | ⟨error, _, unsuppressed⟩
    · have unasked := unasked_append only_started started unasked
      rcases Steps.bind_ended steps with ⟨stages, judged, staged, steps⟩ | ⟨error, same, staged⟩
      · have staged : Steps (recording (harnessAnswers surroundings)) Stages
            (harness.stages request context, begun) (.ofExcept (.ok stages), judged) := staged
        obtain ⟨outcomes, course, leaves⟩ := stages_ended staged
        refine ⟨begun, outcomes, judged, course, unasked, ?_⟩
        cases leaves with
        | stages valid shows passed => exact closing_finish valid shows passed steps
      · have staged : Steps (recording (harnessAnswers surroundings)) Stages
            (harness.stages request context, begun) (.ofExcept (.error error), trace) := staged
        obtain ⟨outcomes, course, leaves⟩ := stages_ended staged
        refine ⟨begun, outcomes, trace, course, unasked, ?_⟩
        rw [same]
        cases leaves with
        | unreported last unreported => exact .unreported last unreported
    · have returned := yields_started.raised unsuppressed
      cases returned
  · left
    have checking : Steps (recording (harnessAnswers surroundings)) Unit
        (checkPreconditions request context, []) (.ofExcept (.error error), trace) := checking
    exact ⟨unstarted_preconditions checking, error, refused⟩

end Stages

end EvaluationHarness

open EvaluationHarness

/-- An evaluation asks a provider only after the stages before its own have passed; once the
preconditions hold, its stages run in their course, and make up a result that the constructor
accepts, which has passed if and only if all three stages have. -/
theorem evaluation_fail_fast [Sha256] (surroundings : HarnessSurroundings)
    (harness : EvaluationHarness) (request : EvaluationRequest) (context : RuntimeCallContext) :
    (∀ program trace, Steps (recording (harnessAnswers surroundings)) EvaluationResult
      (harness.evaluate request context, []) (program, trace) →
        FailFast surroundings harness request context trace) ∧
    ∀ outcome trace, Steps (recording (harnessAnswers surroundings)) EvaluationResult
      (harness.evaluate request context, []) (.ofExcept outcome, trace) →
        (Unstarted trace ∧ ∃ error, outcome = .error error) ∨
        ∃ started outcomes ended,
          Course surroundings harness request context started outcomes ended ∧
          (∀ event ∈ started, asks event.1 = none) ∧ Closing request outcomes ended outcome trace :=
  ⟨fun _ _ steps => failFast_evaluate steps, fun _ _ steps => closing_evaluate steps⟩

end CongeriesCore
