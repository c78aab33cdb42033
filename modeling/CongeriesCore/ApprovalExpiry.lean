import CongeriesCore.ApprovalCoordinator
import CongeriesCore.CheckpointChain

/-! # Decisions on approvals that have expired

A request is refused by the coordinator's clock once it has expired. A decision is judged by the
time that it states itself, which its caller chooses. -/

namespace CongeriesCore

open AsyncProgram AsyncProgram.Program

namespace ApprovalCoordinator

abbrev ApprovalTrace := List (Event (gatewayInterface approvalInterface) Raised)

/-- What surrounds a submission at a time of the clock: the run and the checkpoint that are stored;
whatever else is asked may answer anything. -/
def approvalAnswers (run : WorkflowRun) (current : Checkpoint) (clock : DateTime) :
    (op : GatewayOp approvalInterface) → Except Raised op.Answer → Prop
  | .cancelled _, outcome => ∃ isCancelled, outcome = .ok isCancelled
  | .now, outcome => ∃ time, clock ≤ time ∧ outcome = .ok time
  | .call (.runGet _), outcome => ∀ value, outcome = .ok value → value = run.toRun
  | .call (.checkpointLoad _ _ _ _ _), outcome => ∀ value, outcome = .ok value → value = current
  | _, _ => True

/-- The stored checkpoint holds an approval that has no decision yet. -/
structure Pending (submission : ApprovalSubmission) (run : WorkflowRun) (current : Checkpoint)
    (state : ApprovalCheckpointState) : Prop where
  marked : ∃ marker, run.latestCheckpointRef = some marker
  found : findApproval current submission.decision.approvalId = .ok state
  undecided : state.decision = none

/-- The checkpoint with the decision has been committed. -/
def Records (submission : ApprovalSubmission) (trace : ApprovalTrace) : Prop :=
  ∃ event ∈ trace, ∃ context committed, event = ⟨.call (.checkpointSave submission.provider
    submission.checkpoint submission.expectedRunVersion context), .ok committed⟩

/-- The clock is before the end of the approval, if it has one. -/
def Unexpired (state : ApprovalCheckpointState) (clock : DateTime) : Prop :=
  ∀ expiry ∈ state.request.expiresAt, clock < expiry

/-- A first decision is recorded only while the approval has not expired by the clock. -/
def RespectsExpiry (coordinator : ApprovalCoordinator) (submission : ApprovalSubmission)
    (run : WorkflowRun) (current : Checkpoint) (state : ApprovalCheckpointState)
    (clock : DateTime) : Prop :=
  ∀ program trace, Steps (recording (approvalAnswers run current clock)) WorkflowRun
    (coordinator.decide submission, []) (program, trace) →
      Records submission trace → Unexpired state clock

/-- The checks of `decide` accept the submission, and its dispatch may begin. -/
structure Admits (coordinator : ApprovalCoordinator) (submission : ApprovalSubmission)
    (run : WorkflowRun) (state : ApprovalCheckpointState) (clock : DateTime) : Prop where
  waiting : run.status = .waitingApproval
  version : run.stateVersion = submission.expectedRunVersion
  valid : validateDecision submission.decision state.request submission.checkpoint run
    submission.context = .ok ()
  governed : coordinator.authorization.governed = true
  known : approvalDecideAction ∈ coordinator.authorization.actions
  timely : ∀ deadline ∈ submission.context.deadline, clock < deadline.at_

/-- The operation commits a checkpoint. -/
def commits : GatewayOp approvalInterface → Bool
  | .call (.checkpointSave _ _ _ _) => true
  | _ => false

variable {coordinator : ApprovalCoordinator} {submission : ApprovalSubmission}
  {run : WorkflowRun} {current : Checkpoint} {state : ApprovalCheckpointState}
  {clock : DateTime}

/-- A decision that states a time after the end of the approval is refused. -/
theorem validateDecision_unexpired {decision : ApprovalDecision} {request : ApprovalRequest}
    {expiry : DateTime} {checkpoint : Checkpoint} {context : RuntimeCallContext}
    (valid : validateDecision decision request checkpoint run context = .ok ())
    (expires : request.expiresAt = some expiry) : decision.decidedAt < expiry := by
  obtain ⟨_, _, rest⟩ := bind_ok valid
  obtain ⟨_, _, rest⟩ := bind_ok rest
  obtain ⟨_, _, rest⟩ := bind_ok rest
  obtain ⟨_, unexpired, _⟩ := bind_ok rest
  rw [ensure_eq_ok, expires, Option.all_some, Bool.not_eq_true', decide_eq_false_iff_not] at unexpired
  exact Nat.lt_of_not_le unexpired

/-! ## Only what is admitted is recorded -/

theorem yields_requireWorkflow (runId : RunId) :
    (requireWorkflow runId).Yields (approvalAnswers run current clock)
      fun outcome => ∀ value, outcome = .ok value → value = run := by
  have asked : (approvalOp (.runGet runId)).Yields (approvalAnswers run current clock)
      fun outcome => ∀ value, outcome = .ok value → value = run.toRun :=
    yields_perform fun _ answered => answered
  apply Yields.bind asked
  · intro stored same
    apply yields_ofExcept
    intro value made
    apply WorkflowRun.eq_of_toRun
    rw [Run.asWorkflow_ok made]
    exact same stored rfl
  · intro _ _ _ impossible
    cases impossible

theorem yields_load {provider : ProviderId} {marker : CheckpointRef} {runId : RunId}
    {scope : ScopeRef} {context : RuntimeCallContext} :
    (approvalOp (.checkpointLoad provider marker runId scope context)).Yields
      (approvalAnswers run current clock) fun outcome => ∀ value, outcome = .ok value →
        value = current :=
  yields_perform fun _ answered => answered

theorem commits_own (op : GatewayOp approvalInterface) (own : op.own) :
    commits op = false := by
  cases op with
  | call op => cases own
  | _ => rfl

/-- A first decision is recorded only where it is admitted. -/
theorem keeps_recordDecision :
    (coordinator.recordDecision submission run state).Keeps (approvalAnswers run current clock)
      fun op => commits op = true → Admits coordinator submission run state clock := by
  apply keeps_checked
  intro _ waiting
  apply keeps_checked
  intro _ version
  apply keeps_checked
  intro _ valid
  apply GatewayDispatch.keeps_dispatch
  · intro op own commits
    rw [commits_own op own] at commits
    cases commits
  · intro timely governed known call
    have admitted : Admits coordinator submission run state clock := by
      constructor
      · simpa using waiting
      · simpa using version
      · exact valid
      · exact governed
      · exact known
      · intro deadline given
        obtain ⟨time, ⟨read, later, same⟩, before⟩ := timely deadline given
        cases same
        exact Nat.lt_of_le_of_lt later before
    have allowed : ∀ op, commits op = true → Admits coordinator submission run state clock :=
      fun _ _ => admitted
    exact ((only_true _).mono fun op _ => allowed op).keeps

theorem keeps_decide (pending : Pending submission run current state) :
    (coordinator.decide submission).Keeps (approvalAnswers run current clock)
      fun op => commits op = true → Admits coordinator submission run state clock := by
  have silent : ∀ op : ApprovalOp, commits (.call op) = false →
      (approvalOp op).Keeps (approvalAnswers run current clock)
        fun op => commits op = true → Admits coordinator submission run state clock := by
    intro op quiet
    apply keeps_perform
    intro commits
    rw [quiet] at commits
    cases commits
  unfold decide
  have required : (requireWorkflow submission.decision.runId).Keeps
      (approvalAnswers run current clock)
      fun op => commits op = true → Admits coordinator submission run state clock :=
    (silent (.runGet _) rfl).bind fun _ => keeps_ofExcept
  apply required.andThen (yields_requireWorkflow _)
  intro outcome asked
  cases outcome with
  | error error => trivial
  | ok stored =>
    obtain rfl := asked stored rfl
    obtain ⟨marker, marked⟩ := pending.marked
    dsimp only
    rw [marked]
    apply (silent (.checkpointLoad _ _ _ _ _) rfl).andThen yields_load
    intro outcome asked
    cases outcome with
    | error error => trivial
    | ok loaded =>
      obtain rfl := asked loaded rfl
      dsimp only
      apply keeps_checked
      intro found same
      rw [pending.found] at same
      cases same
      rw [pending.undecided]
      exact keeps_recordDecision

theorem admits_of_records (pending : Pending submission run current state)
    {program : ApprovalProgram WorkflowRun} {trace : ApprovalTrace}
    (steps : Steps (recording (approvalAnswers run current clock)) WorkflowRun
      (coordinator.decide submission, []) (program, trace))
    (recorded : Records submission trace) : Admits coordinator submission run state clock := by
  obtain ⟨added, grown, kept⟩ := (keeps_decide pending).recorded steps
  obtain ⟨event, member, context, committed, same⟩ := recorded
  rw [grown, List.nil_append] at member
  apply kept event member
  rw [same]
  rfl

/-! ## Whatever is admitted can be recorded -/

/-- As around any submission, where the checkpoint can be committed. -/
def committingAnswers (run : WorkflowRun) (current : Checkpoint) (clock : DateTime)
    (op : GatewayOp approvalInterface) (outcome : Except Raised op.Answer) : Prop :=
  approvalAnswers run current clock op outcome ∧
    (commits op = true → ∃ committed, outcome = .ok committed)

/-- The operation commits the checkpoint of the submission. -/
def CommitsDecision (submission : ApprovalSubmission) (op : GatewayOp approvalInterface) : Prop :=
  ∃ context, op = .call (.checkpointSave submission.provider submission.checkpoint
    submission.expectedRunVersion context)

theorem quiet_of_not_commits {op : GatewayOp approvalInterface} {outcome : Except Raised op.Answer}
    (quiet : commits op = false) : commits op = true → ∃ committed, outcome = .ok committed := by
  intro impossible
  rw [quiet] at impossible
  cases impossible

theorem can_approvalOp (op : ApprovalOp) {outcome : Except Raised op.Answer}
    (permitted : committingAnswers run current clock (.call op) outcome) :
    (approvalOp op).Can (committingAnswers run current clock) (· = outcome) :=
  ⟨outcome, permitted, can_ofExcept rfl⟩

theorem can_requireWorkflow (runId : RunId) :
    (requireWorkflow runId).Can (committingAnswers run current clock) (· = .ok run) := by
  have asked : (approvalOp (.runGet runId)).Can (committingAnswers run current clock)
      (· = .ok run.toRun) := by
    apply can_approvalOp
    constructor
    · intro value same
      cases same
      rfl
    · intro impossible
      cases impossible
  apply asked.bind
  apply can_ofExcept
  obtain ⟨workflow, made⟩ := Run.asWorkflow_of_kind run.isWorkflow (coreError .invalidRequest
    "approval_requires_workflow_run" "approval coordination requires a WorkflowRun")
  rw [made, WorkflowRun.eq_of_toRun (Run.asWorkflow_ok made)]

theorem reaches_decisionOperation {call : AuthorizedCall}
    (constraints : call.grant.constraints = decisionConstraints submission.decision) :
    (decisionOperation submission run call).Reaches (committingAnswers run current clock)
      (CommitsDecision submission) := by
  have scalar : ∀ field ∈ decisionConstraints submission.decision,
      field.2.equalsScalar field.2 = true := by
    simp [decisionConstraints, JsonValue.equalsScalar]
  have kept : ensure (CheckpointGateway.sameConstraints call.grant.constraints
      (decisionConstraints submission.decision))
      (coreError .denied "invalid_grant" "approval grant changed decision identity") = .ok () := by
    rw [constraints, CheckpointGateway.sameConstraints_self scalar]
    rfl
  apply passed_reaches kept
  · apply Reaches.bind
    have committed : committingAnswers run current clock (.call (.checkpointSave
        submission.provider submission.checkpoint submission.expectedRunVersion call.context))
        (.ok run) := ⟨trivial, fun _ => ⟨run, rfl⟩⟩
    exact reaches_perform committed ⟨call.context, rfl⟩

theorem reaches_decide (pending : Pending submission run current state)
    (admits : Admits coordinator submission run state clock) :
    (coordinator.decide submission).Reaches (committingAnswers run current clock)
      (CommitsDecision submission) := by
  have loads : ∀ marker, (approvalOp (.checkpointLoad submission.provider marker run.runId
      run.scope submission.context)).Can (committingAnswers run current clock)
      (· = .ok current) := by
    intro marker
    apply can_approvalOp
    constructor
    · intro value same
      cases same
      rfl
    · intro impossible
      cases impossible
  obtain ⟨marker, marked⟩ := pending.marked
  apply (can_requireWorkflow _).bind_reaches
  rw [marked]
  apply (loads marker).bind_reaches
  apply passed_reaches pending.found
  rw [pending.undecided]
  have waiting : ensure (run.status == .waitingApproval)
      (coreError .conflict "approval_decision_state_invalid"
        "WorkflowRun is not waiting for approval") = .ok () := by
    simpa using admits.waiting
  have version : ensure (run.stateVersion == submission.expectedRunVersion)
      RunStateMachine.staleStateVersion = .ok () := by
    simpa using admits.version
  apply passed_reaches waiting
  apply passed_reaches version
  apply passed_reaches admits.valid
  apply GatewayDispatch.reaches_dispatch
  · intro token
    exact ⟨⟨false, rfl⟩, quiet_of_not_commits rfl⟩
  · intro deadline given
    exact ⟨clock, ⟨⟨clock, Nat.le_refl _, rfl⟩, quiet_of_not_commits rfl⟩,
      admits.timely deadline given⟩
  · exact ⟨trivial, quiet_of_not_commits rfl⟩
  · intro grant
    exact ⟨trivial, quiet_of_not_commits rfl⟩
  · exact admits.governed
  · exact admits.known
  · intro call constraints _
    exact reaches_decisionOperation constraints

theorem records_of_admits (pending : Pending submission run current state)
    (admits : Admits coordinator submission run state clock) :
    ∃ program trace, Steps (recording (approvalAnswers run current clock)) WorkflowRun
      (coordinator.decide submission, []) (program, trace) ∧ Records submission trace := by
  obtain ⟨program, trace, steps, event, member, ⟨context, comes⟩, permitted⟩ :=
    (reaches_decide pending admits).steps []
  obtain ⟨op, outcome⟩ := event
  cases comes
  obtain ⟨committed, same⟩ := permitted.2 rfl
  have answered : outcome = .ok committed := same
  rw [answered] at member
  have run := steps.widen fun _ _ permitted => permitted.1
  exact ⟨program, trace, run, _, member, context, committed, rfl⟩

/-- Decisions are recorded in time only, if and only if the approval has not expired by the clock or
the submission is not admitted. -/
theorem decide_respects_expiry_iff (pending : Pending submission run current state) :
    RespectsExpiry coordinator submission run current state clock ↔
      Unexpired state clock ∨ ¬Admits coordinator submission run state clock := by
  constructor
  · intro respects
    by_cases admits : Admits coordinator submission run state clock
    · left
      obtain ⟨program, trace, steps, recorded⟩ := records_of_admits pending admits
      exact respects program trace steps recorded
    · exact .inr admits
  · intro condition program trace steps recorded
    have admits := admits_of_records pending steps recorded
    rcases condition with early | refused
    · exact early
    · exact absurd admits refused

/-- A decision that does not state a time before the clock is recorded in time only. -/
theorem decide_respects_of_honest (pending : Pending submission run current state)
    (honest : clock ≤ submission.decision.decidedAt) :
    RespectsExpiry coordinator submission run current state clock := by
  intro program trace steps recorded expiry expires
  have admits := admits_of_records pending steps recorded
  exact Nat.lt_of_le_of_lt honest (validateDecision_unexpired admits.valid expires)

open SampleParameters

def sampleNode : NodeId := ⟨"node-1", by decide⟩

def samplePrompt : CheckpointReference where
  resourceType := "prompt"
  resource := ⟨"core", "prompt", ⟨"approval-prompt", by decide⟩, none, by decide, by decide, nofun⟩
  scope := sampleScope
  version := none
  trimmed := ⟨by decide, nofun⟩

def sampleExpiry : DateTime := ⟨2024, 1, 1, 1, 0, 0, 0, by decide⟩

/-- A time after the approval has expired. -/
def sampleLate : DateTime := ⟨2024, 1, 1, 2, 0, 0, 0, by decide⟩

def sampleApproval : ApprovalRequest where
  approvalId := ⟨"approval-1", by decide⟩
  runId := sampleRunId
  nodeId := sampleNode
  correlationId := ⟨"approval-correlation", by decide⟩
  scope := sampleScope
  allowedOutcomes := [.approved, .rejected]
  expiresAt := some sampleExpiry
  promptRef := samplePrompt
  outcomes := by decide
  narrower := by decide

/-- It states that it was made before the approval expired. -/
def sampleDecision : ApprovalDecision where
  approvalId := sampleApproval.approvalId
  runId := sampleRunId
  nodeId := sampleNode
  correlationId := sampleApproval.correlationId
  scope := sampleScope
  actor := samplePrincipal
  outcome := .approved
  decidedAt := sampleTime

def sampleDecided : ApprovalCheckpointState := ⟨sampleApproval, some sampleDecision, by decide⟩

def sampleWaiting : WorkflowRun where
  toRun := { sampleRun with
    kind := .workflow { sampleWorkflow with latestCheckpointRef := some sampleFields.checkpointId }
    status := .waitingApproval
    checked := by decide +kernel }
  workflow := { sampleWorkflow with latestCheckpointRef := some sampleFields.checkpointId }
  isWorkflow := rfl

def samplePendingFields : CheckpointFields :=
  { sampleFields with approvals := [.pending sampleApproval] }

/-- The checkpoint that the run waits at. -/
def samplePending : Checkpoint where
  toCheckpointFields := samplePendingFields
  integrity := samplePendingFields.integrityData.sha256
  checked := by decide +kernel

def sampleDecidedFields : CheckpointFields :=
  { samplePendingFields with
    checkpointId := ⟨"checkpoint-2", by decide⟩
    sequence := 2
    previousCheckpointRef := some sampleFields.checkpointId
    approvals := [sampleDecided] }

def sampleSubmission : ApprovalSubmission where
  provider := sampleProvider
  decision := sampleDecision
  checkpoint := {
    toCheckpointFields := sampleDecidedFields
    integrity := sampleDecidedFields.integrityData.sha256
    checked := by decide +kernel }
  expectedRunVersion := 1
  context := sampleContext

def sampleApprovals : ApprovalCoordinator := ⟨⟨[approvalDecideAction], true⟩⟩

theorem sampleSubmission_pending :
    Pending sampleSubmission sampleWaiting samplePending (.pending sampleApproval) where
  marked := ⟨_, rfl⟩
  found := by decide +kernel
  undecided := rfl

theorem sampleSubmission_admitted : Admits sampleApprovals sampleSubmission sampleWaiting
    (.pending sampleApproval) sampleLate where
  waiting := rfl
  version := rfl
  valid := by decide +kernel
  governed := rfl
  known := List.mem_singleton.mpr rfl
  timely _ impossible := by cases impossible

theorem decide_respects_expiry_sample :
    RespectsExpiry sampleApprovals sampleSubmission sampleWaiting samplePending
      (.pending sampleApproval) sampleTime := by
  apply (decide_respects_expiry_iff sampleSubmission_pending).mpr
  left
  intro expiry expires
  cases expires
  decide

/-- A decision that states a time of its own choice is recorded after the approval expired. -/
theorem decides_expired : ¬RespectsExpiry sampleApprovals sampleSubmission sampleWaiting
    samplePending (.pending sampleApproval) sampleLate := by
  intro respects
  obtain ⟨program, trace, steps, recorded⟩ :=
    records_of_admits sampleSubmission_pending sampleSubmission_admitted
  have early : sampleLate < sampleExpiry := respects program trace steps recorded _ rfl
  exact absurd early (by decide)

end ApprovalCoordinator

end CongeriesCore
