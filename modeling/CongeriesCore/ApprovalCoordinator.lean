import CongeriesCore.CheckpointGateway
import CongeriesCore.GatewayDispatch

/-! # Approval coordination

An approval is requested and decided around the checkpoints of a run. What the coordinator asks
of the run service, of the checkpoint gateway and coordinator and of the publisher are operations
here, whose owners may answer anything. -/

namespace CongeriesCore

open AsyncProgram AsyncProgram.Program

inductive ApprovalOp
  | runGet (runId : RunId)
  | checkpointLoad (provider : ProviderId) (checkpointRef : CheckpointRef) (runId : RunId)
      (scope : ScopeRef) (context : RuntimeCallContext)
  | checkpointSave (provider : ProviderId) (checkpoint : Checkpoint) (expectedRunVersion : ℕ)
      (context : RuntimeCallContext)
  | approvalRequested (request : ApprovalRequest) (context : RuntimeCallContext)
  | approvalDecided (decision : ApprovalDecision) (context : RuntimeCallContext)
  | advance (runId : RunId) (expectedVersion : ℕ) (target : RunStatus)
  | fail (runId : RunId) (expectedVersion : ℕ) (error : ErrorDetail)
  | cancel (runId : RunId) (expectedVersion : ℕ)

abbrev ApprovalOp.Answer : ApprovalOp → Type
  | .runGet _ => Run
  | .checkpointLoad _ _ _ _ _ => Checkpoint
  | .checkpointSave _ _ _ _ => WorkflowRun
  | .approvalRequested _ _ | .approvalDecided _ _ => Unit
  | .advance _ _ _ | .fail _ _ _ | .cancel _ _ => Run

abbrev approvalInterface : Interface := ⟨ApprovalOp, ApprovalOp.Answer⟩

abbrev ApprovalProgram := GatewayProgram approvalInterface

abbrev approvalOp (op : ApprovalOp) : ApprovalProgram op.Answer :=
  @providerOp approvalInterface op

structure ApprovalCoordinator where
  authorization : GatewayAuthorization

/-- The arguments of `ApprovalCoordinator.decide`. -/
structure ApprovalSubmission where
  provider : ProviderId
  decision : ApprovalDecision
  checkpoint : Checkpoint
  expectedRunVersion : ℕ
  context : RuntimeCallContext

namespace ApprovalCoordinator

/-- `_require_workflow`. -/
def requireWorkflow (runId : RunId) : ApprovalProgram WorkflowRun := do
  let run ← approvalOp (.runGet runId)
  ofExcept (run.asWorkflow (coreError .invalidRequest "approval_requires_workflow_run"
    "approval coordination requires a WorkflowRun"))

/-- `_find_approval`. -/
def findApproval (checkpoint : Checkpoint) (approvalId : ApprovalId) :
    Except Raised ApprovalCheckpointState :=
  match checkpoint.approvals.filter fun item => item.request.approvalId == approvalId with
  | [state] => .ok state
  | _ => .error (coreError .invalidRequest "approval_not_found"
      "checkpoint does not contain the approval identity")

/-- `_validate_request`; the clock is read only where the request expires. -/
def validateRequest (request : ApprovalRequest) (checkpoint : Checkpoint) (run : WorkflowRun)
    (context : RuntimeCallContext) : ApprovalProgram Unit := do
  ofExcept (ensure (request.runId == run.runId && request.scope.key == run.scope.key &&
      context.runId == run.runId && context.scope.key == run.scope.key)
    (coreError .invalidRequest "approval_request_identity_mismatch"
      "approval request does not match WorkflowRun ownership"))
  match request.expiresAt with
  | none => pure ()
  | some expiry => do
    let now ← RuntimeControl.now
    ofExcept (ensure (!decide (expiry ≤ now)) (coreError .denied "approval_request_expired"
      "approval request has expired"))
  let state ← ofExcept (findApproval checkpoint request.approvalId)
  ofExcept (ensure (state.request == request && state.decision.isNone)
    (coreError .invalidRequest "approval_checkpoint_invalid"
      "pre-approval checkpoint does not contain the pending request"))

/-- `_validate_decision`; the time of the decision is the one that it states itself. -/
def validateDecision (decision : ApprovalDecision) (request : ApprovalRequest)
    (checkpoint : Checkpoint) (run : WorkflowRun) (context : RuntimeCallContext) :
    Except Raised Unit := do
  ensure (request.identity == decision.identity) (coreError .denied "approval_identity_mismatch"
    "approval decision identity or correlation is invalid")
  ensure (decision.scope.key == request.scope.key && run.scope.key == request.scope.key &&
      context.runId == run.runId)
    (coreError .denied "approval_scope_mismatch" "approval decision Scope does not match request")
  ensure (request.allowedOutcomes.contains decision.outcome)
    (coreError .denied "approval_outcome_not_allowed"
      "approval outcome is not allowed by the request")
  ensure (request.expiresAt.all fun expiry => !decide (expiry ≤ decision.decidedAt))
    (coreError .denied "approval_decision_expired" "approval decision was made after expiration")
  let state ← findApproval checkpoint decision.approvalId
  ensure (state.request == request && state.decision == some decision)
    (coreError .invalidRequest "approval_checkpoint_invalid"
      "post-approval checkpoint does not contain the decision")

def requestApproval (provider : ProviderId) (request : ApprovalRequest) (checkpoint : Checkpoint)
    (expectedRunVersion : ℕ) (context : RuntimeCallContext) : ApprovalProgram WorkflowRun := do
  let run ← requireWorkflow request.runId
  ofExcept (ensure (run.status == .running) (coreError .conflict "approval_request_state_invalid"
    "approval may be requested only while WorkflowRun is RUNNING"))
  validateRequest request checkpoint run context
  let committed ← approvalOp (.checkpointSave provider checkpoint expectedRunVersion context)
  auditOrHandle (approvalOp (.approvalRequested request context))
    (fun runId detail => gatewayOp (.handleAuditFailure runId detail)) run.runId
  let waiting ← approvalOp (.advance run.runId committed.stateVersion .waitingApproval)
  ofExcept (waiting.asWorkflow
    (.assertion "approval wait transition did not return WorkflowRun"))

def decisionConstraints (decision : ApprovalDecision) : List (String × JsonValue) :=
  [("approval_id", .str decision.approvalId.value), ("run_id", .str decision.runId.value),
    ("node_id", .str decision.nodeId.value),
    ("correlation_id", .str decision.correlationId.value),
    ("outcome", .str decision.outcome.value)]

def decisionAccess (decision : ApprovalDecision) (context : RuntimeCallContext) :
    AccessRequest where
  principal := decision.actor
  action := approvalDecideAction
  resource := ⟨"core", "approval", ⟨decision.approvalId.value, decision.approvalId.checked⟩, none,
    by decide, by decide, nofun⟩
  scope := decision.scope
  context := context
  constraints := decisionConstraints decision

def approvalRejected : ErrorDetail where
  category := .denied
  code := "approval_rejected"
  message := "approval decision rejected execution"
  retryable := false
  causeId := none
  required := by decide

/-- What the decision makes of the run. -/
def concludeDecision (decision : ApprovalDecision) (runId : RunId) (version : ℕ) :
    ApprovalProgram Run :=
  match decision.outcome with
  | .approved => approvalOp (.advance runId version .running)
  | .rejected => approvalOp (.fail runId version approvalRejected)
  | .cancelled => approvalOp (.cancel runId version)

/-- `operation` of `decide`. -/
def decisionOperation (submission : ApprovalSubmission) (run : WorkflowRun)
    (call : AuthorizedCall) : ApprovalProgram WorkflowRun := do
  ofExcept (ensure (CheckpointGateway.sameConstraints call.grant.constraints
      (decisionConstraints submission.decision))
    (coreError .denied "invalid_grant" "approval grant changed decision identity"))
  let committed ← approvalOp (.checkpointSave submission.provider submission.checkpoint
    submission.expectedRunVersion call.context)
  auditOrHandle (approvalOp (.approvalDecided submission.decision call.context))
    (fun runId detail => gatewayOp (.handleAuditFailure runId detail)) run.runId
  let result ← concludeDecision submission.decision run.runId committed.stateVersion
  ofExcept (result.asWorkflow (.assertion "approval decision did not return WorkflowRun"))

/-- A first decision on a pending approval. -/
def recordDecision (coordinator : ApprovalCoordinator) (submission : ApprovalSubmission)
    (run : WorkflowRun) (state : ApprovalCheckpointState) : ApprovalProgram WorkflowRun := do
  ofExcept (ensure (run.status == .waitingApproval)
    (coreError .conflict "approval_decision_state_invalid"
      "WorkflowRun is not waiting for approval"))
  ofExcept (ensure (run.stateVersion == submission.expectedRunVersion)
    RunStateMachine.staleStateVersion)
  ofExcept (validateDecision submission.decision state.request submission.checkpoint run
    submission.context)
  coordinator.authorization.dispatcher.dispatch
    (decisionAccess submission.decision submission.context) (decisionOperation submission run)

def decide (coordinator : ApprovalCoordinator) (submission : ApprovalSubmission) :
    ApprovalProgram WorkflowRun := do
  let run ← requireWorkflow submission.decision.runId
  match run.latestCheckpointRef with
  | none => .raise (coreError .invalidRequest "approval_checkpoint_missing"
      "WorkflowRun has no approval checkpoint")
  | some marker => do
    let current ← approvalOp (.checkpointLoad submission.provider marker run.runId run.scope
      submission.context)
    let state ← ofExcept (findApproval current submission.decision.approvalId)
    match state.decision with
    | some decision =>
      if decision = submission.decision then pure run
      else .raise (coreError .conflict "approval_decision_conflict"
        "approval already has a different durable decision")
    | none => coordinator.recordDecision submission run state

end ApprovalCoordinator

end CongeriesCore
