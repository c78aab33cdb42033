import CongeriesCore.PolicyAuthorization
import CongeriesCore.RuntimeRun

/-! # Checkpoints and approvals

Immutable checkpoint contracts. What a constructor checks is a field of the value it
builds; the digest of a checkpoint covers everything but the digest itself. -/

namespace CongeriesCore

inductive NodeOutcome
  | succeeded
  | failed
  | denied
  | timedOut
  | cancelled
  | waitingApproval
  | retryScheduled
  deriving DecidableEq, Repr

def NodeOutcome.value : NodeOutcome → String
  | .succeeded => "succeeded"
  | .failed => "failed"
  | .denied => "denied"
  | .timedOut => "timed_out"
  | .cancelled => "cancelled"
  | .waitingApproval => "waiting_approval"
  | .retryScheduled => "retry_scheduled"

inductive SideEffectOutcome
  | succeeded
  | failed
  deriving DecidableEq, Repr

def SideEffectOutcome.value : SideEffectOutcome → String
  | .succeeded => "succeeded"
  | .failed => "failed"

inductive ApprovalOutcome
  | approved
  | rejected
  | cancelled
  deriving DecidableEq, Repr

def ApprovalOutcome.value : ApprovalOutcome → String
  | .approved => "approved"
  | .rejected => "rejected"
  | .cancelled => "cancelled"

structure CheckpointReference where
  resourceType : String
  resource : ResourceRef
  scope : ScopeRef
  version : Option String
  trimmed : isTrimmed resourceType = true ∧ ∀ value ∈ version, isTrimmed value = true
  deriving DecidableEq, Repr

namespace CheckpointReference

def identity (reference : CheckpointReference) :
    String × (String × String × String) × ScopeKey × Option String :=
  (reference.resourceType, reference.resource.key, reference.scope.key, reference.version)

def toData (reference : CheckpointReference) : JsonValue :=
  .obj [("resource_type", .str reference.resourceType), ("resource", reference.resource.toData),
    ("scope", reference.scope.toData), ("version", .ofOption .str reference.version)]

end CheckpointReference

structure ApprovalRequest where
  approvalId : ApprovalId
  runId : RunId
  nodeId : NodeId
  correlationId : CorrelationId
  scope : ScopeRef
  allowedOutcomes : List ApprovalOutcome
  expiresAt : Option DateTime
  promptRef : CheckpointReference
  outcomes : allowedOutcomes ≠ [] ∧ allowedOutcomes.Nodup
  narrower : promptRef.scope.isEqualOrDescendantOf scope = true
  deriving DecidableEq, Repr

def ApprovalRequest.toData (request : ApprovalRequest) : JsonValue :=
  .obj [("approval_id", .str request.approvalId.value), ("run_id", .str request.runId.value),
    ("node_id", .str request.nodeId.value), ("correlation_id", .str request.correlationId.value),
    ("scope", request.scope.toData),
    ("allowed_outcomes", .arr (request.allowedOutcomes.map fun outcome => .str outcome.value)),
    ("expires_at", .ofOption (fun time => .str time.isoformat) request.expiresAt),
    ("prompt_ref", request.promptRef.toData)]

structure ApprovalDecision where
  approvalId : ApprovalId
  runId : RunId
  nodeId : NodeId
  correlationId : CorrelationId
  scope : ScopeRef
  actor : RuntimePrincipal
  outcome : ApprovalOutcome
  decidedAt : DateTime
  deriving DecidableEq, Repr

def ApprovalDecision.toData (decision : ApprovalDecision) : JsonValue :=
  .obj [("approval_id", .str decision.approvalId.value), ("run_id", .str decision.runId.value),
    ("node_id", .str decision.nodeId.value), ("correlation_id", .str decision.correlationId.value),
    ("scope", decision.scope.toData), ("actor", decision.actor.toData),
    ("outcome", .str decision.outcome.value), ("decided_at", .str decision.decidedAt.isoformat)]

def ApprovalRequest.identity (request : ApprovalRequest) :
    ApprovalId × RunId × NodeId × CorrelationId :=
  (request.approvalId, request.runId, request.nodeId, request.correlationId)

def ApprovalDecision.identity (decision : ApprovalDecision) :
    ApprovalId × RunId × NodeId × CorrelationId :=
  (decision.approvalId, decision.runId, decision.nodeId, decision.correlationId)

/-- `ApprovalCheckpointState.__post_init__`. -/
def ApprovalCheckpointState.check (request : ApprovalRequest) :
    Option ApprovalDecision → Except Raised Unit
  | none => .ok ()
  | some decision => do
    requireValue (decision.identity == request.identity)
      "approval decision identity does not match request"
    requireValue (decision.scope.key == request.scope.key)
      "approval decision Scope does not match request"
    requireValue (request.allowedOutcomes.contains decision.outcome)
      "approval decision outcome is not allowed"

structure ApprovalCheckpointState where
  request : ApprovalRequest
  decision : Option ApprovalDecision
  checked : ApprovalCheckpointState.check request decision = .ok ()
  deriving DecidableEq, Repr

namespace ApprovalCheckpointState

def pending (request : ApprovalRequest) : ApprovalCheckpointState := ⟨request, none, rfl⟩

def decide (request : ApprovalRequest) (decision : ApprovalDecision) :
    Except Raised ApprovalCheckpointState :=
  match checked : check request (some decision) with
  | .ok () => .ok ⟨request, some decision, checked⟩
  | .error error => .error error

def toData (state : ApprovalCheckpointState) : JsonValue :=
  .obj [("request", state.request.toData),
    ("decision", .ofOption ApprovalDecision.toData state.decision)]

end ApprovalCheckpointState

structure NodeCheckpointState where
  nodeId : NodeId
  outcome : NodeOutcome
  outputRef : Option CheckpointReference
  errorRef : Option CheckpointReference
  approvalState : Option ApprovalCheckpointState
  valid : (outputRef = none ∨ errorRef = none) ∧ (outcome = .waitingApproval → approvalState ≠ none)
  deriving DecidableEq, Repr

def NodeCheckpointState.toData (state : NodeCheckpointState) : JsonValue :=
  .obj [("node_id", .str state.nodeId.value), ("outcome", .str state.outcome.value),
    ("output_ref", .ofOption CheckpointReference.toData state.outputRef),
    ("error_ref", .ofOption CheckpointReference.toData state.errorRef),
    ("approval_state", .ofOption ApprovalCheckpointState.toData state.approvalState)]

structure SideEffectRecord where
  operationRef : ResourceRef
  idempotencyKey : IdempotencyKey
  requestFingerprint : Sha256Digest
  resultRef : Option CheckpointReference
  outcome : SideEffectOutcome
  durable : outcome = .succeeded → resultRef ≠ none
  deriving DecidableEq, Repr

def SideEffectRecord.toData (record : SideEffectRecord) : JsonValue :=
  .obj [("operation_ref", record.operationRef.toData),
    ("idempotency_key", .str record.idempotencyKey.value),
    ("request_fingerprint", .str record.requestFingerprint.value),
    ("result_ref", .ofOption CheckpointReference.toData record.resultRef),
    ("outcome", .str record.outcome.value)]

structure CheckpointFields where
  checkpointId : CheckpointRef
  runId : RunId
  workflowId : WorkflowId
  definitionId : DefinitionId
  graphVersion : String
  scope : ScopeRef
  sequence : ℕ
  attempt : ℕ
  previousCheckpointRef : Option CheckpointRef
  nodeStates : List NodeCheckpointState
  pendingNodes : List NodeId
  externalRefs : List CheckpointReference
  sideEffects : List SideEffectRecord
  approvals : List ApprovalCheckpointState
  createdAt : DateTime
  deriving DecidableEq, Repr

def requireUnique {α : Type} [DecidableEq α] (values : List α) (fieldName : String) :
    Except Raised Unit :=
  requireValue values.Nodup (fieldName ++ " identities must be unique")

namespace CheckpointFields

/-- `approvals.get(approval_id) == state`. -/
def hasApproval (fields : CheckpointFields) (state : ApprovalCheckpointState) : Bool :=
  fields.approvals.find? (fun item => item.request.approvalId == state.request.approvalId) ==
    some state

def checkApproval (fields : CheckpointFields) (state : ApprovalCheckpointState) :
    Except Raised Unit := do
  requireValue (state.request.runId == fields.runId) "approval Run must match checkpoint Run"
  state.request.scope.requireNarrowerThan fields.scope

/-- `Checkpoint.__post_init__`; the contract version is the supported one. -/
def check (fields : CheckpointFields) : Except Raised Unit := do
  requireValue (isTrimmed fields.graphVersion) "checkpoint graph version is required"
  requireValue (1 ≤ fields.sequence && 1 ≤ fields.attempt)
    "checkpoint sequence and attempt must be positive"
  requireValue ((fields.sequence == 1) == fields.previousCheckpointRef.isNone)
    "only the first checkpoint may omit its predecessor"
  requireUnique (fields.nodeStates.map NodeCheckpointState.nodeId) "node state"
  requireUnique fields.pendingNodes "pending node"
  requireValue (fields.nodeStates.all fun state => !fields.pendingNodes.contains state.nodeId)
    "stable and pending node identities must be disjoint"
  requireUnique (fields.externalRefs.map CheckpointReference.identity) "external reference"
  requireUnique (fields.sideEffects.map fun record => record.operationRef.key)
    "side-effect operation"
  requireUnique (fields.sideEffects.map SideEffectRecord.idempotencyKey)
    "side-effect idempotency key"
  requireUnique (fields.approvals.map fun state => state.request.approvalId) "approval"
  requireValue (fields.nodeStates.all fun state => state.approvalState.all fields.hasApproval)
    "node approval state must match approvals collection"
  fields.externalRefs.forM fun reference => reference.scope.requireNarrowerThan fields.scope
  fields.approvals.forM fields.checkApproval

/-- `_integrity_data`: everything but the digest. -/
def integrityData (fields : CheckpointFields) : JsonValue :=
  .obj [("contract_version", .str "1"), ("checkpoint_id", .str fields.checkpointId.value),
    ("run_id", .str fields.runId.value), ("workflow_id", .str fields.workflowId.value),
    ("definition_id", .str fields.definitionId.value), ("graph_version", .str fields.graphVersion),
    ("scope", fields.scope.toData), ("sequence", .int fields.sequence),
    ("attempt", .int fields.attempt),
    ("previous_checkpoint_ref",
      .ofOption (fun reference => .str reference.value) fields.previousCheckpointRef),
    ("node_states", .arr (fields.nodeStates.map NodeCheckpointState.toData)),
    ("pending_nodes", .arr (fields.pendingNodes.map fun node => .str node.value)),
    ("external_refs", .arr (fields.externalRefs.map CheckpointReference.toData)),
    ("side_effects", .arr (fields.sideEffects.map SideEffectRecord.toData)),
    ("approvals", .arr (fields.approvals.map ApprovalCheckpointState.toData)),
    ("created_at", .str fields.createdAt.isoformat),
    ("integrity", .obj [("algorithm", .str "sha256")])]

end CheckpointFields

structure Checkpoint extends CheckpointFields where
  integrity : Sha256Digest
  checked : toCheckpointFields.check = .ok ()
  deriving DecidableEq, Repr

namespace Checkpoint

def ref (checkpoint : Checkpoint) : CheckpointRef := checkpoint.checkpointId

section

variable [Sha256]

def canonicalDigest (checkpoint : Checkpoint) : Sha256Digest := checkpoint.integrityData.sha256

def create (fields : CheckpointFields) : Except Raised Checkpoint :=
  match checked : fields.check with
  | .ok () => .ok ⟨fields, fields.integrityData.sha256, checked⟩
  | .error error => .error error

def checkpointIntegrityFailure : Raised :=
  coreError .protocolFailure "checkpoint_integrity_failure"
    "checkpoint integrity verification failed"

def verifyIntegrity (checkpoint : Checkpoint) : Except Raised Unit :=
  ensure (checkpoint.canonicalDigest == checkpoint.integrity) checkpointIntegrityFailure

theorem create_fields {fields : CheckpointFields} {checkpoint : Checkpoint}
    (created : create fields = .ok checkpoint) :
    checkpoint.toCheckpointFields = fields ∧ checkpoint.verifyIntegrity = .ok () := by
  unfold create at created
  split at created
  · cases created
    exact ⟨rfl, by simp [verifyIntegrity, canonicalDigest]⟩
  · cases created

end

end Checkpoint

/-- The same document: nothing but the digest and the order of keys may differ. -/
def SameContent (first second : Checkpoint) : Prop :=
  first.integrityData.canonical = second.integrityData.canonical

theorem ofOption_ref_canonical (reference : Option CheckpointRef) :
    (JsonValue.ofOption (fun item => .str item.value) reference).canonical =
      JsonValue.ofOption (fun item => .str item.value) reference := by
  cases reference with
  | none => rfl
  | some item => rfl

theorem ofOption_ref_injective {first second : Option CheckpointRef}
    (same : JsonValue.ofOption (fun item => .str item.value) first =
      JsonValue.ofOption (fun item => .str item.value) second) : first = second := by
  cases first with
  | none =>
    cases second with
    | none => rfl
    | some item => cases same
  | some item =>
    cases second with
    | none => cases same
    | some other =>
      simp only [JsonValue.ofOption, JsonValue.str.injEq] at same
      rw [Identifier.ext_value same]

theorem SameContent.fields {first second : Checkpoint} (same : SameContent first second) :
    first.runId = second.runId ∧ first.sequence = second.sequence ∧
      first.previousCheckpointRef = second.previousCheckpointRef := by
  unfold SameContent CheckpointFields.integrityData at same
  simp only [JsonValue.canonical, JsonValue.canonicalFields, JsonValue.insertField,
    String.reduceLT, if_true, if_false, JsonValue.obj.injEq, List.cons.injEq, Prod.mk.injEq,
    true_and, JsonValue.str.injEq, JsonValue.int.injEq, ofOption_ref_canonical] at same
  obtain ⟨-, -, -, -, -, -, -, -, -, previous, runId, -, sequence, -⟩ := same
  have sequence : first.sequence = second.sequence := by omega
  exact ⟨Identifier.ext_value runId, sequence, ofOption_ref_injective previous⟩

/-- What the constructor of a checkpoint guarantees of its parts. -/
structure CheckpointFields.WellFormed (fields : CheckpointFields) : Prop where
  first : fields.sequence = 1 ↔ fields.previousCheckpointRef = none
  uniqueNodes : (fields.nodeStates.map NodeCheckpointState.nodeId).Nodup
  uniquePending : fields.pendingNodes.Nodup
  disjoint : ∀ state ∈ fields.nodeStates, state.nodeId ∉ fields.pendingNodes
  uniqueEffects : (fields.sideEffects.map SideEffectRecord.idempotencyKey).Nodup
  uniqueApprovals : (fields.approvals.map fun state => state.request.approvalId).Nodup
  approvals : ∀ state ∈ fields.nodeStates, ∀ approval ∈ state.approvalState,
    approval ∈ fields.approvals

theorem CheckpointFields.wellFormed {fields : CheckpointFields} (checked : fields.check = .ok ()) :
    fields.WellFormed := by
  unfold CheckpointFields.check at checked
  obtain ⟨_, _, rest⟩ := bind_ok checked
  obtain ⟨_, _, rest⟩ := bind_ok rest
  obtain ⟨_, first, rest⟩ := bind_ok rest
  obtain ⟨_, nodes, rest⟩ := bind_ok rest
  obtain ⟨_, pending, rest⟩ := bind_ok rest
  obtain ⟨_, disjoint, rest⟩ := bind_ok rest
  obtain ⟨_, _, rest⟩ := bind_ok rest
  obtain ⟨_, _, rest⟩ := bind_ok rest
  obtain ⟨_, effects, rest⟩ := bind_ok rest
  obtain ⟨_, unique, rest⟩ := bind_ok rest
  obtain ⟨_, approvals, rest⟩ := bind_ok rest
  refine ⟨?_, ?_, ?_, ?_, ?_, ?_, ?_⟩
  · rw [requireValue_eq_ok, beq_iff_eq, Bool.eq_iff_iff, beq_iff_eq, Option.isNone_iff_eq_none] at first
    exact first
  · simpa [requireUnique] using nodes
  · simpa [requireUnique] using pending
  · simpa using disjoint
  · simpa [requireUnique] using effects
  · simpa [requireUnique] using unique
  · intro state member approval held
    simp only [requireValue_eq_ok, List.all_eq_true] at approvals
    have found := approvals state member
    rw [Option.mem_def.mp held] at found
    exact List.mem_of_find?_eq_some (by simpa [hasApproval] using found)

theorem Checkpoint.wellFormed (checkpoint : Checkpoint) : checkpoint.WellFormed :=
  CheckpointFields.wellFormed checkpoint.checked

end CongeriesCore
