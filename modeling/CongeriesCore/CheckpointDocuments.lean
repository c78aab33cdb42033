import CongeriesCore.CheckpointChain
import CongeriesCore.EncodedReferences
import CongeriesCore.JsonReading

/-! # Encoded checkpoints

`from_data` of a checkpoint and of its parts. Each decoder reads what was encoded, whatever order
the keys are in, so that the canonical encoding under the digest tells every field. -/

namespace CongeriesCore

open JsonValue

/-! ## References -/

namespace ScopeRef

theorem fromValue_reordered (scope : ScopeRef) {value : JsonValue}
    (reordered : Reordered scope.toData value) : fromValue value = .ok scope := by
  obtain ⟨key, ancestors, checked, shallow⟩ := scope
  induction ancestors generalizing key value with
  | nil =>
    obtain ⟨_, data, rfl, -⟩ := reordered.obj_inv
    have spells : data.Spells _ := ⟨by simp, reordered⟩
    have namespaceText : JsonFields.text data "namespace" = .ok key.namespace_ := spells.text rfl
    have kindText : JsonFields.text data "kind" = .ok key.kind := spells.text rfl
    have idText : JsonFields.text data "id" = .ok key.id := spells.text rfl
    have noParent : data.get "parent" = .null := (spells.get rfl).null_inv
    simp only [fromValue, parentOf_eq, noParent, isNone, if_true, namespaceText, kindText, idText,
      ok_bind]
    exact make_chain _ rfl rfl
  | cons parent ancestors ih =>
    obtain ⟨_, data, rfl, -⟩ := reordered.obj_inv
    have spells : data.Spells _ := ⟨by simp, reordered⟩
    have namespaceText : JsonFields.text data "namespace" = .ok key.namespace_ := spells.text rfl
    have kindText : JsonFields.text data "kind" = .ok key.kind := spells.text rfl
    have idText : JsonFields.text data "id" = .ok key.id := spells.text rfl
    have outer : ∀ scope ∈ parent :: ancestors, scope.check = .ok () := fun scope member =>
      checked scope (List.mem_cons_of_mem _ member)
    have above : Reordered (chainToData (parent :: ancestors)) (data.get "parent") := spells.get rfl
    have inner := ih parent outer (Nat.le_of_succ_le shallow) above
    obtain ⟨_, upper, isObject, -⟩ := above.obj_inv
    rw [isObject] at inner
    simp only [fromValue, parentOf_eq, isObject, isNone, inner, namespaceText, kindText, idText,
      ok_bind]
    exact make_chain _ rfl rfl

theorem decodes : Decodes fromData toData where
  object _ := ⟨_, rfl⟩
  reads scope _ reordered := fromValue_reordered scope reordered

end ScopeRef

namespace ResourceRef

/-- The constructor call: raises what `__post_init__` raises. -/
def make (namespace_ kind : String) (id : ResourceId) (owningExtension : Option String) :
    Except Raised ResourceRef :=
  if namespaced : isName namespace_ = true then
    if kinded : isName kind = true then
      if owned : ∀ extension ∈ owningExtension, isName extension = true then
        .ok ⟨namespace_, kind, id, owningExtension, namespaced, kinded, owned⟩
      else .error (.value "owning extension is invalid")
    else .error (.value "resource kind is invalid")
  else .error (.value "resource namespace is invalid")

def fromData (data : JsonFields) : Except Raised ResourceRef := do
  let namespace_ ← data.text "namespace"
  let kind ← data.text "kind"
  let id ← data.id .resource "id"
  let owningExtension ← data.textUnlessNone "owning_extension"
  make namespace_ kind id owningExtension

theorem decodes : Decodes fromData toData where
  object _ := ⟨_, rfl⟩
  reads resource data reordered := by
    have spells : data.Spells _ := ⟨by simp, reordered⟩
    have namespaceText : JsonFields.text data "namespace" = .ok resource.namespace_ :=
      spells.text rfl
    have kindText : JsonFields.text data "kind" = .ok resource.kind := spells.text rfl
    have id : JsonFields.id .resource data "id" = .ok resource.id := spells.id rfl
    have owner : JsonFields.textUnlessNone data "owning_extension" = .ok resource.owningExtension :=
      spells.textUnlessNone rfl
    rw [fromData, namespaceText, kindText, id, owner]
    change make _ _ _ _ = _
    rw [make, dif_pos resource.named.1, dif_pos resource.named.2.1, dif_pos resource.named.2.2]

end ResourceRef

namespace RuntimePrincipal

theorem decodes : Decodes fromData toData where
  object _ := ⟨_, rfl⟩
  reads principal data reordered := by
    have spells : data.Spells _ := ⟨by simp, reordered⟩
    have namespaceText : JsonFields.text data "namespace" = .ok principal.namespace_ :=
      spells.text rfl
    have kindText : JsonFields.text data "kind" = .ok principal.kind := spells.text rfl
    have id : JsonFields.id .principal data "id" = .ok principal.id := spells.id rfl
    rw [fromData, namespaceText, kindText, id]
    change make _ _ _ = _
    rw [make, dif_pos principal.named.1, dif_pos principal.named.2]

end RuntimePrincipal

namespace CheckpointReference

def make (resourceType : String) (resource : ResourceRef) (scope : ScopeRef)
    (version : Option String) : Except Raised CheckpointReference :=
  if typed : isTrimmed resourceType = true then
    if versioned : ∀ value ∈ version, isTrimmed value = true then
      .ok ⟨resourceType, resource, scope, version, typed, versioned⟩
    else .error (.value "checkpoint reference version must be non-empty and trimmed")
  else .error (.value "checkpoint reference type must be non-empty and trimmed")

def fromData (data : JsonFields) : Except Raised CheckpointReference := do
  data.requireKeys ["resource_type", "resource", "scope", "version"] "checkpoint reference"
  let resourceType ← data.text "resource_type"
  let resource ← data.nested "resource" "resource" ResourceRef.fromData
  let scope ← data.nested "scope" "reference scope" ScopeRef.fromData
  let version ← data.textUnlessNone "version"
  make resourceType resource scope version

theorem decodes : Decodes fromData toData where
  object _ := ⟨_, rfl⟩
  reads reference data reordered := by
    have spells : data.Spells _ := ⟨by simp, reordered⟩
    have keys : JsonFields.requireKeys data ["resource_type", "resource", "scope", "version"]
        "checkpoint reference" = .ok () := spells.requireKeys
    have typeText : JsonFields.text data "resource_type" = .ok reference.resourceType :=
      spells.text rfl
    have resource : JsonFields.nested data "resource" "resource" ResourceRef.fromData =
        .ok reference.resource := spells.nested ResourceRef.decodes rfl
    have scope : JsonFields.nested data "scope" "reference scope" ScopeRef.fromData =
        .ok reference.scope := spells.nested ScopeRef.decodes rfl
    have version : JsonFields.textUnlessNone data "version" = .ok reference.version :=
      spells.textUnlessNone rfl
    rw [fromData, keys, typeText, resource, scope, version]
    change make _ _ _ _ = _
    rw [make, dif_pos reference.trimmed.1, dif_pos reference.trimmed.2]

end CheckpointReference

/-! ## Approvals -/

/-- `ApprovalOutcome(value)`. -/
def ApprovalOutcome.ofValue (value : String) : Except Raised ApprovalOutcome :=
  match value with
  | "approved" => .ok .approved
  | "rejected" => .ok .rejected
  | "cancelled" => .ok .cancelled
  | _ => .error (.value "not a valid ApprovalOutcome")

theorem ApprovalOutcome.ofValue_value (outcome : ApprovalOutcome) :
    ofValue outcome.value = .ok outcome := by
  cases outcome <;> rfl

/-- `ApprovalOutcome(str(item))`. -/
def ApprovalOutcome.read (item : JsonValue) : Except Raised ApprovalOutcome := do
  ofValue (← item.asText)

theorem ApprovalOutcome.read_reordered (outcome : ApprovalOutcome) (item : JsonValue)
    (reordered : Reordered (.str outcome.value) item) : read item = .ok outcome := by
  rw [reordered.str_inv]
  exact ofValue_value outcome

theorem DateTime.isoformat_written (time : DateTime) :
    time.isoformat ≠ "" ∧ fromIsoformat time.isoformat = .ok time :=
  ⟨time.isoformat_ne_empty, time.fromIsoformat_isoformat⟩

namespace ApprovalRequest

def make (approvalId : ApprovalId) (runId : RunId) (nodeId : NodeId) (correlationId : CorrelationId)
    (scope : ScopeRef) (allowedOutcomes : List ApprovalOutcome) (expiresAt : Option DateTime)
    (promptRef : CheckpointReference) : Except Raised ApprovalRequest :=
  if given : allowedOutcomes ≠ [] then
    if unique : allowedOutcomes.Nodup then
      match narrower : promptRef.scope.requireNarrowerThan scope with
      | .ok () => .ok ⟨approvalId, runId, nodeId, correlationId, scope, allowedOutcomes, expiresAt,
          promptRef, ⟨given, unique⟩, ScopeRef.requireNarrowerThan_eq_ok.mp narrower⟩
      | .error error => .error error
    else .error (.value "approval outcomes must be unique")
  else .error (.value "approval requires at least one allowed outcome")

def fromData (data : JsonFields) : Except Raised ApprovalRequest := do
  let outcomes ← data.each "allowed_outcomes" "approval outcomes" ApprovalOutcome.read
  let approvalId ← data.id .approval "approval_id"
  let runId ← data.id .run "run_id"
  let nodeId ← data.id .node "node_id"
  let correlationId ← data.id .correlation "correlation_id"
  let scope ← data.nested "scope" "approval scope" ScopeRef.fromData
  let expiresAt ← data.textIf "expires_at" DateTime.fromIsoformat
  let promptRef ← data.nested "prompt_ref" "approval prompt reference" CheckpointReference.fromData
  make approvalId runId nodeId correlationId scope outcomes expiresAt promptRef

theorem decodes : Decodes fromData toData where
  object _ := ⟨_, rfl⟩
  reads request data reordered := by
    have spells : data.Spells _ := ⟨by simp, reordered⟩
    have outcomes : JsonFields.each data "allowed_outcomes" "approval outcomes"
        ApprovalOutcome.read = .ok request.allowedOutcomes :=
      spells.each ApprovalOutcome.read_reordered rfl
    have approvalId : JsonFields.id .approval data "approval_id" = .ok request.approvalId :=
      spells.id rfl
    have runId : JsonFields.id .run data "run_id" = .ok request.runId := spells.id rfl
    have nodeId : JsonFields.id .node data "node_id" = .ok request.nodeId := spells.id rfl
    have correlationId : JsonFields.id .correlation data "correlation_id" =
        .ok request.correlationId := spells.id rfl
    have scope : JsonFields.nested data "scope" "approval scope" ScopeRef.fromData =
        .ok request.scope := spells.nested ScopeRef.decodes rfl
    have expiresAt : JsonFields.textIf data "expires_at" DateTime.fromIsoformat =
        .ok request.expiresAt := spells.textIf DateTime.isoformat_written rfl
    have promptRef : JsonFields.nested data "prompt_ref" "approval prompt reference"
        CheckpointReference.fromData = .ok request.promptRef :=
      spells.nested CheckpointReference.decodes rfl
    rw [fromData, outcomes, approvalId, runId, nodeId, correlationId, scope, expiresAt, promptRef]
    change make _ _ _ _ _ _ _ _ = _
    rw [make, dif_pos request.outcomes.1, dif_pos request.outcomes.2]
    split
    · rfl
    · rename_i broader
      rw [ScopeRef.requireNarrowerThan_eq_ok.mpr request.narrower] at broader
      cases broader

end ApprovalRequest

namespace ApprovalDecision

def fromData (data : JsonFields) : Except Raised ApprovalDecision := do
  let approvalId ← data.id .approval "approval_id"
  let runId ← data.id .run "run_id"
  let nodeId ← data.id .node "node_id"
  let correlationId ← data.id .correlation "correlation_id"
  let scope ← data.nested "scope" "decision scope" ScopeRef.fromData
  let actor ← data.nested "actor" "decision actor" RuntimePrincipal.fromData
  let outcome ← ApprovalOutcome.ofValue (← data.text "outcome")
  let decidedAt ← DateTime.fromIsoformat (← data.text "decided_at")
  return ⟨approvalId, runId, nodeId, correlationId, scope, actor, outcome, decidedAt⟩

theorem decodes : Decodes fromData toData where
  object _ := ⟨_, rfl⟩
  reads decision data reordered := by
    have spells : data.Spells _ := ⟨by simp, reordered⟩
    have approvalId : JsonFields.id .approval data "approval_id" = .ok decision.approvalId :=
      spells.id rfl
    have runId : JsonFields.id .run data "run_id" = .ok decision.runId := spells.id rfl
    have nodeId : JsonFields.id .node data "node_id" = .ok decision.nodeId := spells.id rfl
    have correlationId : JsonFields.id .correlation data "correlation_id" =
        .ok decision.correlationId := spells.id rfl
    have scope : JsonFields.nested data "scope" "decision scope" ScopeRef.fromData =
        .ok decision.scope := spells.nested ScopeRef.decodes rfl
    have actor : JsonFields.nested data "actor" "decision actor" RuntimePrincipal.fromData =
        .ok decision.actor := spells.nested RuntimePrincipal.decodes rfl
    have outcome : JsonFields.text data "outcome" = .ok decision.outcome.value := spells.text rfl
    have decidedAt : JsonFields.text data "decided_at" = .ok decision.decidedAt.isoformat :=
      spells.text rfl
    rw [fromData, approvalId, runId, nodeId, correlationId, scope, actor, outcome, decidedAt]
    simp only [ok_bind, ApprovalOutcome.ofValue_value, DateTime.fromIsoformat_isoformat]
    rfl

end ApprovalDecision

namespace ApprovalCheckpointState

def make (request : ApprovalRequest) : Option ApprovalDecision →
    Except Raised ApprovalCheckpointState
  | none => .ok (pending request)
  | some decision => decide request decision

theorem make_self (state : ApprovalCheckpointState) :
    make state.request state.decision = .ok state := by
  obtain ⟨request, decision, checked⟩ := state
  cases decision with
  | none => rfl
  | some decision =>
    change decide request decision = _
    unfold decide
    split
    · rfl
    · rename_i refused
      rw [checked] at refused
      cases refused

def fromData (data : JsonFields) : Except Raised ApprovalCheckpointState := do
  let request ← data.nested "request" "approval request" ApprovalRequest.fromData
  let decision ← data.nestedIf "decision" "approval decision" ApprovalDecision.fromData
  make request decision

theorem decodes : Decodes fromData toData where
  object _ := ⟨_, rfl⟩
  reads state data reordered := by
    have spells : data.Spells _ := ⟨by simp, reordered⟩
    have request : JsonFields.nested data "request" "approval request" ApprovalRequest.fromData =
        .ok state.request := spells.nested ApprovalRequest.decodes rfl
    have decision : JsonFields.nestedIf data "decision" "approval decision"
        ApprovalDecision.fromData = .ok state.decision := spells.nestedIf ApprovalDecision.decodes rfl
    rw [fromData, request, decision]
    exact state.make_self

end ApprovalCheckpointState

/-! ## Node states and side effects -/

/-- `NodeOutcome(value)`. -/
def NodeOutcome.ofValue (value : String) : Except Raised NodeOutcome :=
  match value with
  | "succeeded" => .ok .succeeded
  | "failed" => .ok .failed
  | "denied" => .ok .denied
  | "timed_out" => .ok .timedOut
  | "cancelled" => .ok .cancelled
  | "waiting_approval" => .ok .waitingApproval
  | "retry_scheduled" => .ok .retryScheduled
  | _ => .error (.value "not a valid NodeOutcome")

theorem NodeOutcome.ofValue_value (outcome : NodeOutcome) : ofValue outcome.value = .ok outcome := by
  cases outcome <;> rfl

namespace NodeCheckpointState

def make (nodeId : NodeId) (outcome : NodeOutcome) (outputRef errorRef : Option CheckpointReference)
    (approvalState : Option ApprovalCheckpointState) : Except Raised NodeCheckpointState :=
  if single : outputRef = none ∨ errorRef = none then
    if waiting : outcome = .waitingApproval → approvalState ≠ none then
      .ok ⟨nodeId, outcome, outputRef, errorRef, approvalState, single, waiting⟩
    else .error (.value "waiting approval node requires approval state")
  else .error (.value "node state cannot have both output and error references")

def fromData (data : JsonFields) : Except Raised NodeCheckpointState := do
  let nodeId ← data.id .node "node_id"
  let outcome ← NodeOutcome.ofValue (← data.text "outcome")
  let outputRef ← data.nestedIf "output_ref" "node output" CheckpointReference.fromData
  let errorRef ← data.nestedIf "error_ref" "node error" CheckpointReference.fromData
  let approvalState ← data.nestedIf "approval_state" "node approval state"
    ApprovalCheckpointState.fromData
  make nodeId outcome outputRef errorRef approvalState

theorem decodes : Decodes fromData toData where
  object _ := ⟨_, rfl⟩
  reads state data reordered := by
    have spells : data.Spells _ := ⟨by simp, reordered⟩
    have nodeId : JsonFields.id .node data "node_id" = .ok state.nodeId := spells.id rfl
    have outcome : JsonFields.text data "outcome" = .ok state.outcome.value := spells.text rfl
    have outputRef : JsonFields.nestedIf data "output_ref" "node output"
        CheckpointReference.fromData = .ok state.outputRef :=
      spells.nestedIf CheckpointReference.decodes rfl
    have errorRef : JsonFields.nestedIf data "error_ref" "node error"
        CheckpointReference.fromData = .ok state.errorRef :=
      spells.nestedIf CheckpointReference.decodes rfl
    have approvalState : JsonFields.nestedIf data "approval_state" "node approval state"
        ApprovalCheckpointState.fromData = .ok state.approvalState :=
      spells.nestedIf ApprovalCheckpointState.decodes rfl
    rw [fromData, nodeId, outcome, outputRef, errorRef, approvalState]
    simp only [ok_bind, NodeOutcome.ofValue_value]
    rw [make, dif_pos state.valid.1, dif_pos state.valid.2]

end NodeCheckpointState

/-- `SideEffectOutcome(value)`. -/
def SideEffectOutcome.ofValue (value : String) : Except Raised SideEffectOutcome :=
  match value with
  | "succeeded" => .ok .succeeded
  | "failed" => .ok .failed
  | _ => .error (.value "not a valid SideEffectOutcome")

theorem SideEffectOutcome.ofValue_value (outcome : SideEffectOutcome) :
    ofValue outcome.value = .ok outcome := by
  cases outcome <;> rfl

/-- `_SHA256_PATTERN.fullmatch(value)`, or a `ValueError`. -/
def Sha256Digest.make (value message : String) : Except Raised Sha256Digest :=
  if matches_ : isSha256 value = true then .ok ⟨value, matches_⟩ else .error (.value message)

theorem Sha256Digest.make_self (digest : Sha256Digest) (message : String) :
    make digest.value message = .ok digest := dif_pos digest.matches_

namespace SideEffectRecord

def make (operationRef : ResourceRef) (idempotencyKey : IdempotencyKey)
    (requestFingerprint : Sha256Digest) (resultRef : Option CheckpointReference)
    (outcome : SideEffectOutcome) : Except Raised SideEffectRecord :=
  if durable : outcome = .succeeded → resultRef ≠ none then
    .ok ⟨operationRef, idempotencyKey, requestFingerprint, resultRef, outcome, durable⟩
  else .error (.value "successful side effect requires a durable result reference")

def fromData (data : JsonFields) : Except Raised SideEffectRecord := do
  let operationRef ← data.nested "operation_ref" "side-effect operation" ResourceRef.fromData
  let idempotencyKey ← data.id .idempotency "idempotency_key"
  let fingerprint ← data.text "request_fingerprint"
  let resultRef ← data.nestedIf "result_ref" "side-effect result" CheckpointReference.fromData
  let outcome ← SideEffectOutcome.ofValue (← data.text "outcome")
  let digest ← Sha256Digest.make fingerprint
    "side-effect request fingerprint must be lowercase SHA-256"
  make operationRef idempotencyKey digest resultRef outcome

theorem decodes : Decodes fromData toData where
  object _ := ⟨_, rfl⟩
  reads record data reordered := by
    have spells : data.Spells _ := ⟨by simp, reordered⟩
    have operationRef : JsonFields.nested data "operation_ref" "side-effect operation"
        ResourceRef.fromData = .ok record.operationRef := spells.nested ResourceRef.decodes rfl
    have idempotencyKey : JsonFields.id .idempotency data "idempotency_key" =
        .ok record.idempotencyKey := spells.id rfl
    have fingerprint : JsonFields.text data "request_fingerprint" =
        .ok record.requestFingerprint.value := spells.text rfl
    have resultRef : JsonFields.nestedIf data "result_ref" "side-effect result"
        CheckpointReference.fromData = .ok record.resultRef :=
      spells.nestedIf CheckpointReference.decodes rfl
    have outcome : JsonFields.text data "outcome" = .ok record.outcome.value := spells.text rfl
    rw [fromData, operationRef, idempotencyKey, fingerprint, resultRef, outcome]
    simp only [ok_bind, SideEffectOutcome.ofValue_value, Sha256Digest.make_self]
    exact dif_pos record.durable

end SideEffectRecord

/-! ## Checkpoints -/

namespace CheckpointFields

/-- What `to_data` writes, with this value under `integrity`. -/
def document (fields : CheckpointFields) (integrity : JsonValue) : JsonFields :=
  [("contract_version", .str "1"), ("checkpoint_id", .str fields.checkpointId.value),
    ("run_id", .str fields.runId.value), ("workflow_id", .str fields.workflowId.value),
    ("definition_id", .str fields.definitionId.value), ("graph_version", .str fields.graphVersion),
    ("scope", fields.scope.toData), ("sequence", .int fields.sequence),
    ("attempt", .int fields.attempt),
    ("previous_checkpoint_ref",
      .ofOption (fun reference => .str reference.value) fields.previousCheckpointRef),
    ("node_states", .arr (fields.nodeStates.map NodeCheckpointState.toData)),
    ("pending_nodes", .arr (fields.pendingNodes.map fun node => .str node.value)),
    ("external_refs", .arr (fields.externalRefs.map CheckpointReference.toData)),
    ("side_effects", .arr (fields.sideEffects.map SideEffectRecord.toData)),
    ("approvals", .arr (fields.approvals.map ApprovalCheckpointState.toData)),
    ("created_at", .str fields.createdAt.isoformat), ("integrity", integrity)]

/-- `NodeId(str(item))`. -/
def readNode (item : JsonValue) : Except Raised NodeId := do
  Identifier.make .node (← item.asText)

/-- The fields that `Checkpoint.from_data` gives to the constructor. A number that is not positive
is refused by it, whichever it is. -/
def fromData (data : JsonFields) : Except Raised CheckpointFields := do
  let checkpointId ← data.id .checkpoint "checkpoint_id"
  let runId ← data.id .run "run_id"
  let workflowId ← data.id .workflow "workflow_id"
  let definitionId ← data.id .definition "definition_id"
  let graphVersion ← data.text "graph_version"
  let scope ← data.nested "scope" "checkpoint scope" ScopeRef.fromData
  let sequence ← data.int "sequence" "checkpoint sequence"
  let attempt ← data.int "attempt" "checkpoint attempt"
  let previousCheckpointRef ← data.idIf .checkpoint "previous_checkpoint_ref"
  let nodeStates ← data.each "node_states" "node states"
    (JsonValue.readObject "node state" NodeCheckpointState.fromData)
  let pendingNodes ← data.each "pending_nodes" "pending nodes" readNode
  let externalRefs ← data.each "external_refs" "external references"
    (JsonValue.readObject "external reference" CheckpointReference.fromData)
  let sideEffects ← data.each "side_effects" "side effects"
    (JsonValue.readObject "side effect" SideEffectRecord.fromData)
  let approvals ← data.each "approvals" "approvals"
    (JsonValue.readObject "approval state" ApprovalCheckpointState.fromData)
  let createdAt ← DateTime.fromIsoformat (← data.text "created_at")
  return ⟨checkpointId, runId, workflowId, definitionId, graphVersion, scope, sequence.toNat,
    attempt.toNat, previousCheckpointRef, nodeStates, pendingNodes, externalRefs, sideEffects,
    approvals, createdAt⟩

theorem readNode_reordered (node : NodeId) (item : JsonValue)
    (reordered : Reordered (.str node.value) item) : readNode item = .ok node := by
  rw [reordered.str_inv]
  exact node.make_self

theorem document_nodup (fields : CheckpointFields) (integrity : JsonValue) :
    ((fields.document integrity).map Prod.fst).Nodup := by
  simp [document]

theorem fromData_spells {fields : CheckpointFields} {integrity : JsonValue} {data : JsonFields}
    (spells : data.Spells (fields.document integrity)) : fromData data = .ok fields := by
  have checkpointId : JsonFields.id .checkpoint data "checkpoint_id" = .ok fields.checkpointId :=
    spells.id rfl
  have runId : JsonFields.id .run data "run_id" = .ok fields.runId := spells.id rfl
  have workflowId : JsonFields.id .workflow data "workflow_id" = .ok fields.workflowId :=
    spells.id rfl
  have definitionId : JsonFields.id .definition data "definition_id" = .ok fields.definitionId :=
    spells.id rfl
  have graphVersion : JsonFields.text data "graph_version" = .ok fields.graphVersion :=
    spells.text rfl
  have scope : JsonFields.nested data "scope" "checkpoint scope" ScopeRef.fromData =
      .ok fields.scope := spells.nested ScopeRef.decodes rfl
  have sequence : JsonFields.int data "sequence" "checkpoint sequence" = .ok (fields.sequence : ℤ) :=
    spells.int rfl
  have attempt : JsonFields.int data "attempt" "checkpoint attempt" = .ok (fields.attempt : ℤ) :=
    spells.int rfl
  have previous : JsonFields.idIf .checkpoint data "previous_checkpoint_ref" =
      .ok fields.previousCheckpointRef := spells.idIf rfl
  have nodeStates : JsonFields.each data "node_states" "node states"
      (JsonValue.readObject "node state" NodeCheckpointState.fromData) = .ok fields.nodeStates :=
    spells.each (fun _ _ => NodeCheckpointState.decodes.readObject _) rfl
  have pendingNodes : JsonFields.each data "pending_nodes" "pending nodes" readNode =
      .ok fields.pendingNodes := spells.each readNode_reordered rfl
  have externalRefs : JsonFields.each data "external_refs" "external references"
      (JsonValue.readObject "external reference" CheckpointReference.fromData) =
      .ok fields.externalRefs := spells.each (fun _ _ => CheckpointReference.decodes.readObject _) rfl
  have sideEffects : JsonFields.each data "side_effects" "side effects"
      (JsonValue.readObject "side effect" SideEffectRecord.fromData) = .ok fields.sideEffects :=
    spells.each (fun _ _ => SideEffectRecord.decodes.readObject _) rfl
  have approvals : JsonFields.each data "approvals" "approvals"
      (JsonValue.readObject "approval state" ApprovalCheckpointState.fromData) =
      .ok fields.approvals :=
    spells.each (fun _ _ => ApprovalCheckpointState.decodes.readObject _) rfl
  have createdAt : JsonFields.text data "created_at" = .ok fields.createdAt.isoformat :=
    spells.text rfl
  rw [fromData, checkpointId, runId, workflowId, definitionId, graphVersion, scope, sequence,
    attempt, previous, nodeStates, pendingNodes, externalRefs, sideEffects, approvals, createdAt]
  simp only [ok_bind, DateTime.fromIsoformat_isoformat, Int.toNat_natCast]
  rfl

/-- What the digest covers tells every field. -/
theorem decodes : Decodes fromData integrityData where
  object _ := ⟨_, rfl⟩
  reads fields _ reordered := fromData_spells ⟨fields.document_nodup _, reordered⟩

/-- The fields depend on what stands under the other keys only. -/
theorem fromData_congr {data other : JsonFields}
    (same : ∀ key, key ≠ "integrity" → Dict.lookup key data = Dict.lookup key other) :
    fromData data = fromData other := by
  have item : ∀ key, key ≠ "integrity" → data.item key = other.item key := by
    intro key differs
    rw [JsonFields.item, JsonFields.item, same key differs]
  have get : ∀ key, key ≠ "integrity" → data.get key = other.get key := by
    intro key differs
    rw [JsonFields.get, JsonFields.get, same key differs]
  unfold fromData JsonFields.id JsonFields.idIf JsonFields.textIf JsonFields.nested JsonFields.object
    JsonFields.int JsonFields.each JsonFields.text
  simp (disch := decide) only [item, get]

end CheckpointFields

/-- What `CheckpointIntegrity.from_data` gives: the algorithm is always SHA-256. -/
def readIntegrity (data : JsonFields) : Except Raised Sha256Digest := do
  let algorithm ← data.text "algorithm"
  let digest ← data.text "digest"
  requireValue (algorithm == "sha256") "checkpoint integrity algorithm must be sha256"
  Sha256Digest.make digest "checkpoint digest must be lowercase SHA-256"

def writeIntegrity (digest : Sha256Digest) : JsonValue :=
  .obj [("algorithm", .str "sha256"), ("digest", .str digest.value)]

theorem readIntegrity_decodes : Decodes readIntegrity writeIntegrity where
  object _ := ⟨_, rfl⟩
  reads digest data reordered := by
    have spells : data.Spells _ := ⟨by simp, reordered⟩
    have algorithm : JsonFields.text data "algorithm" = .ok "sha256" := spells.text rfl
    have text : JsonFields.text data "digest" = .ok digest.value := spells.text rfl
    rw [readIntegrity, algorithm, text]
    exact digest.make_self _

namespace Checkpoint

def toFields (checkpoint : Checkpoint) : JsonFields :=
  checkpoint.document (writeIntegrity checkpoint.integrity)

def toData (checkpoint : Checkpoint) : JsonValue := .obj checkpoint.toFields

def documentKeys : List String :=
  ["contract_version", "checkpoint_id", "run_id", "workflow_id", "definition_id", "graph_version",
    "scope", "sequence", "attempt", "previous_checkpoint_ref", "node_states", "pending_nodes",
    "external_refs", "side_effects", "approvals", "created_at", "integrity"]

/-- The constructor call. -/
def make (contractVersion : String) (fields : CheckpointFields) (integrity : Sha256Digest) :
    Except Raised Checkpoint :=
  if contractVersion = "1" then
    match checked : fields.check with
    | .ok () => .ok ⟨fields, integrity, checked⟩
    | .error error => .error error
  else .error (.value "unsupported checkpoint contract version")

theorem make_ok {contractVersion : String} {fields : CheckpointFields} {integrity : Sha256Digest}
    {checkpoint : Checkpoint} (made : make contractVersion fields integrity = .ok checkpoint) :
    checkpoint.toCheckpointFields = fields ∧ checkpoint.integrity = integrity := by
  unfold make at made
  split at made
  · split at made
    · cases made
      exact ⟨rfl, rfl⟩
    · cases made
  · cases made

theorem make_self (checkpoint : Checkpoint) :
    make "1" checkpoint.toCheckpointFields checkpoint.integrity = .ok checkpoint := by
  rw [make, if_pos rfl]
  split
  · rfl
  · rename_i refused
    rw [checkpoint.checked] at refused
    cases refused

variable [Sha256]

def fromData (data : JsonFields) : Except Raised Checkpoint := do
  data.requireKeys documentKeys "checkpoint"
  let contractVersion ← data.text "contract_version"
  let fields ← CheckpointFields.fromData data
  let integrity ← data.nested "integrity" "checkpoint integrity" readIntegrity
  let checkpoint ← make contractVersion fields integrity
  checkpoint.verifyIntegrity
  return checkpoint

/-- A checkpoint whose digest is right is read back, in whatever order the keys are. -/
theorem fromData_reordered {checkpoint : Checkpoint} {data : JsonFields}
    (intact : checkpoint.verifyIntegrity = .ok ())
    (reordered : Reordered checkpoint.toData (.obj data)) : fromData data = .ok checkpoint := by
  have spells : data.Spells (checkpoint.document (writeIntegrity checkpoint.integrity)) :=
    ⟨checkpoint.document_nodup _, reordered⟩
  have keys : JsonFields.requireKeys data documentKeys "checkpoint" = .ok () := spells.requireKeys
  have contractVersion : JsonFields.text data "contract_version" = .ok "1" := spells.text rfl
  have integrity : JsonFields.nested data "integrity" "checkpoint integrity" readIntegrity =
      .ok checkpoint.integrity := spells.nested readIntegrity_decodes rfl
  rw [fromData, keys, contractVersion, CheckpointFields.fromData_spells spells, integrity]
  simp only [ok_bind, make_self, intact]
  rfl

theorem fromData_ok {checkpoint : Checkpoint} {data : JsonFields}
    (read : fromData data = .ok checkpoint) :
    CheckpointFields.fromData data = .ok checkpoint.toCheckpointFields ∧
      data.nested "integrity" "checkpoint integrity" readIntegrity = .ok checkpoint.integrity ∧
      checkpoint.verifyIntegrity = .ok () := by
  obtain ⟨_, _, read⟩ := bind_ok read
  obtain ⟨contractVersion, _, read⟩ := bind_ok read
  obtain ⟨fields, content, read⟩ := bind_ok read
  obtain ⟨integrity, digest, read⟩ := bind_ok read
  obtain ⟨made, make, read⟩ := bind_ok read
  obtain ⟨_, intact, done⟩ := bind_ok read
  obtain rfl := Except.ok.inj done
  obtain ⟨rfl, rfl⟩ := make_ok make
  exact ⟨content, digest, intact⟩

theorem digest_of_intact {checkpoint : Checkpoint} (intact : checkpoint.verifyIntegrity = .ok ()) :
    checkpoint.canonicalDigest = checkpoint.integrity := by
  rw [verifyIntegrity, ensure_eq_ok, beq_iff_eq] at intact
  exact intact

/-- Where the digest does not collide, intact checkpoints of one digest are equal. -/
theorem eq_of_integrity {documents : Checkpoint → Prop} (collisionFree : CollisionFree documents)
    {first second : Checkpoint} (listed : documents first) (listed' : documents second)
    (intact : first.verifyIntegrity = .ok ()) (intact' : second.verifyIntegrity = .ok ())
    (same : first.integrity = second.integrity) : first = second := by
  have digests : first.canonicalDigest = second.canonicalDigest := by
    rw [digest_of_intact intact, digest_of_intact intact', same]
  have content : SameContent first second := collisionFree first second listed listed' digests
  have fields := CheckpointFields.decodes.eq_of_canonical content
  cases first
  cases second
  simp_all

/-- Where the digest does not collide, what is read after a change under one key is the checkpoint
that was written. -/
theorem eq_of_changed {documents : Checkpoint → Prop} (collisionFree : CollisionFree documents)
    {checkpoint read : Checkpoint} (listed : documents checkpoint) (listed' : documents read)
    (intact : checkpoint.verifyIntegrity = .ok ()) {key : String} {data : JsonFields}
    (kept : ∀ other, other ≠ key → Dict.lookup other data = Dict.lookup other checkpoint.toFields)
    (decoded : fromData data = .ok read) : read = checkpoint := by
  obtain ⟨content, digest, intact'⟩ := fromData_ok decoded
  have written : checkpoint.toFields.Spells checkpoint.toFields :=
    ⟨checkpoint.document_nodup _, .same _⟩
  by_cases changed : key = "integrity"
  · -- the fields are read as they were written, and the digest is theirs
    subst changed
    have same := CheckpointFields.fromData_congr kept
    rw [content, CheckpointFields.fromData_spells written] at same
    have fields := Except.ok.inj same
    have digests : read.canonicalDigest = checkpoint.canonicalDigest :=
      congrArg (fun fields : CheckpointFields => fields.integrityData.sha256) fields
    rw [digest_of_intact intact', digest_of_intact intact] at digests
    cases read
    cases checkpoint
    simp_all
  · have held : JsonFields.nested checkpoint.toFields "integrity" "checkpoint integrity"
        readIntegrity = .ok checkpoint.integrity := written.nested readIntegrity_decodes rfl
    rw [JsonFields.nested, JsonFields.object, JsonFields.item] at digest held
    rw [kept "integrity" fun same => changed same.symm, held] at digest
    exact eq_of_integrity collisionFree listed' listed intact' intact (Except.ok.inj digest).symm

end Checkpoint

end CongeriesCore
