import CongeriesCore.CapabilityRules
import CongeriesCore.StateService

/-! # The checkpoint gateway

Authorized access to the checkpoint stores. A grant must carry the requested constraints
unchanged, except for a narrower limit of a listing. -/

namespace CongeriesCore

open AsyncProgram

theorem checkpointSave_named :
    isName "core" = true ∧ isName "checkpoint.save" = true ∧ isTrimmed "1" = true := by decide

def checkpointSaveAction : ActionRef := ⟨"core", "checkpoint.save", "1", checkpointSave_named⟩
def checkpointLoadAction : ActionRef := ⟨"core", "checkpoint.load", "1", checkpointSave_named⟩
def checkpointListAction : ActionRef := ⟨"core", "checkpoint.list", "1", checkpointSave_named⟩
def checkpointDeleteAction : ActionRef := ⟨"core", "checkpoint.delete", "1", checkpointSave_named⟩
def approvalDecideAction : ActionRef := ⟨"core", "approval.decide", "1", checkpointSave_named⟩

/-- The registry of stores holds one store, under `provider`. -/
structure CheckpointGateway where
  provider : ProviderId
  authorization : Authorization

namespace CheckpointGateway

abbrev Constraints := List (String × JsonValue)

theorem invalidGrant_required {message : String} (given : message ≠ "") :
    "invalid_grant" ≠ "" ∧ message ≠ "" := ⟨by decide, given⟩

def invalidGrant (message : String) (given : message ≠ "" := by decide) : Raised :=
  coreError .denied "invalid_grant" message (invalidGrant_required given)

/-- `dict(granted) == dict(requested)`. -/
def sameConstraints (granted requested : Constraints) : Bool :=
  granted.length == requested.length && requested.all fun field =>
    granted.any fun other => other.1 == field.1 && other.2.equalsScalar field.2

theorem sameConstraints_self {constraints : Constraints}
    (scalar : ∀ field ∈ constraints, field.2.equalsScalar field.2 = true) :
    sameConstraints constraints constraints = true := by
  simp only [sameConstraints, beq_self_eq_true, Bool.true_and, List.all_eq_true, List.any_eq_true]
  exact fun field member => ⟨field, member, by simp [scalar field member]⟩

def requireExactConstraints (granted requested : Constraints) : Except Raised Unit :=
  ensure (sameConstraints granted requested)
    (invalidGrant "checkpoint grant changed immutable constraints")

def request (provider : ProviderId) (action : ActionRef) (scope : ScopeRef) (context : RuntimeCallContext) (constraints : Constraints) : AccessRequest where
  principal := .core .run ⟨context.runId.value, context.runId_checked⟩
  action := action
  resource :=
    ⟨"core", "checkpoint_store", ⟨provider.value, provider.checked⟩, none, by decide, by decide, nofun⟩
  scope := scope
  context := context
  constraints := constraints

/-- `registry.get(provider_id)`. -/
def lookupStore (gateway : CheckpointGateway) (provider : ProviderId) : Except Raised Unit :=
  ensure (gateway.provider == provider) (retryableError .unavailable "checkpoint_store_unavailable"
    "CheckpointStore provider is not registered")

/-- `_invoke`: any other exception of the store becomes a `CoreError`. -/
def invoke {α : Type} (operation : CoreProgram α) (context : RuntimeCallContext) :
    CoreProgram α :=
  (context.awaitProvider operation).catching fun
    | .core detail => .raise (.core detail)
    | .cancelledError => .raise .cancelledError
    | _ => .raise (retryableError .unavailable "checkpoint_store_failure"
        "CheckpointStore operation failed")

section

variable [Sha256]

def saveConstraints (checkpoint : Checkpoint) : Constraints :=
  [("run_id", .str checkpoint.runId.value), ("workflow_id", .str checkpoint.workflowId.value),
    ("definition_id", .str checkpoint.definitionId.value),
    ("graph_version", .str checkpoint.graphVersion), ("sequence", .int checkpoint.sequence),
    ("previous_checkpoint_ref",
      .ofOption (fun reference => .str reference.value) checkpoint.previousCheckpointRef)]

def saveOperation (gateway : CheckpointGateway) (provider : ProviderId) (checkpoint : Checkpoint)
    (call : AuthorizedCall) : CoreProgram CheckpointRef := do
  Program.ofExcept (requireExactConstraints call.grant.constraints (saveConstraints checkpoint))
  Program.ofExcept (gateway.lookupStore provider)
  let result ← invoke (coreOp (.checkpointSave checkpoint call.context)) call.context
  Program.ofExcept (ensure (result == checkpoint.ref) (coreError .protocolFailure
    "invalid_checkpoint_save_result" "CheckpointStore returned an unexpected reference"))
  return result

def save (gateway : CheckpointGateway) (provider : ProviderId) (checkpoint : Checkpoint)
    (context : RuntimeCallContext) : CoreProgram CheckpointRef := do
  Program.ofExcept (checkpoint.scope.requireNarrowerThan context.scope)
  Program.ofExcept checkpoint.verifyIntegrity
  gateway.authorization.dispatcher.dispatch
    (request provider checkpointSaveAction checkpoint.scope context (saveConstraints checkpoint))
    (gateway.saveOperation provider checkpoint)

def identityConstraints (checkpointRef : CheckpointRef) (runId : RunId) : Constraints :=
  [("checkpoint_ref", .str checkpointRef.value), ("run_id", .str runId.value)]

def loadOperation (gateway : CheckpointGateway) (provider : ProviderId)
    (checkpointRef : CheckpointRef) (runId : RunId) (call : AuthorizedCall) :
    CoreProgram Checkpoint := do
  Program.ofExcept
    (requireExactConstraints call.grant.constraints (identityConstraints checkpointRef runId))
  Program.ofExcept (gateway.lookupStore provider)
  let result ← invoke (coreOp (.checkpointLoad checkpointRef call.context)) call.context
  Program.ofExcept (ensure (result.ref == checkpointRef && result.runId == runId &&
      result.scope.key == call.context.scope.key)
    (coreError .protocolFailure "checkpoint_identity_mismatch"
      "loaded checkpoint identity does not match the authorized request"))
  Program.ofExcept result.verifyIntegrity
  return result

def load (gateway : CheckpointGateway) (provider : ProviderId) (checkpointRef : CheckpointRef)
    (runId : RunId) (scope : ScopeRef) (context : RuntimeCallContext) : CoreProgram Checkpoint := do
  Program.ofExcept (scope.requireNarrowerThan context.scope)
  gateway.authorization.dispatcher.dispatch
    (request provider checkpointLoadAction scope context (identityConstraints checkpointRef runId))
    (gateway.loadOperation provider checkpointRef runId)

def listConstraints (query : CheckpointQuery) : Constraints :=
  [("run_id", .str query.runId.value), ("graph_version", .ofOption .str query.graphVersion),
    ("limit", .int query.limit)]

def constraint (granted : Constraints) (key : String) : Option JsonValue :=
  (granted.find? fun field => field.1 == key).map Prod.snd

omit [Sha256] in
theorem constrainedLimit (query : CheckpointQuery) {limit : ℤ}
    (bounded : 1 ≤ limit ∧ limit ≤ query.limit) : 1 ≤ limit.toNat ∧ limit.toNat ≤ 1000 ∧
      ∀ version ∈ query.graphVersion, version ≠ "" := by
  have limits := query.bounded
  exact ⟨by omega, by omega, limits.2.2⟩

/-- `_constrain_list`: the limit of the query under the grant. -/
def constrainList (query : CheckpointQuery) (granted : Constraints) :
    Except Raised CheckpointQuery := do
  ensure (granted.length == 3 && ["run_id", "graph_version", "limit"].all fun key =>
      (constraint granted key).isSome)
    (invalidGrant "checkpoint list grant has unknown or missing constraints")
  ensure ((constraint granted "run_id").any fun value => value.equalsScalar (.str query.runId.value))
    (invalidGrant "checkpoint list grant changed Run identity")
  ensure ((constraint granted "graph_version").any fun value =>
      value.equalsScalar (.ofOption .str query.graphVersion))
    (invalidGrant "checkpoint list grant changed graph version")
  match constraint granted "limit" with
  | some (.int limit) =>
    if bounded : 1 ≤ limit ∧ limit ≤ query.limit then
      ensure (query.cursor.isNone || limit == query.limit)
        (invalidGrant "checkpoint list cursor forbids limit drift")
      return { query with
        limit := limit.toNat
        bounded := constrainedLimit query bounded }
    else .error (invalidGrant "checkpoint list grant expanded limit")
  | _ => .error (invalidGrant "checkpoint list grant limit is malformed")

def itemMatches (query : CheckpointQuery) (item : Checkpoint) : Bool :=
  item.runId == query.runId && item.scope.key == query.scope.key &&
    query.graphVersion.all fun version => item.graphVersion == version

/-- The items of a page are checked one by one, each against the sequence before it. -/
def validateItems (query : CheckpointQuery) : Option ℕ → List Checkpoint → Except Raised Unit
  | _, [] => .ok ()
  | previousSequence, item :: items => do
    ensure (itemMatches query item) (coreError .protocolFailure "checkpoint_page_identity_mismatch"
      "CheckpointStore page escaped the authorized query")
    ensure (previousSequence.all fun sequence => item.sequence < sequence)
      (coreError .protocolFailure "checkpoint_page_order_invalid"
        "CheckpointStore page is not in descending sequence order")
    validateItems query (some item.sequence) items

def validatePage (page : CheckpointPage) (query : CheckpointQuery) : Except Raised Unit := do
  ensure (page.items.length ≤ query.limit) (coreError .protocolFailure
    "checkpoint_page_limit_exceeded" "CheckpointStore returned more items than requested")
  validateItems query none page.items
  ensure (page.nextCursor.all fun cursor =>
      cursor.providerId == query.providerId && cursor.runId == query.runId &&
        cursor.scope.key == query.scope.key && cursor.graphVersion == query.graphVersion &&
        cursor.limit == query.limit && cursor.queryFingerprint == query.queryFingerprint)
    (coreError .protocolFailure "checkpoint_cursor_identity_mismatch"
      "CheckpointStore returned a cursor for a different query")

def listOperation (gateway : CheckpointGateway) (query : CheckpointQuery) (call : AuthorizedCall) :
    CoreProgram CheckpointPage := do
  let effective ← Program.ofExcept (constrainList query call.grant.constraints)
  Program.ofExcept (gateway.lookupStore query.providerId)
  let result ← invoke (coreOp (.checkpointList effective call.context)) call.context
  Program.ofExcept (validatePage result effective)
  return result

def list (gateway : CheckpointGateway) (query : CheckpointQuery) (context : RuntimeCallContext) :
    CoreProgram CheckpointPage := do
  Program.ofExcept (query.scope.requireNarrowerThan context.scope)
  gateway.authorization.dispatcher.dispatch
    (request query.providerId checkpointListAction query.scope context (listConstraints query))
    (gateway.listOperation query)

end

def deleteOperation (gateway : CheckpointGateway) (value : DeleteCheckpointRequest)
    (call : AuthorizedCall) : CoreProgram DeleteCheckpointResult := do
  Program.ofExcept (requireExactConstraints call.grant.constraints
    (identityConstraints value.checkpointRef value.runId))
  Program.ofExcept (gateway.lookupStore value.providerId)
  let result ← invoke (coreOp (.checkpointDelete value call.context)) call.context
  Program.ofExcept (ensure (result.checkpointRef == value.checkpointRef)
    (coreError .protocolFailure "invalid_checkpoint_delete_result"
      "CheckpointStore returned an invalid delete result"))
  return result

def delete (gateway : CheckpointGateway) (value : DeleteCheckpointRequest)
    (context : RuntimeCallContext) : CoreProgram DeleteCheckpointResult := do
  Program.ofExcept (value.scope.requireNarrowerThan context.scope)
  gateway.authorization.dispatcher.dispatch
    (request value.providerId checkpointDeleteAction value.scope context
      (identityConstraints value.checkpointRef value.runId))
    (gateway.deleteOperation value)

end CheckpointGateway

/-- `_invoke` only renames exceptions. -/
theorem Routine.invoke {σ α : Type} {E : Environment CoreInterface Raised σ}
    {C : Contract CoreInterface σ} {dispatcher : AuthorizedDispatcher CoreInterface}
    {held unaudited failed : σ → Prop} {state : σ} {value : α → σ → Prop}
    (routine : Routine E C dispatcher held unaudited failed)
    (after : ∀ result, Routine E C dispatcher (value result) unaudited failed)
    (operation : CoreProgram α) (context : RuntimeCallContext)
    (run : ∀ current, held current → operation.Safe E C (Ends value failed) current)
    (start : held state) :
    (CheckpointGateway.invoke operation context).Safe E C (Ends value failed) state := by
  refine (routine.awaitProvider after operation context run start).catching
    (fun _ _ reached => reached) fun error last failing => ?_
  split
  · exact failing
  · exact failing
  · exact failing

section Gateway

variable [Sha256] {σ : Type} {E : Environment CoreInterface Raised σ}
  {C : Contract CoreInterface σ} {held unaudited failed : σ → Prop} {state : σ}
  {gateway : CheckpointGateway}

/-- A save establishes what the store call in it establishes. -/
theorem Routine.gatewaySave {value : CheckpointRef → σ → Prop}
    (routine : Routine E C gateway.authorization.dispatcher held unaudited failed)
    (after : ∀ result, Routine E C gateway.authorization.dispatcher (value result) unaudited failed)
    (provider : ProviderId) (checkpoint : Checkpoint) (context : RuntimeCallContext)
    (run : checkpoint.verifyIntegrity = .ok () → ∀ current context, held current →
      (coreOp (.checkpointSave checkpoint context)).Safe E C (Ends value failed) current)
    (start : held state) :
    (gateway.save provider checkpoint context).Safe E C (Ends value failed) state := by
  have weaken : ∀ {current : σ}, held current → failed current := fun kept => routine.weaken _ kept
  refine Program.safe_guarded (weaken start) fun _ _ => ?_
  refine Program.safe_guarded (weaken start) fun _ intact => ?_
  refine routine.dispatch _ _ (fun grant current kept => ?_) start
  refine Program.safe_guarded (weaken kept) fun _ _ => ?_
  refine Program.safe_guarded (weaken kept) fun _ _ => ?_
  refine (routine.invoke after _ _ (fun current kept => run intact current _ kept) kept).next
    fun result last reached => ?_
  exact Program.safe_guarded ((after result).weaken _ reached) fun _ _ => reached

theorem Routine.gatewayLoad {value : Checkpoint → σ → Prop}
    (routine : Routine E C gateway.authorization.dispatcher held unaudited failed)
    (after : ∀ result, Routine E C gateway.authorization.dispatcher (value result) unaudited failed)
    (provider : ProviderId) (reference : CheckpointRef) (runId : RunId) (scope : ScopeRef)
    (context : RuntimeCallContext)
    (run : ∀ current context, held current →
      (coreOp (.checkpointLoad reference context)).Safe E C (Ends value failed) current)
    (start : held state) :
    (gateway.load provider reference runId scope context).Safe E C (Ends value failed) state := by
  have weaken : ∀ {current : σ}, held current → failed current := fun kept => routine.weaken _ kept
  refine Program.safe_guarded (weaken start) fun _ _ => ?_
  refine routine.dispatch _ _ (fun grant current kept => ?_) start
  refine Program.safe_guarded (weaken kept) fun _ _ => ?_
  refine Program.safe_guarded (weaken kept) fun _ _ => ?_
  refine (routine.invoke after _ _ (fun current kept => run current _ kept) kept).next
    fun checkpoint last reached => ?_
  have failing := (after checkpoint).weaken last reached
  refine Program.safe_guarded failing fun _ _ => ?_
  exact Program.safe_guarded failing fun _ _ => reached

/-- What a grant of a listing must carry for the query. -/
structure Constrains (query : CheckpointQuery) (granted : CheckpointGateway.Constraints)
    (limit : ℤ) : Prop where
  complete : (granted.length == 3 && ["run_id", "graph_version", "limit"].all fun key =>
    (CheckpointGateway.constraint granted key).isSome) = true
  owned : ((CheckpointGateway.constraint granted "run_id").any fun value =>
    value.equalsScalar (.str query.runId.value)) = true
  versioned : ((CheckpointGateway.constraint granted "graph_version").any fun value =>
    value.equalsScalar (.ofOption .str query.graphVersion)) = true
  limited : CheckpointGateway.constraint granted "limit" = some (.int limit)
  between : 1 ≤ limit ∧ limit ≤ query.limit
  kept : query.cursor = none ∨ limit = query.limit

omit [Sha256] in
/-- The query under such a grant has the limit of the grant. -/
theorem constrainList_iff {query effective : CheckpointQuery}
    {granted : CheckpointGateway.Constraints} :
    CheckpointGateway.constrainList query granted = .ok effective ↔
      ∃ limit bounded, Constrains query granted limit ∧
        effective = { query with limit := limit.toNat, bounded := bounded } := by
  constructor
  · intro constrained
    obtain ⟨_, complete, rest⟩ := bind_ok constrained
    obtain ⟨_, owned, rest⟩ := bind_ok rest
    obtain ⟨_, versioned, rest⟩ := bind_ok rest
    split at rest
    · rename_i limit limited
      split at rest
      · rename_i between
        obtain ⟨_, kept, made⟩ := bind_ok rest
        cases made
        refine ⟨limit, _, ⟨ensure_eq_ok.mp complete, ensure_eq_ok.mp owned,
          ensure_eq_ok.mp versioned, limited, between, ?_⟩, rfl⟩
        simpa using kept
      · cases rest
    · cases rest
  · rintro ⟨limit, bounded, constrains, rfl⟩
    have kept : (query.cursor.isNone || limit == query.limit) = true := by
      simpa using constrains.kept
    unfold CheckpointGateway.constrainList
    rw [ensure_ok constrains.complete, ensure_ok constrains.owned, ensure_ok constrains.versioned,
      constrains.limited]
    dsimp only
    rw [dif_pos constrains.between, ensure_ok kept]
    rfl

/-- A listing awaits the store for the query under a grant. -/
theorem Routine.gatewayList {value : CheckpointPage → σ → Prop}
    (routine : Routine E C gateway.authorization.dispatcher held unaudited failed)
    (after : ∀ result, Routine E C gateway.authorization.dispatcher (value result) unaudited failed)
    (query : CheckpointQuery) (context : RuntimeCallContext)
    (run : ∀ current granted effective context,
      CheckpointGateway.constrainList query granted = .ok effective → held current →
      (coreOp (.checkpointList effective context)).Safe E C (Ends value failed) current)
    (start : held state) :
    (gateway.list query context).Safe E C (Ends value failed) state := by
  have weaken : ∀ {current : σ}, held current → failed current := fun kept => routine.weaken _ kept
  refine Program.safe_guarded (weaken start) fun _ _ => ?_
  refine routine.dispatch _ _ (fun grant current kept => ?_) start
  refine Program.safe_guarded (weaken kept) fun effective constrained => ?_
  refine Program.safe_guarded (weaken kept) fun _ _ => ?_
  have listed := fun current kept => run current _ effective
    { context with scope := grant.effectiveScope } constrained kept
  refine (routine.invoke after _ _ listed kept).next fun page last reached => ?_
  exact Program.safe_guarded ((after page).weaken last reached) fun _ _ => reached

end Gateway

end CongeriesCore
