import CongeriesCore.CheckpointModel
import CongeriesCore.Dict

/-! # The in-memory checkpoint store

Checkpoints by reference, with one reference for each sequence number of a Run. -/

namespace CongeriesCore

structure CheckpointCursor where
  providerId : ProviderId
  runId : RunId
  scope : ScopeRef
  graphVersion : Option String
  limit : ℕ
  queryFingerprint : Sha256Digest
  nextSequence : ℕ
  positive : 1 ≤ limit ∧ 1 ≤ nextSequence
  deriving DecidableEq

structure CheckpointQuery where
  providerId : ProviderId
  runId : RunId
  scope : ScopeRef
  graphVersion : Option String
  limit : ℕ
  cursor : Option CheckpointCursor
  bounded : 1 ≤ limit ∧ limit ≤ 1000 ∧ ∀ version ∈ graphVersion, version ≠ ""
  deriving DecidableEq

def CheckpointQuery.queryFingerprint [Sha256] (query : CheckpointQuery) : Sha256Digest :=
  (JsonValue.obj [("provider_id", .str query.providerId.value), ("run_id", .str query.runId.value),
    ("scope", query.scope.toData), ("graph_version", .ofOption .str query.graphVersion),
    ("limit", .int query.limit)]).sha256

structure CheckpointPage where
  items : List Checkpoint
  nextCursor : Option CheckpointCursor

structure DeleteCheckpointRequest where
  providerId : ProviderId
  runId : RunId
  checkpointRef : CheckpointRef
  scope : ScopeRef
  deriving DecidableEq

structure DeleteCheckpointResult where
  checkpointRef : CheckpointRef
  deleted : Bool
  deriving DecidableEq

structure InMemoryCheckpointStore where
  providerId : ProviderId
  checkpoints : Dict CheckpointRef Checkpoint
  sequences : Dict (RunId × ℕ) CheckpointRef

namespace InMemoryCheckpointStore

def empty (providerId : ProviderId) : InMemoryCheckpointStore := ⟨providerId, .empty, .empty⟩

/-- `max(run_sequences, default=0) + 1`. -/
def expectedSequence (store : InMemoryCheckpointStore) (runId : RunId) : ℕ :=
  store.sequences.entries.foldl
    (fun largest entry => if entry.1.1 = runId then max largest entry.1.2 else largest) 0 + 1

/-- Whether `checkpoint` keeps every side-effect record of its predecessor. -/
def keepsEffects (previous checkpoint : Checkpoint) : Bool :=
  previous.sideEffects.all fun record =>
    checkpoint.sideEffects.find? (fun item => item.idempotencyKey == record.idempotencyKey) ==
      some record

def checkPredecessor (store : InMemoryCheckpointStore) (checkpoint : Checkpoint) :
    Except Raised Unit :=
  let invalidPredecessor := coreError .conflict "invalid_checkpoint_predecessor"
    "checkpoint predecessor is missing or belongs to another Run"
  match checkpoint.previousCheckpointRef with
  | none => .ok ()
  | some reference =>
    match store.checkpoints.get? reference with
    | none => .error invalidPredecessor
    | some previous => do
      ensure (previous.runId == checkpoint.runId) invalidPredecessor
      ensure (keepsEffects previous checkpoint)
        (coreError .conflict "checkpoint_idempotency_conflict"
          "checkpoint changed or removed a durable side-effect record")

/-- What a checkpoint that is not stored yet must satisfy. -/
def checkNew (store : InMemoryCheckpointStore) (checkpoint : Checkpoint) : Except Raised Unit := do
  ensure (!store.sequences.contains (checkpoint.runId, checkpoint.sequence))
    (retryableError .conflict "checkpoint_sequence_conflict"
      "checkpoint sequence is already occupied")
  ensure (checkpoint.sequence == store.expectedSequence checkpoint.runId)
    (retryableError .conflict "stale_checkpoint_sequence"
      "checkpoint sequence is not the next Store sequence")
  store.checkPredecessor checkpoint

theorem checkPredecessor_ok {store : InMemoryCheckpointStore} {checkpoint : Checkpoint}
    (checked : store.checkNew checkpoint = .ok ()) {reference : CheckpointRef}
    (named : checkpoint.previousCheckpointRef = some reference) :
    ∃ previous, store.checkpoints.get? reference = some previous ∧
      previous.runId = checkpoint.runId ∧ keepsEffects previous checkpoint = true := by
  obtain ⟨_, _, rest⟩ := bind_ok checked
  obtain ⟨_, _, rest⟩ := bind_ok rest
  unfold checkPredecessor at rest
  rw [named] at rest
  dsimp only at rest
  split at rest
  · cases rest
  · rename_i previous found
    obtain ⟨_, owner, effects⟩ := bind_ok rest
    exact ⟨previous, found, by simpa using owner, by simpa using effects⟩

theorem mem_of_keepsEffects {previous checkpoint : Checkpoint}
    (kept : keepsEffects previous checkpoint = true) :
    ∀ record ∈ previous.sideEffects, record ∈ checkpoint.sideEffects := by
  intro record member
  have found := List.all_eq_true.mp kept record member
  exact List.mem_of_find?_eq_some (by simpa using found)

section

variable [Sha256]

def checkSave (store : InMemoryCheckpointStore) (checkpoint : Checkpoint)
    (context : RuntimeCallContext) : Except Raised Unit := do
  checkpoint.verifyIntegrity
  checkpoint.scope.requireNarrowerThan context.scope
  match store.checkpoints.get? checkpoint.ref with
  | some existing =>
    ensure (existing.integrity == checkpoint.integrity)
      (coreError .conflict "checkpoint_identity_conflict"
        "checkpoint reference already exists with different content")
  | none => store.checkNew checkpoint

def insert (store : InMemoryCheckpointStore) (checkpoint : Checkpoint) : InMemoryCheckpointStore :=
  if store.checkpoints.contains checkpoint.ref then store
  else { store with
    checkpoints := store.checkpoints.set checkpoint.ref checkpoint
    sequences := store.sequences.set (checkpoint.runId, checkpoint.sequence) checkpoint.ref }

def save (store : InMemoryCheckpointStore) (checkpoint : Checkpoint)
    (context : RuntimeCallContext) : Except Raised CheckpointRef × InMemoryCheckpointStore :=
  match store.checkSave checkpoint context with
  | .error error => (.error error, store)
  | .ok () => (.ok checkpoint.ref, store.insert checkpoint)

/-- A save either fails and changes nothing, finds the same digest stored, or stores a
checkpoint whose reference was free and whose predecessor it keeps. -/
theorem save_cases (store : InMemoryCheckpointStore) (checkpoint : Checkpoint)
    (context : RuntimeCallContext) :
    (∃ error, store.save checkpoint context = (.error error, store)) ∨
    checkpoint.verifyIntegrity = .ok () ∧
      ((∃ existing, store.checkpoints.get? checkpoint.ref = some existing ∧
          existing.integrity = checkpoint.integrity ∧
          store.save checkpoint context = (.ok checkpoint.ref, store)) ∨
        (store.checkpoints.get? checkpoint.ref = none ∧ store.checkNew checkpoint = .ok () ∧
          store.save checkpoint context = (.ok checkpoint.ref, { store with
            checkpoints := store.checkpoints.set checkpoint.ref checkpoint
            sequences :=
              store.sequences.set (checkpoint.runId, checkpoint.sequence) checkpoint.ref }))) := by
  unfold save
  split
  · exact .inl ⟨_, rfl⟩
  · rename_i checked
    right
    obtain ⟨_, intact, rest⟩ := bind_ok checked
    obtain ⟨_, _, rest⟩ := bind_ok rest
    refine ⟨intact, ?_⟩
    split at rest
    · rename_i existing found
      have contained : store.checkpoints.contains checkpoint.ref = true :=
        Dict.contains_iff.mpr ⟨existing, found⟩
      exact .inl ⟨existing, found, by simpa using rest, by rw [insert, if_pos contained]⟩
    · rename_i absent
      have free : ¬ store.checkpoints.contains checkpoint.ref = true := by
        simp [Dict.contains, absent]
      exact .inr ⟨absent, rest, by rw [insert, if_neg free]⟩

def load (store : InMemoryCheckpointStore) (checkpointRef : CheckpointRef)
    (context : RuntimeCallContext) : Except Raised Checkpoint :=
  match store.checkpoints.get? checkpointRef with
  | none => .error (coreError .invalidRequest "checkpoint_not_found" "checkpoint does not exist")
  | some checkpoint => do
    checkpoint.scope.requireNarrowerThan context.scope
    checkpoint.verifyIntegrity
    return checkpoint

theorem load_ok {store : InMemoryCheckpointStore} {checkpointRef : CheckpointRef}
    {context : RuntimeCallContext} {checkpoint : Checkpoint}
    (loaded : store.load checkpointRef context = .ok checkpoint) :
    store.checkpoints.get? checkpointRef = some checkpoint := by
  unfold load at loaded
  split at loaded
  · cases loaded
  · rename_i found
    obtain ⟨_, _, rest⟩ := bind_ok loaded
    obtain ⟨_, _, rest⟩ := bind_ok rest
    cases rest
    exact found

def checkCursor (store : InMemoryCheckpointStore) (query : CheckpointQuery) : Except Raised Unit :=
  match query.cursor with
  | none => .ok ()
  | some cursor =>
    ensure (cursor.providerId == store.providerId && cursor.runId == query.runId &&
        cursor.scope.key == query.scope.key && cursor.graphVersion == query.graphVersion &&
        cursor.limit == query.limit && cursor.queryFingerprint == query.queryFingerprint)
      (coreError .conflict "checkpoint_cursor_drift"
        "checkpoint cursor does not match the effective query")

def selects (query : CheckpointQuery) (item : Checkpoint) : Bool :=
  item.runId == query.runId && item.scope.key == query.scope.key &&
    query.graphVersion.all (fun version => item.graphVersion == version) &&
    query.cursor.all fun cursor => item.sequence < cursor.nextSequence

def list (store : InMemoryCheckpointStore) (query : CheckpointQuery)
    (context : RuntimeCallContext) : Except Raised CheckpointPage := do
  ensure (query.providerId == store.providerId) (coreError .invalidRequest
    "checkpoint_provider_mismatch" "checkpoint query provider does not match Store")
  query.scope.requireNarrowerThan context.scope
  store.checkCursor query
  let items := (store.checkpoints.values.filter (selects query)).mergeSort
    fun first second => second.sequence ≤ first.sequence
  let selected := items.take query.limit
  if query.limit < items.length then
    match selected.getLast? with
    | none => .error (.other "IndexError")
    | some last =>
      if positive : 1 ≤ last.sequence then
        return ⟨selected, some {
          providerId := store.providerId
          runId := query.runId
          scope := query.scope
          graphVersion := query.graphVersion
          limit := query.limit
          queryFingerprint := query.queryFingerprint
          nextSequence := last.sequence
          positive := ⟨query.bounded.1, positive⟩ }⟩
      else .error (.value "cursor limit and next sequence must be positive")
  else return ⟨selected, none⟩

theorem mem_of_list_ok {store : InMemoryCheckpointStore} {query : CheckpointQuery}
    {context : RuntimeCallContext} {page : CheckpointPage}
    (listed : store.list query context = .ok page) {item : Checkpoint} (member : item ∈ page.items) :
    item ∈ store.checkpoints.values ∧ item.runId = query.runId := by
  have selected : ∀ item ∈ ((store.checkpoints.values.filter (selects query)).mergeSort
      fun first second => second.sequence ≤ first.sequence).take query.limit,
      item ∈ store.checkpoints.values ∧ item.runId = query.runId := by
    intro item member
    have member := List.mem_of_mem_take member
    rw [List.mem_mergeSort, List.mem_filter] at member
    obtain ⟨stored, selects⟩ := member
    simp only [InMemoryCheckpointStore.selects, Bool.and_eq_true, beq_iff_eq] at selects
    exact ⟨stored, selects.1.1.1⟩
  obtain ⟨_, _, rest⟩ := bind_ok listed
  obtain ⟨_, _, rest⟩ := bind_ok rest
  obtain ⟨_, _, rest⟩ := bind_ok rest
  dsimp only at rest
  split at rest
  · split at rest
    · cases rest
    · split at rest
      · cases rest
        exact selected item member
      · cases rest
  · cases rest
    exact selected item member

end

def checkDelete (store : InMemoryCheckpointStore) (request : DeleteCheckpointRequest)
    (context : RuntimeCallContext) : Except Raised (Option Checkpoint) := do
  ensure (request.providerId == store.providerId) (coreError .invalidRequest
    "checkpoint_provider_mismatch" "delete provider does not match Store")
  request.scope.requireNarrowerThan context.scope
  match store.checkpoints.get? request.checkpointRef with
  | none => return none
  | some checkpoint =>
    ensure (checkpoint.runId == request.runId && checkpoint.scope.key == request.scope.key)
      (coreError .denied "checkpoint_identity_mismatch"
        "checkpoint delete identity does not match stored ownership")
    return some checkpoint

def delete (store : InMemoryCheckpointStore) (request : DeleteCheckpointRequest)
    (context : RuntimeCallContext) :
    Except Raised DeleteCheckpointResult × InMemoryCheckpointStore :=
  match store.checkDelete request context with
  | .error error => (.error error, store)
  | .ok none => (.ok ⟨request.checkpointRef, false⟩, store)
  | .ok (some checkpoint) =>
    (.ok ⟨request.checkpointRef, true⟩, { store with
      checkpoints := store.checkpoints.erase request.checkpointRef
      sequences := store.sequences.erase (checkpoint.runId, checkpoint.sequence) })

/-- A delete either changes nothing or erases the checkpoint it names. -/
theorem delete_cases (store : InMemoryCheckpointStore) (request : DeleteCheckpointRequest)
    (context : RuntimeCallContext) :
    (store.delete request context).2 = store ∨
    ∃ checkpoint, store.checkpoints.get? request.checkpointRef = some checkpoint ∧
      checkpoint.runId = request.runId ∧ (store.delete request context).2 = { store with
        checkpoints := store.checkpoints.erase request.checkpointRef
        sequences := store.sequences.erase (checkpoint.runId, checkpoint.sequence) } := by
  unfold delete
  split
  · exact .inl rfl
  · exact .inl rfl
  · rename_i checkpoint checked
    right
    obtain ⟨_, _, rest⟩ := bind_ok checked
    obtain ⟨_, _, rest⟩ := bind_ok rest
    split at rest
    · cases rest
    · rename_i found
      obtain ⟨_, owned, made⟩ := bind_ok rest
      cases made
      rw [ensure_eq_ok, Bool.and_eq_true, beq_iff_eq] at owned
      exact ⟨checkpoint, found, owned.1, rfl⟩

end InMemoryCheckpointStore

end CongeriesCore
