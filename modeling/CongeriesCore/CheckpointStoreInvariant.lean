import CongeriesCore.CheckpointStore

/-! # The invariant of the in-memory checkpoint store

The references by sequence match the checkpoints by reference after any saves and deletes. -/

namespace CongeriesCore

namespace InMemoryCheckpointStore

/-- A call that writes the store. -/
inductive Call
  | save (checkpoint : Checkpoint) (context : RuntimeCallContext)
  | delete (request : DeleteCheckpointRequest) (context : RuntimeCallContext)

/-- The two maps are each other's inverse. -/
structure Matched (store : InMemoryCheckpointStore) : Prop where
  checkpoints : ∀ reference checkpoint, store.checkpoints.get? reference = some checkpoint →
    checkpoint.ref = reference ∧
      store.sequences.get? (checkpoint.runId, checkpoint.sequence) = some reference
  sequences : ∀ runId sequence reference, store.sequences.get? (runId, sequence) = some reference →
    ∃ checkpoint, store.checkpoints.get? reference = some checkpoint ∧
      checkpoint.runId = runId ∧ checkpoint.sequence = sequence

/-- The checkpoint is removed from both maps, and nothing else is. -/
structure Removes (store after : InMemoryCheckpointStore) (checkpoint : Checkpoint) : Prop where
  checkpoints : ∀ reference, after.checkpoints.get? reference =
    if checkpoint.ref = reference then none else store.checkpoints.get? reference
  sequences : ∀ key, after.sequences.get? key =
    if (checkpoint.runId, checkpoint.sequence) = key then none else store.sequences.get? key

theorem matched_empty (providerId : ProviderId) : (empty providerId).Matched where
  checkpoints _ _ stored := by cases stored
  sequences _ _ _ stored := by cases stored

/-- A checkpoint under a free reference and a free sequence number keeps the maps inverse. -/
theorem Matched.set {store : InMemoryCheckpointStore} {checkpoint : Checkpoint}
    (matched : store.Matched) (free : store.checkpoints.get? checkpoint.ref = none)
    (unused : store.sequences.get? (checkpoint.runId, checkpoint.sequence) = none) :
    Matched { store with
      checkpoints := store.checkpoints.set checkpoint.ref checkpoint
      sequences :=
        store.sequences.set (checkpoint.runId, checkpoint.sequence) checkpoint.ref } := by
  constructor
  · intro reference other stored
    dsimp only at stored ⊢
    rw [Dict.get?_set] at stored
    split at stored
    · rename_i same
      cases stored
      exact ⟨same, by rw [Dict.get?_set_self, same]⟩
    · obtain ⟨named, listed⟩ := matched.checkpoints reference other stored
      refine ⟨named, ?_⟩
      have distinct : (checkpoint.runId, checkpoint.sequence) ≠ (other.runId, other.sequence) := by
        intro same
        rw [← same, unused] at listed
        cases listed
      rw [Dict.get?_set_of_ne _ distinct]
      exact listed
  · intro runId sequence reference listed
    dsimp only at listed ⊢
    rw [Dict.get?_set] at listed
    split at listed
    · rename_i same
      cases listed
      cases same
      exact ⟨checkpoint, Dict.get?_set_self _ _ _, rfl, rfl⟩
    · obtain ⟨other, stored, owned, numbered⟩ := matched.sequences runId sequence reference listed
      have distinct : checkpoint.ref ≠ reference := by
        intro same
        rw [← same, free] at stored
        cases stored
      exact ⟨other, by rw [Dict.get?_set_of_ne _ distinct]; exact stored, owned, numbered⟩

/-- Of inverse maps, a checkpoint is erased by its reference and its sequence number. -/
theorem Matched.erase {store : InMemoryCheckpointStore} {reference : CheckpointRef}
    {checkpoint : Checkpoint} (matched : store.Matched)
    (stored : store.checkpoints.get? reference = some checkpoint) :
    Matched { store with
      checkpoints := store.checkpoints.erase reference
      sequences := store.sequences.erase (checkpoint.runId, checkpoint.sequence) } := by
  obtain ⟨named, listed⟩ := matched.checkpoints reference checkpoint stored
  constructor
  · intro other remaining kept
    dsimp only at kept ⊢
    rw [Dict.get?_erase] at kept
    split at kept
    · cases kept
    · rename_i different
      obtain ⟨same, numbered⟩ := matched.checkpoints other remaining kept
      refine ⟨same, ?_⟩
      have distinct : (checkpoint.runId, checkpoint.sequence) ≠
          (remaining.runId, remaining.sequence) := by
        intro shared
        rw [← shared, listed] at numbered
        exact different (Option.some.inj numbered)
      rw [Dict.get?_erase_of_ne _ distinct]
      exact numbered
  · intro runId sequence other numbered
    dsimp only at numbered ⊢
    rw [Dict.get?_erase] at numbered
    split at numbered
    · cases numbered
    · rename_i different
      obtain ⟨remaining, kept, owned, sequenced⟩ := matched.sequences runId sequence other numbered
      have distinct : reference ≠ other := by
        intro same
        rw [← same, stored] at kept
        cases kept
        exact different (by rw [owned, sequenced])
      exact ⟨remaining, by rw [Dict.get?_erase_of_ne _ distinct]; exact kept, owned, sequenced⟩

variable [Sha256]

def apply (store : InMemoryCheckpointStore) : Call → InMemoryCheckpointStore
  | .save checkpoint context => (store.save checkpoint context).2
  | .delete request context => (store.delete request context).2

def applyAll (store : InMemoryCheckpointStore) (calls : List Call) : InMemoryCheckpointStore :=
  calls.foldl apply store

omit [Sha256] in
theorem sequence_unused {store : InMemoryCheckpointStore} {checkpoint : Checkpoint}
    (checked : store.checkNew checkpoint = .ok ()) :
    store.sequences.get? (checkpoint.runId, checkpoint.sequence) = none := by
  obtain ⟨_, unused, _⟩ := bind_ok checked
  simpa [Dict.contains] using unused

theorem Matched.apply {store : InMemoryCheckpointStore} (matched : store.Matched) (call : Call) :
    (store.apply call).Matched := by
  cases call with
  | save checkpoint context =>
    change (store.save checkpoint context).2.Matched
    rcases store.save_cases checkpoint context with ⟨error, failed⟩ | ⟨_, resaved | saved⟩
    · rw [failed]
      exact matched
    · obtain ⟨_, _, _, same⟩ := resaved
      rw [same]
      exact matched
    · obtain ⟨free, checked, stored⟩ := saved
      rw [stored]
      exact matched.set free (sequence_unused checked)
  | delete request context =>
    change (store.delete request context).2.Matched
    rcases store.delete_cases request context with same | ⟨checkpoint, stored, _, erased⟩
    · rw [same]
      exact matched
    · rw [erased]
      exact matched.erase stored

theorem matched_applyAll {store : InMemoryCheckpointStore} (matched : store.Matched)
    (calls : List Call) : (store.applyAll calls).Matched := by
  induction calls generalizing store with
  | nil => exact matched
  | cons call calls ih => exact ih (matched.apply call)

/-- A call leaves what is stored before and after it as it is. -/
theorem content_apply {store : InMemoryCheckpointStore} (call : Call) {reference : CheckpointRef}
    {before after : Checkpoint} (stored : store.checkpoints.get? reference = some before)
    (still : (store.apply call).checkpoints.get? reference = some after) : after = before := by
  cases call with
  | save checkpoint context =>
    change (store.save checkpoint context).2.checkpoints.get? reference = some after at still
    rcases store.save_cases checkpoint context with ⟨error, failed⟩ | ⟨_, resaved | saved⟩
    · rw [failed, stored] at still
      exact (Option.some.inj still).symm
    · obtain ⟨_, _, _, same⟩ := resaved
      rw [same, stored] at still
      exact (Option.some.inj still).symm
    · obtain ⟨free, _, inserted⟩ := saved
      rw [inserted] at still
      have distinct : checkpoint.ref ≠ reference := by
        intro same
        rw [same, stored] at free
        cases free
      dsimp only at still
      rw [Dict.get?_set_of_ne _ distinct, stored] at still
      exact (Option.some.inj still).symm
  | delete request context =>
    change (store.delete request context).2.checkpoints.get? reference = some after at still
    rcases store.delete_cases request context with same | ⟨checkpoint, _, _, erased⟩
    · rw [same, stored] at still
      exact (Option.some.inj still).symm
    · rw [erased] at still
      dsimp only at still
      rw [Dict.get?_erase] at still
      split at still
      · cases still
      · rw [stored] at still
        exact (Option.some.inj still).symm

/-- What stays stored through some calls stays as it is. -/
theorem content_applyAll {store : InMemoryCheckpointStore} {reference : CheckpointRef}
    {before after : Checkpoint} (calls : List Call)
    (stored : store.checkpoints.get? reference = some before)
    (throughout : ∀ earlier, earlier <+: calls →
      (store.applyAll earlier).checkpoints.contains reference = true)
    (still : (store.applyAll calls).checkpoints.get? reference = some after) : after = before := by
  induction calls generalizing store before with
  | nil =>
    have same : store.checkpoints.get? reference = some after := still
    rw [stored] at same
    exact (Option.some.inj same).symm
  | cons call calls ih =>
    have first := throughout [call] ⟨calls, rfl⟩
    obtain ⟨middle, held⟩ := Dict.contains_iff.mp first
    obtain rfl : middle = before := content_apply call stored held
    apply ih held _ still
    intro earlier leads
    obtain ⟨later, rfl⟩ := leads
    exact throughout (call :: earlier) ⟨later, rfl⟩

/-- What is guaranteed of the calls on a store. -/
structure CallsSound (store : InMemoryCheckpointStore) : Prop where
  /-- The same reference and digest is saved again, where the context covers its scope. -/
  resaved : ∀ checkpoint context existing, store.checkpoints.get? checkpoint.ref = some existing →
    existing.integrity = checkpoint.integrity → checkpoint.verifyIntegrity = .ok () →
    checkpoint.scope.requireNarrowerThan context.scope = .ok () →
    store.save checkpoint context = (.ok checkpoint.ref, store)
  failed : ∀ checkpoint context error, (store.save checkpoint context).1 = .error error →
    (store.save checkpoint context).2 = store
  deleted : ∀ request context,
    (store.delete request context).2 = store ∧
      (store.delete request context).1 ≠ .ok ⟨request.checkpointRef, true⟩ ∨
    ∃ checkpoint, store.checkpoints.get? request.checkpointRef = some checkpoint ∧
      (store.delete request context).1 = .ok ⟨request.checkpointRef, true⟩ ∧
      store.Removes (store.delete request context).2 checkpoint
  /-- A stored checkpoint is the same after more calls, where it was stored after each of them. -/
  content : ∀ (calls : List Call) reference before after,
    store.checkpoints.get? reference = some before →
    (∀ earlier, earlier <+: calls →
      (store.applyAll earlier).checkpoints.contains reference = true) →
    (store.applyAll calls).checkpoints.get? reference = some after → after = before

theorem Matched.callsSound {store : InMemoryCheckpointStore} (matched : store.Matched) :
    store.CallsSound := by
  constructor
  · intro checkpoint context existing stored same intact narrower
    have checked : store.checkSave checkpoint context = .ok () := by
      unfold checkSave
      rw [intact, narrower, stored]
      exact ensure_ok (by simpa using same)
    have contained : store.checkpoints.contains checkpoint.ref = true :=
      Dict.contains_iff.mpr ⟨existing, stored⟩
    unfold save
    rw [checked]
    dsimp only
    rw [insert, if_pos contained]
  · intro checkpoint context error failed
    rcases store.save_cases checkpoint context with ⟨raised, unsaved⟩ | ⟨_, resaved | saved⟩
    · rw [unsaved]
    · obtain ⟨_, _, _, same⟩ := resaved
      rw [same]
    · obtain ⟨_, _, inserted⟩ := saved
      rw [inserted] at failed
      cases failed
  · intro request context
    unfold delete
    split
    · refine .inl ⟨rfl, ?_⟩
      intro same
      cases same
    · refine .inl ⟨rfl, ?_⟩
      intro same
      cases same
    · rename_i checkpoint checked
      right
      obtain ⟨_, _, rest⟩ := bind_ok checked
      obtain ⟨_, _, rest⟩ := bind_ok rest
      split at rest
      · cases rest
      · rename_i found
        obtain ⟨_, _, made⟩ := bind_ok rest
        cases made
        have named := (matched.checkpoints _ _ found).1
        refine ⟨checkpoint, found, rfl, ?_, ?_⟩
        · intro reference
          rw [named]
          exact store.checkpoints.get?_erase request.checkpointRef reference
        · intro key
          exact store.sequences.get?_erase (checkpoint.runId, checkpoint.sequence) key
  · intro calls reference before after stored throughout still
    exact content_applyAll calls stored throughout still

end InMemoryCheckpointStore

end CongeriesCore
