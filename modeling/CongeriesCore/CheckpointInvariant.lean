import CongeriesCore.CheckpointCommits

/-! # What keeps the committed chains

The invariant of the racing writers, one lemma for each effect a call can have on the
world or the log. -/

namespace CongeriesCore

open AsyncProgram

namespace CoreWorld

theorem marker_setRun (world : CoreWorld) (run : Run) (runId : RunId) :
    (world.setRun run).marker runId = if run.runId = runId then run.latest else world.marker runId := by
  unfold marker
  rw [run?_setRun]
  split
  · rfl
  · rfl

theorem marker_of_run {world : CoreWorld} {runId : RunId} {run : Run}
    (found : world.run? runId = some run) : world.marker runId = run.latest := by
  rw [marker, found]
  rfl

end CoreWorld

/-- A chain only looks at its own checkpoints in the store. -/
theorem CommittedChain.frame {world other : CoreWorld} {runId : RunId} {commits : List Commit}
    (same : ∀ commit ∈ commits, ∀ stored, world.checkpoint? commit.checkpoint.ref = some stored →
      other.checkpoint? commit.checkpoint.ref = some stored)
    (chain : CommittedChain world runId commits) : CommittedChain other runId commits := by
  induction commits with
  | nil => trivial
  | cons commit earlier ih =>
    obtain ⟨continues, rest⟩ := chain
    obtain ⟨stored, found, content⟩ := continues.stored
    have kept := same commit List.mem_cons_self stored found
    refine ⟨{ continues with stored := ⟨stored, kept, content⟩ }, ?_⟩
    exact ih (fun other member => same other (List.mem_cons_of_mem _ member)) rest

theorem CommittedChain.suffix {world : CoreWorld} {runId : RunId} {commits earlier : List Commit}
    (chain : CommittedChain world runId commits) (suffix : earlier <:+ commits) :
    CommittedChain world runId earlier := by
  obtain ⟨newer, rfl⟩ := suffix
  induction newer with
  | nil => exact chain
  | cons commit newer ih => exact ih chain.2

theorem CommittedChain.continues {world : CoreWorld} {runId : RunId} {commits : List Commit}
    (chain : CommittedChain world runId commits) {commit : Commit} (member : commit ∈ commits) :
    ∃ earlier, commit :: earlier <:+ commits ∧ Continues world runId commit earlier := by
  induction commits with
  | nil => cases member
  | cons first earlier ih =>
    rcases List.mem_cons.mp member with rfl | later
    · exact ⟨earlier, List.suffix_refl _, chain.1⟩
    · obtain ⟨before, suffix, continues⟩ := ih chain.2 later
      exact ⟨before, suffix.trans (List.suffix_cons _ _), continues⟩

namespace Sound

variable [Sha256] {documents : Checkpoint → Prop} {world : CoreWorld} {log : CommitLog}

/-- Forgetting staged checkpoints, or what a thread has read or moved, changes nothing. -/
theorem relog (sound : Sound documents (world, log)) {other : CommitLog}
    (commits : other.commits = log.commits)
    (staged : ∀ thread checkpoint, other.staged thread = some checkpoint →
      log.staged thread = some checkpoint) : Sound documents (world, other) := by
  have refs : ∀ runId, other.refs runId = log.refs runId := fun runId => by
    rw [CommitLog.refs, commits, CommitLog.refs]
  refine ⟨sound.keyed, fun runId => ?_, ?_, ?_, sound.documented, ?_, ?_⟩
  · rw [refs]
    exact sound.marker runId
  · rw [commits]
    exact sound.versions
  · rw [commits]
    exact sound.chain
  · intro thread checkpoint held
    exact sound.staged thread checkpoint (staged thread checkpoint held)
  · intro reference checkpoint found named previous
    rw [refs]
    exact sound.links reference checkpoint found named previous

theorem unstage (sound : Sound documents (world, log)) (thread : ℕ) :
    Sound documents (world, log.unstage thread) := by
  refine sound.relog rfl fun other checkpoint held => ?_
  rw [CommitLog.staged_unstage] at held
  split at held
  · cases held
  · exact held

/-- A transition that keeps the marker. -/
theorem setRun (sound : Sound documents (world, log)) {run current : Run}
    (found : world.run? run.runId = some current) (marker : run.latest = current.latest)
    (version : current.stateVersion < run.stateVersion) :
    Sound documents (world.setRun run, log) := by
  refine ⟨?_, fun runId => ?_, ?_, ?_, sound.documented, sound.staged, sound.links⟩
  · intro runId other stored
    change (world.setRun run).run? runId = some other at stored
    rw [CoreWorld.run?_setRun] at stored
    split at stored
    · cases stored; assumption
    · exact sound.keyed runId other stored
  · change (world.setRun run).marker runId = _
    rw [CoreWorld.marker_setRun]
    split
    · rename_i same
      subst same
      rw [marker, ← CoreWorld.marker_of_run found]
      exact sound.marker run.runId
    · exact sound.marker runId
  · intro runId other stored commit member
    change (world.setRun run).run? runId = some other at stored
    rw [CoreWorld.run?_setRun] at stored
    split at stored
    · rename_i same
      cases stored
      subst same
      have earlier := sound.versions run.runId current found commit member
      omega
    · exact sound.versions runId other stored commit member
  · intro runId
    have chain : CommittedChain world runId (log.commits runId) := sound.chain runId
    refine chain.frame ?_
    intro commit _ stored found
    exact found

/-- A commit has the content its writer saved. -/
theorem content (sound : Sound documents (world, log)) (collisionFree : CollisionFree documents)
    {thread : ℕ} {checkpoint : Checkpoint} (staged : log.staged thread = some checkpoint) :
    ∃ stored, world.checkpoint? checkpoint.ref = some stored ∧ SameContent stored checkpoint := by
  obtain ⟨documented, intact, stored, found, digest⟩ := sound.staged thread checkpoint staged
  obtain ⟨documentedStored, intactStored⟩ := sound.documented checkpoint.ref stored found
  refine ⟨stored, found, collisionFree stored checkpoint documentedStored documented ?_⟩
  simp only [Checkpoint.verifyIntegrity, ensure_eq_ok, beq_iff_eq] at intact intactStored
  rw [intact, intactStored, digest]

/-- Commits of one reference have one sequence. -/
theorem sequence_unique (sound : Sound documents (world, log)) {runId : RunId}
    {first second : Commit} (one : first ∈ log.commits runId) (two : second ∈ log.commits runId)
    (same : first.checkpoint.ref = second.checkpoint.ref) :
    first.checkpoint.sequence = second.checkpoint.sequence := by
  have chain : CommittedChain world runId (log.commits runId) := sound.chain runId
  obtain ⟨_, _, continues⟩ := chain.continues one
  obtain ⟨_, _, continues'⟩ := chain.continues two
  obtain ⟨stored, found, content⟩ := continues.stored
  obtain ⟨stored', found', content'⟩ := continues'.stored
  rw [same, found'] at found
  cases found
  rw [← content.fields.2.1, content'.fields.2.1]

end Sound

/-- The checkpoint has the sequence after that of the commit it names. -/
def Follows (log : CommitLog) (checkpoint : Checkpoint) : Prop :=
  match checkpoint.previousCheckpointRef with
  | none => checkpoint.sequence = 1
  | some named => ∃ commit ∈ log.commits checkpoint.runId, commit.checkpoint.ref = named ∧
      checkpoint.sequence = commit.checkpoint.sequence + 1

namespace Sound

variable [Sha256] {documents : Checkpoint → Prop} {world : CoreWorld} {log : CommitLog}

theorem sequence_of_follows (sound : Sound documents (world, log)) {checkpoint : Checkpoint}
    (previous : checkpoint.previousCheckpointRef = (log.refs checkpoint.runId).head?)
    (follows : Follows log checkpoint) :
    checkpoint.sequence = (log.commits checkpoint.runId).length + 1 := by
  have chain : CommittedChain world checkpoint.runId (log.commits checkpoint.runId) :=
    sound.chain checkpoint.runId
  unfold Follows at follows
  rw [previous, CommitLog.refs] at follows
  cases commits : log.commits checkpoint.runId with
  | nil =>
    rw [commits] at follows
    exact follows
  | cons latest earlier =>
    rw [commits] at follows chain
    obtain ⟨commit, member, named, sequence⟩ := follows
    rw [← commits] at member
    have first : latest ∈ log.commits checkpoint.runId := by simp [commits]
    have same := sound.sequence_unique member first named
    rw [sequence, same, chain.1.sequence, List.length_cons]

/-- A thread moves the marker to the checkpoint it staged. -/
theorem commit (sound : Sound documents (world, log)) (collisionFree : CollisionFree documents)
    {thread : ℕ} {run current : Run} {checkpoint : Checkpoint}
    (staged : log.staged thread = some checkpoint)
    (found : world.run? checkpoint.runId = some current) (owner : run.runId = checkpoint.runId)
    (version : run.stateVersion = current.stateVersion + 1)
    (marker : run.latest = some checkpoint.ref)
    (previous : checkpoint.previousCheckpointRef = current.latest)
    (follows : Follows log checkpoint) :
    Sound documents (world.setRun run, log.commit thread checkpoint.runId current.stateVersion) := by
  have named : checkpoint.previousCheckpointRef = (log.refs checkpoint.runId).head? := by
    rw [previous, ← CoreWorld.marker_of_run found]
    exact sound.marker checkpoint.runId
  have refs : ∀ runId reference, reference ∈ log.refs runId →
      reference ∈ (log.commit thread checkpoint.runId current.stateVersion).refs runId := by
    intro runId reference member
    rw [CommitLog.refs, CommitLog.commits_commit staged]
    split
    · rename_i same
      subst same
      exact List.mem_cons_of_mem _ member
    · exact member
  refine ⟨?_, fun runId => ?_, ?_, fun runId => ?_, sound.documented, ?_, ?_⟩
  · intro runId other stored
    change (world.setRun run).run? runId = some other at stored
    rw [CoreWorld.run?_setRun] at stored
    split at stored
    · cases stored; assumption
    · exact sound.keyed runId other stored
  · change (world.setRun run).marker runId = _
    rw [CoreWorld.marker_setRun, CommitLog.refs, CommitLog.commits_commit staged, owner]
    by_cases same : runId = checkpoint.runId
    · rw [if_pos same.symm, if_pos same, marker]
      rfl
    · rw [if_neg fun equal => same equal.symm, if_neg same]
      exact sound.marker runId
  · intro runId other stored commit member
    change (world.setRun run).run? runId = some other at stored
    rw [CoreWorld.run?_setRun, owner] at stored
    rw [CommitLog.commits_commit staged] at member
    by_cases same : runId = checkpoint.runId
    · rw [if_pos same.symm] at stored
      rw [if_pos same] at member
      cases stored
      rcases List.mem_cons.mp member with rfl | earlier
      · change current.stateVersion < run.stateVersion
        omega
      · have older := sound.versions checkpoint.runId current found commit earlier
        omega
    · rw [if_neg fun equal => same equal.symm] at stored
      rw [if_neg same] at member
      exact sound.versions runId other stored commit member
  · rw [CommitLog.commits_commit staged]
    have old : CommittedChain (world.setRun run) runId (log.commits runId) := by
      have chain : CommittedChain world runId (log.commits runId) := sound.chain runId
      refine chain.frame ?_
      intro commit _ stored found
      exact found
    by_cases same : runId = checkpoint.runId
    · subst same
      rw [if_pos rfl]
      refine ⟨⟨rfl, sound.content collisionFree staged,
        sound.sequence_of_follows named follows, ?_, ?_⟩, old⟩
      · rw [named, CommitLog.refs, List.head?_map]
      · exact sound.versions checkpoint.runId current found
    · rw [if_neg same]
      exact old
  · intro other held stagedOther
    rw [CommitLog.commit_of_staged staged] at stagedOther
    change Function.update log.staged thread none other = some held at stagedOther
    rw [Function.update_apply] at stagedOther
    split at stagedOther
    · cases stagedOther
    · exact sound.staged other held stagedOther
  · intro reference stored found' link names
    obtain ⟨committed, kept⟩ := sound.links reference stored found' link names
    exact ⟨refs _ _ committed, kept⟩

theorem stage (sound : Sound documents (world, log)) {checkpoint stored : Checkpoint} (thread : ℕ)
    (documented : documents checkpoint) (intact : checkpoint.verifyIntegrity = .ok ())
    (found : world.checkpoint? checkpoint.ref = some stored)
    (digest : stored.integrity = checkpoint.integrity) :
    Sound documents (world, log.stage thread checkpoint) := by
  refine ⟨sound.keyed, sound.marker, sound.versions, sound.chain, sound.documented, ?_, sound.links⟩
  intro other held stagedOther
  change (log.stage thread checkpoint).staged other = some held at stagedOther
  rw [CommitLog.staged_stage] at stagedOther
  split at stagedOther
  · cases stagedOther
    exact ⟨documented, intact, stored, found, digest⟩
  · exact sound.staged other held stagedOther

/-- A checkpoint under a free reference enters the store. -/
theorem insert (sound : Sound documents (world, log)) {checkpoint : Checkpoint}
    (documented : documents checkpoint) (intact : checkpoint.verifyIntegrity = .ok ())
    (free : world.checkpoint? checkpoint.ref = none)
    (links : ∀ named, checkpoint.previousCheckpointRef = some named →
      named ∈ log.refs checkpoint.runId ∧ ∃ previous, world.checkpoint? named = some previous ∧
        InMemoryCheckpointStore.keepsEffects previous checkpoint = true) :
    Sound documents (world.setCheckpoint checkpoint, log) := by
  have kept : ∀ reference stored, world.checkpoint? reference = some stored →
      (world.setCheckpoint checkpoint).checkpoint? reference = some stored := by
    intro reference stored found
    rw [CoreWorld.checkpoint?_setCheckpoint, if_neg]
    · exact found
    · rintro rfl
      rw [free] at found
      cases found
  refine ⟨sound.keyed, sound.marker, sound.versions, fun runId => ?_, ?_, ?_, ?_⟩
  · have chain : CommittedChain world runId (log.commits runId) := sound.chain runId
    refine chain.frame ?_
    intro commit _ stored found
    exact kept _ _ found
  · intro reference stored found
    change (world.setCheckpoint checkpoint).checkpoint? reference = some stored at found
    rw [CoreWorld.checkpoint?_setCheckpoint] at found
    split at found
    · cases found
      exact ⟨documented, intact⟩
    · exact sound.documented reference stored found
  · intro other held stagedOther
    obtain ⟨first, second, stored, found, digest⟩ := sound.staged other held stagedOther
    exact ⟨first, second, stored, kept _ _ found, digest⟩
  · intro reference stored found named previous
    change (world.setCheckpoint checkpoint).checkpoint? reference = some stored at found
    rw [CoreWorld.checkpoint?_setCheckpoint] at found
    have link : named ∈ log.refs stored.runId ∧ ∃ previous, world.checkpoint? named = some previous ∧
        InMemoryCheckpointStore.keepsEffects previous stored = true := by
      split at found
      · cases found
        exact links named previous
      · exact sound.links reference stored found named previous
    obtain ⟨committed, before, foundBefore, effects⟩ := link
    exact ⟨committed, before, kept _ _ foundBefore, effects⟩

/-- The store erases a checkpoint that is neither committed nor staged. -/
theorem erase (sound : Sound documents (world, log)) {reference : CheckpointRef}
    {checkpoint : Checkpoint} (found : world.checkpoint? reference = some checkpoint)
    (uncommitted : reference ∉ log.refs checkpoint.runId)
    (unstaged : ∀ thread staged, log.staged thread = some staged → staged.ref ≠ reference) :
    Sound documents (world.eraseCheckpoint checkpoint reference, log) := by
  have orphan : ∀ runId, reference ∉ log.refs runId := by
    intro runId member
    obtain ⟨commit, committed, rfl⟩ := List.mem_map.mp member
    have chain : CommittedChain world runId (log.commits runId) := sound.chain runId
    obtain ⟨_, _, continues⟩ := chain.continues committed
    obtain ⟨stored, foundStored, content⟩ := continues.stored
    rw [found] at foundStored
    cases foundStored
    have owner : checkpoint.runId = runId := content.fields.1.trans continues.owner
    exact uncommitted (owner ▸ member)
  have kept : ∀ other stored, other ≠ reference → world.checkpoint? other = some stored →
      (world.eraseCheckpoint checkpoint reference).checkpoint? other = some stored := by
    intro other stored distinct present
    rw [CoreWorld.checkpoint?_eraseCheckpoint, if_neg fun same => distinct same.symm]
    exact present
  have present : ∀ other stored,
      (world.eraseCheckpoint checkpoint reference).checkpoint? other = some stored →
      world.checkpoint? other = some stored := by
    intro other stored remains
    rw [CoreWorld.checkpoint?_eraseCheckpoint] at remains
    split at remains
    · cases remains
    · exact remains
  refine ⟨sound.keyed, sound.marker, sound.versions, fun runId => ?_, ?_, ?_, ?_⟩
  · have chain : CommittedChain world runId (log.commits runId) := sound.chain runId
    refine chain.frame ?_
    intro commit committed stored foundStored
    refine kept _ _ ?_ foundStored
    rintro rfl
    exact orphan runId (List.mem_map.mpr ⟨commit, committed, rfl⟩)
  · intro other stored remains
    exact sound.documented other stored (present other stored remains)
  · intro thread held stagedHeld
    obtain ⟨first, second, stored, foundStored, digest⟩ := sound.staged thread held stagedHeld
    exact ⟨first, second, stored, kept _ _ (unstaged thread held stagedHeld) foundStored, digest⟩
  · intro other stored remains named previous
    obtain ⟨committed, before, foundBefore, effects⟩ :=
      sound.links other stored (present other stored remains) named previous
    refine ⟨committed, before, kept _ _ ?_ foundBefore, effects⟩
    rintro rfl
    exact orphan _ committed

end Sound

end CongeriesCore
