import CongeriesCore.CheckpointChain

/-! # Orphan deletion and the committed chain

The store writes a checkpoint before the marker moves to it, so a deletion that has read
the Run before the commit sees an orphan where there is none. -/

namespace CongeriesCore

open AsyncProgram

/-- The references reached from `marker` by the predecessor links of stored checkpoints. -/
inductive Linked (world : CoreWorld) (marker : CheckpointRef) : CheckpointRef → Prop
  | marker : Linked world marker marker
  | previous {reference named : CheckpointRef} {checkpoint : Checkpoint} :
      Linked world marker reference → world.checkpoint? reference = some checkpoint →
      checkpoint.previousCheckpointRef = some named → Linked world marker named

/-- The store holds the whole committed chain of every Run. -/
def ChainStored (world : CoreWorld) : Prop :=
  ∀ runId marker, world.marker runId = some marker → ∀ reference, Linked world marker reference →
    ∃ checkpoint, world.checkpoint? reference = some checkpoint

/-- Saves and orphan deletions that race, on any repository, never damage a committed chain,
where each deletion reaches the store under `condition` only. -/
def OrphanDeletionSafe [Sha256] (condition : DeletionCondition) : Prop :=
  ∀ documents, CollisionFree documents →
    ∀ configuration, (writerPool False condition documents True).Reachable configuration →
      ChainStored configuration.state.1

section

variable [Sha256] {documents : Checkpoint → Prop} {world : CoreWorld} {log : CommitLog}

/-- What is linked to a marker has been committed. -/
theorem Sound.linked (sound : Sound documents (world, log)) {runId : RunId}
    {marker reference : CheckpointRef} (marked : world.marker runId = some marker)
    (linked : Linked world marker reference) :
    Committed runId (fun commit => commit.checkpoint.ref = reference) (world, log) := by
  induction linked with
  | marker =>
    have head : world.marker runId = (log.refs runId).head? := sound.marker runId
    rw [marked] at head
    obtain ⟨commit, member, same⟩ := List.mem_map.mp (List.mem_of_head? head.symm)
    exact ⟨commit, member, same⟩
  | @previous reference named checkpoint _ found given ih =>
    obtain ⟨commit, member, rfl⟩ := ih
    have chain : CommittedChain world runId (log.commits runId) := sound.chain runId
    obtain ⟨earlier, suffix, continues⟩ := chain.continues member
    obtain ⟨stored, foundStored, content⟩ := continues.stored
    rw [found] at foundStored
    cases foundStored
    rw [content.fields.2.2, continues.previous, Option.map_eq_some_iff] at given
    obtain ⟨before, first, same⟩ := given
    have older : before ∈ log.commits runId :=
      suffix.subset (List.mem_cons_of_mem _ (List.mem_of_head? first))
    exact ⟨before, older, same⟩

theorem Sound.chainStored (sound : Sound documents (world, log)) : ChainStored world := by
  intro runId marker marked reference linked
  obtain ⟨commit, member, rfl⟩ := sound.linked marked linked
  obtain ⟨stored, found, -⟩ := (sound.chained runId).stored commit member
  exact ⟨stored, found⟩

end

theorem deleteOrphan_safe [Sha256] : OrphanDeletionSafe Orphaned := by
  intro documents collisionFree configuration reached
  have meets : (writerPool False Orphaned documents True).Meets (writerContract documents)
      (Sound documents) _ := writers_meet collisionFree
  exact (meets.reachable reached).1.chainStored

namespace SampleParameters

def sampleDelete : CoreProgram Unit := do
  let _ ← sampleCoordinator.deleteOrphan 1
    ⟨sampleProvider, sampleRunId, sampleCheckpoint.ref, sampleScope⟩ sampleContext
  return ()

/-- The save writes the store; the deletion runs to its end; the save commits. -/
def overtakenSave : Configuration CoreInterface Raised Unit CommitWorld :=
  (writerPool False (fun _ _ _ => True) (· = sampleCheckpoint) True).execute
    (fun _ op _ => sampleChoice op) (fun _ op _ => samplePermits true op)
    (List.replicate 7 0 ++ List.replicate 20 1 ++ List.replicate 20 0)
    (samplePair sampleSave sampleDelete)

theorem overtakenSave_reachable :
    (writerPool False (fun _ _ _ => True) (· = sampleCheckpoint) True).Reachable overtakenSave := by
  apply Pool.execute_reachable
  · intro thread op state permitted
    exact writerPermits_sample permitted fun _ _ => trivial
  · have deletes : WriterCall (· = sampleCheckpoint) True sampleDelete :=
      .deleteOrphan sampleCoordinator 1 _ sampleContext trivial
    exact samplePair_reachable (sampleSave_call True) deletes

end SampleParameters

open SampleParameters in
/-- A deletion between the store write of a save and its commit erases the next marker. -/
theorem deleteOrphan_unsafe : ¬ OrphanDeletionSafe fun _ _ _ => True := by
  intro safe
  have stored : ChainStored overtakenSave.state.1 :=
    safe _ sample_collisionFree overtakenSave overtakenSave_reachable
  have marked : overtakenSave.state.1.marker sampleRunId = some sampleCheckpoint.ref := by
    decide +kernel
  have erased : overtakenSave.state.1.checkpoint? sampleCheckpoint.ref = none := by
    decide +kernel
  obtain ⟨checkpoint, found⟩ := stored sampleRunId _ marked _ .marker
  rw [erased] at found
  cases found

end CongeriesCore
