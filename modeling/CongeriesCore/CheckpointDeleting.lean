import CongeriesCore.CheckpointSaving

/-! # Orphan deletions

What a deletion does under any interference: it walks the chain from the marker it has
read, and erases a checkpoint that it did not meet. -/

namespace CongeriesCore

open AsyncProgram

/-- The thread has seen the commits `seen` of the Run, and no more. -/
def Saw (thread : ℕ) (runId : RunId) (seen : List Commit) (state : CommitWorld) : Prop :=
  seen <:+ state.2.commits runId ∧ seen.length = state.2.read thread

theorem stable_saw (thread : ℕ) (runId : RunId) (seen : List Commit) :
    Stable thread (Saw thread runId seen) := by
  intro before after relied saw
  exact ⟨saw.1.trans (relied.grows.commits runId), saw.2.trans relied.read.symm⟩

variable [Sha256] {reliable : Prop} {documents : Checkpoint → Prop} {thread : ℕ}
  {state : CommitWorld}

/-- The walk along the links visits every commit the thread has seen. -/
theorem safe_reachableRefs (coordinator : CheckpointCoordinator) (provider : ProviderId)
    (run : WorkflowRun) (context : RuntimeCallContext) (seen : List Commit) (fuel : ℕ)
    (walked rest : List Commit) (reachable : List CheckpointRef)
    (split : seen = walked ++ rest) (visited : ∀ commit ∈ walked, commit.checkpoint.ref ∈ reachable)
    (unmoved : Unmoved reliable thread state) (saw : Saw thread run.runId seen state) :
    Writes reliable documents thread (coordinator.reachableRefs provider run context fuel reachable
        (rest.head?.map fun commit => commit.checkpoint.ref))
      (fun references current => (Unmoved reliable thread current ∧
        Saw thread run.runId seen current) ∧
          ∀ commit ∈ seen, commit.checkpoint.ref ∈ references)
      (Unmoved reliable thread) state := by
  induction fuel generalizing state walked rest reachable with
  | zero =>
    cases rest with
    | nil =>
      refine ⟨⟨unmoved, saw⟩, ?_⟩
      rw [split, List.append_nil]
      exact visited
    | cons commit rest => exact unmoved
  | succ fuel ih =>
    cases rest with
    | nil =>
      refine ⟨⟨unmoved, saw⟩, ?_⟩
      rw [split, List.append_nil]
      exact visited
    | cons commit rest =>
      dsimp only [List.head?_cons, Option.map_some, CheckpointCoordinator.reachableRefs]
      split
      · exact unmoved
      · have stable := (lasting_unmoved reliable thread).stable.and (stable_saw thread run.runId seen)
        have loaded : Writes reliable documents thread
            (coordinator.gateway.load provider commit.checkpoint.ref run.runId run.scope context)
            (fun checkpoint current => (Unmoved reliable thread current ∧
              Saw thread run.runId seen current) ∧ checkpoint.previousCheckpointRef =
                rest.head?.map fun commit => commit.checkpoint.ref)
            (Unmoved reliable thread) state := by
          refine safe_load stable (fun _ kept => kept.1) (fun _ => stable_const thread _)
            (fun world log checkpoint sound kept found => ?_) coordinator.gateway provider run.runId
            run.scope context ⟨unmoved, saw⟩
          have chain : CommittedChain world run.runId (log.commits run.runId) := sound.chain run.runId
          have remaining : commit :: rest <:+ log.commits run.runId :=
            (split ▸ List.suffix_append walked (commit :: rest)).trans kept.2.1
          have continues := (chain.suffix remaining).1
          obtain ⟨stored, foundStored, content⟩ := continues.stored
          rw [found] at foundStored
          cases foundStored
          rw [content.fields.2.2, continues.previous]
        refine loaded.next fun checkpoint after kept => ?_
        obtain ⟨⟨unmoved, saw⟩, previous⟩ := kept
        rw [previous]
        refine ih (walked ++ [commit]) rest (commit.checkpoint.ref :: reachable)
          (by simp [split]) (fun other member => ?_) unmoved saw
        rcases List.mem_append.mp member with earlier | last
        · exact List.mem_cons_of_mem _ (visited other earlier)
        · rw [List.mem_singleton.mp last]
          exact List.mem_cons_self

/-- Only an orphan is erased, where no commit that the thread has seen has its reference. -/
theorem safe_checkpointDelete {request : DeleteCheckpointRequest} {seen : List Commit}
    (unreachable : ∀ commit ∈ seen, commit.checkpoint.ref ≠ request.checkpointRef)
    (context : RuntimeCallContext) (unmoved : Unmoved reliable thread state)
    (saw : Saw thread request.runId seen state) :
    Writes reliable documents thread (coreOp (.checkpointDelete request context))
      (fun _ => Unmoved reliable thread) (Unmoved reliable thread) state := by
  have lasting := lasting_unmoved reliable thread
  refine safe_call (lasting.stable.and (stable_saw thread request.runId seen))
    (fun world log sound holds fault permitted => ?_) ⟨unmoved, saw⟩
  have orphaned : Orphaned thread request (world, log) := permitted.2
  have effect : ∀ after, (coreAnswer (.checkpointDelete request context) fault world).2 = after →
      (∀ runId, after.run? runId = world.run? runId) → Sound documents (after, log) →
      let result := (writerEnvironment reliable Orphaned thread).answer (.checkpointDelete request context)
        fault (world, log)
      Sound documents result.2 ∧ (Grows (world, log) result.2 ∧
        ∀ other, other ≠ thread → Relies other (world, log) result.2) ∧
        Ends (fun _ => Unmoved reliable thread) (Unmoved reliable thread) result.1 result.2 := by
    intro after done runs sound
    have grows : Grows (world, log) (after, log) :=
      ⟨fun runId run found => ⟨run, (runs runId).trans found, .inl rfl⟩, fun _ => List.suffix_refl _⟩
    have kept : Unmoved reliable thread (after, log) := lasting _ _ grows rfl holds.1
    have answered : ((writerEnvironment reliable Orphaned thread).answer (.checkpointDelete request context)
        fault (world, log)).2 = (after, log) := by
      rw [← done]
      rfl
    dsimp only
    rw [answered]
    refine ⟨sound, guarantees grows fun _ _ => ⟨rfl, rfl, rfl⟩, ?_⟩
    cases ((writerEnvironment reliable Orphaned thread).answer (.checkpointDelete request context) fault
        (world, log)).1 with
    | ok result => exact kept
    | error raised => exact kept
  rcases answer_checkpointDelete world request context fault with
    same | ⟨checkpoint, found, owner, erased⟩
  · exact effect world same (fun _ => rfl) sound
  · refine effect _ erased (fun _ => rfl) (sound.erase found ?_ fun writer staged held same => ?_)
    · rw [owner]
      intro committed
      obtain ⟨newer, joined⟩ := holds.2.1
      have joined : newer ++ seen = log.commits request.runId := joined
      have lengths : (log.commits request.runId).length - log.read thread = newer.length := by
        have length : seen.length = log.read thread := holds.2.2
        rw [← joined, List.length_append, length, Nat.add_sub_cancel]
      obtain ⟨commit, member, named⟩ := List.mem_map.mp committed
      rw [← joined] at member
      rcases List.mem_append.mp member with recent | old
      · refine orphaned.2 request.checkpointRef ?_ rfl
        change request.checkpointRef ∈ (log.refs request.runId).take
          ((log.commits request.runId).length - log.read thread)
        rw [lengths, CommitLog.refs, ← joined, List.map_append, ← List.length_map, List.take_left,
          ← named]
        exact List.mem_map_of_mem recent
      · exact unreachable commit old named
    · exact orphaned.1 writer staged held same

theorem safe_gatewayDelete {request : DeleteCheckpointRequest} {seen : List Commit}
    (unreachable : ∀ commit ∈ seen, commit.checkpoint.ref ≠ request.checkpointRef)
    (gateway : CheckpointGateway) (context : RuntimeCallContext)
    (unmoved : Unmoved reliable thread state) (saw : Saw thread request.runId seen state) :
    Writes reliable documents thread (gateway.delete request context)
      (fun _ => Unmoved reliable thread) (Unmoved reliable thread) state := by
  have stable := (lasting_unmoved reliable thread).stable.and (stable_saw thread request.runId seen)
  have routine : Routine (writerEnvironment reliable Orphaned thread)
      (writerContract documents thread) gateway.authorization.dispatcher
      (fun current => Unmoved reliable thread current ∧ Saw thread request.runId seen current)
      (Unmoved reliable thread) (Unmoved reliable thread) :=
    writer_routine stable (fun _ kept => kept.1) gateway.authorization
  have afterwards : Routine (writerEnvironment reliable Orphaned thread)
      (writerContract documents thread) gateway.authorization.dispatcher
      (Unmoved reliable thread) (Unmoved reliable thread) (Unmoved reliable thread) :=
    writer_routine (lasting_unmoved reliable thread).stable (fun _ kept => kept)
      gateway.authorization
  refine Program.safe_guarded unmoved fun _ _ => ?_
  refine routine.dispatch _ _ (fun grant current kept => ?_) ⟨unmoved, saw⟩
  refine Program.safe_guarded kept.1 fun _ _ => ?_
  refine Program.safe_guarded kept.1 fun _ _ => ?_
  have deleted := routine.invoke (fun _ => afterwards)
    (coreOp (.checkpointDelete request { context with scope := grant.effectiveScope }))
    { context with scope := grant.effectiveScope }
    (fun current kept => safe_checkpointDelete unreachable _ kept.1 kept.2) kept
  refine deleted.next fun result last kept => ?_
  exact Program.safe_guarded kept fun _ _ => kept

theorem safe_deleteOrphan (coordinator : CheckpointCoordinator) (fuel : ℕ)
    (request : DeleteCheckpointRequest) (context : RuntimeCallContext)
    (start : Unmoved reliable thread state) :
    Writes reliable documents thread (coordinator.deleteOrphan fuel request context)
      (fun _ _ => True) (Unmoved reliable thread) state := by
  refine (safe_workflowRun request.runId start).next fun run after kept => ?_
  obtain ⟨unmoved, ⟨seen, suffix, length, marker⟩, owner⟩ := kept
  refine Program.safe_guarded unmoved fun _ _ => ?_
  rw [run.latest] at marker
  rw [marker]
  refine (safe_reachableRefs coordinator request.providerId run context seen fuel [] seen [] rfl
    nofun unmoved ⟨suffix, length⟩).next fun references later kept => ?_
  obtain ⟨⟨unmoved, saw⟩, visited⟩ := kept
  refine Program.safe_guarded unmoved fun _ absent => ?_
  have unreachable : ∀ commit ∈ seen, commit.checkpoint.ref ≠ request.checkpointRef := by
    intro commit member same
    have reached := visited commit member
    rw [same] at reached
    rw [ensure_eq_ok] at absent
    simp [reached] at absent
  rw [owner] at saw
  exact (safe_gatewayDelete unreachable coordinator.gateway context unmoved saw).weaken
    (fun _ _ _ => trivial) fun _ kept => kept

end CongeriesCore
