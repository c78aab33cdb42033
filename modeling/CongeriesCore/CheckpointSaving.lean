import CongeriesCore.CheckpointWriters

/-! # Saves

What a save does under any interference: it stages the checkpoint in the store, and then
moves the marker to it or fails. -/

namespace CongeriesCore

open AsyncProgram

/-- `checkpoint` has the content of the commit of `reference`. -/
def Loaded (runId : RunId) (reference : CheckpointRef) (checkpoint : Checkpoint) :
    CommitWorld → Prop :=
  Committed runId fun commit => commit.checkpoint.ref = reference ∧
    SameContent checkpoint commit.checkpoint

/-- The Run's marker is one of its commits. -/
def Marked (run : Run) (state : CommitWorld) : Prop :=
  ∀ reference, run.latest = some reference →
    Committed run.runId (fun commit => commit.checkpoint.ref = reference) state

/-- The marker of the Run as the thread has read it heads the commits it has seen. -/
def ReadAt (thread : ℕ) (run : Run) (state : CommitWorld) : Prop :=
  ∃ seen, seen <:+ state.2.commits run.runId ∧ seen.length = state.2.read thread ∧
    run.latest = seen.head?.map fun commit => commit.checkpoint.ref

theorem lasting_marked (thread : ℕ) (run : Run) : Lasting thread (Marked run) := by
  intro before after grows moved marked reference named
  exact lasting_committed thread run.runId _ before after grows moved (marked reference named)

theorem lasting_follows (thread : ℕ) (checkpoint : Checkpoint) :
    Lasting thread fun state => Follows state.2 checkpoint := by
  intro before after grows moved follows
  unfold Follows at follows ⊢
  split
  · rename_i first
    rw [first] at follows
    exact follows
  · rename_i named given
    rw [given] at follows
    exact lasting_committed thread checkpoint.runId _ before after grows moved follows

theorem ReadAt.marked {thread : ℕ} {run : Run} {state : CommitWorld}
    (readAt : ReadAt thread run state) : Marked run state := by
  obtain ⟨seen, suffix, -, marker⟩ := readAt
  intro reference named
  rw [marker, Option.map_eq_some_iff] at named
  obtain ⟨commit, first, rfl⟩ := named
  exact ⟨commit, suffix.subset (List.mem_of_head? first), rfl⟩

/-- What a checkpoint must satisfy before its writer may stage it. -/
structure Prepared (documents : Checkpoint → Prop) (checkpoint : Checkpoint) (log : CommitLog) :
    Prop where
  documented : documents checkpoint
  committed : ∀ named, checkpoint.previousCheckpointRef = some named →
    named ∈ log.refs checkpoint.runId
  follows : Follows log checkpoint

theorem lasting_prepared (thread : ℕ) (documents : Checkpoint → Prop) (checkpoint : Checkpoint) :
    Lasting thread fun state => Prepared documents checkpoint state.2 := by
  intro before after grows moved prepared
  refine ⟨prepared.documented, fun named given => ?_, ?_⟩
  · obtain ⟨commit, member, rfl⟩ := List.mem_map.mp (prepared.committed named given)
    exact List.mem_map.mpr ⟨commit, (grows.commits checkpoint.runId).subset member, rfl⟩
  · exact lasting_follows thread checkpoint before after grows moved prepared.follows

/-- The thread has written the checkpoint to the store, and not committed it yet. -/
def Staged (thread : ℕ) (checkpoint : Checkpoint) (state : CommitWorld) : Prop :=
  state.2.staged thread = some checkpoint

theorem stable_staged (thread : ℕ) (checkpoint : Checkpoint) :
    Stable thread (Staged thread checkpoint) := by
  intro before after relied staged
  unfold Staged
  rw [relied.staged]
  exact staged

/-- `sequence` follows that of the Run's marker. -/
def NextSequence (run : WorkflowRun) (sequence : ℕ) (state : CommitWorld) : Prop :=
  match run.latestCheckpointRef with
  | none => sequence = 1
  | some marker => Committed run.runId (fun commit => commit.checkpoint.ref = marker ∧
      sequence = commit.checkpoint.sequence + 1) state

variable [Sha256] {reliable : Prop} {documents : Checkpoint → Prop} {thread : ℕ}
  {state : CommitWorld} {held : CommitWorld → Prop}

/-- A committed checkpoint is stored with its content. -/
theorem Sound.loaded {world : CoreWorld} {log : CommitLog} (sound : Sound documents (world, log))
    {runId : RunId} {reference : CheckpointRef} {checkpoint : Checkpoint}
    (member : Committed runId (fun commit => commit.checkpoint.ref = reference) (world, log))
    (found : world.checkpoint? reference = some checkpoint) :
    Loaded runId reference checkpoint (world, log) := by
  obtain ⟨commit, committed, rfl⟩ := member
  have chain : CommittedChain world runId (log.commits runId) := sound.chain runId
  obtain ⟨_, _, continues⟩ := chain.continues committed
  obtain ⟨stored, foundStored, content⟩ := continues.stored
  rw [found] at foundStored
  cases foundStored
  exact ⟨commit, committed, rfl, content⟩

/-- A load changes nothing, and gives what the store holds under the reference. -/
theorem safe_checkpointLoad {fact : Checkpoint → CommitWorld → Prop} (stable : Stable thread held)
    (unmoved : ∀ current, held current → Unmoved reliable thread current)
    {reference : CheckpointRef}
    (answers : ∀ world log checkpoint, Sound documents (world, log) → held (world, log) →
      world.checkpoint? reference = some checkpoint → fact checkpoint (world, log))
    (context : RuntimeCallContext) (start : held state) :
    Writes reliable documents thread (coreOp (.checkpointLoad reference context))
      (fun checkpoint current => held current ∧ fact checkpoint current)
      (Unmoved reliable thread) state := by
  refine safe_quiet rfl stable (fun current sound kept fault _ checkpoint answered => ?_) unmoved start
  refine ⟨kept, answers current.1 current.2 checkpoint sound kept ?_⟩
  have unwrapped : (coreAnswer (.checkpointLoad reference context) fault current.1).1 =
      .ok checkpoint := answered
  rcases answer_checkpointLoad current.1 reference context fault with
    ⟨error, refusal⟩ | ⟨stored, found, done⟩
  · rw [refusal] at unwrapped
    cases unwrapped
  · rw [done] at unwrapped
    cases unwrapped
    exact found

theorem safe_load {fact : Checkpoint → CommitWorld → Prop} (stable : Stable thread held)
    (unmoved : ∀ current, held current → Unmoved reliable thread current)
    {reference : CheckpointRef} (lasts : ∀ checkpoint, Stable thread (fact checkpoint))
    (answers : ∀ world log checkpoint, Sound documents (world, log) → held (world, log) →
      world.checkpoint? reference = some checkpoint → fact checkpoint (world, log))
    (gateway : CheckpointGateway) (provider : ProviderId) (runId : RunId) (scope : ScopeRef)
    (context : RuntimeCallContext) (start : held state) :
    Writes reliable documents thread (gateway.load provider reference runId scope context)
      (fun checkpoint current => held current ∧ fact checkpoint current)
      (Unmoved reliable thread) state := by
  have routine : Routine (writerEnvironment reliable Orphaned thread)
      (writerContract documents thread) gateway.authorization.dispatcher held _ _ :=
    writer_routine stable unmoved gateway.authorization
  exact routine.gatewayLoad
    (fun checkpoint => writer_routine (stable.and (lasts checkpoint))
      (fun current both => unmoved current both.1) gateway.authorization)
    provider reference runId scope context
    (fun current context start => safe_checkpointLoad stable unmoved answers context start) start

theorem safe_checkpointSave (lasting : Lasting thread held)
    (unmoved : ∀ current, held current → Unmoved reliable thread current)
    {checkpoint : Checkpoint}
    (prepared : ∀ current, held current → Prepared documents checkpoint current.2)
    (context : RuntimeCallContext) (start : held state) :
    Writes reliable documents thread (coreOp (.checkpointSave checkpoint context))
      (fun _ current => held current ∧ Staged thread checkpoint current)
      (Unmoved reliable thread) state := by
  refine safe_call lasting.stable (fun world log sound holds fault _ => ?_) start
  have ready := prepared (world, log) holds
  have staged : Staged thread checkpoint (world, log.stage thread checkpoint) :=
    Function.update_self _ _ _
  have own := ownEntries_stage thread log checkpoint
  rcases answer_checkpointSave world checkpoint context fault with
    ⟨outcome, done, answers⟩ | ⟨intact, free, links, outcome, done⟩
  · dsimp only
    rw [answer_writer done]
    cases outcome with
    | error error =>
      exact ⟨sound, ⟨.refl _, fun other _ => .refl other _⟩, unmoved _ holds⟩
    | ok result =>
      obtain ⟨intact, existing, found, digest⟩ := answers result rfl
      have grows : Grows (world, log) (world, log.stage thread checkpoint) := grows_relog world rfl
      exact ⟨sound.stage thread ready.documented intact found digest, guarantees grows own,
        lasting _ _ grows rfl holds, staged⟩
  · have inserted : Sound documents (world.setCheckpoint checkpoint, log) := by
      refine sound.insert ready.documented intact free fun named given => ?_
      obtain ⟨previous, found, -, effects⟩ := links named given
      exact ⟨ready.committed named given, previous, found, effects⟩
    have added : Grows (world, log) (world.setCheckpoint checkpoint, log) :=
      ⟨fun runId run found => ⟨run, found, .inl rfl⟩, fun _ => List.suffix_refl _⟩
    dsimp only
    rw [answer_writer done]
    cases outcome with
    | error error =>
      have kept := lasting _ _ added rfl holds
      exact ⟨inserted, guarantees added fun _ _ => ⟨rfl, rfl, rfl⟩, unmoved _ kept⟩
    | ok result =>
      have found : (world.setCheckpoint checkpoint).checkpoint? checkpoint.ref = some checkpoint := by
        rw [CoreWorld.checkpoint?_setCheckpoint, if_pos rfl]
      have grows : Grows (world, log)
          (world.setCheckpoint checkpoint, log.stage thread checkpoint) :=
        added.trans (grows_relog _ rfl)
      exact ⟨inserted.stage thread ready.documented intact found rfl, guarantees grows own,
        lasting _ _ grows rfl holds, staged⟩

theorem safe_gatewaySave (lasting : Lasting thread held)
    (unmoved : ∀ current, held current → Unmoved reliable thread current)
    {checkpoint : Checkpoint}
    (prepared : ∀ current, held current → Prepared documents checkpoint current.2)
    (gateway : CheckpointGateway) (provider : ProviderId) (context : RuntimeCallContext)
    (start : held state) :
    Writes reliable documents thread (gateway.save provider checkpoint context)
      (fun _ current => held current ∧ Staged thread checkpoint current)
      (Unmoved reliable thread) state := by
  have routine : Routine (writerEnvironment reliable Orphaned thread)
      (writerContract documents thread) gateway.authorization.dispatcher held _ _ :=
    writer_routine lasting.stable unmoved gateway.authorization
  have staged : Stable thread fun current => held current ∧ Staged thread checkpoint current :=
    lasting.stable.and (stable_staged thread checkpoint)
  exact routine.gatewaySave
    (fun _ => writer_routine staged (fun current both => unmoved current both.1)
      gateway.authorization)
    provider checkpoint context
    (fun _ current context start => safe_checkpointSave lasting unmoved prepared context start) start

/-- Where the publisher is reliable it does not raise. -/
theorem safe_stateChanged {fact : CommitWorld → Prop} (stable : Stable thread fact)
    (transition : RunTransition) (start : fact state) :
    Writes reliable documents thread (coreOp (.runStateChanged transition)) (fun _ => fact)
      (Unmoved reliable thread) state := by
  refine safe_call stable (fun world log sound holds outcome permitted => ?_) start
  refine ⟨sound, ⟨.refl _, fun other _ => .refl other _⟩, ?_⟩
  cases outcome with
  | ok done => exact holds
  | error raised =>
    intro trusted
    cases permitted.2 trusted

theorem safe_checkpointSaved (checkpoint : Checkpoint) (run : WorkflowRun)
    (context : RuntimeCallContext) :
    Writes reliable documents thread (suppressException (coreOp (.checkpointSaved checkpoint run context)))
      (fun _ _ => True) (Unmoved reliable thread) state := by
  have published : Writes reliable documents thread (coreOp (.checkpointSaved checkpoint run context))
      (fun _ _ => True) (Unmoved reliable thread) state := by
    refine safe_call (stable_const thread True) (fun world log sound _ outcome permitted => ?_) trivial
    refine ⟨sound, ⟨.refl _, fun other _ => .refl other _⟩, ?_⟩
    cases outcome with
    | ok done => trivial
    | error raised =>
      intro trusted
      cases permitted.2 trusted
  refine published.catching (fun _ _ done => done) fun error after unmoved => ?_
  split
  · trivial
  · exact unmoved

theorem safe_publishFailure {α : Type} {value : α → CommitWorld → Prop} (checkpoint : Checkpoint)
    (context : RuntimeCallContext) (error : Raised) (start : Unmoved reliable thread state) :
    Writes reliable documents thread (CheckpointCoordinator.publishFailure checkpoint context error)
      value (Unmoved reliable thread) state := by
  cases error with
  | core detail =>
    have lasting := lasting_unmoved reliable thread
    have failed : Writes reliable documents thread (coreOp (.checkpointFailed checkpoint detail context))
        (fun _ => Unmoved reliable thread) (Unmoved reliable thread) state := by
      refine safe_call lasting.stable (fun world log sound holds outcome _ => ?_) start
      have kept := lasting (world, log) (world, log.unstage thread) (grows_unstage thread world log)
        rfl holds
      refine ⟨sound.unstage thread, guarantees (grows_unstage thread world log)
        (ownEntries_unstage thread log), ?_⟩
      cases outcome with
      | ok done => exact kept
      | error raised => exact kept
    have suppressed : Writes reliable documents thread
        (suppressException (coreOp (.checkpointFailed checkpoint detail context)))
        (fun _ => Unmoved reliable thread) (Unmoved reliable thread) state := by
      refine failed.catching (fun _ _ kept => kept) fun error after kept => ?_
      split
      · exact kept
      · exact kept
    exact suppressed.next fun _ _ kept => kept
  | _ => exact start

/-- The commit moves the marker to the staged checkpoint, or fails. -/
theorem safe_commitCheckpoint (collisionFree : CollisionFree documents)
    (lasting : Lasting thread held)
    (unmoved : ∀ current, held current → Unmoved reliable thread current)
    {checkpoint : Checkpoint}
    (prepared : ∀ current, held current → Prepared documents checkpoint current.2) (version : ℕ)
    (start : held state) (staged : Staged thread checkpoint state) :
    Writes reliable documents thread
      (RunService.commitCheckpoint checkpoint.runId version checkpoint.ref
        checkpoint.previousCheckpointRef)
      (fun run _ => ∃ fields, run.kind = .workflow fields) (Unmoved reliable thread) state := by
  have both := lasting.stable.and (stable_staged thread checkpoint)
  have unstaged : ∀ world log, held (world, log) → Unmoved reliable thread (world, log.unstage thread) :=
    fun world log holds => unmoved _ (lasting (world, log) _ (grows_unstage thread world log) rfl holds)
  have got : Writes reliable documents thread (coreOp (.runGet checkpoint.runId))
      (fun run current => ((held current ∧ Staged thread checkpoint current) ∧ Seen run current) ∧
        run.runId = checkpoint.runId) (Unmoved reliable thread) state := by
    refine safe_runGet both _ (fun world log run sound holds found => ?_)
      (fun world log holds => unstaged world log holds.1) ⟨start, staged⟩
    have same : run.runId = checkpoint.runId := sound.keyed checkpoint.runId run found
    have kept := lasting (world, log) (world, log.readCommits thread checkpoint.runId)
      (grows_relog world rfl) rfl holds.1
    exact ⟨⟨⟨kept, holds.2⟩, run, same ▸ found, .inl rfl⟩, same⟩
  refine got.next fun previous after kept => ?_
  obtain ⟨kept, owner⟩ := kept
  have stable := both.and (lasting_seen thread previous).stable
  have clock : Writes reliable documents thread (coreOp .now)
      (fun _ current => (held current ∧ Staged thread checkpoint current) ∧ Seen previous current)
      (Unmoved reliable thread) after :=
    safe_quiet rfl stable (fun _ _ kept _ _ _ _ => kept) (fun current kept => unmoved current kept.1.1)
      kept
  refine clock.next fun time later kept => ?_
  refine Program.safe_guarded (unmoved later kept.1.1) fun transition done => ?_
  obtain ⟨fields, kind, -, same, expected, changed⟩ := RunStateMachine.commitCheckpoint_ok done
  rcases changed with ⟨unchanged, -⟩ | ⟨change, ⟨marker, rfl⟩, changed⟩
  · have idempotent : transition.unchanged = true := by
      rw [RunTransition.unchanged, unchanged, same, beq_iff_eq]
    rw [if_pos idempotent, unchanged]
    exact ⟨fields, kind⟩
  · have raised : transition.current.stateVersion = version + 1 := by
      rw [changed, expected]
    have runId : transition.current.runId = checkpoint.runId := by
      rw [changed, owner]
    have moved : ∃ fields, transition.current.kind = .workflow fields := by
      rw [changed]
      exact ⟨_, rfl⟩
    have latest : transition.current.latest = some checkpoint.ref := by
      rw [Run.latest, Run.workflow?, changed]
      rfl
    have given : checkpoint.previousCheckpointRef = previous.latest := by
      rw [Run.latest, Run.workflow?_eq_some.mpr kind]
      exact marker.symm
    have changes : ¬ transition.unchanged = true := by
      rw [RunTransition.unchanged, same, raised, expected, beq_iff_eq]
      omega
    rw [if_neg changes]
    have committed : Writes reliable documents thread
        (coreOp (.runCompareAndSet transition.current version))
        (fun run _ => ∃ fields, run.kind = .workflow fields) (Unmoved reliable thread) later := by
      refine safe_runCompareAndSet stable _ _ (fun world log holds => unstaged world log holds.1.1)
        (fun world log current sound holds found versioned next => ?_) kept
      rw [runId, ← owner] at found
      have unchanged : current = previous := holds.2.same found (versioned.trans expected.symm)
      subst unchanged
      rw [owner] at found
      have newer : current.stateVersion < transition.current.stateVersion := by omega
      have prior : world.run? transition.current.runId = some current := by rw [runId]; exact found
      split
      · rename_i marked
        have grows : Grows (world, log) (world.setRun transition.current, log.unstage thread) :=
          grows_setRun prior newer fun _ => List.suffix_refl _
        have kept := unmoved _ (lasting (world, log) _ grows rfl holds.1.1)
        exact ⟨(sound.setRun prior marked.symm newer).unstage thread,
          guarantees grows (ownEntries_unstage thread log), moved, fun _ => kept⟩
      · have ready := prepared (world, log) holds.1.1
        have commits : ∀ runId, log.commits runId <:+
            (log.commit thread checkpoint.runId version).commits runId := by
          intro other
          rw [CommitLog.commits_commit holds.1.2]
          split
          · rename_i same
            rw [same]
            exact List.suffix_cons _ _
          · exact List.suffix_refl _
        have grows := grows_setRun prior newer commits
        rw [runId]
        have sound : Sound documents (world.setRun transition.current,
            log.commit thread checkpoint.runId version) := by
          rw [← versioned]
          exact sound.commit collisionFree holds.1.2 found runId (raised.trans (by rw [versioned]))
            latest given ready.follows
        exact ⟨sound, guarantees grows (ownEntries_commit thread log checkpoint.runId version), moved,
          fun broken trusted => absurd trusted broken⟩
    refine committed.next fun run last moved => ?_
    have published : Writes reliable documents thread
        (coreOp (.runStateChanged ⟨transition.previous, run, transition.reason⟩))
        (fun _ _ => ∃ fields, run.kind = .workflow fields) (Unmoved reliable thread) last :=
      safe_stateChanged (stable_const thread _) _ moved
    exact published.next fun _ _ moved => moved

/-- What the thread knows of the WorkflowRun it has read. -/
theorem safe_workflowRun (runId : RunId) (start : Unmoved reliable thread state) :
    Writes reliable documents thread (CheckpointCoordinator.workflowRun runId)
      (fun workflow current => Unmoved reliable thread current ∧
        ReadAt thread workflow.toRun current ∧ workflow.runId = runId)
      (Unmoved reliable thread) state := by
  have lasting := lasting_unmoved reliable thread
  have got : Writes reliable documents thread (RunService.get runId)
      (fun run current => Unmoved reliable thread current ∧ ReadAt thread run current ∧
        run.runId = runId) (Unmoved reliable thread) state := by
    refine safe_runGet lasting.stable runId (fun world log run sound holds found => ?_)
      (fun world log holds => ?_) start
    · have same : run.runId = runId := sound.keyed runId run found
      have marker : world.marker runId = (log.refs runId).head? := sound.marker runId
      rw [CoreWorld.marker_of_run found, CommitLog.refs, List.head?_map, ← same] at marker
      have read : (log.readCommits thread run.runId).read thread = (log.commits run.runId).length :=
        Function.update_self thread _ log.read
      rw [same] at read
      have kept := lasting (world, log) (world, log.readCommits thread runId)
        (grows_relog world rfl) rfl holds
      exact ⟨kept, ⟨log.commits run.runId, List.suffix_refl _, same ▸ read.symm, marker⟩, same⟩
    · exact lasting (world, log) _ (grows_unstage thread world log) rfl holds
  refine got.next fun run after kept => ?_
  refine Program.safe_checked (fun workflow made => ?_) kept.1
  have same := Run.asWorkflow_ok made
  subst same
  exact kept

theorem safe_nextSequence (coordinator : CheckpointCoordinator) (provider : ProviderId)
    (run : WorkflowRun) (context : RuntimeCallContext) (unmoved : Unmoved reliable thread state)
    (marked : Marked run.toRun state) :
    Writes reliable documents thread (coordinator.nextSequence provider run context)
      (fun sequence current => (Unmoved reliable thread current ∧ Marked run.toRun current) ∧
        NextSequence run sequence current)
      (Unmoved reliable thread) state := by
  unfold CheckpointCoordinator.nextSequence
  split
  · rename_i unmarked
    refine ⟨⟨unmoved, marked⟩, ?_⟩
    rw [NextSequence, unmarked]
  · rename_i marker given
    have lasting := (lasting_unmoved reliable thread).and (lasting_marked thread run.toRun)
    have loaded : Writes reliable documents thread
        (coordinator.gateway.load provider marker run.runId run.scope context)
        (fun checkpoint current => (Unmoved reliable thread current ∧ Marked run.toRun current) ∧
          Loaded run.runId marker checkpoint current) (Unmoved reliable thread) state :=
      safe_load lasting.stable (fun _ kept => kept.1)
        (fun _ => (lasting_committed thread run.runId _).stable)
        (fun world log checkpoint sound kept found => sound.loaded
          (kept.2 marker (run.latest.trans given)) found)
        coordinator.gateway provider run.runId run.scope context ⟨unmoved, marked⟩
    refine loaded.next fun previous after kept => ?_
    refine ⟨kept.1, ?_⟩
    rw [NextSequence, given]
    obtain ⟨commit, member, named, content⟩ := kept.2
    exact ⟨commit, member, named, by rw [content.fields.2.1]⟩

/-- A save ends, or it raises and has moved no marker. -/
theorem safe_save (collisionFree : CollisionFree documents) {checkpoint : Checkpoint}
    (documented : documents checkpoint) (coordinator : CheckpointCoordinator)
    (provider : ProviderId) (version : ℕ) (context : RuntimeCallContext)
    (start : Unmoved reliable thread state) :
    Writes reliable documents thread (coordinator.save provider checkpoint version context)
      (fun _ _ => True) (Unmoved reliable thread) state := by
  refine (safe_workflowRun checkpoint.runId start).next fun run after kept => ?_
  obtain ⟨unmoved, readAt, owner⟩ := kept
  refine Program.safe_guarded unmoved fun _ _ => ?_
  split
  · have loaded : Writes reliable documents thread
        (coordinator.gateway.load provider checkpoint.ref run.runId run.scope context)
        (fun _ current => Unmoved reliable thread current ∧ True) (Unmoved reliable thread) after :=
      safe_load (lasting_unmoved reliable thread).stable (fun _ kept => kept)
        (fun _ => stable_const thread True) (fun _ _ _ _ _ _ => trivial) coordinator.gateway provider
        run.runId run.scope context unmoved
    refine loaded.next fun existing last kept => ?_
    exact Program.safe_guarded kept.1 fun _ _ => trivial
  · refine Program.safe_guarded unmoved fun _ _ => ?_
    refine (safe_nextSequence coordinator provider run context unmoved readAt.marked).next
      fun sequence later kept => ?_
    obtain ⟨⟨unmoved, marked⟩, next⟩ := kept
    refine Program.safe_guarded unmoved fun _ matching => ?_
    rw [ensure_eq_ok, Bool.and_eq_true, beq_iff_eq, beq_iff_eq] at matching
    obtain ⟨previous, sequenced⟩ := matching
    have prepared : Prepared documents checkpoint later.2 := by
      refine ⟨documented, fun named given => ?_, ?_⟩
      · rw [previous, ← run.latest] at given
        obtain ⟨commit, member, same⟩ := marked named given
        rw [owner] at member
        exact List.mem_map.mpr ⟨commit, member, same⟩
      · unfold Follows
        unfold NextSequence at next
        rw [← previous] at next
        split
        · rename_i first
          rw [first] at next
          rw [sequenced, next]
        · rename_i named given
          rw [given] at next
          obtain ⟨commit, member, same, successor⟩ := next
          rw [owner] at member
          exact ⟨commit, member, same, sequenced.trans successor⟩
    have lasting := (lasting_unmoved reliable thread).and
      (lasting_prepared thread documents checkpoint)
    have written : Writes reliable documents thread
        (coordinator.writeAndCommit provider checkpoint run version context)
        (fun run _ => ∃ fields, run.kind = .workflow fields) (Unmoved reliable thread) later := by
      unfold CheckpointCoordinator.writeAndCommit
      have stored := safe_gatewaySave lasting (fun _ kept => kept.1) (fun _ kept => kept.2)
        coordinator.gateway provider context ⟨unmoved, prepared⟩
      refine stored.next fun _ current kept => ?_
      rw [owner, ← previous]
      exact safe_commitCheckpoint collisionFree lasting (fun _ kept => kept.1) (fun _ kept => kept.2)
        version kept.1 kept.2
    have published : Writes reliable documents thread
        ((coordinator.writeAndCommit provider checkpoint run version context).catching
          (CheckpointCoordinator.publishFailure checkpoint context))
        (fun run _ => ∃ fields, run.kind = .workflow fields) (Unmoved reliable thread) later :=
      written.catching (fun _ _ moved => moved) fun error _ unmoved =>
        safe_publishFailure checkpoint context error unmoved
    refine published.next fun committed last kind => ?_
    obtain ⟨fields, kind⟩ := kind
    obtain ⟨workflow, made⟩ := Run.asWorkflow_of_kind kind
      (.assertion "checkpoint commit did not return WorkflowRun")
    rw [made]
    exact (safe_checkpointSaved checkpoint workflow context).next fun _ _ _ => trivial

end CongeriesCore
