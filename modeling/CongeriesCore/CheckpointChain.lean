import CongeriesCore.CheckpointDeleting
import CongeriesCore.SampleParameters

/-! # The committed chain of racing writers

Every writer keeps the invariant whatever the others do, so every state of the pool has
it; what it says of one Run is one chain of markers. -/

namespace CongeriesCore

open AsyncProgram

/-- The markers of a Run, newest first: one for each state version, numbered from 1, each
naming the one before, stored as it was saved and keeping its side effects. -/
structure SingleWriterChain (state : CommitWorld) (runId : RunId) : Prop where
  marker : state.1.marker runId = (state.2.refs runId).head?
  versions : (state.2.commits runId).Pairwise fun later earlier => earlier.version < later.version
  sequences : (state.2.commits runId).reverse.map (fun commit => commit.checkpoint.sequence) =
    List.range' 1 (state.2.commits runId).length
  previous : ∀ newer commit older, state.2.commits runId = newer ++ commit :: older →
    commit.checkpoint.previousCheckpointRef = older.head?.map fun commit => commit.checkpoint.ref
  stored : ∀ commit ∈ state.2.commits runId, ∃ stored,
    state.1.checkpoint? commit.checkpoint.ref = some stored ∧ SameContent stored commit.checkpoint
  effects : ∀ newer commit earlier older, state.2.commits runId = newer ++ commit :: earlier :: older →
    ∀ stored before, state.1.checkpoint? commit.checkpoint.ref = some stored →
      state.1.checkpoint? earlier.checkpoint.ref = some before →
      ∀ record ∈ before.sideEffects, record ∈ stored.sideEffects

theorem CommittedChain.versions {world : CoreWorld} {runId : RunId} {commits : List Commit}
    (chain : CommittedChain world runId commits) :
    commits.Pairwise fun later earlier => earlier.version < later.version := by
  induction commits with
  | nil => exact .nil
  | cons commit earlier ih => exact .cons chain.1.version (ih chain.2)

theorem CommittedChain.sequences {world : CoreWorld} {runId : RunId} {commits : List Commit}
    (chain : CommittedChain world runId commits) :
    commits.reverse.map (fun commit => commit.checkpoint.sequence) =
      List.range' 1 commits.length := by
  induction commits with
  | nil => rfl
  | cons commit earlier ih =>
    have last : commit.checkpoint.sequence = 1 + earlier.length := by
      rw [chain.1.sequence, Nat.add_comm]
    rw [List.reverse_cons, List.map_append, ih chain.2, List.length_cons, List.range'_1_concat, ← last]
    rfl

section

variable [Sha256] {reliable : Prop} {documents : Checkpoint → Prop} {deleting : Prop}

theorem Sound.chained {world : CoreWorld} {log : CommitLog} (sound : Sound documents (world, log))
    (runId : RunId) : SingleWriterChain (world, log) runId := by
  have chain : CommittedChain world runId (log.commits runId) := sound.chain runId
  have follows : ∀ newer commit older, log.commits runId = newer ++ commit :: older →
      Continues world runId commit older := by
    intro newer commit older joined
    have suffix : commit :: older <:+ log.commits runId := joined ▸ List.suffix_append newer _
    have rest : CommittedChain world runId (commit :: older) := chain.suffix suffix
    exact rest.1
  refine ⟨sound.marker runId, chain.versions, chain.sequences, ?_, ?_, ?_⟩
  · intro newer commit older joined
    exact (follows newer commit older joined).previous
  · intro commit member
    obtain ⟨_, _, continues⟩ := chain.continues member
    exact continues.stored
  · intro newer commit earlier older joined stored before foundStored foundBefore
    have foundStored : world.checkpoint? commit.checkpoint.ref = some stored := foundStored
    have foundBefore : world.checkpoint? earlier.checkpoint.ref = some before := foundBefore
    have continues := follows newer commit (earlier :: older) joined
    obtain ⟨saved, foundSaved, content⟩ := continues.stored
    rw [foundStored] at foundSaved
    cases foundSaved
    have named : stored.previousCheckpointRef = some earlier.checkpoint.ref := by
      rw [content.fields.2.2, continues.previous]
      rfl
    obtain ⟨-, previous, foundPrevious, effects⟩ :=
      sound.links commit.checkpoint.ref stored foundStored earlier.checkpoint.ref named
    change world.checkpoint? earlier.checkpoint.ref = some previous at foundPrevious
    rw [foundBefore] at foundPrevious
    cases foundPrevious
    exact InMemoryCheckpointStore.mem_of_keepsEffects effects

theorem Fresh.sound {state : CommitWorld} (fresh : Fresh state) : Sound documents state := by
  obtain ⟨world, log⟩ := state
  obtain rfl : log = .empty := fresh.log
  have absent : ∀ reference, world.checkpoint? reference = none := fresh.store
  refine ⟨fresh.keyed, fresh.unmarked, fun _ _ _ => nofun, fun _ => trivial, ?_, fun _ => nofun, ?_⟩
  · intro reference checkpoint found
    rw [absent] at found
    cases found
  · intro reference checkpoint found
    rw [absent] at found
    cases found

/-- Every call keeps the invariant and moves a marker only where it does not raise. -/
theorem writers_meet (collisionFree : CollisionFree documents) :
    (writerPool reliable Orphaned documents deleting).Meets (writerContract documents)
      (Sound documents) fun thread => Ends (fun _ _ => True) (Unmoved reliable thread) where
  shared _ := rfl
  reflexive := Relies.refl
  transitive _ _ _ _ := Relies.trans
  stable thread outcome before after relied reached := by
    cases outcome with
    | ok value => trivial
    | error raised => exact (lasting_unmoved reliable thread).stable before after relied reached
  compatible thread other before after distinct guaranteed := guaranteed.2 other distinct.symm
  initial _ := Fresh.sound
  starts thread before program start sound starts := by
    obtain ⟨call, rfl⟩ := starts
    obtain ⟨world, log⟩ := before
    have started : Sound documents (world, log.begin_ thread) := by
      refine sound.relog rfl fun other checkpoint held => ?_
      change Function.update log.staged thread none other = some checkpoint at held
      rw [Function.update_apply] at held
      split at held
      · cases held
      · exact held
    have own : OwnEntries thread log (log.begin_ thread) := by
      intro other distinct
      exact ⟨Function.update_of_ne distinct _ _, rfl, Function.update_of_ne distinct _ _⟩
    have unmoved : Unmoved reliable thread (world, log.begin_ thread) := by
      intro _
      change Function.update log.moved thread false thread = false
      exact Function.update_self thread false log.moved
    refine ⟨started, guarantees (grows_relog world rfl) own, ?_⟩
    cases call with
    | save coordinator provider checkpoint version context documented =>
      exact (safe_save collisionFree documented coordinator provider version context unmoved).next
        fun _ _ _ => trivial
    | deleteOrphan coordinator fuel request context =>
      exact (safe_deleteOrphan coordinator fuel request context unmoved).next fun _ _ _ => trivial

/-- Saves that race, on a reliable repository and with no deletion: every Run has one chain
of markers, no marker is forgotten later, and a save that raises has moved none. -/
theorem save_chain (collisionFree : CollisionFree documents)
    {configuration : Configuration CoreInterface Raised Unit CommitWorld}
    (reached : (writerPool True Orphaned documents False).Reachable configuration) :
    (∀ runId, SingleWriterChain configuration.state runId) ∧
    (∀ later, Relation.ReflTransGen (writerPool True Orphaned documents False).Moves
        configuration later →
      ∀ runId, configuration.state.2.commits runId <:+ later.state.2.commits runId) ∧
    ∀ (thread : ℕ) (error : Raised), configuration.threads[thread]? = some (.raise error) →
      configuration.state.2.moved thread = false := by
  have meets : (writerPool True Orphaned documents False).Meets (writerContract documents)
      (Sound documents) _ := writers_meet collisionFree
  refine ⟨fun runId => ?_, fun later run runId => ?_, fun thread error raised => ?_⟩
  · exact (meets.reachable reached).1.chained runId
  · have grows : Grows configuration.state later.state :=
      meets.preserves Grows.refl (fun _ _ _ => Grows.trans) (fun _ _ _ guaranteed => guaranteed.1)
        reached run
    exact grows.commits runId
  · exact meets.raised reached raised trivial

end

namespace SampleParameters

def sampleWorkflow : WorkflowFields := ⟨⟨"workflow-1", workflow_checked⟩, "1", none⟩

def sampleRun : Run where
  runId := sampleRunId
  kind := .workflow sampleWorkflow
  definitionId := ⟨"definition-1", definition_checked⟩
  rootRunId := sampleRunId
  parentRunId := none
  workspaceId := ⟨"workspace-1", workspace_checked⟩
  sessionRef := none
  scope := sampleScope
  status := .running
  attempt := 1
  stateVersion := 1
  createdAt := sampleTime
  startedAt := none
  updatedAt := none
  endedAt := none
  errorSummary := none
  continuationStatus := none
  attemptHistory := []
  controlPolicy := {}
  checked := by decide +kernel

def sampleFields : CheckpointFields where
  checkpointId := ⟨"checkpoint-1", checkpoint_checked⟩
  runId := sampleRunId
  workflowId := sampleWorkflow.workflowId
  definitionId := sampleRun.definitionId
  graphVersion := "1"
  scope := sampleScope
  sequence := 1
  attempt := 1
  previousCheckpointRef := none
  nodeStates := []
  pendingNodes := []
  externalRefs := []
  sideEffects := []
  approvals := []
  createdAt := sampleTime

def sampleCheckpoint : Checkpoint where
  toCheckpointFields := sampleFields
  integrity := sampleFields.integrityData.sha256
  checked := by decide +kernel

def sampleProvider : ProviderId := ⟨"store-1", store_checked⟩

def sampleCoordinator : CheckpointCoordinator where
  gateway := ⟨sampleProvider, ⟨[checkpointSaveAction, checkpointLoadAction, checkpointDeleteAction], true⟩⟩

/-- A world that holds the run and an empty store. -/
def sampleWorld : CoreWorld :=
  ⟨⟨Dict.empty.set sampleRunId sampleRun⟩, .empty sampleProvider⟩

/-- Everything succeeds, and every request is allowed. -/
def sampleChoice : (op : CoreOp) → op.Choice
  | .cancelled _ => false
  | .now => sampleTime
  | .newCheckpointRef => ⟨"checkpoint-1", checkpoint_checked⟩
  | .authorize request => .ok (allowing request)
  | .checkpointList _ _ => (.none, id)
  | .migrate checkpoint _ _ => .ok checkpoint
  | .runAdd _ | .runGet _ | .runCompareAndSet _ _ | .checkpointSave _ _ | .checkpointLoad _ _
  | .checkpointDelete _ _ => .none
  | .runStateChanged _ | .authorizationDenied _ _ | .crossScopeGranted _ _
  | .checkpointSaved _ _ _ | .checkpointFailed _ _ _ | .migrationAuthorized _ _ _
  | .fallbackAuthorized _ _ _ | .restore _ _ => .ok ()

/-- The calls of the runs below, with or without a deletion. -/
def samplePermits (deleting : Bool) : CoreOp → Bool
  | .newCheckpointRef => false
  | .checkpointDelete _ _ => deleting
  | _ => true

theorem sample_fresh : Fresh (sampleWorld, .empty) := by
  have runs : ∀ runId, sampleWorld.run? runId = if sampleRunId = runId then some sampleRun else none :=
    fun runId => Dict.empty.get?_set sampleRunId runId sampleRun
  refine ⟨fun runId run found => ?_, fun runId => ?_, fun _ => rfl, rfl⟩
  · change sampleWorld.run? runId = some run at found
    rw [runs] at found
    split at found
    · cases found; assumption
    · cases found
  · unfold CoreWorld.marker
    rw [runs]
    split
    · rfl
    · rfl

theorem sample_collisionFree : CollisionFree (· = sampleCheckpoint) := by
  intro first second one two _
  rw [one, two]
  rfl

def sampleSave : CoreProgram Unit := do
  let _ ← sampleCoordinator.save sampleProvider sampleCheckpoint 1 sampleContext
  return ()

/-- Two calls that have just started. -/
def samplePair (first second : CoreProgram Unit) :
    Configuration CoreInterface Raised Unit CommitWorld :=
  ⟨(sampleWorld, (CommitLog.empty.begin_ 0).begin_ 1), [first, second]⟩

/-- Two saves of one checkpoint that take turns. -/
def racingSaves : Configuration CoreInterface Raised Unit CommitWorld :=
  (writerPool True Orphaned (· = sampleCheckpoint) False).execute (fun _ op _ => sampleChoice op)
    (fun _ op _ => samplePermits false op) ((List.range 60).map (· % 2))
    (samplePair sampleSave sampleSave)

theorem sampleSave_call (deleting : Prop) :
    WriterCall (· = sampleCheckpoint) deleting sampleSave :=
  .save sampleCoordinator sampleProvider sampleCheckpoint 1 sampleContext rfl

theorem writerPermits_sample {reliable : Prop} {condition : DeletionCondition} {deleting : Bool}
    {thread : ℕ} {op : CoreOp} {state : CommitWorld} (permitted : samplePermits deleting op = true)
    (allowed : deleting = true → ∀ request, condition thread request state) :
    (writerEnvironment reliable condition thread).permits op (sampleChoice op) state := by
  cases op with
  | newCheckpointRef => cases permitted
  | checkpointList query context => exact ⟨fun _ => .inl rfl, trivial⟩
  | runCompareAndSet run version => exact ⟨trivial, fun _ _ => nofun⟩
  | runStateChanged transition => exact ⟨trivial, fun _ => rfl⟩
  | checkpointSaved checkpoint run context => exact ⟨trivial, fun _ => rfl⟩
  | checkpointDelete request context => exact ⟨trivial, allowed permitted request⟩
  | _ => exact ⟨trivial, trivial⟩

theorem samplePair_reachable {reliable deleting : Prop} {condition : DeletionCondition}
    {first second : CoreProgram Unit} (one : WriterCall (· = sampleCheckpoint) deleting first)
    (two : WriterCall (· = sampleCheckpoint) deleting second) :
    (writerPool reliable condition (· = sampleCheckpoint) deleting).Reachable
      (samplePair first second) :=
  .move (.move (.initial sample_fresh) (.start ⟨one, rfl⟩)) (.start ⟨two, rfl⟩)

theorem racingSaves_reachable :
    (writerPool True Orphaned (· = sampleCheckpoint) False).Reachable racingSaves := by
  apply Pool.execute_reachable
  · intro thread op state permitted
    exact writerPermits_sample permitted nofun
  · exact samplePair_reachable (sampleSave_call False) (sampleSave_call False)

end SampleParameters

open SampleParameters in
theorem save_chain_racing : SingleWriterChain racingSaves.state sampleRunId ∧
    racingSaves.state.1.marker sampleRunId = some sampleCheckpoint.ref ∧
    racingSaves.state.2.moved 1 = false := by
  obtain ⟨chain, -, unmoved⟩ := save_chain sample_collisionFree racingSaves_reachable
  have marked : racingSaves.state.1.marker sampleRunId = some sampleCheckpoint.ref := by
    decide +kernel
  have raised : racingSaves.threads[1]?.bind Program.raised? =
      some RunStateMachine.staleStateVersion := by
    decide +kernel
  obtain ⟨program, found, raised⟩ := Option.bind_eq_some_iff.mp raised
  rw [Program.raised?_eq_some.mp raised] at found
  exact ⟨chain sampleRunId, marked, unmoved 1 _ found⟩

end CongeriesCore
