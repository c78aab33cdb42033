import CongeriesCore.CoreSystem
import Mathlib.Logic.Function.Basic

/-! # Racing checkpoint writers

Any number of saves and orphan deletions whose steps interleave. Beside the world stands
a log for the statements: the commits of every Run, newest first, and for every thread the
checkpoint it has written and not yet committed, how many commits it has seen, and
whether it has moved a marker. -/

namespace CongeriesCore

open AsyncProgram

structure Commit where
  thread : ℕ
  version : ℕ
  checkpoint : Checkpoint

structure CommitLog where
  commits : RunId → List Commit
  staged : ℕ → Option Checkpoint
  read : ℕ → ℕ
  moved : ℕ → Bool

abbrev CommitWorld := CoreWorld × CommitLog

def Run.latest (run : Run) : Option CheckpointRef :=
  run.workflow?.bind WorkflowFields.latestCheckpointRef

theorem Run.latest_of_kind {run other : Run} (same : run.kind = other.kind) :
    run.latest = other.latest := by
  unfold Run.latest Run.workflow?
  rw [same]

theorem WorkflowRun.latest (run : WorkflowRun) : run.toRun.latest = run.latestCheckpointRef := by
  rw [Run.latest, Run.workflow?_eq_some.mpr run.isWorkflow]
  rfl

def CoreWorld.marker (world : CoreWorld) (runId : RunId) : Option CheckpointRef :=
  (world.run? runId).bind Run.latest

namespace CommitLog

def empty : CommitLog := ⟨fun _ => [], fun _ => none, fun _ => 0, fun _ => false⟩

def refs (log : CommitLog) (runId : RunId) : List CheckpointRef :=
  (log.commits runId).map fun commit => commit.checkpoint.ref

def begin_ (log : CommitLog) (thread : ℕ) : CommitLog :=
  { log with
    staged := Function.update log.staged thread none
    moved := Function.update log.moved thread false }

def unstage (log : CommitLog) (thread : ℕ) : CommitLog :=
  { log with staged := Function.update log.staged thread none }

def stage (log : CommitLog) (thread : ℕ) (checkpoint : Checkpoint) : CommitLog :=
  { log with staged := Function.update log.staged thread (some checkpoint) }

def readCommits (log : CommitLog) (thread : ℕ) (runId : RunId) : CommitLog :=
  { log with read := Function.update log.read thread (log.commits runId).length }

/-- The thread has moved the marker of the Run, to the checkpoint it staged. -/
def commit (log : CommitLog) (thread : ℕ) (runId : RunId) (version : ℕ) : CommitLog :=
  { log with
    commits :=
      match log.staged thread with
      | none => log.commits
      | some checkpoint =>
        Function.update log.commits runId (⟨thread, version, checkpoint⟩ :: log.commits runId)
    staged := Function.update log.staged thread none
    moved := Function.update log.moved thread true }

theorem staged_unstage (log : CommitLog) (thread other : ℕ) :
    (log.unstage thread).staged other = if other = thread then none else log.staged other :=
  Function.update_apply log.staged thread none other

theorem staged_stage (log : CommitLog) (thread other : ℕ) (checkpoint : Checkpoint) :
    (log.stage thread checkpoint).staged other =
      if other = thread then some checkpoint else log.staged other :=
  Function.update_apply log.staged thread (some checkpoint) other

theorem commit_of_staged {log : CommitLog} {thread : ℕ} {checkpoint : Checkpoint}
    (staged : log.staged thread = some checkpoint) (runId : RunId) (version : ℕ) :
    log.commit thread runId version = { log with
      commits := Function.update log.commits runId
        (⟨thread, version, checkpoint⟩ :: log.commits runId)
      staged := Function.update log.staged thread none
      moved := Function.update log.moved thread true } := by
  unfold commit
  rw [staged]

theorem commits_commit {log : CommitLog} {thread : ℕ} {checkpoint : Checkpoint}
    (staged : log.staged thread = some checkpoint) (runId other : RunId) (version : ℕ) :
    (log.commit thread runId version).commits other =
      if other = runId then ⟨thread, version, checkpoint⟩ :: log.commits runId
      else log.commits other := by
  rw [commit_of_staged staged]
  exact Function.update_apply _ _ _ _

/-- What the log records of one call of a thread. -/
def observe (thread : ℕ) : (op : CoreOp) → Except Raised op.Answer → CoreWorld → CoreWorld →
    CommitLog → CommitLog
  | .runGet runId, .ok _, _, _, log => log.readCommits thread runId
  | .runGet _, .error _, _, _, log => log.unstage thread
  | .checkpointSave checkpoint _, .ok _, _, _, log => log.stage thread checkpoint
  | .runCompareAndSet run version, _, before, after, log =>
    if before.marker run.runId = after.marker run.runId then log.unstage thread
    else log.commit thread run.runId version
  | .checkpointFailed _ _ _, _, _, _, log => log.unstage thread
  | _, _, _, _, log => log

end CommitLog

/-- No save that wrote the checkpoint is on its way to its commit, and none has committed
it since the thread read the Run. -/
def Orphaned (thread : ℕ) (request : DeleteCheckpointRequest) (state : CommitWorld) : Prop :=
  (∀ writer checkpoint, state.2.staged writer = some checkpoint →
    checkpoint.ref ≠ request.checkpointRef) ∧
  ∀ reference ∈ (state.2.refs request.runId).take
      ((state.2.commits request.runId).length - state.2.read thread),
    reference ≠ request.checkpointRef

/-- When a deletion of a thread may reach the store. -/
abbrev DeletionCondition := ℕ → DeleteCheckpointRequest → CommitWorld → Prop

/-- Where `reliable`, the repository commits or fails, and the publisher does not raise. -/
def writerAllows (reliable : Prop) (condition : DeletionCondition) (thread : ℕ) :
    (op : CoreOp) → op.Choice → CommitWorld → Prop
  | .runCompareAndSet _ _, fault, _ => reliable → ∀ error, fault ≠ .after error
  | .runStateChanged _, outcome, _ => reliable → outcome = .ok ()
  | .checkpointSaved _ _ _, outcome, _ => reliable → outcome = .ok ()
  | .checkpointDelete request _, _, state => condition thread request state
  | _, _, _ => True

/-- What no step undoes. -/
structure Grows (before after : CommitWorld) : Prop where
  runs : ∀ runId run, before.1.run? runId = some run →
    ∃ current, after.1.run? runId = some current ∧
      (current = run ∨ run.stateVersion < current.stateVersion)
  commits : ∀ runId, before.2.commits runId <:+ after.2.commits runId

/-- What a thread may assume of the steps of others. -/
structure Relies (thread : ℕ) (before after : CommitWorld) : Prop where
  grows : Grows before after
  staged : after.2.staged thread = before.2.staged thread
  read : after.2.read thread = before.2.read thread
  moved : after.2.moved thread = before.2.moved thread

theorem Grows.refl (state : CommitWorld) : Grows state state :=
  ⟨fun _ run found => ⟨run, found, .inl rfl⟩, fun _ => List.suffix_refl _⟩

theorem Grows.trans {first second third : CommitWorld} (earlier : Grows first second)
    (later : Grows second third) : Grows first third := by
  refine ⟨fun runId run found => ?_, fun runId =>
    (earlier.commits runId).trans (later.commits runId)⟩
  obtain ⟨middle, foundMiddle, order⟩ := earlier.runs runId run found
  obtain ⟨last, foundLast, order'⟩ := later.runs runId middle foundMiddle
  refine ⟨last, foundLast, ?_⟩
  rcases order with rfl | less
  · exact order'
  · rcases order' with rfl | less'
    · exact .inr less
    · exact .inr (Nat.lt_trans less less')

theorem Relies.refl (thread : ℕ) (state : CommitWorld) : Relies thread state state :=
  ⟨.refl state, rfl, rfl, rfl⟩

theorem Relies.trans {thread : ℕ} {first second third : CommitWorld}
    (earlier : Relies thread first second) (later : Relies thread second third) :
    Relies thread first third :=
  ⟨earlier.grows.trans later.grows, later.staged.trans earlier.staged,
    later.read.trans earlier.read, later.moved.trans earlier.moved⟩

variable [Sha256]

abbrev writerEnvironment (reliable : Prop) (condition : DeletionCondition) (thread : ℕ) :
    Environment CoreInterface Raised CommitWorld :=
  coreEnvironment.instrumented (writerAllows reliable condition thread) (CommitLog.observe thread)

/-- The calls of the pool: saves of some documents, and orphan deletions where `deleting`. -/
inductive WriterCall (documents : Checkpoint → Prop) (deleting : Prop) : CoreProgram Unit → Prop
  | save (coordinator : CheckpointCoordinator) (provider : ProviderId) (checkpoint : Checkpoint)
      (expectedRunVersion : ℕ) (context : RuntimeCallContext) :
      documents checkpoint →
      WriterCall documents deleting
        (coordinator.save provider checkpoint expectedRunVersion context >>= fun _ => return ())
  | deleteOrphan (coordinator : CheckpointCoordinator) (fuel : ℕ)
      (request : DeleteCheckpointRequest) (context : RuntimeCallContext) :
      deleting →
      WriterCall documents deleting
        (coordinator.deleteOrphan fuel request context >>= fun _ => return ())

/-- An empty store, and Runs none of which has a marker. -/
structure Fresh (state : CommitWorld) : Prop where
  keyed : ∀ runId run, state.1.run? runId = some run → run.runId = runId
  unmarked : ∀ runId, state.1.marker runId = none
  store : ∀ reference, state.1.checkpoint? reference = none
  log : state.2 = .empty

def writerPool (reliable : Prop) (condition : DeletionCondition) (documents : Checkpoint → Prop)
    (deleting : Prop) : Pool CoreInterface Raised Unit CommitWorld where
  environment := writerEnvironment reliable condition
  initial := Fresh
  starts thread before program start :=
    WriterCall documents deleting program ∧ start = (before.1, before.2.begin_ thread)

/-! ### The invariant -/

/-- The commit `commit` of `runId` follows the commits `earlier`. -/
structure Continues (world : CoreWorld) (runId : RunId) (commit : Commit)
    (earlier : List Commit) : Prop where
  owner : commit.checkpoint.runId = runId
  stored : ∃ stored, world.checkpoint? commit.checkpoint.ref = some stored ∧
    SameContent stored commit.checkpoint
  sequence : commit.checkpoint.sequence = earlier.length + 1
  previous : commit.checkpoint.previousCheckpointRef =
    earlier.head?.map fun commit => commit.checkpoint.ref
  version : ∀ other ∈ earlier, other.version < commit.version

def CommittedChain (world : CoreWorld) (runId : RunId) : List Commit → Prop
  | [] => True
  | commit :: earlier => Continues world runId commit earlier ∧ CommittedChain world runId earlier

/-- SHA-256 does not collide on these documents. -/
def CollisionFree (documents : Checkpoint → Prop) : Prop :=
  ∀ first second, documents first → documents second →
    first.canonicalDigest = second.canonicalDigest → SameContent first second

structure Sound (documents : Checkpoint → Prop) (state : CommitWorld) : Prop where
  keyed : ∀ runId run, state.1.run? runId = some run → run.runId = runId
  marker : ∀ runId, state.1.marker runId = (state.2.refs runId).head?
  versions : ∀ runId run, state.1.run? runId = some run → ∀ commit ∈ state.2.commits runId,
    commit.version < run.stateVersion
  chain : ∀ runId, CommittedChain state.1 runId (state.2.commits runId)
  documented : ∀ reference checkpoint, state.1.checkpoint? reference = some checkpoint →
    documents checkpoint ∧ checkpoint.verifyIntegrity = .ok ()
  staged : ∀ thread checkpoint, state.2.staged thread = some checkpoint →
    documents checkpoint ∧ checkpoint.verifyIntegrity = .ok () ∧
      ∃ stored, state.1.checkpoint? checkpoint.ref = some stored ∧
        stored.integrity = checkpoint.integrity
  links : ∀ reference checkpoint, state.1.checkpoint? reference = some checkpoint →
    ∀ named, checkpoint.previousCheckpointRef = some named →
      named ∈ state.2.refs checkpoint.runId ∧ ∃ previous, state.1.checkpoint? named = some previous ∧
        InMemoryCheckpointStore.keepsEffects previous checkpoint = true

def writerContract (documents : Checkpoint → Prop) (thread : ℕ) :
    Contract CoreInterface CommitWorld where
  invariant := Sound documents
  rely := Relies thread
  guarantee before after := Grows before after ∧ ∀ other, other ≠ thread → Relies other before after
  need _ _ := True

end CongeriesCore
