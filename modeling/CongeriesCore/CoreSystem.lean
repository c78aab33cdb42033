import CongeriesCore.AsyncSystem
import CongeriesCore.CheckpointCoordinator

/-! # The services' environment

The Run repository and the checkpoint store compute; every awaited call may fail before
or after its effect, and everything outside the services answers as it chooses. -/

namespace CongeriesCore

open AsyncProgram

structure CoreWorld where
  repository : InMemoryRunRepository
  store : InMemoryCheckpointStore

/-- Whether an awaited call fails, and on which side of its effect. -/
inductive Fault
  | none
  | before (error : Raised)
  | after (error : Raised)
  deriving DecidableEq

abbrev CoreOp.Choice : CoreOp → Type
  | .cancelled _ => Bool
  | .now => DateTime
  | .newCheckpointRef => CheckpointRef
  | .runAdd _ | .runGet _ | .runCompareAndSet _ _ | .checkpointSave _ _ | .checkpointLoad _ _
  | .checkpointDelete _ _ => Fault
  | .checkpointList _ _ => Fault × (Checkpoint → Checkpoint)
  | .authorize _ => Except Raised PolicyDecision
  | .migrate _ _ _ => Except Raised Checkpoint
  | .runStateChanged _ | .authorizationDenied _ _ | .crossScopeGranted _ _
  | .checkpointSaved _ _ _ | .checkpointFailed _ _ _ | .migrationAuthorized _ _ _
  | .fallbackAuthorized _ _ _ | .restore _ _ => Except Raised Unit

/-- A call under a fault, from what it does without one. -/
def Fault.apply {α σ : Type} (fault : Fault) (result : Except Raised α × σ) (before : σ) :
    Except Raised α × σ :=
  match fault with
  | .none => result
  | .before error => (.error error, before)
  | .after error => (.error error, result.2)

namespace CoreWorld

def withRepository {α : Type} (world : CoreWorld)
    (result : Except Raised α × InMemoryRunRepository) : Except Raised α × CoreWorld :=
  (result.1, { world with repository := result.2 })

def withStore {α : Type} (world : CoreWorld)
    (result : Except Raised α × InMemoryCheckpointStore) : Except Raised α × CoreWorld :=
  (result.1, { world with store := result.2 })

def run? (world : CoreWorld) (runId : RunId) : Option Run := world.repository.runs.get? runId

def checkpoint? (world : CoreWorld) (checkpointRef : CheckpointRef) : Option Checkpoint :=
  world.store.checkpoints.get? checkpointRef

/-- Each Run is stored under its own identity. -/
def Keyed (world : CoreWorld) : Prop :=
  ∀ runId run, world.run? runId = some run → run.runId = runId

def setRun (world : CoreWorld) (run : Run) : CoreWorld :=
  { world with repository := ⟨world.repository.runs.set run.runId run⟩ }

theorem run?_setRun (world : CoreWorld) (run : Run) (runId : RunId) :
    (world.setRun run).run? runId = if run.runId = runId then some run else world.run? runId :=
  world.repository.runs.get?_set run.runId runId run

@[simp] theorem checkpoint?_setRun (world : CoreWorld) (run : Run) (reference : CheckpointRef) :
    (world.setRun run).checkpoint? reference = world.checkpoint? reference := rfl

def eraseCheckpoint (world : CoreWorld) (checkpoint : Checkpoint) (reference : CheckpointRef) :
    CoreWorld :=
  { world with store := { world.store with
      checkpoints := world.store.checkpoints.erase reference
      sequences := world.store.sequences.erase (checkpoint.runId, checkpoint.sequence) } }

theorem checkpoint?_eraseCheckpoint (world : CoreWorld) (checkpoint : Checkpoint)
    (reference other : CheckpointRef) :
    (world.eraseCheckpoint checkpoint reference).checkpoint? other =
      if reference = other then none else world.checkpoint? other :=
  world.store.checkpoints.get?_erase reference other

def setCheckpoint (world : CoreWorld) (checkpoint : Checkpoint) : CoreWorld :=
  { world with store := { world.store with
      checkpoints := world.store.checkpoints.set checkpoint.ref checkpoint
      sequences :=
        world.store.sequences.set (checkpoint.runId, checkpoint.sequence) checkpoint.ref } }

theorem checkpoint?_setCheckpoint (world : CoreWorld) (checkpoint : Checkpoint)
    (reference : CheckpointRef) :
    (world.setCheckpoint checkpoint).checkpoint? reference =
      if checkpoint.ref = reference then some checkpoint else world.checkpoint? reference :=
  world.store.checkpoints.get?_set checkpoint.ref reference checkpoint

@[simp] theorem run?_setCheckpoint (world : CoreWorld) (checkpoint : Checkpoint) (runId : RunId) :
    (world.setCheckpoint checkpoint).run? runId = world.run? runId := rfl

end CoreWorld

variable [Sha256]

def coreAnswer : (op : CoreOp) → op.Choice → CoreWorld → Except Raised op.Answer × CoreWorld
  | .cancelled _, cancelled, world => (.ok cancelled, world)
  | .now, now, world => (.ok now, world)
  | .newCheckpointRef, reference, world => (.ok reference, world)
  | .runAdd run, fault, world => fault.apply (world.withRepository (world.repository.add run)) world
  | .runGet runId, fault, world => fault.apply (world.repository.get runId, world) world
  | .runCompareAndSet run expectedVersion, fault, world =>
    fault.apply (world.withRepository (world.repository.compareAndSet run expectedVersion)) world
  | .checkpointSave checkpoint context, fault, world =>
    fault.apply (world.withStore (world.store.save checkpoint context)) world
  | .checkpointLoad checkpointRef context, fault, world =>
    fault.apply (world.store.load checkpointRef context, world) world
  | .checkpointList query context, (fault, corruption), world =>
    fault.apply ((world.store.list query context).map
      fun page => { page with items := page.items.map corruption }, world) world
  | .checkpointDelete request context, fault, world =>
    fault.apply (world.withStore (world.store.delete request context)) world
  | .authorize _, decision, world => (decision, world)
  | .migrate _ _ _, migrated, world => (migrated, world)
  | .runStateChanged _, outcome, world | .authorizationDenied _ _, outcome, world
  | .crossScopeGranted _ _, outcome, world | .checkpointSaved _ _ _, outcome, world
  | .checkpointFailed _ _ _, outcome, world | .migrationAuthorized _ _ _, outcome, world
  | .fallbackAuthorized _ _ _, outcome, world | .restore _ _, outcome, world => (outcome, world)

/-- A new reference is not in use, and a listed checkpoint that differs from the stored
one fails its integrity check. -/
def corePermits : (op : CoreOp) → op.Choice → CoreWorld → Prop
  | .newCheckpointRef, reference, world => world.checkpoint? reference = none
  | .checkpointList _ _, (_, corruption), _ =>
    ∀ checkpoint, corruption checkpoint = checkpoint ∨
      (corruption checkpoint).verifyIntegrity ≠ .ok ()
  | _, _, _ => True

def coreEnvironment : Environment CoreInterface Raised CoreWorld where
  Choice := CoreOp.Choice
  permits := corePermits
  answer := coreAnswer

/-! ### What one call does to the world -/

/-- The calls that write the Run repository. -/
def CoreOp.writesRun : CoreOp → Bool
  | .runAdd _ | .runCompareAndSet _ _ => true
  | _ => false

theorem answer_repository {op : CoreOp} (reads : op.writesRun = false) (choice : op.Choice)
    (world : CoreWorld) : (coreAnswer op choice world).2.repository = world.repository := by
  cases op with
  | runAdd run => cases reads
  | runCompareAndSet run version => cases reads
  | runGet runId => cases choice <;> rfl
  | checkpointSave checkpoint context => cases choice <;> rfl
  | checkpointLoad reference context => cases choice <;> rfl
  | checkpointDelete request context => cases choice <;> rfl
  | checkpointList query context =>
    obtain ⟨fault, corruption⟩ := choice
    cases fault <;> rfl
  | _ => rfl

/-- The calls that write nothing. -/
def CoreOp.readsOnly : CoreOp → Bool
  | .runAdd _ | .runCompareAndSet _ _ | .checkpointSave _ _ | .checkpointDelete _ _ => false
  | _ => true

theorem answer_world {op : CoreOp} (reads : op.readsOnly = true) (choice : op.Choice)
    (world : CoreWorld) : (coreAnswer op choice world).2 = world := by
  cases op with
  | runAdd run => cases reads
  | runCompareAndSet run version => cases reads
  | checkpointSave checkpoint context => cases reads
  | checkpointDelete request context => cases reads
  | runGet runId => cases choice <;> rfl
  | checkpointLoad reference context => cases choice <;> rfl
  | checkpointList query context =>
    obtain ⟨fault, corruption⟩ := choice
    cases fault <;> rfl
  | _ => rfl

theorem answer_runGet (world : CoreWorld) (runId : RunId) (fault : Fault) :
    (∃ error, coreAnswer (.runGet runId) fault world = (.error error, world)) ∨
    ∃ run, world.run? runId = some run ∧ coreAnswer (.runGet runId) fault world = (.ok run, world) := by
  cases fault with
  | before error => exact .inl ⟨error, rfl⟩
  | after error => exact .inl ⟨error, rfl⟩
  | none =>
    cases got : world.repository.get runId with
    | error error => exact .inl ⟨error, by rw [coreAnswer, got]; rfl⟩
    | ok run => exact .inr ⟨run, InMemoryRunRepository.get_ok got, by rw [coreAnswer, got]; rfl⟩

/-- A compare-and-set changes nothing and fails, or replaces the version it expects; then
it fails only by a fault after its effect. -/
theorem answer_runCompareAndSet (world : CoreWorld) (run : Run) (version : ℕ) (fault : Fault) :
    (∃ error, coreAnswer (.runCompareAndSet run version) fault world = (.error error, world)) ∨
    (∃ current, world.run? run.runId = some current ∧ current.stateVersion = version ∧
      run.stateVersion = version + 1 ∧
      (coreAnswer (.runCompareAndSet run version) fault world = (.ok run, world.setRun run) ∨
        ∃ error, fault = .after error ∧
          coreAnswer (.runCompareAndSet run version) fault world =
            (.error error, world.setRun run))) := by
  rcases InMemoryRunRepository.compareAndSet_cases world.repository run version with
    ⟨error, refused⟩ | ⟨current, found, expected, next, replaced⟩
  · left
    cases fault with
    | before raised => exact ⟨raised, rfl⟩
    | none => exact ⟨error, by rw [coreAnswer, CoreWorld.withRepository, refused]; rfl⟩
    | after raised => exact ⟨raised, by rw [coreAnswer, CoreWorld.withRepository, refused]; rfl⟩
  · cases fault with
    | before raised => exact .inl ⟨raised, rfl⟩
    | none =>
      refine .inr ⟨current, found, expected, next, .inl ?_⟩
      rw [coreAnswer, CoreWorld.withRepository, replaced]
      rfl
    | after raised =>
      refine .inr ⟨current, found, expected, next, .inr ⟨raised, rfl, ?_⟩⟩
      rw [coreAnswer, CoreWorld.withRepository, replaced]
      rfl

theorem answer_checkpointLoad (world : CoreWorld) (reference : CheckpointRef)
    (context : RuntimeCallContext) (fault : Fault) :
    (∃ error, coreAnswer (.checkpointLoad reference context) fault world = (.error error, world)) ∨
    ∃ checkpoint, world.checkpoint? reference = some checkpoint ∧
      coreAnswer (.checkpointLoad reference context) fault world = (.ok checkpoint, world) := by
  cases fault with
  | before error => exact .inl ⟨error, rfl⟩
  | after error => exact .inl ⟨error, rfl⟩
  | none =>
    cases loaded : world.store.load reference context with
    | error error => exact .inl ⟨error, by rw [coreAnswer, loaded]; rfl⟩
    | ok checkpoint =>
      exact .inr ⟨checkpoint, InMemoryCheckpointStore.load_ok loaded, by rw [coreAnswer, loaded]; rfl⟩

/-- A save changes nothing, or stores an intact checkpoint under a free reference next to
the predecessor it keeps. It answers with the reference only if that is then stored. -/
theorem answer_checkpointSave (world : CoreWorld) (checkpoint : Checkpoint)
    (context : RuntimeCallContext) (fault : Fault) :
    (∃ outcome, coreAnswer (.checkpointSave checkpoint context) fault world = (outcome, world) ∧
      ∀ result, outcome = .ok result → checkpoint.verifyIntegrity = .ok () ∧
        ∃ existing, world.checkpoint? checkpoint.ref = some existing ∧
          existing.integrity = checkpoint.integrity) ∨
    (checkpoint.verifyIntegrity = .ok () ∧ world.checkpoint? checkpoint.ref = none ∧
      (∀ named, checkpoint.previousCheckpointRef = some named →
        ∃ previous, world.checkpoint? named = some previous ∧ previous.runId = checkpoint.runId ∧
          InMemoryCheckpointStore.keepsEffects previous checkpoint = true) ∧
      ∃ outcome, coreAnswer (.checkpointSave checkpoint context) fault world =
        (outcome, world.setCheckpoint checkpoint)) := by
  rcases InMemoryCheckpointStore.save_cases world.store checkpoint context with
    ⟨error, refused⟩ | ⟨intact, ⟨existing, found, digest, kept⟩ | ⟨free, checked, stored⟩⟩
  · left
    cases fault with
    | before raised => exact ⟨.error raised, rfl, fun _ => nofun⟩
    | none =>
      exact ⟨.error error, by rw [coreAnswer, CoreWorld.withStore, refused]; rfl, fun _ => nofun⟩
    | after raised =>
      exact ⟨.error raised, by rw [coreAnswer, CoreWorld.withStore, refused]; rfl, fun _ => nofun⟩
  · left
    have present : checkpoint.verifyIntegrity = .ok () ∧
        ∃ existing, world.checkpoint? checkpoint.ref = some existing ∧
          existing.integrity = checkpoint.integrity := ⟨intact, existing, found, digest⟩
    cases fault with
    | before raised => exact ⟨.error raised, rfl, fun _ => nofun⟩
    | none =>
      exact ⟨_, by rw [coreAnswer, CoreWorld.withStore, kept]; rfl, fun _ _ => present⟩
    | after raised =>
      exact ⟨.error raised, by rw [coreAnswer, CoreWorld.withStore, kept]; rfl, fun _ => nofun⟩
  · have links : ∀ named, checkpoint.previousCheckpointRef = some named →
        ∃ previous, world.checkpoint? named = some previous ∧ previous.runId = checkpoint.runId ∧
          InMemoryCheckpointStore.keepsEffects previous checkpoint = true :=
      fun named given => InMemoryCheckpointStore.checkPredecessor_ok checked given
    cases fault with
    | before raised => exact .inl ⟨.error raised, rfl, fun _ => nofun⟩
    | none =>
      refine .inr ⟨intact, free, links, .ok checkpoint.ref, ?_⟩
      rw [coreAnswer, CoreWorld.withStore, stored]
      rfl
    | after raised =>
      refine .inr ⟨intact, free, links, .error raised, ?_⟩
      rw [coreAnswer, CoreWorld.withStore, stored]
      rfl

theorem answer_checkpointDelete (world : CoreWorld) (request : DeleteCheckpointRequest)
    (context : RuntimeCallContext) (fault : Fault) :
    (coreAnswer (.checkpointDelete request context) fault world).2 = world ∨
    ∃ checkpoint, world.checkpoint? request.checkpointRef = some checkpoint ∧
      checkpoint.runId = request.runId ∧
      (coreAnswer (.checkpointDelete request context) fault world).2 =
        world.eraseCheckpoint checkpoint request.checkpointRef := by
  cases fault with
  | before error => exact .inl rfl
  | none =>
    rcases InMemoryCheckpointStore.delete_cases world.store request context with
      same | ⟨checkpoint, found, owner, erased⟩
    · left
      change ({ world with store := (world.store.delete request context).2 } : CoreWorld) = world
      rw [same]
    · right
      refine ⟨checkpoint, found, owner, ?_⟩
      change ({ world with store := (world.store.delete request context).2 } : CoreWorld) = _
      rw [erased]
      rfl
  | after error =>
    rcases InMemoryCheckpointStore.delete_cases world.store request context with
      same | ⟨checkpoint, found, owner, erased⟩
    · left
      change ({ world with store := (world.store.delete request context).2 } : CoreWorld) = world
      rw [same]
    · right
      refine ⟨checkpoint, found, owner, ?_⟩
      change ({ world with store := (world.store.delete request context).2 } : CoreWorld) = _
      rw [erased]
      rfl

end CongeriesCore
