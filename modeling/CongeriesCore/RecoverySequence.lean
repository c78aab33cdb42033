import CongeriesCore.CheckpointOrphans
import CongeriesCore.RecoveryCoordinator
import CongeriesCore.RunLifecycle

/-! # Recoveries that fail

One recovery after another; any awaited call may fail, and any recovery may be cut off after any
step. Beside the world stands the time that was read last. -/

namespace CongeriesCore

open AsyncProgram

/-- The state machine has made the Run of a created one, at times up to `last`. -/
def Lived (run : Run) (last : DateTime) : Prop :=
  ∃ first start now, Created first ∧ Operated first start run now ∧ now ≤ last

theorem Lived.kept {run : Run} {last : DateTime} (lived : Lived run last) : run.Kept last := by
  obtain ⟨first, start, now, created, operated, later⟩ := lived
  exact (operated.kept (created.kept start)).later later

theorem Lived.later {run : Run} {last now : DateTime} (lived : Lived run last) (later : last ≤ now) :
    Lived run now := by
  obtain ⟨first, start, before, created, operated, earlier⟩ := lived
  exact ⟨first, start, before, created, operated, DateTime.le_trans earlier later⟩

theorem Lived.step {run : Run} {last now : DateTime} {operation : RunOperation} {version : ℕ}
    {transition : RunTransition} (lived : Lived run last) (later : last ≤ now)
    (applied : operation.apply run version now = .ok transition) :
    Lived transition.current now := by
  obtain ⟨first, start, before, created, operated, earlier⟩ := lived
  exact ⟨first, start, now, created, .step operated (DateTime.le_trans earlier later) applied,
    DateTime.le_refl now⟩

abbrev RestartWorld := CoreWorld × DateTime

/-- The Run has left its first status and has a marker. -/
def Interrupted (run : Run) : Prop := run.status ≠ .created ∧ run.latest.isSome = true

/-- The checkpoint is of the workflow and the Scope of the Run. -/
structure Owns (run : Run) (checkpoint : Checkpoint) : Prop where
  workflow : ∀ workflow, run.kind = .workflow workflow → checkpoint.workflowId = workflow.workflowId
  scope : checkpoint.scope.key = run.scope.key

/-- No checkpoint is stored apart from the committed chains. -/
def NoOrphans (world : CoreWorld) : Prop :=
  ∀ reference checkpoint, world.checkpoint? reference = some checkpoint →
    ∃ marker, world.marker checkpoint.runId = some marker ∧ Linked world marker reference

def clock : (op : CoreOp) → Except Raised op.Answer → CoreWorld → CoreWorld → DateTime → DateTime
  | .now, .ok time, _, _, _ => time
  | _, _, _, _, last => last

/-- The clock does not go back, and a migrator makes some of the documents. -/
def failureAllows (documents : Checkpoint → Prop) : (op : CoreOp) → op.Choice → RestartWorld → Prop
  | .now, time, (_, last) => last ≤ time
  | .migrate _ _ _, outcome, _ => ∀ migrated, outcome = .ok migrated → documents migrated
  | _, _, _ => True

section Sequence

variable [Sha256]

/-- The stored checkpoints are intact and belong to their Runs, and so do the markers. -/
structure Whole (documents : Checkpoint → Prop) (world : CoreWorld) : Prop where
  keyed : world.Keyed
  stored : ∀ reference checkpoint, world.checkpoint? reference = some checkpoint →
    checkpoint.ref = reference ∧ documents checkpoint ∧ checkpoint.verifyIntegrity = .ok ()
  owned : ∀ reference checkpoint run, world.checkpoint? reference = some checkpoint →
    world.run? checkpoint.runId = some run → Owns run checkpoint
  marked : ∀ runId run marker, world.run? runId = some run → run.latest = some marker →
    ∃ checkpoint, world.checkpoint? marker = some checkpoint ∧ checkpoint.runId = runId

/-- Besides, the Run `focus` has been started and has a marker. -/
structure Enduring (documents : Checkpoint → Prop) (focus : RunId) (state : RestartWorld) :
    Prop where
  whole : Whole documents state.1
  lived : ∀ runId run, state.1.run? runId = some run → Lived run state.2
  marked : ∃ run, state.1.run? focus = some run ∧ Interrupted run

abbrev failingEnvironment (documents : Checkpoint → Prop) :
    Environment CoreInterface Raised RestartWorld :=
  coreEnvironment.instrumented (failureAllows documents) clock

/-- Recoveries over a store without orphans, where `focus` is interrupted. -/
def recoverySequence (documents : Checkpoint → Prop) (focus : RunId) :
    Sequence CoreInterface Raised RecoveryResult RestartWorld where
  environment := failingEnvironment documents
  initial state := Enduring documents focus state ∧ NoOrphans state.1 ∧
    ∀ run, state.1.run? focus = some run → run.status.terminal = false
  starts before program start := start = before ∧ ∃ coordinator fuel request context,
    program = RecoveryCoordinator.recover coordinator fuel request context

def enduringContract (documents : Checkpoint → Prop) (focus : RunId) :
    Contract CoreInterface RestartWorld :=
  .alone (Enduring documents focus) (fun _ _ => True) fun _ _ => True

abbrev Endures {α : Type} (documents : Checkpoint → Prop) (focus : RunId) (program : CoreProgram α)
    (value : α → RestartWorld → Prop) (state : RestartWorld) : Prop :=
  program.Safe (failingEnvironment documents) (enduringContract documents focus)
    (Ends value fun _ => True) state

variable {documents : Checkpoint → Prop} {focus : RunId} {state : RestartWorld}

/-! ### What a commit keeps -/

/-- A next version of a Run keeps its workflow, stays interrupted and has a stored marker. -/
structure Inherits (world : CoreWorld) (previous current : Run) : Prop where
  workflow : ∀ workflow, current.kind = .workflow workflow →
    ∃ before, previous.kind = .workflow before ∧ before.workflowId = workflow.workflowId
  held : ∀ marker, current.latest = some marker →
    ∃ checkpoint, world.checkpoint? marker = some checkpoint ∧ checkpoint.runId = previous.runId
  interrupted : Interrupted previous → Interrupted current

theorem Whole.inherits {world : CoreWorld} {runId : RunId} {previous current : Run}
    (whole : Whole documents world) (stored : world.run? runId = some previous)
    (kind : current.kind = previous.kind)
    (started : previous.status ≠ .created → current.status ≠ .created) :
    Inherits world previous current := by
  have latest : current.latest = previous.latest := Run.latest_of_kind kind
  refine ⟨fun workflow given => ⟨workflow, kind ▸ given, rfl⟩, fun marker marked => ?_,
    fun marked => ⟨started marked.1, latest ▸ marked.2⟩⟩
  rw [latest] at marked
  rw [whole.keyed runId previous stored]
  exact whole.marked runId previous marker stored marked

theorem Whole.setRun {world : CoreWorld} {previous current : Run} (whole : Whole documents world)
    (stored : world.run? current.runId = some previous)
    (same : SameRun previous.toRunFields current.toRunFields)
    (inherits : Inherits world previous current) : Whole documents (world.setRun current) := by
  have lookup := world.run?_setRun current
  refine ⟨fun runId run found => ?_, whole.stored, fun reference checkpoint run found owner => ?_,
    fun runId run marker found marked => ?_⟩
  · rw [lookup] at found
    split at found
    · rename_i own
      cases found
      exact own
    · exact whole.keyed runId run found
  · rw [lookup] at owner
    split at owner
    · rename_i own
      obtain rfl := Option.some.inj owner
      have owns := whole.owned reference checkpoint previous found (own ▸ stored)
      refine ⟨fun workflow kind => ?_, ?_⟩
      · obtain ⟨before, kind, same⟩ := inherits.workflow workflow kind
        rw [← same]
        exact owns.workflow before kind
      · rw [same.scope]
        exact owns.scope
    · exact whole.owned reference checkpoint run found owner
  · rw [lookup] at found
    split at found
    · rename_i own
      obtain rfl := Option.some.inj found
      obtain ⟨checkpoint, found, owner⟩ := inherits.held marker marked
      exact ⟨checkpoint, found, owner.trans (same.runId.symm.trans own)⟩
    · exact whole.marked runId run marker found marked

theorem Whole.setCheckpoint {world : CoreWorld} {checkpoint : Checkpoint}
    (whole : Whole documents world) (documented : documents checkpoint)
    (intact : checkpoint.verifyIntegrity = .ok ())
    (free : world.checkpoint? checkpoint.ref = none)
    (owned : ∀ run, world.run? checkpoint.runId = some run → Owns run checkpoint) :
    Whole documents (world.setCheckpoint checkpoint) := by
  have lookup := world.checkpoint?_setCheckpoint checkpoint
  refine ⟨whole.keyed, fun reference stored found => ?_, fun reference stored run found owner => ?_,
    fun runId run marker found marked => ?_⟩
  · rw [lookup] at found
    split at found
    · rename_i same
      obtain rfl := Option.some.inj found
      exact ⟨same, documented, intact⟩
    · exact whole.stored reference stored found
  · rw [lookup] at found
    split at found
    · obtain rfl := Option.some.inj found
      exact owned run owner
    · exact whole.owned reference stored run found owner
  · obtain ⟨stored, found, owner⟩ := whole.marked runId run marker found marked
    refine ⟨stored, ?_, owner⟩
    rw [lookup, if_neg]
    · exact found
    · rintro rfl
      rw [free] at found
      cases found

/-! ### Steps of a recovery -/

theorem fail_call {op : CoreOp} {value : op.Answer → RestartWorld → Prop}
    (answered : Enduring documents focus state → ∀ choice, failureAllows documents op choice state →
      corePermits op choice state.1 → ∀ outcome after,
      coreAnswer op choice state.1 = (outcome, after) →
      Enduring documents focus (after, clock op outcome state.1 after state.2) ∧
        ∀ result, outcome = .ok result →
          value result (after, clock op outcome state.1 after state.2)) :
    Endures documents focus (coreOp op) value state := by
  refine Program.safe_perform_alone fun enduring => ⟨trivial, fun choice permitted => ?_⟩
  have ends : ∀ outcome after, coreAnswer op choice state.1 = (outcome, after) →
      Ends value (fun _ => True) outcome (after, clock op outcome state.1 after state.2) := by
    intro outcome after answer
    cases outcome with
    | error error => trivial
    | ok result =>
      exact (answered enduring choice permitted.2 permitted.1 _ _ answer).2 result rfl
  exact ⟨(answered enduring choice permitted.2 permitted.1 _ _ rfl).1, trivial, ends _ _ rfl⟩

theorem Enduring.clock {world : CoreWorld} {last : DateTime} {op : CoreOp} {choice : op.Choice}
    {outcome : Except Raised op.Answer} {before after : CoreWorld}
    (enduring : Enduring documents focus (world, last))
    (allowed : failureAllows documents op choice (world, last))
    (answer : coreAnswer op choice before = (outcome, after)) :
    Enduring documents focus (world, CongeriesCore.clock op outcome before after last) := by
  cases op with
  | now =>
    obtain ⟨rfl, rfl⟩ : .ok choice = outcome ∧ before = after := Prod.mk.inj answer
    exact ⟨enduring.whole, fun runId run found => (enduring.lived runId run found).later allowed,
      enduring.marked⟩
  | _ => exact enduring

theorem fail_reads (op : CoreOp) (reads : op.readsOnly = true) :
    Endures documents focus (coreOp op) (fun _ after => after.1 = state.1) state := by
  refine fail_call fun enduring choice allowed _ outcome after answer => ?_
  have same : after = state.1 := by
    have kept := answer_world reads choice state.1
    rw [answer] at kept
    exact kept
  subst same
  exact ⟨enduring.clock allowed answer, fun _ _ => rfl⟩

theorem fail_now : Endures documents focus (coreOp .now)
    (fun now after => after = (state.1, now) ∧ state.2 ≤ now) state := by
  refine fail_call fun enduring choice allowed _ outcome after answer => ?_
  have kept := enduring.clock allowed answer
  obtain ⟨rfl, rfl⟩ : .ok choice = outcome ∧ state.1 = after := Prod.mk.inj answer
  refine ⟨kept, fun result same => ?_⟩
  obtain rfl := Except.ok.inj same
  exact ⟨rfl, allowed⟩

theorem fail_migrate (checkpoint : Checkpoint) (request : CheckpointMigrationRequest)
    (context : RuntimeCallContext) :
    Endures documents focus (coreOp (.migrate checkpoint request context))
      (fun migrated after => after.1 = state.1 ∧ documents migrated ∧ Whole documents state.1)
      state := by
  refine fail_call fun enduring choice allowed _ outcome after answer => ?_
  obtain ⟨rfl, rfl⟩ : choice = outcome ∧ state.1 = after := Prod.mk.inj answer
  exact ⟨enduring, fun result same => ⟨rfl, allowed result same, enduring.whole⟩⟩

theorem fail_get (runId : RunId) : Endures documents focus (coreOp (.runGet runId))
    (fun run after => after = state ∧ state.1.run? runId = some run ∧ Enduring documents focus state)
    state := by
  refine fail_call fun enduring choice allowed _ outcome after answer => ?_
  rcases answer_runGet state.1 runId choice with ⟨error, refused⟩ | ⟨run, found, done⟩
  · rw [refused] at answer
    obtain ⟨rfl, rfl⟩ := Prod.mk.inj answer
    exact ⟨enduring, fun _ => by simp⟩
  · rw [done] at answer
    obtain ⟨rfl, rfl⟩ := Prod.mk.inj answer
    refine ⟨enduring, fun result same => ?_⟩
    obtain rfl := Except.ok.inj same
    exact ⟨rfl, found, enduring⟩

theorem fail_load (reference : CheckpointRef) (context : RuntimeCallContext) :
    Endures documents focus (coreOp (.checkpointLoad reference context))
      (fun checkpoint after => after.1 = state.1 ∧
        state.1.checkpoint? reference = some checkpoint) state := by
  refine fail_call fun enduring choice allowed _ outcome after answer => ?_
  rcases answer_checkpointLoad state.1 reference context choice with
    ⟨error, refused⟩ | ⟨checkpoint, found, done⟩
  · rw [refused] at answer
    obtain ⟨rfl, rfl⟩ := Prod.mk.inj answer
    exact ⟨enduring, fun _ => by simp⟩
  · rw [done] at answer
    obtain ⟨rfl, rfl⟩ := Prod.mk.inj answer
    refine ⟨enduring, fun result same => ?_⟩
    obtain rfl := Except.ok.inj same
    exact ⟨rfl, found⟩

/-- The intact items are stored checkpoints of the Run. -/
def Listed (world : CoreWorld) (runId : RunId) (item : Checkpoint) : Prop :=
  item.verifyIntegrity = .ok () → world.checkpoint? item.ref = some item ∧ item.runId = runId

theorem Whole.listed {world : CoreWorld} (whole : Whole documents world) {item : Checkpoint}
    (member : item ∈ world.store.checkpoints.values) :
    world.checkpoint? item.ref = some item := by
  obtain ⟨⟨reference, checkpoint⟩, entry, rfl⟩ := List.mem_map.mp member
  have found : world.checkpoint? reference = some checkpoint := Dict.get?_of_mem entry
  rw [(whole.stored reference checkpoint found).1]
  exact found

theorem fail_list (query : CheckpointQuery) (context : RuntimeCallContext) :
    Endures documents focus (coreOp (.checkpointList query context))
      (fun page after => after.1 = state.1 ∧
        ∀ item ∈ page.items, Listed state.1 query.runId item) state := by
  refine fail_call fun enduring choice allowed permitted outcome after answer => ?_
  obtain ⟨fault, corruption⟩ := choice
  have same : after = state.1 := by
    have kept := answer_world (rfl : CoreOp.readsOnly (.checkpointList query context) = true)
      (fault, corruption) state.1
    rw [answer] at kept
    exact kept
  subst same
  refine ⟨enduring, fun page done => ⟨rfl, fun item member intact => ?_⟩⟩
  subst done
  cases fault with
  | before error => exact absurd (Prod.mk.inj answer).1 (by simp)
  | after error => exact absurd (Prod.mk.inj answer).1 (by simp)
  | none =>
    have listed := (Prod.mk.inj answer).1
    cases found : state.1.store.list query context with
    | error error =>
      rw [found] at listed
      cases listed
    | ok stored =>
      rw [found] at listed
      cases listed
      obtain ⟨checkpoint, inside, rfl⟩ := List.mem_map.mp member
      have same : corruption checkpoint = checkpoint :=
        (permitted checkpoint).resolve_right fun corrupt => corrupt intact
      obtain ⟨member, own⟩ := InMemoryCheckpointStore.mem_of_list_ok found inside
      rw [same]
      exact ⟨enduring.whole.listed member, own⟩

/-- The reference is that of a stored checkpoint of the Run. -/
def Holds (runId : RunId) (reference : CheckpointRef) (world : CoreWorld) : Prop :=
  ∃ checkpoint, world.checkpoint? reference = some checkpoint ∧ checkpoint.runId = runId

theorem fail_save (collisionFree : CollisionFree documents) {checkpoint : Checkpoint}
    (documented : documents checkpoint) (intact : checkpoint.verifyIntegrity = .ok ())
    (owned : ∀ run, state.1.run? checkpoint.runId = some run → Owns run checkpoint)
    (context : RuntimeCallContext) :
    Endures documents focus (coreOp (.checkpointSave checkpoint context))
      (fun _ after => after.1.repository = state.1.repository ∧
        Holds checkpoint.runId checkpoint.ref after.1) state := by
  refine fail_call fun enduring choice allowed _ outcome after answer => ?_
  rcases answer_checkpointSave state.1 checkpoint context choice with
    ⟨result, done, present⟩ | ⟨-, free, -, result, done⟩
  · rw [done] at answer
    obtain ⟨rfl, rfl⟩ := Prod.mk.inj answer
    refine ⟨enduring, fun reference same => ⟨rfl, ?_⟩⟩
    obtain ⟨-, existing, found, digest⟩ := present reference same
    obtain ⟨-, documented', intact'⟩ := enduring.whole.stored _ existing found
    simp only [Checkpoint.verifyIntegrity, ensure_eq_ok, beq_iff_eq] at intact intact'
    have content := collisionFree existing checkpoint documented' documented
      (by rw [intact, intact', digest])
    exact ⟨existing, found, content.fields.1⟩
  · rw [done] at answer
    obtain ⟨rfl, rfl⟩ := Prod.mk.inj answer
    refine ⟨⟨enduring.whole.setCheckpoint documented intact free owned, enduring.lived,
      enduring.marked⟩,
      fun _ _ => ⟨rfl, checkpoint, ?_, rfl⟩⟩
    rw [CoreWorld.checkpoint?_setCheckpoint, if_pos rfl]

theorem fail_compareAndSet {previous run : Run} {version : ℕ}
    (stored : state.1.run? run.runId = some previous)
    (same : SameRun previous.toRunFields run.toRunFields)
    (inherits : Enduring documents focus state → Inherits state.1 previous run)
    (lived : Enduring documents focus state → Lived run state.2) :
    Endures documents focus (coreOp (.runCompareAndSet run version))
      (fun committed after => committed = run ∧ after.1 = state.1.setRun run) state := by
  refine fail_call fun enduring choice allowed _ outcome after answer => ?_
  have written : Enduring documents focus (state.1.setRun run, state.2) := by
    refine ⟨enduring.whole.setRun stored same (inherits enduring), fun runId other found => ?_, ?_⟩
    · rw [CoreWorld.run?_setRun] at found
      split at found
      · obtain rfl := Option.some.inj found
        exact lived enduring
      · exact enduring.lived runId other found
    · obtain ⟨first, found, marked⟩ := enduring.marked
      have lookup := state.1.run?_setRun run focus
      by_cases own : run.runId = focus
      · rw [own, found] at stored
        obtain rfl := Option.some.inj stored
        exact ⟨run, lookup.trans (if_pos own), (inherits enduring).interrupted marked⟩
      · exact ⟨first, (lookup.trans (if_neg own)).trans found, marked⟩
  rcases answer_runCompareAndSet state.1 run version choice with
    ⟨error, refused⟩ | ⟨current, -, -, -, done | ⟨error, -, failed⟩⟩
  · rw [refused] at answer
    obtain ⟨rfl, rfl⟩ := Prod.mk.inj answer
    exact ⟨enduring, fun _ => by simp⟩
  · rw [done] at answer
    obtain ⟨rfl, rfl⟩ := Prod.mk.inj answer
    refine ⟨written, fun result same => ⟨?_, rfl⟩⟩
    exact (Except.ok.inj same).symm
  · rw [failed] at answer
    obtain ⟨rfl, rfl⟩ := Prod.mk.inj answer
    exact ⟨written, fun _ => by simp⟩

/-- What a mutation that returned has made of the stored Run. -/
structure Remade (runId : RunId) (operation : RunOperation) (version : ℕ) (before : CoreWorld)
    (run : Run) (after : CoreWorld) : Prop where
  own : run.runId = runId
  stored : after.run? runId = some run
  store : after.store = before.store
  applied : ∃ previous now transition, before.run? runId = some previous ∧
    operation.apply previous version now = .ok transition ∧ transition.current = run

theorem fail_apply (runId : RunId) (operation : RunOperation) (version : ℕ)
    (inherits : ∀ previous now transition, Enduring documents focus state →
      state.1.run? runId = some previous → operation.apply previous version now = .ok transition →
      Inherits state.1 previous transition.current) :
    Endures documents focus (RunService.apply runId version operation.apply)
      (fun run after => Remade runId operation version state.1 run after.1) state := by
  refine (fail_get runId).next fun previous read got => ?_
  obtain ⟨rfl, found, enduring⟩ := got
  refine fail_now.next fun now ticked got => ?_
  obtain ⟨rfl, later⟩ := got
  have key := enduring.whole.keyed runId previous found
  refine Program.safe_guarded trivial fun transition applied => ?_
  obtain ⟨-, handed, advances⟩ := RunOperation.apply_ok applied
  split
  · rename_i unchanged
    have same : transition.current = previous := by
      refine advances.resolve_right fun changed => ?_
      have equal : transition.current.stateVersion = previous.stateVersion := by
        simpa [RunTransition.unchanged, handed] using unchanged
      omega
    exact ⟨same ▸ key, same ▸ found, rfl, previous, now, transition, found, applied, rfl⟩
  · rename_i changed
    have differs : transition.current ≠ previous := by
      intro same
      exact changed (by simp [RunTransition.unchanged, handed, same])
    have same := (advances.resolve_left differs).2.2
    have own : transition.current.runId = runId := same.runId.trans key
    have committing : Endures documents focus (coreOp (.runCompareAndSet transition.current version)) _
        (read.1, now) :=
      fail_compareAndSet (own ▸ found) same
        (fun _ => inherits previous now transition enduring found applied)
        fun _ => (enduring.lived runId previous found).step later applied
    refine committing.next fun committed after done => ?_
    obtain ⟨rfl, written⟩ := done
    refine (fail_reads _ rfl).next fun _ last same => ?_
    refine ⟨own, ?_, ?_, previous, now, transition, found, applied, rfl⟩
    · rw [same, written, CoreWorld.run?_setRun, if_pos own]
    · rw [same, written, CoreWorld.setRun]

/-- The mutations that keep the kind of the Run, and so its marker. -/
def RunOperation.keepsKind : RunOperation → Bool
  | .advance _ | .pause | .recover _ | .fail _ => true
  | _ => false

omit [Sha256] in
theorem RunStateMachine.Outcome.kind {run : Run} {version : ℕ} {now : DateTime}
    {transition : RunTransition} {same : Prop} {changes : (RunFields → RunFields) → Prop}
    (outcome : Outcome run version now transition same changes)
    (keeps : ∀ change, changes change → ∀ fields,
      (change fields).kind = fields.kind ∧ (change fields).status ≠ .created) :
    transition.current.kind = run.kind ∧
      (run.status ≠ .created → transition.current.status ≠ .created) := by
  rcases outcome.2.2 with ⟨same, -⟩ | ⟨change, changed, fields⟩
  · rw [same]
    exact ⟨rfl, id⟩
  · rw [fields]
    exact ⟨(keeps change changed _).1, fun _ => (keeps change changed _).2⟩

omit [Sha256] in
open RunStateMachine in
theorem RunOperation.keepsKind_ok {operation : RunOperation} {run : Run} {version : ℕ}
    {now : DateTime} {transition : RunTransition} (keeps : operation.keepsKind = true)
    (done : operation.apply run version now = .ok transition) :
    transition.current.kind = run.kind ∧
      (run.status ≠ .created → transition.current.status ≠ .created) := by
  cases operation with
  | advance target =>
    refine (advance_ok done).kind ?_
    rintro _ ⟨legal, rfl⟩ _
    refine ⟨rfl, ?_⟩
    rintro rfl
    revert legal
    cases run.status <;> decide
  | pause =>
    refine (pause_ok done).kind ?_
    rintro _ ⟨-, rfl⟩ _
    exact ⟨rfl, by simp⟩
  | recover checkpointRef =>
    refine (recover_ok done).kind ?_
    rintro _ ⟨-, -, _, _, -, -, rfl⟩ _
    exact ⟨rfl, by simp⟩
  | fail error =>
    refine (fail_ok done).kind ?_
    rintro _ ⟨-, _, _, -, -, rfl⟩ _
    exact ⟨rfl, by simp⟩
  | _ => cases keeps

theorem fail_keepsKind (operation : RunOperation) (runId : RunId) (version : ℕ)
    (keeps : operation.keepsKind = true) :
    Endures documents focus (RunService.apply runId version operation.apply)
      (fun run after => Remade runId operation version state.1 run after.1) state :=
  fail_apply runId operation version fun _ _ _ enduring found applied =>
    let kept := RunOperation.keepsKind_ok keeps applied
    enduring.whole.inherits found kept.1 kept.2

/-! ### The parts of a recovery -/

theorem fail_auditFailure (runId : RunId) (detail : ErrorDetail) :
    Endures documents focus (handleRunAuditFailure runId detail) (fun _ _ => True) state := by
  have mutation : ∀ (operation : RunOperation) (version : ℕ) (state : RestartWorld),
      operation.keepsKind = true →
      Endures documents focus (RunService.apply runId version operation.apply) (fun _ _ => True) state :=
    fun operation version state keeps => (fail_keepsKind operation runId version keeps).weaken (fun _ _ _ => trivial)
      fun _ _ => trivial
  unfold handleRunAuditFailure RunService.handleAuditFailure
  refine Program.Safe.next (?_ : Endures documents focus _ (fun _ _ => True) state)
    fun _ _ _ => trivial
  refine (fail_get runId).next fun run after got => ?_
  obtain ⟨rfl, -⟩ := got
  split
  · trivial
  · split
    · exact mutation (.fail detail) _ after rfl
    · split
      · trivial
      · exact mutation .pause _ after rfl

/-- The calls around a capability change nothing, unless an audit fails. -/
theorem fail_routine (fact : CoreWorld → Prop) (authorization : Authorization) :
    Routine (failingEnvironment documents) (enduringContract documents focus) authorization.dispatcher
      (fun state => fact state.1) (fun _ => True) (fun _ => True) where
  cancelled token state held :=
    (fail_reads (.cancelled token) rfl).weaken (fun _ _ same => same ▸ held) fun _ _ => trivial
  now state held := by
    refine fail_now.weaken (fun _ _ got => ?_) fun _ _ => trivial
    rw [got.1]
    exact held
  authorize policy given request state held := by
    have awaited : policy = fun request => coreOp (.authorize request) := by
      unfold Authorization.dispatcher at given
      split at given
      · exact (Option.some.inj given).symm
      · cases given
    subst awaited
    exact (fail_reads (.authorize request) rfl).weaken (fun _ _ same => same ▸ held)
      fun _ _ => trivial
  denied request decision state held :=
    (fail_reads (.authorizationDenied request decision) rfl).weaken
      (fun _ _ same => same ▸ held) fun _ _ => trivial
  granted request grant state held :=
    (fail_reads (.crossScopeGranted request grant) rfl).weaken
      (fun _ _ same => same ▸ held) fun _ _ => trivial
  handle runId detail state _ := fail_auditFailure runId detail
  weaken _ _ := trivial
  unhandled _ _ := trivial

theorem fail_gatewayLoad (gateway : CheckpointGateway) (provider : ProviderId)
    (reference : CheckpointRef) (runId : RunId) (scope : ScopeRef) (context : RuntimeCallContext) :
    Endures documents focus (gateway.load provider reference runId scope context)
      (fun checkpoint after => after.1 = state.1 ∧
        state.1.checkpoint? reference = some checkpoint) state := by
  refine (fail_routine (· = state.1) gateway.authorization).gatewayLoad
    (fun checkpoint => fail_routine (fun world => world = state.1 ∧
      state.1.checkpoint? reference = some checkpoint) gateway.authorization)
    provider reference runId scope context (fun current context same => ?_) rfl
  exact (fail_load reference context).weaken (fun checkpoint after loaded => by
    rw [same] at loaded
    exact loaded) fun _ _ => trivial

theorem fail_gatewaySave (collisionFree : CollisionFree documents) (gateway : CheckpointGateway)
    (provider : ProviderId) {checkpoint : Checkpoint} (context : RuntimeCallContext)
    (documented : documents checkpoint)
    (owned : ∀ run, state.1.run? checkpoint.runId = some run → Owns run checkpoint) :
    Endures documents focus (gateway.save provider checkpoint context)
      (fun _ after => after.1.repository = state.1.repository ∧
        Holds checkpoint.runId checkpoint.ref after.1) state := by
  refine (fail_routine (· = state.1) gateway.authorization).gatewaySave
    (fun _ => fail_routine (fun world => world.repository = state.1.repository ∧
      Holds checkpoint.runId checkpoint.ref world) gateway.authorization)
    provider checkpoint context (fun intact current context same => ?_) rfl
  exact (fail_save collisionFree documented intact (same ▸ owned) context).weaken
    (fun _ after saved => by
      rw [same] at saved
      exact saved) fun _ _ => trivial

theorem fail_gatewayList (gateway : CheckpointGateway) (query : CheckpointQuery)
    (context : RuntimeCallContext) :
    Endures documents focus (gateway.list query context) (fun page after => after.1 = state.1 ∧
      ∀ item ∈ page.items, Listed state.1 query.runId item) state := by
  refine (fail_routine (· = state.1) gateway.authorization).gatewayList
    (fun page => fail_routine (fun world => world = state.1 ∧
      ∀ item ∈ page.items, Listed state.1 query.runId item) gateway.authorization)
    query context (fun current granted effective context constrained same => ?_) rfl
  have own : effective.runId = query.runId := by
    obtain ⟨_, _, -, rfl⟩ := constrainList_iff.mp constrained
    rfl
  exact (fail_list effective context).weaken (fun page after listed => by
    rw [same, own] at listed
    exact listed) fun _ _ => trivial

theorem fail_audit (runId : RunId) {operation : CoreProgram Unit}
    (awaited : Endures documents focus operation (fun _ after => after.1 = state.1) state) :
    Endures documents focus (RecoveryCoordinator.audit runId operation)
      (fun _ after => after.1 = state.1) state := by
  refine awaited.catching (fun _ _ same => same) fun error after _ => ?_
  split
  · exact (fail_auditFailure runId _).next fun _ _ _ => trivial
  · trivial

omit [Sha256] in
theorem updateByRef_forall {fact : Checkpoint → Prop} {byRef : Dict CheckpointRef Checkpoint}
    {items : List Checkpoint}
    (held : ∀ reference item, byRef.get? reference = some item → fact item)
    (listed : ∀ item ∈ items, fact item) :
    ∀ reference item, (RecoveryCoordinator.updateByRef byRef items).get? reference = some item →
      fact item := by
  unfold RecoveryCoordinator.updateByRef
  induction items generalizing byRef with
  | nil => exact held
  | cons first items ih =>
    refine ih (fun reference item found => ?_) fun item member => listed item (by simp [member])
    rw [Dict.get?_set] at found
    split at found
    · obtain rfl := Option.some.inj found
      exact listed first (by simp)
    · exact held reference item found

theorem fail_listAll (coordinator : RecoveryCoordinator) (request : RecoveryRequest)
    (run : WorkflowRun) (context : RuntimeCallContext) (fuel : ℕ) (cursor : Option CheckpointCursor)
    {byRef : Dict CheckpointRef Checkpoint}
    (held : ∀ reference item, byRef.get? reference = some item → Listed state.1 run.runId item) :
    Endures documents focus (coordinator.listAll request run context fuel cursor byRef)
      (fun byRef after => after.1 = state.1 ∧
        ∀ reference item, byRef.get? reference = some item → Listed state.1 run.runId item)
      state := by
  induction fuel generalizing cursor byRef state with
  | zero => trivial
  | succ fuel ih =>
    refine (fail_gatewayList _ _ _).next fun page after got => ?_
    obtain ⟨same, listed⟩ := got
    have updated := updateByRef_forall held listed
    split
    · exact ⟨same, updated⟩
    · rw [← same] at updated
      exact (ih _ updated).weaken (fun _ last found => by
        rw [same] at found
        exact found) fun _ _ => trivial

theorem fallbackCandidate_ok {byRef : Dict CheckpointRef Checkpoint} {fuel : ℕ}
    {seen : List CheckpointRef} {start : Option CheckpointRef} {candidate : Checkpoint}
    (found : RecoveryCoordinator.fallbackCandidate byRef fuel seen start = .ok (some candidate)) :
    candidate.verifyIntegrity = .ok () ∧ ∃ reference, byRef.get? reference = some candidate := by
  induction fuel generalizing seen start with
  | zero => cases start <;> cases found
  | succ fuel ih =>
    cases start with
    | none => cases found
    | some reference =>
      unfold RecoveryCoordinator.fallbackCandidate at found
      split at found
      · cases found
      · split at found
        · cases found
        · rename_i item listed
          split at found
          · rename_i intact
            cases found
            exact ⟨intact, reference, listed⟩
          · exact ih found

/-- The checkpoint is stored. -/
def Present (checkpoint : Checkpoint) (world : CoreWorld) : Prop :=
  ∃ reference, world.checkpoint? reference = some checkpoint

/-- A commit of a stored checkpoint of the Run. -/
theorem fail_commitCheckpoint {run : WorkflowRun} {reference : CheckpointRef}
    (previousRef : Option CheckpointRef) (definitionId : Option DefinitionId)
    (graphVersion : Option String) (held : Holds run.runId reference state.1) :
    Endures documents focus (RunService.commitCheckpoint run.runId run.stateVersion reference previousRef
      definitionId graphVersion)
      (fun committed after => committed.runId = run.runId ∧ after.1.store = state.1.store)
      state := by
  refine Program.Safe.weaken (fail_apply run.runId (.commitCheckpoint reference previousRef
    definitionId graphVersion) run.stateVersion fun previous _ _ enduring found applied => ?_)
    (fun _ _ remade => ⟨remade.own, remade.store⟩) fun _ _ => trivial
  have key := enduring.whole.keyed _ previous found
  obtain ⟨workflow, kind, -, -, -, ⟨same, -⟩ | ⟨_, ⟨-, rfl⟩, fields⟩⟩ :=
    RunStateMachine.commitCheckpoint_ok applied
  · rw [same]
    exact enduring.whole.inherits found rfl id
  · refine ⟨fun next given => ⟨workflow, kind, ?_⟩, fun marker marked => ?_, fun marked => ?_⟩
    · rw [fields] at given
      rw [← RunKind.workflow.inj given]
    · rw [Run.latest, Run.workflow?, fields] at marked
      obtain rfl := Option.some.inj marked
      rw [key]
      exact held
    · refine ⟨?_, by rw [Run.latest, Run.workflow?, fields]; rfl⟩
      rw [fields]
      exact marked.1

theorem fail_fallBack (coordinator : RecoveryCoordinator) (fuel : ℕ) (request : RecoveryRequest)
    (run : WorkflowRun) (marker : CheckpointRef) (context : RuntimeCallContext) :
    Endures documents focus (coordinator.fallBack fuel request run marker context)
      (fun loaded after => Present loaded.1 after.1) state := by
  unfold RecoveryCoordinator.fallBack
  have empty : ∀ reference item, (Dict.empty : Dict CheckpointRef Checkpoint).get? reference =
      some item → Listed state.1 run.runId item := fun reference item found => by cases found
  refine (fail_listAll coordinator request run context fuel none empty).next
    fun byRef after got => ?_
  obtain ⟨same, listed⟩ := got
  split
  · trivial
  · refine Program.safe_guarded trivial fun candidate found => ?_
    split
    · trivial
    · rename_i candidate
      obtain ⟨intact, reference, inside⟩ := fallbackCandidate_ok found
      obtain ⟨stored, own⟩ := listed reference candidate inside intact
      rw [← same] at stored
      have authorized : Endures documents focus
          (coreOp (.fallbackAuthorized marker candidate context)) _ after := fail_reads _ rfl
      refine (fail_audit run.runId authorized).next fun _ audited same => ?_
      have held : Holds run.runId candidate.ref audited.1 := ⟨candidate, same ▸ stored, own⟩
      refine (fail_commitCheckpoint (some marker) none none held).next fun committed last made => ?_
      refine Program.safe_guarded trivial fun workflow _ => ⟨candidate.ref, ?_⟩
      rw [CoreWorld.checkpoint?, made.2, same]
      exact stored

theorem fail_loadWithFallback (coordinator : RecoveryCoordinator) (fuel : ℕ)
    (request : RecoveryRequest) (run : WorkflowRun) (marker : CheckpointRef)
    (context : RuntimeCallContext) :
    Endures documents focus (coordinator.loadWithFallback fuel request run marker context)
      (fun loaded after => Present loaded.1 after.1) state := by
  refine (fail_gatewayLoad _ _ _ _ _ _).andThen fun outcome after got => ?_
  cases outcome with
  | ok checkpoint =>
    obtain ⟨same, found⟩ := got
    exact ⟨marker, same ▸ found⟩
  | error error =>
    change Endures documents focus (if _ then _ else _) _ _
    split
    · exact fail_fallBack coordinator fuel request run marker context
    · trivial

theorem Owns.migrated {run : Run} {request : RecoveryRequest} {source migrated : Checkpoint}
    (owns : Owns run source)
    (valid : RecoveryCoordinator.validateMigrated request source migrated = .ok ()) :
    Owns run migrated := by
  obtain ⟨_, -, checked⟩ := bind_ok valid
  simp only [ensure_eq_ok, Bool.and_eq_true, beq_iff_eq] at checked
  have workflow : migrated.workflowId = source.workflowId := by tauto
  have scope : migrated.scope.key = source.scope.key := by tauto
  exact ⟨fun fields kind => workflow.trans (owns.workflow fields kind), scope.trans owns.scope⟩

theorem fail_migration (collisionFree : CollisionFree documents) (coordinator : RecoveryCoordinator)
    (request : RecoveryRequest) {run : WorkflowRun} {source : Checkpoint}
    (context : RuntimeCallContext) (own : source.runId = run.runId) (present : Present source state.1) :
    Endures documents focus (coordinator.migrate request run source context) (fun _ _ => True) state := by
  unfold RecoveryCoordinator.migrate
  refine Program.safe_guarded trivial fun migrationRequest _ => ?_
  refine Program.safe_guarded trivial fun _ _ => ?_
  refine (fail_migrate source migrationRequest context).next fun migrated after got => ?_
  obtain ⟨same, documented, whole⟩ := got
  refine Program.safe_guarded trivial fun _ valid => ?_
  have key : migrated.runId = source.runId := by
    obtain ⟨_, -, checked⟩ := bind_ok valid
    simp only [ensure_eq_ok, Bool.and_eq_true, beq_iff_eq] at checked
    tauto
  have owned : ∀ owner, after.1.run? migrated.runId = some owner → Owns owner migrated := by
    intro owner found
    obtain ⟨reference, stored⟩ := present
    rw [same, key] at found
    exact (whole.owned reference source owner stored found).migrated valid
  refine (fail_gatewaySave collisionFree coordinator.gateway request.providerId context documented
    owned).next fun _ saved got => ?_
  have authorized : Endures documents focus
      (coreOp (.migrationAuthorized source migrated context)) _ saved := fail_reads _ rfl
  refine (fail_audit run.runId authorized).next fun _ audited same => ?_
  have held : Holds run.runId migrated.ref audited.1 := by
    rw [same, ← own, ← key]
    exact got.2
  refine (fail_commitCheckpoint (some source.ref) _ _ held).next fun committed last _ => ?_
  refine Program.safe_guarded trivial fun workflow _ => ?_
  have publishing : Endures documents focus (coreOp (.checkpointSaved migrated workflow context)) _ last :=
    fail_reads _ rfl
  have published : Endures documents focus (suppressException
      (coreOp (.checkpointSaved migrated workflow context))) (fun _ _ => True) last :=
    publishing.catching (fun _ _ _ => trivial) fun error _ _ => by split <;> trivial
  exact published.next fun _ _ _ => trivial

theorem fail_restoreAndRun (request : RecoveryRequest) (run : WorkflowRun) (checkpoint : Checkpoint)
    (context : RuntimeCallContext) :
    Endures documents focus (RecoveryCoordinator.restoreAndRun request run checkpoint context)
      (fun _ _ => True) state := by
  unfold RecoveryCoordinator.restoreAndRun
  refine (fail_keepsKind (.recover (some checkpoint.ref)) run.runId run.stateVersion
    rfl).next fun recovering after _ => ?_
  refine Program.safe_guarded trivial fun workflow _ => ?_
  have restoring : Endures documents focus (coreOp (.restore checkpoint context)) _ after :=
    fail_reads _ rfl
  have handled : Endures documents focus ((coreOp (.restore checkpoint context)).catching
      (RecoveryCoordinator.handleRestoreError request workflow)) (fun _ _ => True) after := by
    refine restoring.catching (fun _ _ _ => trivial) fun error last _ => ?_
    unfold RecoveryCoordinator.handleRestoreError
    split
    · exact (fail_keepsKind (.fail _) workflow.runId workflow.stateVersion rfl).next
        fun _ _ _ => trivial
    · trivial
  refine handled.next fun _ last _ => ?_
  refine (fail_keepsKind (.advance .running) workflow.runId workflow.stateVersion
    rfl).next fun running _ _ => ?_
  exact Program.safe_checked (fun _ _ => trivial) trivial

theorem fail_recover (collisionFree : CollisionFree documents) (coordinator : RecoveryCoordinator)
    (fuel : ℕ) (request : RecoveryRequest) (context : RuntimeCallContext) :
    Endures documents focus (coordinator.recover fuel request context) (fun _ _ => True) state := by
  unfold RecoveryCoordinator.recover
  refine (fail_get request.runId).next fun run read _ => ?_
  refine Program.safe_guarded trivial fun workflow _ => ?_
  refine Program.safe_guarded trivial fun marker _ => ?_
  refine (fail_loadWithFallback coordinator fuel request workflow marker context).next
    fun loaded after present => ?_
  obtain ⟨checkpoint, fellBack, current⟩ := loaded
  refine Program.safe_guarded trivial fun _ valid => ?_
  have own : checkpoint.runId = current.runId := by
    obtain ⟨_, -, checked⟩ := bind_ok valid
    simp only [ensure_eq_ok, Bool.and_eq_true, beq_iff_eq] at checked
    exact checked.1.1.2
  have migrating : Endures documents focus
      (coordinator.migrateIfNeeded request current checkpoint context) (fun _ _ => True) after := by
    unfold RecoveryCoordinator.migrateIfNeeded
    split
    · exact (fail_migration collisionFree coordinator request context own present).next
        fun _ _ _ => trivial
    · trivial
  refine migrating.next fun result migrated _ => ?_
  exact (fail_restoreAndRun request _ _ context).next fun _ _ _ => trivial

theorem recoverySequence_meets (collisionFree : CollisionFree documents) :
    (recoverySequence documents focus).Meets (enduringContract documents focus) where
  reflexive _ := rfl
  initial state start := start.1
  starts before program start enduring started := by
    obtain ⟨rfl, coordinator, fuel, request, context, rfl⟩ := started
    exact ⟨enduring, (fail_recover collisionFree coordinator fuel request context).mono
      fun _ _ _ => trivial⟩

end Sequence

end CongeriesCore
