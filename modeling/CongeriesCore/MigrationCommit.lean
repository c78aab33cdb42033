import CongeriesCore.RecoveryRestart

/-! # What a migration changes

One migration of a checkpoint, whatever the migrator, the policy, the audits and the store do, over
a repository that does not fail. Beside the world stands the log of the migration: the audits that
were acknowledged, and the changes of a Run's marker, definition or version. -/

namespace CongeriesCore

open AsyncProgram

/-- The marker, the definition and the version of a Run. -/
def Run.position (run : Run) : DefinitionId × RunKind := (run.definitionId, run.kind)

inductive MigrationEvent
  | acknowledged (source migrated : Checkpoint)
  | moved (previous current : Run)
  /-- a publication after a change has raised -/
  | unpublished

abbrev MigrationLog := List MigrationEvent

namespace MigrationLog

/-- A compare-and-swap moves the Run if it changes its position. -/
def observe : (op : CoreOp) → Except Raised op.Answer → CoreWorld → CoreWorld → MigrationLog →
    MigrationLog
  | .migrationAuthorized source migrated _, .ok _, _, _, log => .acknowledged source migrated :: log
  | .runCompareAndSet run _, .ok committed, before, _, log =>
    match before.run? run.runId with
    | none => log
    | some previous =>
      if previous.position = committed.position then log else .moved previous committed :: log
  | .runStateChanged transition, .error _, _, _, log =>
    if transition.previous.position = transition.current.position then log
    else .unpublished :: log
  | .checkpointSaved _ _ _, .error error, _, _, log =>
    if error.isException then log else .unpublished :: log
  | _, _, _, _, log => log

end MigrationLog

abbrev MigrationWorld := CoreWorld × MigrationLog

/-- The in-memory repository does not fail. -/
def migrationAllows : (op : CoreOp) → op.Choice → MigrationWorld → Prop
  | .runGet _, fault, _ | .runAdd _, fault, _ | .runCompareAndSet _ _, fault, _ => fault = .none
  | _, _, _ => True

/-- The calls that write nothing and leave no trace in the log. -/
def CoreOp.silent : CoreOp → Bool
  | .runAdd _ | .runCompareAndSet _ _ | .checkpointSave _ _ | .checkpointDelete _ _
  | .runStateChanged _ | .checkpointSaved _ _ _ | .migrationAuthorized _ _ _ => false
  | _ => true

/-- What a migrated checkpoint has of its source. -/
structure Checkpoint.MigratedFrom [Sha256] (request : RecoveryRequest)
    (source migrated : Checkpoint) : Prop where
  intact : migrated.verifyIntegrity = .ok ()
  fresh : migrated.ref ≠ source.ref
  run : migrated.runId = source.runId
  workflow : migrated.workflowId = source.workflowId
  scope : migrated.scope.key = source.scope.key
  sequence : migrated.sequence = source.sequence + 1
  previous : migrated.previousCheckpointRef = some source.ref
  definition : migrated.definitionId = request.targetDefinitionId
  version : migrated.graphVersion = request.targetGraphVersion
  externalRefs : migrated.externalRefs = source.externalRefs
  sideEffects : migrated.sideEffects = source.sideEffects

/-- What a migration makes of a Run: five of its fields are new. -/
def WorkflowRun.MovedTo (run : WorkflowRun) (request : RecoveryRequest) (migrated : Checkpoint)
    (current : Run) : Prop :=
  ∃ now, current.toRunFields = { run.toRunFields with
    definitionId := request.targetDefinitionId
    kind := .workflow { run.workflow with
      graphVersion := request.targetGraphVersion
      latestCheckpointRef := some migrated.ref }
    stateVersion := run.stateVersion + 1
    updatedAt := some now }

section Migration

variable [Sha256]

abbrev migrationEnvironment : Environment CoreInterface Raised MigrationWorld :=
  coreEnvironment.instrumented migrationAllows MigrationLog.observe

/-- The Run is where it was, and nothing else is on record. -/
structure InPlace (run : WorkflowRun) (state : MigrationWorld) : Prop where
  position : ∃ current, state.1.run? run.runId = some current ∧
    current.position = run.position
  log : ∀ event ∈ state.2, ∃ source migrated, event = .acknowledged source migrated

/-- One compare-and-swap has moved the Run to the migrated checkpoint, which is stored, after the
audit of the migration was acknowledged. -/
structure Moved (request : RecoveryRequest) (run : WorkflowRun) (source migrated : Checkpoint)
    (current : Run) (state : MigrationWorld) : Prop where
  checkpoint : Checkpoint.MigratedFrom request source migrated
  moved : run.MovedTo request migrated current
  committed : state.1.run? run.runId = some current
  stored : ∃ existing, state.1.checkpoint? migrated.ref = some existing ∧
    existing.integrity = migrated.integrity
  log : state.2 = [.moved run.toRun current, .acknowledged source migrated] ∨
    state.2 = [.unpublished, .moved run.toRun current, .acknowledged source migrated]

/-- What holds in every state of a migration. -/
structure Migrating (start : CoreWorld) (request : RecoveryRequest) (run : WorkflowRun)
    (source : Checkpoint) (state : MigrationWorld) : Prop where
  keyed : state.1.Keyed
  kept : ∀ reference checkpoint, start.checkpoint? reference = some checkpoint →
    state.1.checkpoint? reference = some checkpoint
  runs : InPlace run state ∨ ∃ migrated current, Moved request run source migrated current state

def migrationContract (start : CoreWorld) (request : RecoveryRequest) (run : WorkflowRun)
    (source : Checkpoint) : Contract CoreInterface MigrationWorld :=
  .alone (Migrating start request run source) (fun _ _ => True) fun _ _ => True

abbrev Migrates {α : Type} (start : CoreWorld) (request : RecoveryRequest) (run : WorkflowRun)
    (source : Checkpoint) (program : CoreProgram α) (post : Except Raised α → MigrationWorld → Prop)
    (state : MigrationWorld) : Prop :=
  program.Safe migrationEnvironment (migrationContract start request run source) post state

variable {start : CoreWorld} {request : RecoveryRequest} {run : WorkflowRun} {source : Checkpoint}
  {state : MigrationWorld}

/-! ### Single calls -/

theorem migrate_call {op : CoreOp} {post : Except Raised op.Answer → MigrationWorld → Prop}
    (answered : Migrating start request run source state → ∀ choice,
      migrationAllows op choice state → ∀ outcome after,
      coreAnswer op choice state.1 = (outcome, after) →
      Migrating start request run source
        (after, MigrationLog.observe op outcome state.1 after state.2) ∧
      post outcome (after, MigrationLog.observe op outcome state.1 after state.2)) :
    Migrates start request run source (coreOp op) post state := by
  apply Program.safe_perform_alone
  intro kept
  refine ⟨trivial, fun choice permitted => ?_⟩
  obtain ⟨keeps, reached⟩ := answered kept choice permitted.2 _ _ rfl
  exact ⟨keeps, trivial, reached⟩

omit [Sha256] in
theorem CoreOp.silent_reads {op : CoreOp} (silent : op.silent = true) : op.readsOnly = true := by
  cases op <;> first | rfl | cases silent

omit [Sha256] in
theorem observe_silent {op : CoreOp} (silent : op.silent = true) (outcome : Except Raised op.Answer)
    (before after : CoreWorld) (log : MigrationLog) :
    MigrationLog.observe op outcome before after log = log := by
  cases op <;> first | rfl | cases silent

theorem migrate_silent (op : CoreOp) (silent : op.silent = true) :
    Migrates start request run source (coreOp op) (fun _ after => after = state) state := by
  apply migrate_call
  intro kept choice _ outcome after answer
  have same := answer_world (CoreOp.silent_reads silent) choice state.1
  rw [answer] at same
  have world : after = state.1 := same
  subst world
  rw [observe_silent silent]
  exact ⟨kept, rfl⟩

theorem migrate_get (runId : RunId) : Migrates start request run source (coreOp (.runGet runId))
    (fun outcome after => after = state ∧
      ∀ current, outcome = .ok current → state.1.run? runId = some current) state := by
  apply migrate_call
  intro kept choice allowed outcome after answer
  rw [observe_silent rfl]
  rcases answer_runGet state.1 runId choice with ⟨error, refused⟩ | ⟨current, found, done⟩
  · rw [refused] at answer
    obtain ⟨rfl, rfl⟩ := Prod.mk.inj answer
    refine ⟨kept, rfl, fun other failed => ?_⟩
    cases failed
  · rw [done] at answer
    obtain ⟨rfl, rfl⟩ := Prod.mk.inj answer
    refine ⟨kept, rfl, fun other same => ?_⟩
    cases same
    exact found

/-- The publication of a change that keeps the position leaves no trace. -/
theorem migrate_published (transition : RunTransition)
    (same : transition.previous.position = transition.current.position) :
    Migrates start request run source (coreOp (.runStateChanged transition))
      (fun _ after => after = state) state := by
  apply migrate_call
  intro kept choice _ outcome after answer
  obtain ⟨rfl, rfl⟩ : choice = outcome ∧ state.1 = after := Prod.mk.inj answer
  have quiet : MigrationLog.observe (.runStateChanged transition) choice state.1 state.1 state.2 =
      state.2 := by
    cases choice with
    | ok done => rfl
    | error error => exact if_pos same
  rw [quiet]
  exact ⟨kept, rfl⟩

omit [Sha256] in
theorem CoreWorld.Keyed.setRun {world : CoreWorld} (keyed : world.Keyed) (current : Run) :
    (world.setRun current).Keyed := by
  intro runId other found
  rw [CoreWorld.run?_setRun] at found
  split at found
  · rename_i own
    cases found
    exact own
  · exact keyed runId other found

/-- A compare-and-swap that keeps the position of its Run. -/
theorem migrate_compareAndSet {previous current : Run} (version : ℕ)
    (found : state.1.run? current.runId = some previous)
    (same : previous.position = current.position) (inPlace : InPlace run state) :
    Migrates start request run source (coreOp (.runCompareAndSet current version))
      (fun outcome after => InPlace run after ∧ ∀ committed, outcome = .ok committed →
        committed = current) state := by
  apply migrate_call
  intro kept choice allowed outcome after answer
  obtain rfl : choice = .none := allowed
  rcases answer_runCompareAndSet state.1 current version .none with
    ⟨error, refused⟩ | ⟨_, -, -, -, done | ⟨error, faulty, -⟩⟩
  · rw [refused] at answer
    obtain ⟨rfl, rfl⟩ := Prod.mk.inj answer
    have quiet : MigrationLog.observe (.runCompareAndSet current version) (.error error) state.1
        state.1 state.2 = state.2 := rfl
    rw [quiet]
    refine ⟨kept, inPlace, fun committed failed => ?_⟩
    cases failed
  · rw [done] at answer
    obtain ⟨rfl, rfl⟩ := Prod.mk.inj answer
    have quiet : MigrationLog.observe (.runCompareAndSet current version) (.ok current) state.1
        (state.1.setRun current) state.2 = state.2 := by
      simp only [MigrationLog.observe, found, same, if_true]
    rw [quiet]
    have there : InPlace run (state.1.setRun current, state.2) := by
      refine ⟨?_, inPlace.log⟩
      obtain ⟨stored, held, position⟩ := inPlace.position
      rw [CoreWorld.run?_setRun]
      split
      · rename_i own
        rw [own, held] at found
        cases found
        exact ⟨current, rfl, same.symm.trans position⟩
      · exact ⟨stored, held, position⟩
    refine ⟨⟨kept.keyed.setRun current, kept.kept, .inl there⟩, there, ?_⟩
    intro committed returned
    cases returned
    rfl
  · cases faulty

/-- The operations of the state machine that keep the position of a Run. -/
def RunOperation.KeepsPosition (operation : RunOperation) : Prop :=
  ∀ run version now transition, operation.apply run version now = .ok transition →
    transition.current.position = run.position

omit [Sha256] in
theorem RunStateMachine.Outcome.position {current : Run} {version : ℕ} {now : DateTime}
    {transition : RunTransition} {same : Prop} {changes : (RunFields → RunFields) → Prop}
    (outcome : Outcome current version now transition same changes)
    (keeps : ∀ change, changes change → ∀ fields,
      (change fields).definitionId = fields.definitionId ∧ (change fields).kind = fields.kind) :
    transition.current.position = current.position := by
  rcases outcome.2.2 with ⟨same, -⟩ | ⟨change, changed, fields⟩
  · rw [same]
  · obtain ⟨definition, kind⟩ := keeps change changed
      { current.toRunFields with stateVersion := current.stateVersion + 1, updatedAt := some now }
    rw [Run.position, fields, definition, kind, Run.position]

omit [Sha256] in
open RunStateMachine in
theorem pause_keepsPosition : RunOperation.pause.KeepsPosition := by
  intro run version now transition done
  apply (pause_ok done).position
  rintro _ ⟨-, rfl⟩ fields
  exact ⟨rfl, rfl⟩

omit [Sha256] in
open RunStateMachine in
theorem fail_keepsPosition (error : ErrorDetail) : (RunOperation.fail error).KeepsPosition := by
  intro run version now transition done
  apply (fail_ok done).position
  rintro _ ⟨-, _, _, -, -, rfl⟩ fields
  exact ⟨rfl, rfl⟩

theorem migrate_apply {operation : RunOperation} (keeps : operation.KeepsPosition) (runId : RunId)
    (version : ℕ) (keyed : state.1.Keyed) (inPlace : InPlace run state) :
    Migrates start request run source (RunService.apply runId version operation.apply)
      (fun _ after => InPlace run after) state := by
  unfold RunService.apply
  apply (migrate_get runId).bind
  · intro previous after got
    obtain ⟨rfl, found⟩ := got
    have stored := found previous rfl
    apply (migrate_silent .now rfl).bind
    · intro now last same
      subst same
      cases applied : operation.apply previous version now with
      | error error => exact inPlace
      | ok transition =>
        obtain ⟨-, handed, advances⟩ := RunOperation.apply_ok applied
        change Migrates start request run source (if transition.unchanged then
          Program.ret transition.current else RunService.commit transition version) _ _
        split
        · exact inPlace
        · have own : transition.current.runId = runId := by
            rcases advances with same | ⟨-, -, same⟩
            · rw [same]
              exact keyed runId previous stored
            · exact same.runId.trans (keyed runId previous stored)
          have position := keeps previous version now transition applied
          have swapped : Migrates start request run source
              (coreOp (.runCompareAndSet transition.current version)) _ last :=
            migrate_compareAndSet version (own.symm ▸ stored) position.symm inPlace
          apply swapped.bind
          · intro committed final reached
            obtain rfl := reached.2 committed rfl
            have published : Migrates start request run source (coreOp (.runStateChanged
                ⟨transition.previous, transition.current, transition.reason⟩)) _ final :=
              migrate_published _ (by rw [handed]; exact position.symm)
            apply published.bind
            · intro _ ended same
              subst same
              exact reached.1
            · intro _ ended same
              subst same
              exact reached.1
          · intro error final reached
            exact reached.1
    · intro error last same
      subst same
      exact inPlace
  · intro error after got
    obtain ⟨rfl, -⟩ := got
    exact inPlace

/-- The handler of a failed audit pauses or fails a Run, which leaves it in its place. -/
theorem migrate_handle (runId : RunId) (detail : ErrorDetail) (keyed : state.1.Keyed)
    (inPlace : InPlace run state) :
    Migrates start request run source (handleRunAuditFailure runId detail)
      (Ends (fun _ => InPlace run) (InPlace run)) state := by
  have mutation : ∀ {operation : RunOperation}, operation.KeepsPosition → ∀ version,
      Migrates start request run source (RunService.apply runId version operation.apply)
        (fun _ after => InPlace run after) state :=
    fun keeps version => migrate_apply keeps runId version keyed inPlace
  have handled : Migrates start request run source (RunService.handleAuditFailure runId detail)
      (fun _ after => InPlace run after) state := by
    unfold RunService.handleAuditFailure
    apply (migrate_get runId).bind
    · intro current after got
      obtain ⟨rfl, -⟩ := got
      split
      · exact inPlace
      · split
        · exact mutation (fail_keepsPosition detail) current.stateVersion
        · split
          · exact inPlace
          · exact mutation pause_keepsPosition current.stateVersion
    · intro error after got
      obtain ⟨rfl, -⟩ := got
      exact inPlace
  apply handled.bind
  · intro _ after reached
    exact reached
  · intro _ after reached
    exact reached

/-- The calls around a capability leave the Run in its place, also where an audit fails. -/
theorem migrate_routine {held : MigrationWorld → Prop}
    (inPlace : ∀ state, held state → state.1.Keyed ∧ InPlace run state)
    (authorization : Authorization) :
    Routine migrationEnvironment (migrationContract start request run source)
      authorization.dispatcher held (fun state => state.1.Keyed ∧ InPlace run state)
      (InPlace run) := by
  have silent : ∀ (op : CoreOp), op.silent = true → ∀ state, held state →
      Migrates start request run source (coreOp op) (Ends (fun _ => held) (InPlace run)) state := by
    intro op silent state start
    apply (migrate_silent op silent).mono
    intro outcome after same
    subst same
    cases outcome with
    | ok answer => exact start
    | error error => exact (inPlace _ start).2
  have audited : ∀ (op : CoreOp), op.silent = true → ∀ state, held state →
      Migrates start request run source (coreOp op)
        (Ends (fun _ => held) fun state => state.1.Keyed ∧ InPlace run state) state := by
    intro op silent state start
    apply (migrate_silent op silent).mono
    intro outcome after same
    subst same
    cases outcome with
    | ok answer => exact start
    | error error => exact inPlace _ start
  refine ⟨?_, ?_, ?_, ?_, ?_, ?_, fun state start => (inPlace state start).2, fun _ both => both.2⟩
  · intro token state start
    exact silent (.cancelled token) rfl state start
  · intro state start
    exact silent .now rfl state start
  · intro policy given request state start
    unfold Authorization.dispatcher at given
    split at given
    · cases given
      exact silent (.authorize request) rfl state start
    · cases given
  · intro request decision state start
    exact audited (.authorizationDenied request decision) rfl state start
  · intro request grant state start
    exact audited (.crossScopeGranted request grant) rfl state start
  · intro runId detail state both
    exact migrate_handle runId detail both.1 both.2

/-- The Run is as it was when the migration began. -/
structure Untouched (run : WorkflowRun) (state : MigrationWorld) : Prop where
  keyed : state.1.Keyed
  stored : state.1.run? run.runId = some run.toRun

/-- The migrated checkpoint is stored, next to the Run as it was. -/
structure Stored (run : WorkflowRun) (migrated : Checkpoint) (log : MigrationLog)
    (state : MigrationWorld) : Prop where
  untouched : Untouched run state
  checkpoint : ∃ existing, state.1.checkpoint? migrated.ref = some existing ∧
    existing.integrity = migrated.integrity
  log : state.2 = log

omit [Sha256] in
theorem Untouched.inPlace (untouched : Untouched run state)
    (log : ∀ event ∈ state.2, ∃ source migrated, event = .acknowledged source migrated) :
    InPlace run state :=
  ⟨⟨run.toRun, untouched.stored, rfl⟩, log⟩

omit [Sha256] in
theorem Untouched.begins (untouched : Untouched run state) (log : state.2 = []) :
    InPlace run state := by
  apply untouched.inPlace
  intro event member
  rw [log] at member
  exact absurd member List.not_mem_nil

theorem migrate_store {migrated : Checkpoint} (context : RuntimeCallContext)
    (untouched : Untouched run state) (log : state.2 = []) :
    Migrates start request run source (coreOp (.checkpointSave migrated context))
      (Ends (fun _ => Stored run migrated []) (InPlace run)) state := by
  apply migrate_call
  intro kept choice _ outcome after answer
  have quiet : MigrationLog.observe (.checkpointSave migrated context) outcome state.1 after state.2 =
      state.2 := rfl
  rw [quiet]
  rcases answer_checkpointSave state.1 migrated context choice with
    ⟨result, same, present⟩ | ⟨-, free, -, result, saved⟩
  · rw [same] at answer
    obtain ⟨rfl, rfl⟩ := Prod.mk.inj answer
    refine ⟨kept, ?_⟩
    cases result with
    | ok reference => exact ⟨untouched, (present reference rfl).2, log⟩
    | error error => exact untouched.begins log
  · rw [saved] at answer
    obtain ⟨rfl, rfl⟩ := Prod.mk.inj answer
    have there : Untouched run (state.1.setCheckpoint migrated, state.2) :=
      ⟨untouched.keyed, untouched.stored⟩
    have held : (state.1.setCheckpoint migrated).checkpoint? migrated.ref = some migrated := by
      rw [CoreWorld.checkpoint?_setCheckpoint, if_pos rfl]
    refine ⟨⟨untouched.keyed, ?_, .inl (there.begins log)⟩, ?_⟩
    · intro reference checkpoint found
      have earlier := kept.kept reference checkpoint found
      rw [CoreWorld.checkpoint?_setCheckpoint, if_neg]
      · exact earlier
      · intro same
        rw [← same, free] at earlier
        cases earlier
    · cases result with
      | ok reference => exact ⟨there, ⟨migrated, held, rfl⟩, log⟩
      | error error => exact there.begins log

theorem migrate_save {migrated : Checkpoint} (gateway : CheckpointGateway) (provider : ProviderId)
    (context : RuntimeCallContext) (untouched : Untouched run state) (log : state.2 = []) :
    Migrates start request run source (gateway.save provider migrated context)
      (Ends (fun _ => Stored run migrated []) (InPlace run)) state := by
  have before : ∀ state : MigrationWorld, (Untouched run state ∧ state.2 = []) →
      state.1.Keyed ∧ InPlace run state :=
    fun state both => ⟨both.1.keyed, both.1.begins both.2⟩
  have afterwards : ∀ state : MigrationWorld, Stored run migrated [] state →
      state.1.Keyed ∧ InPlace run state :=
    fun state stored => before state ⟨stored.untouched, stored.log⟩
  apply (migrate_routine before gateway.authorization).gatewaySave
    (fun _ => migrate_routine afterwards gateway.authorization) provider migrated context
    (fun _ current context both => migrate_store context both.1 both.2)
  exact ⟨untouched, log⟩

/-- The audit of the migration, before which nothing has changed. -/
theorem migrate_audit {migrated : Checkpoint} (context : RuntimeCallContext)
    (stored : Stored run migrated [] state) :
    Migrates start request run source
      (RecoveryCoordinator.audit run.runId (coreOp (.migrationAuthorized source migrated context)))
      (Ends (fun _ => Stored run migrated [.acknowledged source migrated]) (InPlace run)) state := by
  have nothing : InPlace run state := stored.untouched.begins stored.log
  have audited : Migrates start request run source
      (coreOp (.migrationAuthorized source migrated context))
      (Ends (fun _ => Stored run migrated [.acknowledged source migrated])
        fun after => after = state) state := by
    apply migrate_call
    intro kept choice _ outcome after answer
    obtain ⟨rfl, rfl⟩ : choice = outcome ∧ state.1 = after := Prod.mk.inj answer
    cases choice with
    | ok done =>
      have noted : MigrationLog.observe (.migrationAuthorized source migrated context) (.ok done)
          state.1 state.1 state.2 = [.acknowledged source migrated] := by
        rw [← stored.log]
        rfl
      rw [noted]
      have there : Untouched run (state.1, [.acknowledged source migrated]) :=
        ⟨stored.untouched.keyed, stored.untouched.stored⟩
      refine ⟨⟨kept.keyed, kept.kept, .inl (there.inPlace ?_)⟩, there, stored.checkpoint, rfl⟩
      intro event member
      exact ⟨source, migrated, List.mem_singleton.mp member⟩
    | error error =>
      have quiet : MigrationLog.observe (.migrationAuthorized source migrated context)
          (.error error) state.1 state.1 state.2 = state.2 := rfl
      rw [quiet]
      exact ⟨kept, rfl⟩
  apply audited.catching
  · intro _ after reached
    exact reached
  · intro error after same
    subst same
    split
    · apply (migrate_handle run.runId _ stored.untouched.keyed nothing).next
      intro _ last reached
      exact reached
    · exact nothing

/-! ### The commit -/

/-- The operation by which a migration moves its Run. -/
def moves (request : RecoveryRequest) (source migrated : Checkpoint) : RunOperation :=
  .commitCheckpoint migrated.ref (some source.ref) (some request.targetDefinitionId)
    (some request.targetGraphVersion)

theorem moves_ok {migrated : Checkpoint} {version : ℕ} {now : DateTime}
    {transition : RunTransition} (marked : run.latestCheckpointRef = some source.ref)
    (checkpoint : Checkpoint.MigratedFrom request source migrated)
    (required : request.targetGraphVersion ≠ "")
    (applied : (moves request source migrated).apply run.toRun version now = .ok transition) :
    transition.previous = run.toRun ∧ run.MovedTo request migrated transition.current := by
  obtain ⟨workflow, kind, -, handed, -, done⟩ := RunStateMachine.commitCheckpoint_ok applied
  have same : workflow = run.workflow := by
    rw [run.isWorkflow] at kind
    exact (RunKind.workflow.inj kind).symm
  subst same
  refine ⟨handed, ?_⟩
  rcases done with ⟨-, already⟩ | ⟨change, ⟨-, rfl⟩, fields⟩
  · have twice : some source.ref = some migrated.ref := marked.symm.trans already
    exact absurd (Option.some.inj twice).symm checkpoint.fresh
  · have target : ((some request.targetGraphVersion).filter (· != "")).getD
        run.workflow.graphVersion = request.targetGraphVersion := by
      rw [Option.filter_some, if_pos (by simpa using required)]
      rfl
    refine ⟨now, ?_⟩
    rw [fields]
    simp only [target, Option.getD_some]

omit [Sha256] in
theorem WorkflowRun.MovedTo.runId {migrated : Checkpoint} {current : Run}
    (moved : run.MovedTo request migrated current) : current.runId = run.runId := by
  obtain ⟨now, fields⟩ := moved
  rw [fields]

/-- The Run is no longer where it was. -/
theorem WorkflowRun.MovedTo.position {migrated : Checkpoint} {current : Run}
    (moved : run.MovedTo request migrated current)
    (marked : run.latestCheckpointRef = some source.ref)
    (checkpoint : Checkpoint.MigratedFrom request source migrated) :
    run.position ≠ current.position := by
  intro same
  obtain ⟨now, fields⟩ := moved
  have kinds : run.kind = current.kind := congrArg Prod.snd same
  rw [run.isWorkflow, fields] at kinds
  have markers := congrArg WorkflowFields.latestCheckpointRef (RunKind.workflow.inj kinds)
  have twice : some source.ref = some migrated.ref := marked.symm.trans markers
  exact checkpoint.fresh (Option.some.inj twice).symm

/-- A migration has returned: its Run has moved, and every publication has gone through. -/
def Landed (request : RecoveryRequest) (run : WorkflowRun) (source migrated : Checkpoint)
    (current : Run) (state : MigrationWorld) : Prop :=
  Moved request run source migrated current state ∧
    state.2 = [.moved run.toRun current, .acknowledged source migrated]

/-- It has raised: the Run is in its place, or it has moved and a publication has raised. -/
def CutShort (request : RecoveryRequest) (run : WorkflowRun) (source : Checkpoint)
    (state : MigrationWorld) : Prop :=
  InPlace run state ∨ ∃ migrated current, Moved request run source migrated current state ∧
    state.2 = [.unpublished, .moved run.toRun current, .acknowledged source migrated]

/-- The compare-and-swap of the migration. -/
theorem migrate_swap {migrated : Checkpoint} {current : Run} (version : ℕ)
    (checkpoint : Checkpoint.MigratedFrom request source migrated)
    (marked : run.latestCheckpointRef = some source.ref)
    (moved : run.MovedTo request migrated current)
    (stored : Stored run migrated [.acknowledged source migrated] state) :
    Migrates start request run source (coreOp (.runCompareAndSet current version))
      (fun outcome after => match outcome with
        | .ok committed => committed = current ∧ Landed request run source migrated current after
        | .error _ => InPlace run after) state := by
  have here : InPlace run state := by
    apply stored.untouched.inPlace
    intro event member
    rw [stored.log] at member
    exact ⟨source, migrated, List.mem_singleton.mp member⟩
  apply migrate_call
  intro kept choice allowed outcome after answer
  obtain rfl : choice = .none := allowed
  rcases answer_runCompareAndSet state.1 current version .none with
    ⟨error, refused⟩ | ⟨_, -, -, -, done | ⟨error, faulty, -⟩⟩
  · rw [refused] at answer
    obtain ⟨rfl, rfl⟩ := Prod.mk.inj answer
    have quiet : MigrationLog.observe (.runCompareAndSet current version) (.error error) state.1
        state.1 state.2 = state.2 := rfl
    rw [quiet]
    exact ⟨kept, here⟩
  · rw [done] at answer
    obtain ⟨rfl, rfl⟩ := Prod.mk.inj answer
    have found : state.1.run? current.runId = some run.toRun := by
      rw [moved.runId]
      exact stored.untouched.stored
    have noted : MigrationLog.observe (.runCompareAndSet current version) (.ok current) state.1
        (state.1.setRun current) state.2 =
          [.moved run.toRun current, .acknowledged source migrated] := by
      have differs := moved.position marked checkpoint
      simp only [MigrationLog.observe, found, differs, if_false, stored.log]
    rw [noted]
    have landed : Moved request run source migrated current
        (state.1.setRun current, [.moved run.toRun current, .acknowledged source migrated]) := by
      refine ⟨checkpoint, moved, ?_, stored.checkpoint, .inl rfl⟩
      rw [CoreWorld.run?_setRun, if_pos moved.runId]
    exact ⟨⟨kept.keyed.setRun current, kept.kept, .inr ⟨migrated, current, landed⟩⟩, rfl, landed, rfl⟩
  · cases faulty

omit [Sha256] in
/-- A publication after the commit raises. -/
theorem Migrating.spoiled [Sha256] {migrated : Checkpoint} {current : Run}
    (kept : Migrating start request run source state)
    (landed : Landed request run source migrated current state) :
    Migrating start request run source (state.1, .unpublished :: state.2) ∧
      CutShort request run source (state.1, .unpublished :: state.2) := by
  obtain ⟨moved, log⟩ := landed
  have spoiled : Moved request run source migrated current (state.1, .unpublished :: state.2) := by
    refine ⟨moved.checkpoint, moved.moved, moved.committed, moved.stored, .inr ?_⟩
    rw [log]
  refine ⟨⟨kept.keyed, kept.kept, .inr ⟨migrated, current, spoiled⟩⟩, .inr ⟨migrated, current, spoiled, ?_⟩⟩
  rw [log]

theorem migrate_announce {migrated : Checkpoint} {current : Run} (reason : String)
    (marked : run.latestCheckpointRef = some source.ref)
    (landed : Landed request run source migrated current state) :
    Migrates start request run source
      (coreOp (.runStateChanged ⟨run.toRun, current, reason⟩))
      (Ends (fun _ => Landed request run source migrated current) (CutShort request run source))
      state := by
  have differs := landed.1.moved.position marked landed.1.checkpoint
  apply migrate_call
  intro kept choice _ outcome after answer
  obtain ⟨rfl, rfl⟩ : choice = outcome ∧ state.1 = after := Prod.mk.inj answer
  cases choice with
  | ok done =>
    have quiet : MigrationLog.observe (.runStateChanged ⟨run.toRun, current, reason⟩) (.ok done)
        state.1 state.1 state.2 = state.2 := rfl
    rw [quiet]
    exact ⟨kept, landed⟩
  | error error =>
    have noted : MigrationLog.observe (.runStateChanged ⟨run.toRun, current, reason⟩)
        (.error error) state.1 state.1 state.2 = .unpublished :: state.2 := if_neg differs
    rw [noted]
    exact kept.spoiled landed

/-- Only a cancellation passes the suppression of its failures. -/
theorem migrate_saved {migrated : Checkpoint} {committed : WorkflowRun} (context : RuntimeCallContext)
    (landed : Landed request run source migrated committed.toRun state) :
    Migrates start request run source
      (suppressException (coreOp (.checkpointSaved migrated committed context)))
      (Ends (fun _ => Landed request run source migrated committed.toRun)
        (CutShort request run source)) state := by
  have published : Migrates start request run source
      (coreOp (.checkpointSaved migrated committed context))
      (fun outcome after => (∀ error, outcome = .error error → error.isException = true) ∧
          Landed request run source migrated committed.toRun after ∨
        ∃ error, outcome = .error error ∧ error.isException = false ∧
          CutShort request run source after) state := by
    apply migrate_call
    intro kept choice _ outcome after answer
    obtain ⟨rfl, rfl⟩ : choice = outcome ∧ state.1 = after := Prod.mk.inj answer
    cases choice with
    | ok done =>
      have quiet : MigrationLog.observe (.checkpointSaved migrated committed context) (.ok done)
          state.1 state.1 state.2 = state.2 := rfl
      rw [quiet]
      refine ⟨kept, .inl ⟨fun error failed => ?_, landed⟩⟩
      cases failed
    | error error =>
      cases passes : error.isException with
      | true =>
        have quiet : MigrationLog.observe (.checkpointSaved migrated committed context)
            (.error error) state.1 state.1 state.2 = state.2 := if_pos passes
        rw [quiet]
        refine ⟨kept, .inl ⟨fun other failed => ?_, landed⟩⟩
        cases failed
        exact passes
      | false =>
        have noted : MigrationLog.observe (.checkpointSaved migrated committed context)
            (.error error) state.1 state.1 state.2 = .unpublished :: state.2 :=
          if_neg (by rw [passes]; exact Bool.false_ne_true)
        rw [noted]
        obtain ⟨keeps, cut⟩ := kept.spoiled landed
        exact ⟨keeps, .inr ⟨error, rfl, passes, cut⟩⟩
  apply published.catching
  · intro _ after reached
    rcases reached with ⟨-, landed⟩ | ⟨error, failed, -⟩
    · exact landed
    · cases failed
  · intro error after reached
    rcases reached with ⟨exception, landed⟩ | ⟨_, same, passes, cut⟩
    · rw [exception error rfl, if_pos rfl]
      exact landed
    · cases same
      rw [passes, if_neg Bool.false_ne_true]
      exact cut

theorem migrate_commit {migrated : Checkpoint}
    (checkpoint : Checkpoint.MigratedFrom request source migrated)
    (marked : run.latestCheckpointRef = some source.ref)
    (required : request.targetGraphVersion ≠ "")
    (stored : Stored run migrated [.acknowledged source migrated] state) :
    Migrates start request run source
      (RunService.apply run.runId run.stateVersion (moves request source migrated).apply)
      (Ends (Landed request run source migrated) (CutShort request run source)) state := by
  have here : InPlace run state := by
    apply stored.untouched.inPlace
    intro event member
    rw [stored.log] at member
    exact ⟨source, migrated, List.mem_singleton.mp member⟩
  unfold RunService.apply
  apply (migrate_get run.runId).bind
  · intro previous after got
    obtain ⟨rfl, found⟩ := got
    have same : run.toRun = previous :=
      Option.some.inj (stored.untouched.stored.symm.trans (found previous rfl))
    subst same
    apply (migrate_silent .now rfl).bind
    · intro now last same
      subst same
      cases applied : (moves request source migrated).apply run.toRun run.stateVersion now with
      | error error => exact .inl here
      | ok transition =>
        obtain ⟨handed, moved⟩ := moves_ok marked checkpoint required applied
        have changed : transition.unchanged = false := by
          obtain ⟨time, fields⟩ := moved
          simp [RunTransition.unchanged, handed, fields]
        change Migrates start request run source (if transition.unchanged then
          Program.ret transition.current else RunService.commit transition run.stateVersion) _ _
        rw [changed, if_neg Bool.false_ne_true]
        apply (migrate_swap run.stateVersion checkpoint marked moved stored).bind
        · intro committed swapped reached
          obtain ⟨rfl, landed⟩ := reached
          rw [handed]
          apply (migrate_announce transition.reason marked landed).next
          intro _ announced landed
          exact landed
        · intro error swapped reached
          exact .inl reached
    · intro error last same
      subst same
      exact .inl here
  · intro error after got
    obtain ⟨rfl, -⟩ := got
    exact .inl here

theorem validateMigrated_ok {migrated : Checkpoint}
    (valid : RecoveryCoordinator.validateMigrated request source migrated = .ok ()) :
    Checkpoint.MigratedFrom request source migrated := by
  obtain ⟨_, intact, checked⟩ := bind_ok valid
  simp only [ensure_eq_ok, Bool.and_eq_true, bne_iff_ne, beq_iff_eq] at checked
  constructor <;> tauto

/-- How a migration ends. -/
theorem migrate_ends (coordinator : RecoveryCoordinator) (context : RuntimeCallContext)
    (marked : run.latestCheckpointRef = some source.ref) (untouched : Untouched run state)
    (log : state.2 = []) :
    Migrates start request run source (coordinator.migrate request run source context)
      (Ends (fun result => Landed request run source result.1 result.2.toRun)
        (CutShort request run source)) state := by
  have nothing : CutShort request run source state := .inl (untouched.begins log)
  unfold RecoveryCoordinator.migrate
  apply Program.safe_guarded nothing
  intro asked made
  have required : request.targetGraphVersion ≠ "" := by
    unfold CheckpointMigrationRequest.make at made
    split at made
    · rename_i versions
      exact versions.2
    · cases made
  apply Program.safe_guarded nothing
  intro _ _
  apply (migrate_silent (.migrate source asked context) rfl).bind
  · intro migrated after same
    subst same
    apply Program.safe_guarded nothing
    intro _ valid
    have checkpoint := validateMigrated_ok valid
    apply (migrate_save coordinator.gateway request.providerId context untouched log).bind
    · intro _ saved stored
      apply (migrate_audit context stored).bind
      · intro _ audited acknowledged
        have committing : Migrates start request run source (RunService.commitCheckpoint run.runId
            run.stateVersion migrated.ref (some source.ref) (some request.targetDefinitionId)
            (some request.targetGraphVersion)) _ audited :=
          migrate_commit checkpoint marked required acknowledged
        apply committing.next
        intro committed last landed
        have isWorkflow := landed.1.moved
        cases made : committed.asWorkflow
            (.assertion "migration marker commit did not return WorkflowRun") with
        | error error =>
          obtain ⟨now, fields⟩ := isWorkflow
          obtain ⟨workflow, converted⟩ := Run.asWorkflow_of_kind (congrArg RunFields.kind fields)
            (.assertion "migration marker commit did not return WorkflowRun")
          rw [made] at converted
          cases converted
        | ok workflow =>
          obtain rfl := Run.asWorkflow_ok made
          apply (migrate_saved context landed).next
          intro _ ended landed
          exact landed
      · intro error audited inPlace
        exact .inl inPlace
    · intro error saved inPlace
      exact .inl inPlace
  · intro error after same
    subst same
    exact nothing

/-! ### What a migration preserves -/

/-- The Run is moved at most once, to a checkpoint that has everything of its source that a
migration may not change and that was audited before; no stored checkpoint changes; and a migration
that raises has left the Run in its place. -/
structure PreservesRunFacts (start : CoreWorld) (request : RecoveryRequest) (run : WorkflowRun)
    (source : Checkpoint) (program : CoreProgram (Checkpoint × WorkflowRun))
    (state : MigrationWorld) : Prop where
  kept : ∀ reference checkpoint, start.checkpoint? reference = some checkpoint →
    state.1.checkpoint? reference = some checkpoint
  committed : ∀ previous current, .moved previous current ∈ state.2 → previous = run.toRun ∧
    ∃ migrated, Moved request run source migrated current state
  returned : ∀ migrated committed, program = .ret (migrated, committed) →
    Moved request run source migrated committed.toRun state
  raised : ∀ error, program = .raise error → ∃ current,
    state.1.run? run.runId = some current ∧ current.position = run.position

theorem Migrating.committed {previous current : Run}
    (kept : Migrating start request run source state) (member : .moved previous current ∈ state.2) :
    previous = run.toRun ∧ ∃ migrated, Moved request run source migrated current state := by
  rcases kept.runs with inPlace | ⟨migrated, other, moved⟩
  · obtain ⟨_, _, same⟩ := inPlace.log _ member
    cases same
  · have only : previous = run.toRun ∧ current = other := by
      rcases moved.log with log | log
      · rw [log] at member
        simpa using member
      · rw [log] at member
        simpa using member
    obtain ⟨rfl, rfl⟩ := only
    exact ⟨rfl, migrated, moved⟩

theorem CutShort.inPlace_iff (marked : run.latestCheckpointRef = some source.ref)
    (cut : CutShort request run source state) :
    (∃ current, state.1.run? run.runId = some current ∧ current.position = run.position) ↔
      .unpublished ∉ state.2 := by
  rcases cut with inPlace | ⟨migrated, current, moved, log⟩
  · refine ⟨fun _ member => ?_, fun _ => inPlace.position⟩
    obtain ⟨_, _, same⟩ := inPlace.log _ member
    cases same
  · refine ⟨fun there => ?_, fun quiet => ?_⟩
    · obtain ⟨stored, found, position⟩ := there
      cases Option.some.inj (moved.committed.symm.trans found)
      exact absurd position.symm (moved.moved.position marked moved.checkpoint)
    · rw [log] at quiet
      exact absurd (List.mem_cons_self ..) quiet

/-- A migration preserves the facts of its Run exactly if no publication after its commit has made
it raise. -/
theorem migration_preserves (coordinator : RecoveryCoordinator) (context : RuntimeCallContext)
    (keyed : start.Keyed) (stored : start.run? run.runId = some run.toRun)
    (loaded : RecoveryCoordinator.validateLoaded source run = .ok ())
    {program : CoreProgram (Checkpoint × WorkflowRun)}
    (steps : Steps migrationEnvironment (Checkpoint × WorkflowRun)
      (coordinator.migrate request run source context, (start, [])) (program, state)) :
    PreservesRunFacts start request run source program state ↔
      ∀ error, program = .raise error → .unpublished ∉ state.2 := by
  have marked : run.latestCheckpointRef = some source.ref := by
    obtain ⟨_, -, checked⟩ := bind_ok loaded
    simp only [ensure_eq_ok, Bool.and_eq_true, beq_iff_eq] at checked
    exact checked.1.1.1.symm
  have begun : Untouched run (start, []) := ⟨keyed, stored⟩
  have kept : Migrating start request run source (start, []) :=
    ⟨keyed, fun _ _ found => found, .inl (begun.begins rfl)⟩
  obtain ⟨keeps, safe⟩ := (migrate_ends coordinator context marked begun rfl).steps
    (fun _ => rfl) kept steps
  constructor
  · intro preserves error raised
    subst raised
    exact (CutShort.inPlace_iff marked safe).mp (preserves.raised error rfl)
  · intro quiet
    refine ⟨keeps.kept, fun previous current member => keeps.committed member, ?_, ?_⟩
    · intro migrated committed returned
      subst returned
      exact safe.1
    · intro error raised
      subst raised
      exact (CutShort.inPlace_iff marked safe).mpr (quiet error rfl)

/-- Every migration of the marker of a stored Run preserves its facts. -/
def MigrationsPreserve : Prop :=
  ∀ (start : CoreWorld) (coordinator : RecoveryCoordinator) (request : RecoveryRequest)
    (run : WorkflowRun) (source : Checkpoint) (context : RuntimeCallContext)
    (program : CoreProgram (Checkpoint × WorkflowRun)) (state : MigrationWorld),
    start.Keyed → start.run? run.runId = some run.toRun →
    RecoveryCoordinator.validateLoaded source run = .ok () →
    Steps migrationEnvironment (Checkpoint × WorkflowRun)
      (coordinator.migrate request run source context, (start, [])) (program, state) →
    PreservesRunFacts start request run source program state

end Migration

namespace MigrationCommit

open SampleParameters

theorem sampleRun_isWorkflow : sampleRun.kind = .workflow sampleWorkflow := rfl

def interruptedWorkflow : WorkflowRun :=
  match interruptedRun.asWorkflow (.assertion "not a workflow run") with
  | .ok run => run
  | .error _ => ⟨sampleRun, sampleWorkflow, sampleRun_isWorkflow⟩

/-- The event of the moved Run cannot be published. -/
def unpublishedChoice : (op : CoreOp) → op.Choice
  | .migrate _ _ _ => .ok migratedCheckpoint
  | .runStateChanged _ => .error (retryableError .unavailable "event_sequence_failed"
      "event sequence could not be assigned")
  | op => sampleChoice op

def unpublishedMigration : CoreProgram (Checkpoint × WorkflowRun) × MigrationWorld :=
  executeWhile migrationEnvironment (samplePermits false) (fun op _ => unpublishedChoice op) 60
    (migratingRecovery.migrate (recoveryRequest 4 "2") interruptedWorkflow sampleCheckpoint
      sampleContext, (interruptedWorld, []))

theorem unpublishedMigration_steps : Steps migrationEnvironment (Checkpoint × WorkflowRun)
    (migratingRecovery.migrate (recoveryRequest 4 "2") interruptedWorkflow sampleCheckpoint
      sampleContext, (interruptedWorld, [])) unpublishedMigration := by
  apply executeWhile_steps
  intro op state permitted
  cases op with
  | newCheckpointRef => cases permitted
  | checkpointDelete request context => cases permitted
  | runGet runId => exact ⟨trivial, rfl⟩
  | runAdd run => exact ⟨trivial, rfl⟩
  | runCompareAndSet run version => exact ⟨trivial, rfl⟩
  | checkpointList query context => exact ⟨fun _ => .inl rfl, trivial⟩
  | _ => exact ⟨trivial, trivial⟩

theorem interruptedWorld_keyed : interruptedWorld.Keyed := interruptedWorld_initial.1.1.1

theorem interruptedWorld_stored :
    interruptedWorld.run? interruptedWorkflow.runId = some interruptedWorkflow.toRun := by
  decide +kernel

theorem sampleCheckpoint_loaded :
    RecoveryCoordinator.validateLoaded sampleCheckpoint interruptedWorkflow = .ok () := by
  decide +kernel

/-- The migration has committed before it raises. -/
theorem unpublishedMigration_raised : ∃ error, unpublishedMigration.1 = .raise error := by
  obtain ⟨error, raised⟩ : ∃ error, unpublishedMigration.1.raised? = some error :=
    Option.isSome_iff_exists.mp (by decide +kernel)
  exact ⟨error, Program.raised?_eq_some.mp raised⟩

end MigrationCommit

open MigrationCommit SampleParameters in
/-- The marker, the definition and the version have changed, and the migration has raised. -/
theorem migrations_lose_runs : ¬ MigrationsPreserve := by
  intro preserve
  obtain ⟨error, raised⟩ := unpublishedMigration_raised
  have steps := unpublishedMigration_steps
  rw [← Prod.mk.eta (p := unpublishedMigration)] at steps
  have preserved := preserve _ _ _ _ _ _ _ _ interruptedWorld_keyed interruptedWorld_stored
    sampleCheckpoint_loaded steps
  obtain ⟨current, found, position⟩ := preserved.raised error raised
  have changed : (unpublishedMigration.2.1.run? interruptedWorkflow.runId).map Run.position ≠
      some interruptedWorkflow.position := by decide +kernel
  exact changed (by rw [found]; exact congrArg some position)

open MigrationCommit SampleParameters in
theorem migration_preserves_interrupted :
    PreservesRunFacts interruptedWorld (recoveryRequest 4 "2") interruptedWorkflow sampleCheckpoint
      unpublishedMigration.1 unpublishedMigration.2 ↔
      ∀ error, unpublishedMigration.1 = .raise error → .unpublished ∉ unpublishedMigration.2.2 := by
  have steps := unpublishedMigration_steps
  rw [← Prod.mk.eta (p := unpublishedMigration)] at steps
  exact migration_preserves migratingRecovery sampleContext interruptedWorld_keyed
    interruptedWorld_stored sampleCheckpoint_loaded steps

end CongeriesCore
