import CongeriesCore.EventRecovery
import CongeriesCore.RecoverySequence

/-! # Restarting a recovery

A further recovery after failed ones, with a store, a policy, a migrator, audits and a restorer
that work. It returns with the Run running, unless the Run is already recovering from another
checkpoint or the store refuses the migrated one. -/

namespace CongeriesCore

open AsyncProgram

/-- A further recovery; `migrated` is what the migrator makes, and up to `horizon` the clock
stays within the deadline and the grants. -/
structure Restart where
  coordinator : RecoveryCoordinator
  fuel : ℕ
  request : RecoveryRequest
  context : RuntimeCallContext
  migrated : Checkpoint
  horizon : DateTime

namespace Restart

/-- The policy grants what it is asked for. -/
def grants (restart : Restart) (request : AccessRequest) (decision : PolicyDecision) : Prop :=
  EventRecovery.Allows request decision ∧ ∀ grant, decision.grant = some grant →
    CheckpointGateway.sameConstraints grant.constraints request.constraints = true ∧
    ∀ expiry, grant.expiresAt = some expiry → restart.horizon ≤ expiry

def works (restart : Restart) : (op : CoreOp) → op.Choice → RestartWorld → Prop
  | .cancelled _, isCancelled, _ => isCancelled = false
  | .now, time, (_, last) => last ≤ time ∧ time < restart.horizon
  | .newCheckpointRef, _, _ => True
  | .runAdd _, fault, _ | .runGet _, fault, _ | .runCompareAndSet _ _, fault, _
  | .checkpointSave _ _, fault, _ | .checkpointLoad _ _, fault, _
  | .checkpointDelete _ _, fault, _ => fault = .none
  | .checkpointList _ _, (fault, corruption), _ => fault = .none ∧ corruption = id
  | .authorize request, outcome, _ => ∃ decision, outcome = .ok decision ∧
    restart.grants request decision
  | .migrate _ _ _, outcome, _ => outcome = .ok restart.migrated
  | .runStateChanged _, outcome, _ | .authorizationDenied _ _, outcome, _
  | .crossScopeGranted _ _, outcome, _ | .checkpointSaved _ _ _, outcome, _
  | .checkpointFailed _ _ _, outcome, _ | .migrationAuthorized _ _ _, outcome, _
  | .fallbackAuthorized _ _ _, outcome, _ | .restore _ _, outcome, _ => outcome = .ok ()

/-- The same world, perhaps later. -/
def Still (state after : RestartWorld) : Prop := after.1 = state.1 ∧ state.2 ≤ after.2

theorem Still.refl (state : RestartWorld) : Still state state := ⟨rfl, DateTime.le_refl _⟩

theorem Still.trans {first second third : RestartWorld} (earlier : Still first second)
    (later : Still second third) : Still first third :=
  ⟨later.1.trans earlier.1, DateTime.le_trans earlier.2 later.2⟩

theorem grants.validateGrant {restart : Restart} {request : AccessRequest}
    {decision : PolicyDecision} {grant : Grant} (grants : restart.grants request decision)
    (given : decision.grant = some grant) :
    AuthorizedDispatcher.validateGrant request grant = .ok () := by
  obtain ⟨⟨-, other, same, principal, action, resource, source, effective⟩, -⟩ := grants
  obtain rfl := Option.some.inj (given.symm.trans same)
  have within : grant.crossScope = false →
      grant.effectiveScope.requireNarrowerThan request.context.scope = .ok () := by
    intro inside
    have key : grant.sourceScope.key = grant.effectiveScope.key := by
      simpa [Grant.crossScope] using inside
    exact ScopeRef.requireNarrowerThan_eq_ok.mpr
      (ScopeRef.isEqualOrDescendantOf_of_key (key.symm.trans source))
  unfold AuthorizedDispatcher.validateGrant
  cases crosses : grant.crossScope with
  | false => simp [principal, action, resource, source, effective, within crosses]
  | true =>
    simp only [principal, action, resource, source, effective, ne_eq, not_true_eq_false, if_false]
    rfl

/-- The checkpoint the recovery takes up. -/
def target (restart : Restart) (source : Checkpoint) : Checkpoint :=
  if RecoveryCoordinator.needsMigration restart.request source then restart.migrated else source

end Restart

/-- The source of the open attempt of a Run. -/
def Run.openSource (run : Run) : Option CheckpointRef :=
  run.attemptHistory.getLast?.bind fun last => if last.isOpen then last.checkpointRef else none

/-! ### What the state machine allows -/

namespace RunStateMachine

variable {run : Run} {last now : DateTime}

theorem checkVersion_current (run : Run) : checkVersion run run.stateVersion = .ok () :=
  ensure_eq_ok.mpr (by simp)

theorem recoverySource_given (run : Run) (reference : CheckpointRef) :
    recoverySource run (some reference) = .ok (some reference) := by
  unfold recoverySource
  split <;> rfl

theorem recover_result (reference : CheckpointRef) (kept : run.Kept last) (later : last ≤ now)
    (active : run.status.terminal = false) (started : run.status ≠ .created)
    (same : run.status = .recovering → run.openSource = some reference) :
    ∃ transition, recover (some reference) run run.stateVersion now = .ok transition ∧
      transition.current.status = .recovering := by
  unfold recover
  rw [checkVersion_current, recoverySource_given]
  by_cases recovering : run.status = .recovering
  · refine ⟨⟨run, run, "recover_idempotent"⟩, ?_, recovering⟩
    have source : (run.attemptHistory.getLast?.bind fun last =>
        if last.isOpen then last.checkpointRef else none) = some reference := same recovering
    simp only [bind, Except.bind, if_pos recovering, source, ensure, beq_self_eq_true, if_true]
    rfl
  · obtain ⟨history, closes, next⟩ := recover_next (some reference) kept later active
    obtain ⟨current, replaced, fields⟩ := replace_next (fun fields => { fields with
      status := .recovering
      attempt := run.attempt + 1
      continuationStatus := none
      attemptHistory := history ++
        [⟨run.attempt + 1, now, none, some reference, none, Nat.le_add_left 1 _,
          AttemptRecord.unended now⟩] }) next
    refine ⟨⟨run, current, "recover"⟩, ?_, by rw [fields]⟩
    have legal : (!run.status.terminal && run.status != .created) = true := by
      simp [active, started]
    simp only [bind, Except.bind, if_neg recovering, legal, ensure, if_true, closes, replaced]
    rfl

theorem recover_conflict {reference : CheckpointRef} {version : ℕ}
    (recovering : run.status = .recovering) (other : run.openSource ≠ some reference) :
    ∃ error, recover (some reference) run version now = .error error := by
  cases done : recover (some reference) run version now with
  | error error => exact ⟨error, rfl⟩
  | ok transition =>
    unfold recover at done
    rw [recoverySource_given] at done
    obtain ⟨_, -, rest⟩ := bind_ok done
    obtain ⟨source, given, rest⟩ := bind_ok rest
    obtain rfl := Except.ok.inj given
    rw [if_pos recovering] at rest
    obtain ⟨_, same, -⟩ := bind_ok rest
    exact absurd (beq_iff_eq.mp (ensure_eq_ok.mp same)) other

theorem advance_result {target : RunStatus} (kept : run.Kept last) (later : last ≤ now)
    (legal : target ∈ run.status.advances) (other : run.status ≠ target) :
    ∃ transition, advance target run run.stateVersion now = .ok transition ∧
      transition.current.status = target := by
  obtain ⟨current, replaced, fields⟩ := replace_next (fun fields => { fields with
    status := target
    attemptHistory :=
      if run.status = .recovering ∧ target = .running then openAttempt run now
      else fields.attemptHistory }) (advance_next kept later legal)
  refine ⟨⟨run, current, "advance"⟩, ?_, by rw [fields]⟩
  have advances : run.status.advances.contains target = true := by simpa using legal
  unfold advance
  rw [checkVersion_current]
  simp only [bind, Except.bind, if_neg other, advances, ensure, if_true, replaced]
  rfl

/-- A commit behind the marker changes neither the status nor the attempts. -/
theorem commitCheckpoint_result {fields : WorkflowFields} {marker : CheckpointRef}
    (reference : CheckpointRef) (definitionId : Option DefinitionId) (graphVersion : Option String)
    (kept : run.Kept last) (later : last ≤ now) (active : run.status.terminal = false)
    (kind : run.kind = .workflow fields) (marked : fields.latestCheckpointRef = some marker) :
    ∃ transition, commitCheckpoint reference (some marker) definitionId graphVersion run
        run.stateVersion now = .ok transition ∧
      transition.current.status = run.status ∧
      transition.current.openSource = run.openSource ∧
      ∃ next, transition.current.kind = .workflow next := by
  obtain ⟨current, replaced, changed⟩ := replace_next (fun next => { next with
    definitionId := definitionId.getD run.definitionId
    kind := .workflow { fields with
      graphVersion := (graphVersion.filter (· != "")).getD fields.graphVersion
      latestCheckpointRef := some reference } })
    (commitCheckpoint_next reference (definitionId.getD run.definitionId) graphVersion kept later
      kind)
  have isWorkflow : run.workflow? = some fields := Run.workflow?_eq_some.mpr kind
  have open_ : (!run.status.terminal) = true := by simp [active]
  unfold commitCheckpoint
  rw [checkVersion_current]
  simp only [bind, Except.bind, isWorkflow, open_, ensure, if_true, marked, beq_self_eq_true,
    replaced]
  split
  · exact ⟨_, rfl, rfl, rfl, fields, kind⟩
  · exact ⟨_, rfl, by rw [changed], by rw [Run.openSource, changed]; rfl, _, by rw [changed]⟩

end RunStateMachine

section

variable [Sha256]

/-- The store has the checkpoint, or takes it as a new one. -/
def Accepts (store : InMemoryCheckpointStore) (checkpoint : Checkpoint) : Prop :=
  match store.checkpoints.get? checkpoint.ref with
  | some existing => existing.integrity = checkpoint.integrity
  | none => store.checkNew checkpoint = .ok ()

namespace Restart

abbrev environment (restart : Restart) : Environment CoreInterface Raised RestartWorld :=
  coreEnvironment.instrumented restart.works clock

/-- Every call of the recovery has an answer before the horizon. -/
def contract (restart : Restart) : Contract CoreInterface RestartWorld :=
  .alone (fun state => state.2 < restart.horizon) (fun _ _ => True) fun op state =>
    ∃ choice, restart.environment.permits op choice state

def program (restart : Restart) : CoreProgram RecoveryResult :=
  restart.coordinator.recover restart.fuel restart.request restart.context

/-- The request carries the current version of the Run, its context is that of the Run, and what
the recovery uses is there; the migrator, where it is needed, makes a valid document. -/
structure Fits (restart : Restart) (run : WorkflowRun) (source : Checkpoint) (last : DateTime) :
    Prop where
  runId : restart.request.runId = run.runId
  version : restart.request.expectedVersion = run.stateVersion
  owner : restart.context.runId = run.runId
  scope : restart.context.scope.key = run.scope.key
  time : last < restart.horizon
  deadline : ∀ deadline, restart.context.deadline = some deadline → restart.horizon ≤ deadline.at_
  provider : restart.coordinator.gateway.provider = restart.request.providerId
  policy : restart.coordinator.gateway.authorization.hasPolicy = true
  loads : checkpointLoadAction ∈ restart.coordinator.gateway.authorization.actions
  saves : checkpointSaveAction ∈ restart.coordinator.gateway.authorization.actions
  migrates : RecoveryCoordinator.needsMigration restart.request source = true →
    (∃ migration, CheckpointMigrationRequest.make run.workflow.workflowId source.definitionId
        source.graphVersion restart.request.targetDefinitionId restart.request.targetGraphVersion =
          .ok migration ∧ restart.coordinator.migrators.get migration = .ok ()) ∧
      RecoveryCoordinator.validateMigrated restart.request source restart.migrated = .ok ()

/-- The Run has not ended, a recovery of it that is open is from the same checkpoint, and the
store accepts a migrated one. -/
def Resumable (restart : Restart) (run : WorkflowRun) (source : Checkpoint) (world : CoreWorld) :
    Prop :=
  run.status.terminal = false ∧
    (RecoveryCoordinator.needsMigration restart.request source = true →
      Accepts world.store restart.migrated) ∧
    (run.status = .recovering → run.openSource = some (restart.target source).ref)

/-- The recovery returned, and the Run is stored as running. -/
def Returned (runId : RunId) (outcome : Except Raised RecoveryResult) (world : CoreWorld) : Prop :=
  ∃ result, outcome = .ok result ∧ result.run.status = .running ∧
    world.run? runId = some result.run.toRun

/-- The recovery runs to an end, and each end of it is that the Run is running. -/
def Succeeds (restart : Restart) (runId : RunId) (state : RestartWorld) : Prop :=
  (∃ outcome after, Steps restart.environment _ (restart.program, state)
    (.ofExcept outcome, after)) ∧
  ∀ outcome after, Steps restart.environment _ (restart.program, state)
    (.ofExcept outcome, after) → Returned runId outcome after.1

/-! ### Calls that work -/

abbrev Works {α : Type} (restart : Restart) (program : CoreProgram α)
    (post : Except Raised α → RestartWorld → Prop) (state : RestartWorld) : Prop :=
  program.Safe restart.environment restart.contract post state

variable {restart : Restart} {state : RestartWorld}

/-- A call with one answer. -/
theorem works_determined (op : CoreOp) (choice : op.Choice)
    (works : ∀ other, restart.works op other state ↔ other = choice)
    (permitted : corePermits op choice state.1)
    (still : ∀ outcome before after last, clock op outcome before after last = last) :
    Works restart (coreOp op) (fun outcome after =>
      outcome = (coreAnswer op choice state.1).1 ∧
        after = ((coreAnswer op choice state.1).2, state.2)) state := by
  refine Program.safe_perform_alone fun early => ?_
  refine ⟨⟨choice, permitted, (works choice).mpr rfl⟩, fun other allowed => ?_⟩
  obtain rfl := (works other).mp allowed.2
  have same : restart.environment.answer op other state =
      ((coreAnswer op other state.1).1, (coreAnswer op other state.1).2, state.2) := by
    rw [← still (coreAnswer op other state.1).1 state.1 (coreAnswer op other state.1).2 state.2]
    rfl
  have kept : (restart.environment.answer op other state).2.2 < restart.horizon := by
    rw [same]
    exact early
  exact ⟨kept, trivial, by rw [same], by rw [same]⟩

abbrev Gives {α : Type} (restart : Restart) (program : CoreProgram α)
    (value : α → RestartWorld → Prop) (state : RestartWorld) : Prop :=
  restart.Works program (Ends value fun _ => False) state

theorem gives_answer {op : CoreOp} (choice : op.Choice) {value : op.Answer} {world : CoreWorld}
    (answered : coreAnswer op choice state.1 = (.ok value, world))
    (works : ∀ other, restart.works op other state ↔ other = choice)
    (permitted : corePermits op choice state.1)
    (still : ∀ outcome before after last, clock op outcome before after last = last) :
    Gives restart (coreOp op) (fun result after => result = value ∧ after = (world, state.2))
      state := by
  refine (works_determined _ choice works permitted still).mono fun outcome after reached => ?_
  rw [answered] at reached
  obtain ⟨rfl, rfl⟩ := reached
  exact ⟨rfl, rfl⟩

theorem gives_now : Gives restart (coreOp .now)
    (fun now after => after = (state.1, now) ∧ state.2 ≤ now ∧ now < restart.horizon) state := by
  refine Program.safe_perform_alone fun early => ?_
  refine ⟨⟨state.2, trivial, DateTime.le_refl _, early⟩, fun now allowed => ?_⟩
  exact ⟨allowed.2.2, trivial, rfl, allowed.2⟩

theorem gives_checkActive {context : RuntimeCallContext}
    (deadline : ∀ deadline, context.deadline = some deadline → restart.horizon ≤ deadline.at_) :
    Gives restart (context.checkActive : CoreProgram Unit) (fun _ after => Still state after)
      state := by
  have active : Gives restart (coreOp (.cancelled context.cancellation))
      (fun result after => result = false ∧ after = (state.1, state.2)) state :=
    gives_answer false rfl (fun _ => Iff.rfl) trivial fun _ _ _ _ => rfl
  refine active.onward fun isCancelled after got => ?_
  obtain ⟨rfl, rfl⟩ := got
  simp only [Bool.false_eq_true, if_false]
  cases given : context.deadline with
  | none => exact Still.refl _
  | some bound =>
    refine gives_now.onward fun now after got => ?_
    obtain ⟨rfl, later, early⟩ := got
    have open_ : ¬ bound.at_ ≤ now :=
      fun passed => Nat.lt_irrefl _ (Nat.lt_of_lt_of_le early
        (DateTime.le_trans (deadline bound given) passed))
    rw [if_neg open_]
    exact ⟨rfl, later⟩

theorem gives_authorize {request : AccessRequest}
    (decides : ∃ decision, restart.grants request decision) :
    Gives restart (coreOp (.authorize request))
      (fun decision after => restart.grants request decision ∧ after = state) state := by
  refine Program.safe_perform_alone fun early => ?_
  obtain ⟨decision, grants⟩ := decides
  refine ⟨⟨.ok decision, trivial, decision, rfl, grants⟩, fun outcome allowed => ?_⟩
  obtain ⟨decision, rfl, grants⟩ := allowed.2
  exact ⟨early, trivial, grants, rfl⟩

/-- Under a policy that grants a request, the dispatched operation is called. -/
theorem works_dispatch {α : Type} {authorization : Authorization} {request : AccessRequest}
    {operation : AuthorizedCall → CoreProgram α} {post : Except Raised α → RestartWorld → Prop}
    (policy : authorization.hasPolicy = true) (registered : request.action ∈ authorization.actions)
    (deadline : ∀ deadline, request.context.deadline = some deadline →
      restart.horizon ≤ deadline.at_)
    (decides : ∃ decision, restart.grants request decision)
    (run : ∀ grant after,
      CheckpointGateway.sameConstraints grant.constraints request.constraints = true →
      grant.effectiveScope.key = request.scope.key → Still state after →
      Works restart (operation ⟨request, grant, { request.context with scope := grant.effectiveScope }⟩)
        post after) :
    Works restart (authorization.dispatcher.dispatch request operation) post state := by
  refine (gives_checkActive deadline).onward fun _ active still => ?_
  have authorized : Gives restart (authorization.dispatcher.decide request)
      (fun decision after => restart.grants request decision ∧ after = active) active := by
    have known : authorization.dispatcher.actions.any (fun action => action == request.action) =
        true := List.any_eq_true.mpr ⟨request.action, registered, by simp⟩
    unfold AuthorizedDispatcher.decide
    rw [if_neg (by simp [known])]
    simp only [Authorization.dispatcher, policy, if_true]
    refine (gives_authorize decides).onward fun decision after got => ?_
    obtain ⟨grants, rfl⟩ := got
    rw [if_neg (by simp [grants.1.1])]
    exact ⟨grants, rfl⟩
  refine authorized.onward fun decision after got => ?_
  obtain ⟨grants, rfl⟩ := got
  obtain ⟨grant, given⟩ : ∃ grant, decision.grant = some grant := by
    obtain ⟨⟨-, grant, given, -⟩, -⟩ := grants
    exact ⟨grant, given⟩
  simp only [given]
  rw [grants.validateGrant given]
  have current : Gives restart (authorization.dispatcher.denyExpired request grant)
      (fun _ last => Still after last) after := by
    have reading : Gives restart (AuthorizedDispatcher.expired grant : CoreProgram Bool)
        (fun expired last => expired = false ∧ Still after last) after := by
      unfold AuthorizedDispatcher.expired
      cases expires : grant.expiresAt with
      | none => exact ⟨rfl, Still.refl after⟩
      | some expiry =>
        refine gives_now.onward fun now last got => ?_
        obtain ⟨rfl, later, early⟩ := got
        have valid : restart.horizon ≤ expiry := (grants.2 grant given).2 expiry expires
        have current : ¬ expiry ≤ now :=
          fun passed => Nat.lt_irrefl _ (Nat.lt_of_lt_of_le early (DateTime.le_trans valid passed))
        exact ⟨by simp [current], rfl, later⟩
    refine reading.onward fun isExpired last got => ?_
    obtain ⟨rfl, still⟩ := got
    exact still
  refine current.onward fun _ checked later => ?_
  have audited : Gives restart (authorization.dispatcher.auditCrossScope request grant)
      (fun _ last => last = checked) checked := by
    unfold AuthorizedDispatcher.auditCrossScope auditOrHandle
    split
    · have audits : Gives restart (coreOp (.crossScopeGranted request grant)) _ checked :=
        gives_answer (.ok () : Except Raised Unit) rfl (fun _ => Iff.rfl) trivial
          fun _ _ _ _ => rfl
      exact audits.catching (fun _ _ got => got.2) fun _ _ impossible => impossible.elim
    · rfl
  refine audited.onward fun _ last same => ?_
  subst same
  obtain ⟨⟨-, other, same, -, -, -, -, effective⟩, -⟩ := id grants
  obtain rfl := Option.some.inj (given.symm.trans same)
  exact run grant last (grants.2 grant given).1 effective (still.trans later)

omit [Sha256] in
/-- A policy may grant a request as it is. -/
theorem grants_allowing {request : AccessRequest}
    (scalar : ∀ field ∈ request.constraints, field.2.equalsScalar field.2 = true) :
    ∃ decision, restart.grants request decision := by
  refine ⟨SampleParameters.allowing request, EventRecovery.allows_allowing request,
    fun grant given => ?_⟩
  obtain rfl := Option.some.inj given
  have same := CheckpointGateway.sameConstraints_self scalar
  exact ⟨same, fun expiry expires => by cases expires⟩

theorem works_invoke {α : Type} {context : RuntimeCallContext} {operation : CoreProgram α}
    {value : α → RestartWorld → Prop} {failed : Prop}
    (deadline : ∀ deadline, context.deadline = some deadline → restart.horizon ≤ deadline.at_)
    (kept : ∀ result before after, value result before → Still before after → value result after)
    (run : ∀ after, Still state after → Works restart operation (Ends value fun _ => failed) after) :
    Works restart (CheckpointGateway.invoke operation context) (Ends value fun _ => failed)
      state := by
  have awaited : Works restart (context.awaitProvider operation) (Ends value fun _ => failed)
      state := by
    refine (gives_checkActive deadline).onward fun _ active still => ?_
    refine (run active still).next fun result after reached => ?_
    exact (gives_checkActive deadline).onward fun _ last still => kept result after last reached still
  refine awaited.catching (fun _ _ reached => reached) fun error after failing => ?_
  split <;> exact failing

theorem answer_load {world : CoreWorld} {reference : CheckpointRef} {checkpoint : Checkpoint}
    {context : RuntimeCallContext} (found : world.checkpoint? reference = some checkpoint)
    (intact : checkpoint.verifyIntegrity = .ok ()) (scope : checkpoint.scope.key = context.scope.key) :
    coreAnswer (.checkpointLoad reference context) .none world = (.ok checkpoint, world) := by
  have within := ScopeRef.requireNarrowerThan_eq_ok.mpr (ScopeRef.isEqualOrDescendantOf_of_key scope)
  have loaded : world.store.load reference context = .ok checkpoint := by
    unfold InMemoryCheckpointStore.load
    have found : world.store.checkpoints.get? reference = some checkpoint := found
    simp only [found, within, intact]
    rfl
  rw [coreAnswer, loaded]
  rfl

theorem answer_save (world : CoreWorld) {checkpoint : Checkpoint} (context : RuntimeCallContext)
    (intact : checkpoint.verifyIntegrity = .ok ()) (scope : checkpoint.scope.key = context.scope.key) :
    ∃ outcome after, coreAnswer (.checkpointSave checkpoint context) .none world = (outcome, after) ∧
      (Accepts world.store checkpoint → outcome = .ok checkpoint.ref ∧
        after.repository = world.repository) ∧
      (¬ Accepts world.store checkpoint → ∃ error, outcome = .error error) := by
  have within := ScopeRef.requireNarrowerThan_eq_ok.mpr (ScopeRef.isEqualOrDescendantOf_of_key scope)
  have checked : world.store.checkSave checkpoint context = .ok () ↔
      Accepts world.store checkpoint := by
    unfold InMemoryCheckpointStore.checkSave Accepts
    rw [intact, within]
    change (match world.store.checkpoints.get? checkpoint.ref with
      | some existing => ensure (existing.integrity == checkpoint.integrity) _
      | none => world.store.checkNew checkpoint) = .ok () ↔ _
    cases world.store.checkpoints.get? checkpoint.ref with
    | none => rfl
    | some existing => simp
  cases saves : world.store.checkSave checkpoint context with
  | ok done =>
    have saved : world.store.save checkpoint context =
        (.ok checkpoint.ref, world.store.insert checkpoint) := by
      rw [InMemoryCheckpointStore.save, saves]
    have answered : coreAnswer (.checkpointSave checkpoint context) .none world =
        (.ok checkpoint.ref, { world with store := world.store.insert checkpoint }) := by
      rw [coreAnswer, saved]
      rfl
    exact ⟨_, _, answered, fun _ => ⟨rfl, rfl⟩, fun refused => absurd (checked.mp saves) refused⟩
  | error error =>
    have refused : world.store.save checkpoint context = (.error error, world.store) := by
      rw [InMemoryCheckpointStore.save, saves]
    have answered : coreAnswer (.checkpointSave checkpoint context) .none world =
        (.error error, world) := by
      rw [coreAnswer, refused]
      rfl
    refine ⟨_, _, answered, fun accepts => ?_, fun _ => ⟨error, rfl⟩⟩
    rw [checked.mpr accepts] at saves
    cases saves

variable (restart) in
/-- The stored checkpoint of a reference, for a Run of the same Scope. -/
theorem gives_load {gateway : CheckpointGateway} {provider : ProviderId} {reference : CheckpointRef}
    {runId : RunId} {scope : ScopeRef} {context : RuntimeCallContext} {checkpoint : Checkpoint}
    (found : state.1.checkpoint? reference = some checkpoint) (own : checkpoint.ref = reference)
    (owner : checkpoint.runId = runId) (intact : checkpoint.verifyIntegrity = .ok ())
    (within : checkpoint.scope.key = scope.key) (inside : scope.key = context.scope.key)
    (registered : gateway.provider = provider) (policy : gateway.authorization.hasPolicy = true)
    (action : checkpointLoadAction ∈ gateway.authorization.actions)
    (deadline : ∀ deadline, context.deadline = some deadline → restart.horizon ≤ deadline.at_) :
    Gives restart (gateway.load provider reference runId scope context)
      (fun result after => result = checkpoint ∧ Still state after) state := by
  unfold CheckpointGateway.load
  rw [ScopeRef.requireNarrowerThan_eq_ok.mpr (ScopeRef.isEqualOrDescendantOf_of_key inside)]
  refine works_dispatch policy action deadline (grants_allowing ?_) ?_
  · simp [CheckpointGateway.request, CheckpointGateway.identityConstraints, JsonValue.equalsScalar]
  intro grant active exactly effective still
  have unchanged : CheckpointGateway.requireExactConstraints grant.constraints
      (CheckpointGateway.identityConstraints reference runId) = .ok () := ensure_eq_ok.mpr exactly
  have effective : grant.effectiveScope.key = scope.key := effective
  have known : gateway.lookupStore provider = .ok () := ensure_eq_ok.mpr (by simp [registered])
  unfold CheckpointGateway.loadOperation
  rw [unchanged, known]
  have called : Gives restart (CheckpointGateway.invoke (coreOp (.checkpointLoad reference
      { context with scope := grant.effectiveScope })) { context with scope := grant.effectiveScope })
      (fun result after => result = checkpoint ∧ Still state after) active := by
    refine works_invoke deadline (fun _ _ _ got later => ⟨got.1, got.2.trans later⟩)
      fun after later => ?_
    have now : after.1.checkpoint? reference = some checkpoint := by
      rw [later.1, still.1]
      exact found
    refine (gives_answer _ (answer_load now intact (within.trans effective.symm))
      (fun _ => Iff.rfl) trivial fun _ _ _ _ => rfl).weaken (fun _ _ got => ?_) fun _ => id
    obtain ⟨rfl, rfl⟩ := got
    exact ⟨rfl, still.trans later⟩
  refine called.onward fun result after got => ?_
  obtain ⟨rfl, later⟩ := got
  simp only [own, owner, within.trans effective.symm, intact, ensure, beq_self_eq_true,
    Bool.and_self, if_true]
  exact ⟨rfl, later⟩

/-- A save returns if the store accepts the checkpoint, and raises otherwise. -/
theorem works_save {gateway : CheckpointGateway} {provider : ProviderId} {checkpoint : Checkpoint}
    {context : RuntimeCallContext} (intact : checkpoint.verifyIntegrity = .ok ())
    (inside : checkpoint.scope.key = context.scope.key)
    (registered : gateway.provider = provider) (policy : gateway.authorization.hasPolicy = true)
    (action : checkpointSaveAction ∈ gateway.authorization.actions)
    (deadline : ∀ deadline, context.deadline = some deadline → restart.horizon ≤ deadline.at_) :
    Works restart (gateway.save provider checkpoint context)
      (Ends (fun _ after => Accepts state.1.store checkpoint ∧
        after.1.repository = state.1.repository ∧ state.2 ≤ after.2)
        fun _ => ¬ Accepts state.1.store checkpoint) state := by
  unfold CheckpointGateway.save
  rw [ScopeRef.requireNarrowerThan_eq_ok.mpr (ScopeRef.isEqualOrDescendantOf_of_key inside), intact]
  have previous : ∀ reference : Option CheckpointRef,
      (JsonValue.ofOption (fun reference => .str reference.value) reference).equalsScalar
        (.ofOption (fun reference => .str reference.value) reference) = true := by
    intro reference
    cases reference <;> simp [JsonValue.ofOption, JsonValue.equalsScalar]
  refine works_dispatch policy action deadline (grants_allowing ?_) ?_
  · simp only [CheckpointGateway.request, CheckpointGateway.saveConstraints, List.forall_mem_cons,
      previous]
    simp [JsonValue.equalsScalar]
  intro grant active exactly effective still
  have unchanged : CheckpointGateway.requireExactConstraints grant.constraints
      (CheckpointGateway.saveConstraints checkpoint) = .ok () := ensure_eq_ok.mpr exactly
  have effective : grant.effectiveScope.key = checkpoint.scope.key := effective
  have known : gateway.lookupStore provider = .ok () := ensure_eq_ok.mpr (by simp [registered])
  unfold CheckpointGateway.saveOperation
  rw [unchanged, known]
  have called : Works restart (CheckpointGateway.invoke (coreOp (.checkpointSave checkpoint
      { context with scope := grant.effectiveScope })) { context with scope := grant.effectiveScope })
      (Ends (fun result after => result = checkpoint.ref ∧ Accepts state.1.store checkpoint ∧
        after.1.repository = state.1.repository ∧ state.2 ≤ after.2)
        fun _ => ¬ Accepts state.1.store checkpoint) active := by
    refine works_invoke deadline (fun _ _ _ got later => ⟨got.1, got.2.1, ?_, ?_⟩)
      fun after later => ?_
    · rw [later.1]
      exact got.2.2.1
    · exact DateTime.le_trans got.2.2.2 later.2
    obtain ⟨outcome, world, answered, accepted, refused⟩ := answer_save after.1
      { context with scope := grant.effectiveScope } intact effective.symm
    refine (works_determined (.checkpointSave checkpoint _) .none (fun _ => Iff.rfl) trivial
      fun _ _ _ _ => rfl).mono fun result last reached => ?_
    rw [answered] at reached
    obtain ⟨rfl, rfl⟩ := reached
    have same : after.1 = state.1 := later.1.trans still.1
    rw [same] at accepted refused
    by_cases accepts : Accepts state.1.store checkpoint
    · obtain ⟨rfl, kept⟩ := accepted accepts
      exact ⟨rfl, accepts, kept, DateTime.le_trans still.2 later.2⟩
    · obtain ⟨error, rfl⟩ := refused accepts
      exact accepts
  refine called.next fun result after got => ?_
  obtain ⟨rfl, accepts, kept⟩ := got
  simp only [ensure, beq_self_eq_true, if_true]
  exact ⟨accepts, kept⟩

/-- The Run is stored, with nothing in it later than the time. -/
structure Current (run : Run) (state : RestartWorld) : Prop where
  stored : state.1.run? run.runId = some run
  kept : run.Kept state.2

theorem gives_get {runId : RunId} {run : Run} (stored : state.1.run? runId = some run) :
    Gives restart (coreOp (.runGet runId)) (fun result after => result = run ∧ after = state)
      state := by
  have found : state.1.repository.get runId = .ok run := by
    unfold InMemoryRunRepository.get
    have stored : state.1.repository.runs.get? runId = some run := stored
    rw [stored]
  have answered : coreAnswer (.runGet runId) .none state.1 = (.ok run, state.1) := by
    rw [coreAnswer, found]
    rfl
  exact gives_answer _ answered (fun _ => Iff.rfl) trivial fun _ _ _ _ => rfl

/-- A mutation does what the state machine does. -/
theorem works_apply {run : Run} (operation : RunOperation) (version : ℕ)
    (current : Current run state) :
    Works restart (RunService.apply run.runId version operation.apply) (fun outcome after =>
      ∃ now, state.2 ≤ now ∧ match operation.apply run version now with
        | .ok transition => outcome = .ok transition.current ∧ Current transition.current after ∧
          transition.current.runId = run.runId ∧ after.1.store = state.1.store
        | .error _ => ∃ error, outcome = .error error) state := by
  refine (gives_get current.stored).onward fun (previous : Run) read got => ?_
  obtain ⟨handed, same⟩ := got
  rw [handed, same]
  refine gives_now.onward fun now ticked got => ?_
  obtain ⟨rfl, later, -⟩ := got
  cases applied : operation.apply run version now with
  | error error =>
    refine ⟨now, later, ?_⟩
    rw [applied]
    exact ⟨error, rfl⟩
  | ok transition =>
    obtain ⟨expected, handed, advances⟩ := RunOperation.apply_ok applied
    have kept : transition.current.Kept now :=
      ((operation.apply_coded version current.kept later).of_ok applied).2
    change Works restart (if _ then _ else _) _ _
    split
    · rename_i unchanged
      have same : transition.current = run := by
        refine advances.resolve_right fun changed => ?_
        have equal : transition.current.stateVersion = run.stateVersion := by
          simpa [RunTransition.unchanged, handed] using unchanged
        omega
      refine ⟨now, later, ?_⟩
      rw [applied]
      refine ⟨rfl, ⟨?_, kept⟩, by rw [same], rfl⟩
      rw [same]
      exact current.stored
    · rename_i changed
      have differs : transition.current ≠ run := by
        intro same
        exact changed (by simp [RunTransition.unchanged, handed, same])
      obtain ⟨-, next, same⟩ := advances.resolve_left differs
      have own : transition.current.runId = run.runId := same.runId
      have replaced : coreAnswer (.runCompareAndSet transition.current version) .none state.1 =
          (.ok transition.current, state.1.setRun transition.current) := by
        have found : state.1.repository.runs.get? transition.current.runId = some run :=
          own ▸ current.stored
        rw [coreAnswer, InMemoryRunRepository.compareAndSet_next found expected (expected ▸ next)]
        rfl
      have committing : Gives restart (coreOp (.runCompareAndSet transition.current version)) _
          (state.1, now) :=
        gives_answer Fault.none replaced (fun _ => Iff.rfl) trivial fun _ _ _ _ => rfl
      refine committing.onward fun committed after got => ?_
      obtain ⟨made, written⟩ := got
      have publishing : Gives restart (coreOp (.runStateChanged
          ⟨transition.previous, committed, transition.reason⟩)) _ after :=
        gives_answer (.ok () : Except Raised Unit) rfl (fun _ => Iff.rfl) trivial
          fun _ _ _ _ => rfl
      refine publishing.onward fun _ last got => ?_
      refine ⟨now, later, ?_⟩
      rw [applied]
      have settled : last = (state.1.setRun transition.current, now) := got.2.trans written
      refine ⟨congrArg Except.ok made, ⟨?_, ?_⟩, own, ?_⟩
      · rw [settled, CoreWorld.run?_setRun, if_pos rfl]
      · rw [settled]
        exact kept
      · rw [settled]
        rfl

variable (restart) in
theorem gives_apply {run : Run} (fact : Run → Prop) (operation : RunOperation)
    (current : Current run state)
    (results : ∀ now, state.2 ≤ now → ∃ transition,
      operation.apply run run.stateVersion now = .ok transition ∧ fact transition.current) :
    Gives restart (RunService.apply run.runId run.stateVersion operation.apply)
      (fun result after => fact result ∧ Current result after ∧ result.runId = run.runId ∧
        after.1.store = state.1.store) state := by
  refine (works_apply operation run.stateVersion current).mono fun outcome after done => ?_
  obtain ⟨now, later, done⟩ := done
  obtain ⟨transition, applied, holds⟩ := results now later
  rw [applied] at done
  obtain ⟨rfl, done⟩ := done
  exact ⟨holds, done⟩

variable (restart) in
theorem gives_keepsKind {run : WorkflowRun} {status : RunStatus} (operation : RunOperation)
    (keeps : operation.keepsKind = true) (current : Current run.toRun state)
    (results : ∀ now, state.2 ≤ now → ∃ transition,
      operation.apply run.toRun run.stateVersion now = .ok transition ∧
        transition.current.status = status) :
    Gives restart (RunService.apply run.runId run.stateVersion operation.apply)
      (fun result after => (result.status = status ∧ result.kind = .workflow run.workflow) ∧
        Current result after ∧ result.runId = run.runId ∧ after.1.store = state.1.store) state := by
  refine gives_apply restart _ operation current fun now later => ?_
  obtain ⟨transition, applied, same⟩ := results now later
  have kind := (RunOperation.keepsKind_ok keeps applied).1.trans run.isWorkflow
  exact ⟨transition, applied, same, kind⟩

theorem gives_asWorkflow {run : Run} {fields : WorkflowFields} (kind : run.kind = .workflow fields)
    (error : Raised) : Gives restart (Program.ofExcept (run.asWorkflow error))
      (fun result after => result.toRun = run ∧ after = state) state := by
  obtain ⟨workflow, made⟩ := Run.asWorkflow_of_kind kind error
  rw [made]
  exact ⟨Run.asWorkflow_ok made, rfl⟩

/-- The Run of a restored checkpoint is running, unless it was recovering from another one. -/
theorem works_restoreAndRun {run : WorkflowRun} (checkpoint : Checkpoint)
    (request : RecoveryRequest) (context : RuntimeCallContext) (current : Current run.toRun state)
    (active : run.status.terminal = false) (started : run.status ≠ .created) :
    Works restart (RecoveryCoordinator.restoreAndRun request run checkpoint context)
      (Ends (fun result after => (run.status = .recovering →
          run.toRun.openSource = some checkpoint.ref) ∧ result.status = .running ∧
          after.1.run? run.runId = some result.toRun)
        fun _ => ¬ (run.status = .recovering → run.toRun.openSource = some checkpoint.ref)) state := by
  unfold RecoveryCoordinator.restoreAndRun
  by_cases same : run.status = .recovering → run.toRun.openSource = some checkpoint.ref
  · have entering := gives_keepsKind restart (.recover (some checkpoint.ref)) rfl
      current fun now later =>
        RunStateMachine.recover_result checkpoint.ref current.kept later active started same
    refine entering.onward fun entered after got => ?_
    obtain ⟨⟨status, kind⟩, current, own, -⟩ := got
    refine (gives_asWorkflow kind _).onward fun recovering last got => ?_
    obtain ⟨rfl, rfl⟩ := got
    have restoring : Gives restart (coreOp (.restore checkpoint context)) _ last :=
      gives_answer (.ok () : Except Raised Unit) rfl (fun _ => Iff.rfl) trivial
        fun _ _ _ _ => rfl
    have restored : Gives restart ((coreOp (.restore checkpoint context)).catching
        (RecoveryCoordinator.handleRestoreError request recovering))
        (fun _ later => later = last) last :=
      restoring.catching (fun _ _ got => got.2) fun _ _ impossible => impossible.elim
    refine restored.onward fun _ later still => ?_
    subst still
    have advancing := gives_keepsKind restart (.advance .running) rfl current
      fun now since => RunStateMachine.advance_result current.kept since
        (by rw [status]; decide) (by rw [status]; decide)
    refine advancing.onward fun advanced final got => ?_
    obtain ⟨⟨running, kind⟩, current, own', -⟩ := got
    refine (gives_asWorkflow kind _).weaken (fun result last got => ?_) fun _ => False.elim
    obtain ⟨rfl, rfl⟩ := got
    refine ⟨same, running, ?_⟩
    rw [← own, ← own']
    exact current.stored
  · have refused : Works restart (RunService.recover run.runId run.stateVersion
        (some checkpoint.ref)) (Ends (fun _ _ => False) fun _ => True) state := by
      refine (works_apply (.recover (some checkpoint.ref)) run.stateVersion current).mono
        fun outcome after done => ?_
      obtain ⟨now, -, done⟩ := done
      obtain ⟨recovering, other⟩ := Classical.not_imp.mp same
      obtain ⟨error, conflict⟩ : ∃ error, (RunOperation.recover (some checkpoint.ref)).apply
          run.toRun run.stateVersion now = .error error :=
        RunStateMachine.recover_conflict recovering other
      rw [conflict] at done
      obtain ⟨raised, rfl⟩ := done
      trivial
    exact refused.bind (fun _ _ impossible => impossible.elim) fun _ _ _ => same

omit [Sha256] in
theorem Current.later {run : Run} {before after : RestartWorld} (current : Current run before)
    (same : after.1.repository = before.1.repository) (later : before.2 ≤ after.2) :
    Current run after := by
  refine ⟨?_, current.kept.later later⟩
  rw [CoreWorld.run?, same]
  exact current.stored

/-- A migration is done if the store accepts the migrated checkpoint, and raises otherwise. -/
theorem works_migrate {run : WorkflowRun} {source : Checkpoint} {last : DateTime} (fits : restart.Fits run source last)
    (needed : RecoveryCoordinator.needsMigration restart.request source = true)
    (current : Current run.toRun state) (active : run.status.terminal = false)
    (marked : run.latestCheckpointRef = some source.ref)
    (within : source.scope.key = run.scope.key) :
    Works restart (restart.coordinator.migrate restart.request run source restart.context)
      (Ends (fun result after => Accepts state.1.store restart.migrated ∧
          result.1 = restart.migrated ∧ Current result.2.toRun after ∧
          result.2.runId = run.runId ∧ result.2.status = run.status ∧
          result.2.toRun.openSource = run.toRun.openSource)
        fun _ => ¬ Accepts state.1.store restart.migrated) state := by
  obtain ⟨⟨migration, made, registered⟩, valid⟩ := fits.migrates needed
  have intact : restart.migrated.verifyIntegrity = .ok () := by
    obtain ⟨done, intact, -⟩ := bind_ok valid
    exact intact
  have scope : restart.migrated.scope.key = restart.context.scope.key := by
    obtain ⟨_, -, checked⟩ := bind_ok valid
    simp only [ensure_eq_ok, Bool.and_eq_true, beq_iff_eq] at checked
    have same : restart.migrated.scope.key = source.scope.key := by tauto
    rw [same, within, fits.scope]
  unfold RecoveryCoordinator.migrate
  refine Program.safe_passed made (Program.safe_passed registered ?_)
  have migrating : Gives restart (coreOp (.migrate source migration restart.context)) _ state :=
    gives_answer (.ok restart.migrated : Except Raised Checkpoint) rfl (fun _ => Iff.rfl)
      trivial fun _ _ _ _ => rfl
  refine migrating.onward fun (migrated : Checkpoint) after got => ?_
  obtain ⟨handed, same⟩ := got
  rw [handed, same]
  refine Program.safe_passed valid ?_
  refine (works_save intact scope fits.provider fits.policy fits.saves fits.deadline).next
    fun _ saved got => ?_
  obtain ⟨accepts, kept, later⟩ := got
  have auditing : Gives restart (coreOp (.migrationAuthorized source restart.migrated
      restart.context)) _ saved :=
    gives_answer (.ok () : Except Raised Unit) rfl (fun _ => Iff.rfl) trivial
      fun _ _ _ _ => rfl
  have audited : Gives restart (RecoveryCoordinator.audit run.runId
      (coreOp (.migrationAuthorized source restart.migrated restart.context)))
      (fun _ last => last = saved) saved :=
    auditing.catching (fun _ _ got => got.2) fun _ _ impossible => impossible.elim
  refine audited.onward fun _ last still => ?_
  subst still
  have committing := gives_apply restart
    (fun committed : Run => committed.status = run.status ∧
      committed.openSource = run.toRun.openSource ∧ ∃ next, committed.kind = .workflow next)
    (.commitCheckpoint restart.migrated.ref (some source.ref)
      (some restart.request.targetDefinitionId) (some restart.request.targetGraphVersion))
    (current.later kept later) fun now since =>
      RunStateMachine.commitCheckpoint_result restart.migrated.ref _ _ (current.later kept later).kept
        since active run.isWorkflow marked
  refine committing.onward fun committed changed got => ?_
  obtain ⟨⟨status, opened, next, kind⟩, current, own, -⟩ := got
  refine (gives_asWorkflow kind _).onward fun workflow final got => ?_
  obtain ⟨rfl, rfl⟩ := got
  have publishing : Gives restart (coreOp (.checkpointSaved restart.migrated workflow
      restart.context)) _ final :=
    gives_answer (.ok () : Except Raised Unit) rfl (fun _ => Iff.rfl) trivial
      fun _ _ _ _ => rfl
  have published : Gives restart (suppressException (coreOp (.checkpointSaved restart.migrated
      workflow restart.context))) (fun _ last => last = final) final :=
    publishing.catching (fun _ _ got => got.2) fun _ _ impossible => impossible.elim
  refine published.onward fun _ end_ still => ?_
  subst still
  exact ⟨accepts, rfl, current, own, status, opened⟩

theorem works_migrateIfNeeded {run : WorkflowRun} {source : Checkpoint} {last : DateTime}
    (fits : restart.Fits run source last)
    (current : Current run.toRun state) (active : run.status.terminal = false)
    (marked : run.latestCheckpointRef = some source.ref)
    (within : source.scope.key = run.scope.key) :
    Works restart (restart.coordinator.migrateIfNeeded restart.request run source restart.context)
      (Ends (fun result after =>
          (RecoveryCoordinator.needsMigration restart.request source = true →
            Accepts state.1.store restart.migrated) ∧ result.1 = restart.target source ∧
          Current result.2.1.toRun after ∧ result.2.1.runId = run.runId ∧
          result.2.1.status = run.status ∧ result.2.1.toRun.openSource = run.toRun.openSource)
        fun _ => ¬ (RecoveryCoordinator.needsMigration restart.request source = true →
          Accepts state.1.store restart.migrated)) state := by
  unfold RecoveryCoordinator.migrateIfNeeded target
  cases needed : RecoveryCoordinator.needsMigration restart.request source with
  | false => exact ⟨by simp, rfl, current, rfl, rfl, rfl⟩
  | true =>
    refine (works_migrate fits needed current active marked within).bind
      (fun (migrated, committed) after got => ?_) fun error after refused accepts => refused (accepts rfl)
    obtain ⟨accepts, rest⟩ := got
    exact ⟨fun _ => accepts, rest⟩

theorem validateRequest_fits {run : WorkflowRun} {source : Checkpoint} {last : DateTime}
    (fits : restart.Fits run source last)
    (active : run.status.terminal = false) (started : run.status ≠ .created)
    (marked : run.latestCheckpointRef = some source.ref) :
    RecoveryCoordinator.validateRequest restart.request restart.context run = .ok source.ref := by
  unfold RecoveryCoordinator.validateRequest
  simp [ensure, fits.owner, fits.scope, active, started, marked, fits.version, bind, Except.bind,
    pure, Except.pure]

theorem validateLoaded_owned {run : WorkflowRun} {source : Checkpoint} (owns : Owns run.toRun source)
    (intact : source.verifyIntegrity = .ok ()) (owner : source.runId = run.runId)
    (marked : run.latestCheckpointRef = some source.ref) :
    RecoveryCoordinator.validateLoaded source run = .ok () := by
  unfold RecoveryCoordinator.validateLoaded
  simp [ensure, intact, owner, marked, owns.workflow run.workflow run.isWorkflow, owns.scope, bind,
    Except.bind]

/-- The recovery returns if and only if the Run is resumable. -/
theorem works_recover {run : WorkflowRun} {source : Checkpoint}
    (fits : restart.Fits run source state.2) (current : Current run.toRun state)
    (started : run.status ≠ .created) (marked : run.latestCheckpointRef = some source.ref)
    (found : state.1.checkpoint? source.ref = some source)
    (intact : source.verifyIntegrity = .ok ()) (owner : source.runId = run.runId)
    (owns : Owns run.toRun source) :
    Works restart restart.program
      (Ends (fun result after => restart.Resumable run source state.1 ∧
          result.run.status = .running ∧ after.1.run? run.runId = some result.run.toRun)
        fun _ => ¬ restart.Resumable run source state.1) state := by
  unfold program RecoveryCoordinator.recover
  have stored : state.1.run? restart.request.runId = some run.toRun := fits.runId ▸ current.stored
  refine (gives_get stored).onward fun (read : Run) after got => ?_
  obtain ⟨handed, same⟩ := got
  rw [handed, same]
  refine (gives_asWorkflow run.isWorkflow _).onward fun workflow after got => ?_
  obtain ⟨equal, same⟩ := got
  obtain rfl : workflow = run := WorkflowRun.eq_of_toRun equal
  rw [same]
  cases active : workflow.status.terminal with
  | true =>
    have ended : ¬ restart.Resumable workflow source state.1 := by
      intro resumable
      rw [resumable.1] at active
      cases active
    refine Program.safe_guarded ended fun marker valid => ?_
    obtain ⟨_, -, rest⟩ := bind_ok valid
    obtain ⟨_, legal, -⟩ := bind_ok rest
    simp [active] at legal
  | false =>
    refine Program.safe_passed (validateRequest_fits fits active started marked) ?_
    have loaded : Gives restart (restart.coordinator.loadWithFallback restart.fuel restart.request
        workflow source.ref restart.context)
        (fun loaded after => loaded = (source, false, workflow) ∧ Still state after) state := by
      have loads := gives_load restart found rfl owner intact owns.scope
        fits.scope.symm fits.provider fits.policy fits.loads fits.deadline
      refine loads.andThen fun outcome after got => ?_
      cases outcome with
      | ok checkpoint =>
        obtain ⟨rfl, still⟩ := got
        exact ⟨rfl, still⟩
      | error error => exact got.elim
    refine loaded.onward fun _ after got => ?_
    obtain ⟨rfl, still⟩ := got
    refine Program.safe_passed (validateLoaded_owned owns intact owner marked) ?_
    have current := current.later (congrArg CoreWorld.repository still.1) still.2
    have migrating := works_migrateIfNeeded fits current active marked owns.scope
    rw [still.1] at migrating
    refine migrating.bind (fun result changed got => ?_)
      fun error changed refused resumable => refused resumable.2.1
    obtain ⟨checkpoint, committed, migrated⟩ := result
    obtain ⟨accepted, rfl, current, own, status, opened⟩ := got
    have resumable : restart.Resumable workflow source state.1 ↔ (committed.status = .recovering →
        committed.toRun.openSource = some (restart.target source).ref) := by
      rw [status, opened]
      exact ⟨fun resumable => resumable.2.2, fun same => ⟨active, accepted, same⟩⟩
    rw [resumable]
    refine (works_restoreAndRun _ restart.request restart.context current (status ▸ active)
      (status ▸ started)).next fun running last reached => ?_
    rw [own] at reached
    exact reached

end Restart

variable {documents : Checkpoint → Prop} {focus : RunId} {state : RestartWorld}

/-- What a further recovery finds of the Run. -/
structure Interruption (focus : RunId) (run : WorkflowRun) (source : Checkpoint)
    (state : RestartWorld) : Prop where
  stored : state.1.run? focus = some run.toRun
  started : run.status ≠ .created
  marked : run.latestCheckpointRef = some source.ref
  found : state.1.checkpoint? source.ref = some source

theorem Enduring.interruption (enduring : Enduring documents focus state) :
    ∃ run source, Interruption focus run source state := by
  obtain ⟨run, stored, started, hasMarker⟩ := enduring.marked
  obtain ⟨marker, marked⟩ := Option.isSome_iff_exists.mp hasMarker
  obtain ⟨fields, isWorkflow, latest⟩ := Option.bind_eq_some_iff.mp marked
  obtain ⟨source, found, -⟩ := enduring.whole.marked focus run marker stored marked
  obtain ⟨rfl, -⟩ := enduring.whole.stored marker source found
  exact ⟨⟨run, fields, Run.workflow?_eq_some.mp isWorkflow⟩, source, stored, started, latest, found⟩

theorem Enduring.restarts (enduring : Enduring documents focus state) {run : WorkflowRun}
    {source : Checkpoint} (interrupted : Interruption focus run source state) {restart : Restart}
    (fits : restart.Fits run source state.2) :
    restart.Succeeds focus state ↔ restart.Resumable run source state.1 := by
  obtain ⟨stored, started, marked, found⟩ := interrupted
  have own : run.runId = focus := enduring.whole.keyed focus run.toRun stored
  have current : Restart.Current run.toRun state :=
    ⟨own ▸ stored, (enduring.lived focus run.toRun stored).kept⟩
  have owner : source.runId = run.runId := by
    obtain ⟨checkpoint, held, owner⟩ := enduring.whole.marked focus run.toRun source.ref stored
      ((WorkflowRun.latest run).trans marked)
    obtain rfl := Option.some.inj (found.symm.trans held)
    exact owner.trans own.symm
  have owns : Owns run.toRun source :=
    enduring.whole.owned source.ref source run.toRun found (by rw [owner, own]; exact stored)
  have safe := Restart.works_recover fits current started marked found
    (enduring.whole.stored source.ref source found).2.2 owner owns
  have finished : ∃ outcome after, Steps restart.environment RecoveryResult
      (restart.program, state) (.ofExcept outcome, after) := safe.finishes fits.time
  constructor
  · intro succeeds
    obtain ⟨outcome, after, steps⟩ := finished
    obtain ⟨result, rfl, -⟩ := succeeds.2 outcome after steps
    have ended := safe.ended (fun _ => rfl) fits.time steps
    exact ended.1
  · intro resumable
    refine ⟨finished, fun outcome after steps => ?_⟩
    have ended := safe.ended (fun _ => rfl) fits.time steps
    cases outcome with
    | error error => exact absurd resumable ended
    | ok result =>
      obtain ⟨-, running, last⟩ := ended
      exact ⟨result, rfl, running, own ▸ last⟩

/-- After any recoveries that failed or crashed, a further one returns with the Run running if
and only if the Run is resumable. -/
theorem recover_restarts (collisionFree : CollisionFree documents)
    (reached : (recoverySequence documents focus).Reachable state) :
    ∃ run source, Interruption focus run source state ∧
      ∀ restart : Restart, restart.Fits run source state.2 →
        (restart.Succeeds focus state ↔ restart.Resumable run source state.1) := by
  have enduring := (recoverySequence_meets collisionFree).reachable reached
  obtain ⟨run, source, interrupted⟩ := Enduring.interruption enduring
  exact ⟨run, source, interrupted, fun _ fits => Enduring.restarts enduring interrupted fits⟩

end

namespace SampleParameters

def createdRun : Run where
  toRunFields := { sampleRun.toRunFields with
    status := .created
    stateVersion := 0
    updatedAt := some sampleTime }
  checked := by decide +kernel

theorem createdRun_created : Created createdRun := by
  have made : createRootWorkflowRun sampleRun.definitionId sampleWorkflow.workflowId "1"
      sampleRun.workspaceId sampleScope sampleTime none none sampleRunId = .ok createdRun := rfl
  exact .rootWorkflow made

/-- Operations at one time. -/
def operate (now : DateTime) : Run → List (RunOperation × ℕ) → Except Raised Run
  | run, [] => .ok run
  | run, (operation, version) :: operations => do
    let transition ← operation.apply run version now
    operate now transition.current operations

theorem operate_operated {first run current : Run} {now : DateTime}
    {operations : List (RunOperation × ℕ)} (operated : Operated first now run now)
    (done : operate now run operations = .ok current) : Operated first now current now := by
  induction operations generalizing run with
  | nil =>
    obtain rfl := Except.ok.inj done
    exact operated
  | cons operation operations ih =>
    obtain ⟨transition, applied, rest⟩ := bind_ok done
    exact ih (.step operated (DateTime.le_refl now) applied) rest

/-- The run has been started and has committed its first checkpoint. -/
def startedRun : Except Raised Run :=
  operate sampleTime createdRun [(.start, 0), (.advance .contextLoading, 1), (.advance .running, 2),
    (.commitCheckpoint sampleCheckpoint.ref none none none, 3)]

def interruptedRun : Run :=
  match startedRun with
  | .ok run => run
  | .error _ => createdRun

theorem interruptedRun_lived : Lived interruptedRun sampleTime := by
  have made : startedRun = .ok interruptedRun := by
    have ok : startedRun.isOk = true := by decide +kernel
    unfold interruptedRun
    cases made : startedRun with
    | ok run => rfl
    | error error =>
      rw [made] at ok
      cases ok
  exact ⟨createdRun, sampleTime, sampleTime, createdRun_created, operate_operated .refl made,
    DateTime.le_refl sampleTime⟩

def interruptedWorld : CoreWorld :=
  ⟨⟨Dict.empty.set sampleRunId interruptedRun⟩,
    (InMemoryCheckpointStore.empty sampleProvider).insert sampleCheckpoint⟩

/-- The checkpoint as the migrator makes it for the second version of the graph. -/
def migratedFields : CheckpointFields :=
  { sampleFields with
    checkpointId := ⟨"checkpoint-2", secondCheckpoint_checked⟩
    graphVersion := "2"
    sequence := 2
    previousCheckpointRef := some sampleCheckpoint.ref }

def migratedCheckpoint : Checkpoint where
  toCheckpointFields := migratedFields
  integrity := migratedFields.integrityData.sha256
  checked := by decide +kernel

def sampleDocuments (checkpoint : Checkpoint) : Prop :=
  checkpoint = sampleCheckpoint ∨ checkpoint = migratedCheckpoint

theorem sampleDocuments_collisionFree : CollisionFree sampleDocuments := by
  have differ : sampleCheckpoint.canonicalDigest ≠ migratedCheckpoint.canonicalDigest := by
    decide +kernel
  rintro first second (rfl | rfl) (rfl | rfl) same
  · rfl
  · exact absurd same differ
  · exact absurd same.symm differ
  · rfl

theorem interruptedWorld_run? (runId : RunId) :
    interruptedWorld.run? runId = if sampleRunId = runId then some interruptedRun else none :=
  Dict.empty.get?_set sampleRunId runId interruptedRun

theorem interruptedWorld_checkpoint? (reference : CheckpointRef) :
    interruptedWorld.checkpoint? reference =
      if sampleCheckpoint.ref = reference then some sampleCheckpoint else none :=
  Dict.empty.get?_set sampleCheckpoint.ref reference sampleCheckpoint

theorem interruptedWorld_initial :
    (recoverySequence sampleDocuments sampleRunId).initial (interruptedWorld, sampleTime) := by
  have facts : interruptedRun.runId = sampleRunId ∧ interruptedRun.status = .running ∧
      interruptedRun.latest = some sampleCheckpoint.ref ∧
      interruptedRun.scope = sampleScope ∧
      (interruptedRun.workflow?.all fun fields =>
        fields.workflowId == sampleWorkflow.workflowId) = true := by decide +kernel
  obtain ⟨key, running, latest, scope, workflowId⟩ := facts
  have runs : ∀ runId run, interruptedWorld.run? runId = some run →
      runId = sampleRunId ∧ run = interruptedRun := by
    intro runId run found
    rw [interruptedWorld_run?] at found
    split at found
    · rename_i own
      exact ⟨own.symm, (Option.some.inj found).symm⟩
    · cases found
  have checkpoints : ∀ reference checkpoint, interruptedWorld.checkpoint? reference =
      some checkpoint → reference = sampleCheckpoint.ref ∧ checkpoint = sampleCheckpoint := by
    intro reference checkpoint found
    rw [interruptedWorld_checkpoint?] at found
    split at found
    · rename_i own
      exact ⟨own.symm, (Option.some.inj found).symm⟩
    · cases found
  have stored : interruptedWorld.run? sampleRunId = some interruptedRun := by
    rw [interruptedWorld_run?, if_pos rfl]
  have held : interruptedWorld.checkpoint? sampleCheckpoint.ref = some sampleCheckpoint := by
    rw [interruptedWorld_checkpoint?, if_pos rfl]
  refine ⟨⟨⟨?_, ?_, ?_, ?_⟩, ?_, interruptedRun, stored, ?_⟩, ?_, ?_⟩
  · intro runId run found
    obtain ⟨rfl, rfl⟩ := runs runId run found
    exact key
  · intro reference checkpoint found
    obtain ⟨rfl, rfl⟩ := checkpoints reference checkpoint found
    exact ⟨rfl, .inl rfl, ensure_eq_ok.mpr (beq_iff_eq.mpr rfl)⟩
  · intro reference checkpoint run found owner
    obtain ⟨rfl, rfl⟩ := checkpoints reference checkpoint found
    obtain ⟨-, rfl⟩ := runs _ run owner
    refine ⟨fun fields kind => ?_, by rw [scope]; rfl⟩
    rw [Run.workflow?_eq_some.mpr kind] at workflowId
    exact (beq_iff_eq.mp workflowId).symm
  · intro runId run marker found marked
    obtain ⟨rfl, rfl⟩ := runs runId run found
    obtain rfl := Option.some.inj (latest.symm.trans marked)
    exact ⟨sampleCheckpoint, held, rfl⟩
  · intro runId run found
    obtain ⟨rfl, rfl⟩ := runs runId run found
    exact interruptedRun_lived
  · exact ⟨by rw [running]; decide, by rw [latest]; rfl⟩
  · intro reference checkpoint found
    obtain ⟨rfl, rfl⟩ := checkpoints reference checkpoint found
    refine ⟨sampleCheckpoint.ref, ?_, .marker⟩
    have marker : interruptedWorld.marker sampleRunId = interruptedRun.latest := by
      rw [CoreWorld.marker, stored]
      rfl
    exact marker.trans latest
  · intro run found
    obtain ⟨-, rfl⟩ := runs _ run found
    rw [running]
    rfl

/-- Nothing fails but the restore, where it does. -/
def failingChoice (restored : Except Raised Unit) : (op : CoreOp) → RestartWorld → op.Choice
  | .now, (_, last) => last
  | .migrate _ _ _, _ => .ok migratedCheckpoint
  | .restore _ _, _ => restored
  | op, _ => sampleChoice op

theorem failingChoice_permitted (restored : Except Raised Unit) (op : CoreOp) (state : RestartWorld)
    (permitted : samplePermits false op = true) :
    (failingEnvironment sampleDocuments).permits op (failingChoice restored op state) state := by
  cases op with
  | newCheckpointRef => cases permitted
  | checkpointDelete request context => cases permitted
  | checkpointList query context => exact ⟨fun _ => .inl rfl, trivial⟩
  | now => exact ⟨trivial, DateTime.le_refl state.2⟩
  | migrate checkpoint request context =>
    refine ⟨trivial, fun migrated made => ?_⟩
    obtain rfl := Except.ok.inj made
    exact .inr rfl
  | _ => exact ⟨trivial, trivial⟩

def migratingRecovery : RecoveryCoordinator :=
  ⟨sampleCoordinator.gateway, ⟨[(sampleWorkflow.workflowId.value, sampleRun.definitionId.value, "1",
    sampleRun.definitionId.value, "2")]⟩⟩

def recoveryRequest (version : ℕ) (graphVersion : String) : RecoveryRequest :=
  ⟨sampleRunId, version, sampleProvider, sampleRun.definitionId, graphVersion, {}⟩

/-- A call of the sequence, run to its end. -/
def recovered (restored : Except Raised Unit) (version : ℕ) (graphVersion : String)
    (state : RestartWorld) : CoreProgram RecoveryResult × RestartWorld :=
  executeWhile (failingEnvironment sampleDocuments) (samplePermits false) (failingChoice restored) 60
    (migratingRecovery.recover 1 (recoveryRequest version graphVersion) sampleContext, state)

theorem recovered_reachable (restored : Except Raised Unit) (version : ℕ) (graphVersion : String)
    {state : RestartWorld}
    (reached : (recoverySequence sampleDocuments sampleRunId).Reachable state) :
    (recoverySequence sampleDocuments sampleRunId).Reachable
      (recovered restored version graphVersion state).2 := by
  have steps : Steps (failingEnvironment sampleDocuments) RecoveryResult
      (migratingRecovery.recover 1 (recoveryRequest version graphVersion) sampleContext, state)
      (recovered restored version graphVersion state) :=
    executeWhile_steps (failingChoice_permitted restored) 60 _
  exact .call reached ⟨rfl, _, _, _, _, rfl⟩ steps

/-- The restore of a recovery fails. -/
def unrestored : CoreProgram RecoveryResult × RestartWorld :=
  recovered (.error (.other "RuntimeError")) 4 "1" (interruptedWorld, sampleTime)

/-- Then a recovery migrates the checkpoint. -/
def overtaken : CoreProgram RecoveryResult × RestartWorld := recovered (.ok ()) 5 "2" unrestored.2

/-- A further recovery of the sequence. -/
def furtherRecovery (version : ℕ) (graphVersion : String) : Restart where
  coordinator := migratingRecovery
  fuel := 1
  request := recoveryRequest version graphVersion
  context := sampleContext
  migrated := migratedCheckpoint
  horizon := ⟨2025, 1, 1, 0, 0, 0, 0, by decide⟩

/-- The run is recovering from `opened`, and its marker needs no migration. -/
def recoversFrom (opened marker : CheckpointRef) (version : ℕ) (graphVersion : String)
    (state : RestartWorld) : Bool :=
  state.2 == sampleTime &&
    (state.1.run? sampleRunId).any (fun run => run.status == .recovering &&
      run.openSource == some opened && run.latest == some marker && run.runId == sampleRunId &&
      run.stateVersion == version && run.scope.key == sampleScope.key) &&
    (state.1.checkpoint? marker).any fun checkpoint =>
      !RecoveryCoordinator.needsMigration (recoveryRequest version graphVersion) checkpoint

theorem recoversFrom_facts {opened marker : CheckpointRef} {version : ℕ} {graphVersion : String}
    {state : RestartWorld} {run : WorkflowRun} {source : Checkpoint}
    (recovers : recoversFrom opened marker version graphVersion state = true)
    (interrupted : Interruption sampleRunId run source state) :
    run.status = .recovering ∧ run.toRun.openSource = some opened ∧ source.ref = marker ∧
      RecoveryCoordinator.needsMigration (recoveryRequest version graphVersion) source = false ∧
      (furtherRecovery version graphVersion).Fits run source state.2 := by
  simp only [recoversFrom, interrupted.stored, Option.any_some, Bool.and_eq_true, beq_iff_eq]
    at recovers
  obtain ⟨⟨time, ⟨⟨⟨⟨⟨recovering, opened⟩, latest⟩, own⟩, current⟩, scope⟩⟩, plain⟩ := recovers
  have named : source.ref = marker := by
    have marked := (WorkflowRun.latest run).symm.trans latest
    exact Option.some.inj (interrupted.marked.symm.trans marked)
  have found := interrupted.found
  rw [named] at found
  have unchanged : RecoveryCoordinator.needsMigration (recoveryRequest version graphVersion) source =
      false := by simpa [found] using plain
  refine ⟨recovering, opened, named, unchanged, own.symm, current.symm, own.symm, scope.symm, ?_, ?_,
    rfl, rfl, ?_, ?_, ?_⟩
  · rw [time]
    show sampleTime < (⟨2025, 1, 1, 0, 0, 0, 0, by decide⟩ : DateTime)
    decide
  · intro deadline given
    cases given
  · show checkpointLoadAction ∈ sampleCoordinator.gateway.authorization.actions
    decide
  · show checkpointSaveAction ∈ sampleCoordinator.gateway.authorization.actions
    decide
  · intro needed
    have unchanged : RecoveryCoordinator.needsMigration
        (furtherRecovery version graphVersion).request source = false := unchanged
    rw [unchanged] at needed
    cases needed

theorem unrestored_reachable :
    (recoverySequence sampleDocuments sampleRunId).Reachable unrestored.2 :=
  recovered_reachable _ _ _ (.initial interruptedWorld_initial)

theorem overtaken_reachable :
    (recoverySequence sampleDocuments sampleRunId).Reachable overtaken.2 :=
  recovered_reachable _ _ _ unrestored_reachable

theorem unrestored_recovers : recoversFrom sampleCheckpoint.ref sampleCheckpoint.ref 5 "1"
    unrestored.2 = true := by decide +kernel

/-- The marker has moved on while the run is recovering from the first checkpoint. -/
theorem overtaken_recovers : recoversFrom sampleCheckpoint.ref migratedCheckpoint.ref 6 "2"
    overtaken.2 = true := by decide +kernel

end SampleParameters

open SampleParameters in
/-- After a failed restore alone, the further recovery succeeds. -/
theorem recover_restarts_unrestored :
    (furtherRecovery 5 "1").Succeeds sampleRunId unrestored.2 := by
  obtain ⟨run, source, interrupted, restarts⟩ :=
    recover_restarts sampleDocuments_collisionFree unrestored_reachable
  obtain ⟨recovering, opened, named, unchanged, fits⟩ :=
    recoversFrom_facts unrestored_recovers interrupted
  have unchanged : RecoveryCoordinator.needsMigration (furtherRecovery 5 "1").request source = false :=
    unchanged
  refine (restarts _ fits).mpr ⟨by rw [recovering]; rfl, fun needed => ?_, fun _ => ?_⟩
  · rw [unchanged] at needed
    cases needed
  · rw [Restart.target, unchanged, if_neg (by simp), named, opened]

/-- A further recovery of a Run that has not ended always returns with it running. -/
def AlwaysRestarts [Sha256] : Prop :=
  ∀ (documents : Checkpoint → Prop) (focus : RunId) (state : RestartWorld),
    CollisionFree documents → (recoverySequence documents focus).Reachable state →
    ∀ run source, Interruption focus run source state → run.status.terminal = false →
      ∀ restart : Restart, restart.Fits run source state.2 → restart.Succeeds focus state

open SampleParameters in
theorem recover_not_restarts : ¬ AlwaysRestarts := by
  intro always
  have enduring := (recoverySequence_meets sampleDocuments_collisionFree).reachable
    overtaken_reachable
  obtain ⟨run, source, interrupted⟩ := Enduring.interruption enduring
  obtain ⟨recovering, opened, named, unchanged, fits⟩ :=
    recoversFrom_facts overtaken_recovers interrupted
  have unchanged : RecoveryCoordinator.needsMigration (furtherRecovery 6 "2").request source = false :=
    unchanged
  have succeeds := always sampleDocuments sampleRunId overtaken.2 sampleDocuments_collisionFree
    overtaken_reachable run source interrupted (by rw [recovering]; rfl) (furtherRecovery 6 "2") fits
  have same := ((Enduring.restarts enduring interrupted fits).mp succeeds).2.2 recovering
  rw [Restart.target, unchanged, if_neg (by simp), named, opened] at same
  have differ : sampleCheckpoint.ref ≠ migratedCheckpoint.ref := by decide
  exact differ (Option.some.inj same)

end CongeriesCore
