import CongeriesCore.CheckpointChain
import CongeriesCore.RunRacing

/-! # What a raising call has done

One call of the Run service or of the checkpoint coordinator at a time, over a repository that
does not fail, whatever the publishers, the policy and the store do. Beside the world stands
what has failed: a publication made after the commit, or an audit of an authorization. -/

namespace CongeriesCore

open AsyncProgram

structure Reports where
  /-- a publication after a commit has raised -/
  raised : Bool
  /-- the publication of an authorization audit has raised -/
  unaudited : Bool

namespace Reports

def none : Reports := ⟨false, false⟩

/-- `checkpoint.saved` is published under a suppression of `Exception`, which a cancellation
passes. -/
def observe : (op : CoreOp) → Except Raised op.Answer → CoreWorld → CoreWorld → Reports → Reports
  | .runStateChanged _, .error _, _, _, reports => { reports with raised := true }
  | .checkpointSaved _ _ _, .error error, _, _, reports =>
    if error.isException then reports else { reports with raised := true }
  | .authorizationDenied _ _, .error _, _, _, reports
  | .crossScopeGranted _ _, .error _, _, _, reports => { reports with unaudited := true }
  | _, _, _, _, reports => reports

end Reports

abbrev ReportWorld := CoreWorld × Reports

/-- The in-memory repository does not fail. -/
def repositoryAllows : (op : CoreOp) → op.Choice → ReportWorld → Prop
  | .runGet _, fault, _ | .runAdd _, fault, _ | .runCompareAndSet _ _, fault, _ => fault = .none
  | _, _, _ => True

/-- The calls that do not touch the repository and are not reported. -/
def CoreOp.unreported : CoreOp → Bool
  | .runGet _ | .runAdd _ | .runCompareAndSet _ _ | .runStateChanged _ | .checkpointSaved _ _ _
  | .authorizationDenied _ _ | .crossScopeGranted _ _ | .checkpointFailed _ _ _ => false
  | _ => true

section Reporting

variable [Sha256]

abbrev reportEnvironment : Environment CoreInterface Raised ReportWorld :=
  coreEnvironment.instrumented repositoryAllows Reports.observe

/-- A failure is published for a checkpoint that is not the committed marker, unless a
publication after its commit has raised. -/
def reportedFailure : CoreOp → ReportWorld → Prop
  | .checkpointFailed checkpoint _ _, state => state.2.unaudited = false →
    (state.1.marker checkpoint.runId ≠ some checkpoint.ref ↔ state.2.raised = false)
  | _, _ => True

def reportContract : Contract CoreInterface ReportWorld :=
  .alone (fun _ => True) (fun _ _ => True) reportedFailure

abbrev Reporting {α : Type} (program : CoreProgram α) (post : Except Raised α → ReportWorld → Prop)
    (state : ReportWorld) : Prop :=
  program.Safe reportEnvironment reportContract post state

/-- Nothing has been committed since `start`. -/
structure Before (start : CoreWorld) (state : ReportWorld) : Prop where
  repository : state.1.repository = start.repository
  raised : state.2.raised = false

/-- The operation has been committed to the Run since `start`, and nothing else. -/
def Applied (start : CoreWorld) (runId : RunId) (operation : RunOperation) (version : ℕ)
    (state : ReportWorld) : Prop :=
  ∃ previous now transition, start.run? runId = some previous ∧
    operation.apply previous version now = .ok transition ∧
    transition.current ≠ transition.previous ∧ state.1.run? runId = some transition.current

section Calls

variable {start : CoreWorld} {state : ReportWorld}

theorem report_call {op : CoreOp} {post : Except Raised op.Answer → ReportWorld → Prop}
    (needed : reportedFailure op state)
    (answered : ∀ choice, repositoryAllows op choice state → ∀ outcome after,
      coreAnswer op choice state.1 = (outcome, after) →
      post outcome (after, Reports.observe op outcome state.1 after state.2)) :
    Reporting (coreOp op) post state := by
  refine Program.safe_perform_alone fun _ => ⟨needed, fun choice permitted => ?_⟩
  exact ⟨trivial, trivial, answered choice permitted.2 _ _ rfl⟩

omit [Sha256] in
theorem unreported_reads {op : CoreOp} (unreported : op.unreported = true) :
    op.writesRun = false := by
  cases op <;> first | rfl | cases unreported

omit [Sha256] in
theorem observe_unreported {op : CoreOp} (unreported : op.unreported = true)
    (outcome : Except Raised op.Answer) (before after : CoreWorld) (reports : Reports) :
    Reports.observe op outcome before after reports = reports := by
  cases op <;> first | rfl | cases unreported

theorem report_unreported {op : CoreOp} (unreported : op.unreported = true)
    (before : Before start state) :
    Reporting (coreOp op) (fun _ after => Before start after ∧ after.2 = state.2) state := by
  have needed : reportedFailure op state := by
    unfold reportedFailure
    split
    · cases unreported
    · trivial
  refine report_call needed fun choice _ outcome after answer => ?_
  have same : after.repository = state.1.repository := by
    have kept := answer_repository (unreported_reads unreported) choice state.1
    rw [answer] at kept
    exact kept
  have reports := observe_unreported unreported outcome state.1 after state.2
  exact ⟨⟨same.trans before.repository, (congrArg Reports.raised reports).trans before.raised⟩,
    reports⟩

/-- A read of the Run gives what it was at the start. -/
theorem report_get (runId : RunId) (before : Before start state) :
    Reporting (coreOp (.runGet runId)) (fun outcome after => Before start after ∧
      after.2 = state.2 ∧ ∀ run, outcome = .ok run → start.run? runId = some run) state := by
  refine report_call trivial fun choice allowed outcome after answer => ?_
  obtain rfl : choice = .none := allowed
  rcases answer_runGet state.1 runId .none with ⟨error, refused⟩ | ⟨run, found, done⟩
  · rw [refused] at answer
    obtain ⟨rfl, rfl⟩ := Prod.mk.inj answer
    exact ⟨before, rfl, fun _ failed => by cases failed⟩
  · rw [done] at answer
    obtain ⟨rfl, rfl⟩ := Prod.mk.inj answer
    refine ⟨before, rfl, fun other same => ?_⟩
    obtain rfl := Except.ok.inj same
    rw [← found, CoreWorld.run?, CoreWorld.run?, before.repository]

theorem report_compareAndSet {run : Run} {version : ℕ} (before : Before start state) :
    Reporting (coreOp (.runCompareAndSet run version)) (fun outcome after => after.2 = state.2 ∧
      match outcome with
      | .ok committed => committed = run ∧ after.1.run? run.runId = some run
      | .error _ => Before start after) state := by
  refine report_call trivial fun choice allowed outcome after answer => ?_
  obtain rfl : choice = .none := allowed
  rcases answer_runCompareAndSet state.1 run version .none with
    ⟨error, refused⟩ | ⟨current, -, -, -, done | ⟨error, faulty, -⟩⟩
  · rw [refused] at answer
    obtain ⟨rfl, rfl⟩ := Prod.mk.inj answer
    exact ⟨rfl, before⟩
  · rw [done] at answer
    obtain ⟨rfl, rfl⟩ := Prod.mk.inj answer
    exact ⟨rfl, rfl, by rw [CoreWorld.run?_setRun, if_pos rfl]⟩
  · cases faulty

/-- A publication that raises is recorded. -/
theorem report_stateChanged (transition : RunTransition) :
    Reporting (coreOp (.runStateChanged transition)) (fun outcome after => after.1 = state.1 ∧
      ∀ error, outcome = .error error → after.2.raised = true) state := by
  refine report_call trivial fun choice _ outcome after answer => ?_
  obtain ⟨rfl, rfl⟩ : choice = outcome ∧ state.1 = after := Prod.mk.inj answer
  refine ⟨rfl, fun error failed => ?_⟩
  subst failed
  rfl

/-- How a mutation ends: it returns what it made of the Run, or it raises before its commit, or
after it because the publication raised. -/
def Mutated (start : CoreWorld) (runId : RunId) (operation : RunOperation) (version : ℕ) :
    Except Raised Run → ReportWorld → Prop
  | .ok run, after => ∃ previous now transition, start.run? runId = some previous ∧
    operation.apply previous version now = .ok transition ∧ run = transition.current ∧
    (transition.current = transition.previous ∨ Applied start runId operation version after)
  | .error _, after => Before start after ∨
    after.2.raised = true ∧ Applied start runId operation version after

theorem apply_reports (keyed : start.Keyed) (runId : RunId) (operation : RunOperation)
    (version : ℕ) (before : Before start state) :
    Reporting (RunService.apply runId version operation.apply)
      (Mutated start runId operation version) state := by
  refine (report_get runId before).bind (fun previous read got => ?_) fun _ _ got => .inl got.1
  obtain ⟨before, -, found⟩ := got
  have found := found previous rfl
  have clock : Reporting (coreOp .now) (fun _ after => Before start after ∧ after.2 = read.2) read :=
    report_unreported rfl before
  refine clock.bind (fun now ticked answered => ?_) fun _ _ answered => .inl answered.1
  have before := answered.1
  cases applied : operation.apply previous version now with
  | error error => exact .inl before
  | ok transition =>
    obtain ⟨-, handed, advances⟩ := RunOperation.apply_ok applied
    change Reporting (if transition.unchanged then Program.ret transition.current
      else RunService.commit transition version) _ _
    split
    · rename_i unchanged
      have same : transition.current = transition.previous := by
        rcases advances with same | ⟨-, next, -⟩
        · exact same.trans handed.symm
        · have equal : transition.current.stateVersion = previous.stateVersion := by
            simpa [RunTransition.unchanged, handed] using unchanged
          omega
      exact ⟨previous, now, transition, found, applied, rfl, .inl same⟩
    · rename_i changed
      have differs : transition.current ≠ transition.previous := by
        intro same
        exact changed (by simp [RunTransition.unchanged, same])
      have own : transition.current.runId = runId := by
        have same := (advances.resolve_left (handed ▸ differs)).2.2.runId
        exact same.trans (keyed runId previous found)
      refine (report_compareAndSet before).bind (fun committed after done => ?_)
        fun _ _ refused => .inl refused.2
      obtain ⟨-, rfl, stored⟩ := done
      rw [own] at stored
      refine (report_stateChanged ⟨transition.previous, transition.current, transition.reason⟩).bind
        (fun _ last published => ?_) fun error last failed => ?_
      · refine ⟨previous, now, transition, found, applied, rfl, .inr ⟨previous, now, transition,
          found, applied, differs, ?_⟩⟩
        rw [published.1]
        exact stored
      · refine .inr ⟨failed.2 error rfl, previous, now, transition, found, applied, differs, ?_⟩
        rw [failed.1]
        exact stored

end Calls

omit [Sha256] in
/-- A commit changes the Run. -/
theorem Applied.changed {start : CoreWorld} {runId : RunId} {operation : RunOperation}
    {version : ℕ} {state : ReportWorld} (committed : Applied start runId operation version state) :
    state.1.run? runId ≠ start.run? runId := by
  obtain ⟨previous, now, transition, found, applied, differs, stored⟩ := committed
  obtain ⟨-, rfl, -⟩ := RunOperation.apply_ok applied
  rw [stored, found]
  exact fun same => differs (Option.some.inj same)

/-- The Run is as it was at the start, unless a publication after a commit has raised. -/
def Truthful (start : CoreWorld) (runId : RunId) (state : ReportWorld) : Prop :=
  state.1.run? runId = start.run? runId ↔ state.2.raised = false

section Mutations

variable {start : CoreWorld} {state : ReportWorld} {runId : RunId}

omit [Sha256] in
theorem Before.run? (before : Before start state) (runId : RunId) :
    state.1.run? runId = start.run? runId := by
  rw [CoreWorld.run?, CoreWorld.run?, before.repository]

omit [Sha256] in
theorem Before.truthful (before : Before start state) (runId : RunId) :
    Truthful start runId state :=
  ⟨fun _ => before.raised, fun _ => before.run? runId⟩

omit [Sha256] in
theorem Applied.truthful {operation : RunOperation} {version : ℕ}
    (committed : Applied start runId operation version state) (raised : state.2.raised = true) :
    Truthful start runId state := by
  refine ⟨fun same => absurd same committed.changed, fun quiet => ?_⟩
  rw [raised] at quiet
  cases quiet

omit [Sha256] in
theorem Mutated.truthful {operation : RunOperation} {version : ℕ} {error : Raised}
    (mutated : Mutated start runId operation version (.error error) state) :
    Truthful start runId state := by
  rcases mutated with before | ⟨raised, committed⟩
  · exact before.truthful runId
  · exact committed.truthful raised

/-- A mutation that raises has left the Run as it was, unless the publication raised. -/
theorem call_reports (keyed : start.Keyed) (runId : RunId) (call : RunCall)
    (before : Before start state) :
    Reporting (call.program runId) (Ends (fun _ _ => True) (Truthful start runId)) state := by
  have mutation : ∀ (operation : RunOperation) (version : ℕ) (state : ReportWorld),
      Before start state → Reporting (RunService.apply runId version operation.apply)
        (Ends (fun _ _ => True) (Truthful start runId)) state := by
    intro operation version state before
    refine (apply_reports keyed runId operation version before).mono fun outcome after mutated => ?_
    cases outcome with
    | ok run => trivial
    | error error => exact Mutated.truthful mutated
  cases call with
  | mutation operation version =>
    rw [RunCall.program, RunOperation.call_eq]
    exact mutation operation version state before
  | auditFailure error =>
    refine (report_get runId before).bind (fun run after got => ?_)
      fun _ _ got => got.1.truthful runId
    have returned : Reporting (Program.ret run)
        (Ends (fun _ _ => True) (Truthful start runId)) after := trivial
    change Reporting (if run.status.terminal then Program.ret run
      else if run.controlPolicy.auditFailureMode = .fail then
        RunService.fail runId run.stateVersion error
      else if run.status = .paused then Program.ret run
      else RunService.pause runId run.stateVersion) _ _
    split
    · exact returned
    · split
      · exact mutation (.fail error) run.stateVersion after got.1
      · split
        · exact returned
        · exact mutation .pause run.stateVersion after got.1

end Mutations

section Gateway

variable {start : CoreWorld} {state : ReportWorld}

/-- Nothing has been committed and no audit has failed. -/
def Held (start : CoreWorld) (state : ReportWorld) : Prop :=
  Before start state ∧ state.2.unaudited = false

/-- An audit has failed, which pauses or fails the Run, or nothing has been committed. -/
def Refused (start : CoreWorld) (state : ReportWorld) : Prop :=
  state.2.unaudited = true ∨ Before start state

omit [Sha256] in
theorem observe_unaudited {op : CoreOp} {outcome : Except Raised op.Answer}
    {before after : CoreWorld} {reports : Reports} (unaudited : reports.unaudited = true) :
    (Reports.observe op outcome before after reports).unaudited = true := by
  unfold Reports.observe
  split
  · exact unaudited
  · split <;> exact unaudited
  · rfl
  · rfl
  · exact unaudited

/-- After a failed audit anything may happen to the Run. -/
theorem report_unaudited {α : Type} (program : CoreProgram α)
    (unaudited : state.2.unaudited = true) :
    Reporting program (fun _ after => after.2.unaudited = true) state := by
  induction program generalizing state with
  | ret value => exact unaudited
  | raise error => exact unaudited
  | await op resume ih =>
    intro current relied _
    obtain rfl : state = current := relied
    refine ⟨?_, fun choice _ => ⟨trivial, trivial, ih _ (observe_unaudited unaudited)⟩⟩
    unfold reportContract reportedFailure Contract.alone
    dsimp only
    split
    · intro audited
      rw [unaudited] at audited
      cases audited
    · trivial

theorem report_held (op : CoreOp) (unreported : op.unreported = true) (held : Held start state) :
    Reporting (coreOp op) (Ends (fun _ => Held start) (Refused start)) state := by
  refine (report_unreported unreported held.1).mono fun outcome after kept => ?_
  cases outcome with
  | ok answer => exact ⟨kept.1, kept.2 ▸ held.2⟩
  | error error => exact .inr kept.1

theorem report_denied (request : AccessRequest) (decision : PolicyDecision)
    (held : Held start state) :
    Reporting (coreOp (.authorizationDenied request decision))
      (Ends (fun _ => Held start) fun after => after.2.unaudited = true) state := by
  refine report_call trivial fun choice _ outcome after answer => ?_
  obtain ⟨rfl, rfl⟩ : choice = outcome ∧ state.1 = after := Prod.mk.inj answer
  cases choice with
  | ok done => exact held
  | error error => rfl

theorem report_granted (request : AccessRequest) (grant : Grant) (held : Held start state) :
    Reporting (coreOp (.crossScopeGranted request grant))
      (Ends (fun _ => Held start) fun after => after.2.unaudited = true) state := by
  refine report_call trivial fun choice _ outcome after answer => ?_
  obtain ⟨rfl, rfl⟩ : choice = outcome ∧ state.1 = after := Prod.mk.inj answer
  cases choice with
  | ok done => exact held
  | error error => rfl

theorem report_routine (start : CoreWorld) (authorization : Authorization) :
    Routine reportEnvironment reportContract authorization.dispatcher (Held start)
      (fun state => state.2.unaudited = true) (Refused start) where
  cancelled token state held := report_held (.cancelled token) rfl held
  now state held := report_held .now rfl held
  authorize policy given request state held := by
    have awaited : policy = fun request => coreOp (.authorize request) := by
      unfold Authorization.dispatcher at given
      split at given
      · exact (Option.some.inj given).symm
      · cases given
    subst awaited
    exact report_held (.authorize request) rfl held
  denied request decision state held := report_denied request decision held
  granted request grant state held := report_granted request grant held
  handle runId detail state unaudited := by
    refine (report_unaudited _ unaudited).mono fun outcome after kept => ?_
    cases outcome with
    | ok done => exact .inl kept
    | error error => exact .inl kept
  weaken _ held := .inr held.1
  unhandled _ unaudited := .inl unaudited

theorem report_gatewaySave (gateway : CheckpointGateway) (provider : ProviderId)
    (checkpoint : Checkpoint) (context : RuntimeCallContext) (held : Held start state) :
    Reporting (gateway.save provider checkpoint context)
      (Ends (fun _ => Held start) (Refused start)) state := by
  have routine := report_routine start gateway.authorization
  exact routine.gatewaySave (fun _ => routine) provider checkpoint context
    (fun _ current context held => report_held (.checkpointSave checkpoint context) rfl held) held

theorem report_load (gateway : CheckpointGateway) (provider : ProviderId)
    (reference : CheckpointRef) (runId : RunId) (scope : ScopeRef) (context : RuntimeCallContext)
    (held : Held start state) :
    Reporting (gateway.load provider reference runId scope context)
      (Ends (fun _ => Held start) (Refused start)) state := by
  have routine := report_routine start gateway.authorization
  exact routine.gatewayLoad (fun _ => routine) provider reference runId scope context
    (fun current context held => report_held (.checkpointLoad reference context) rfl held) held

end Gateway

section Save

variable {start : CoreWorld} {state : ReportWorld}

/-- How a save may raise: an audit has failed, or the Run tells the truth. -/
def Told (start : CoreWorld) (runId : RunId) (state : ReportWorld) : Prop :=
  state.2.unaudited = true ∨ Truthful start runId state

omit [Sha256] in
theorem Refused.told (refused : Refused start state) (runId : RunId) : Told start runId state :=
  refused.imp_right fun before => before.truthful runId

/-- The commit of the checkpoint after which the Run has it as its marker. -/
def commits (checkpoint : Checkpoint) (previous : Option CheckpointRef) : RunOperation :=
  .commitCheckpoint checkpoint.ref previous none none

omit [Sha256] in
theorem commits_ok {checkpoint : Checkpoint} {previousRef : Option CheckpointRef} {version : ℕ}
    {now : DateTime} {run : Run} {transition : RunTransition}
    (applied : (commits checkpoint previousRef).apply run version now = .ok transition) :
    transition.current.latest = some checkpoint.ref ∧
      ∃ workflow, transition.current.kind = .workflow workflow := by
  obtain ⟨workflow, kind, -, -, -, done⟩ := RunStateMachine.commitCheckpoint_ok applied
  rcases done with ⟨same, marked⟩ | ⟨change, ⟨-, rfl⟩, fields⟩
  · rw [same]
    exact ⟨by rw [Run.latest, Run.workflow?_eq_some.mpr kind]; exact marked, workflow, kind⟩
  · refine ⟨?_, _, by rw [fields]⟩
    rw [Run.latest, Run.workflow?, fields]
    rfl

/-- What a failed write and commit leaves: the marker is the checkpoint exactly if a publication
after the commit has raised. -/
structure Failed (start : CoreWorld) (checkpoint : Checkpoint) (state : ReportWorld) : Prop where
  truthful : Truthful start checkpoint.runId state
  marker : state.1.marker checkpoint.runId ≠ some checkpoint.ref ↔ state.2.raised = false

omit [Sha256] in
theorem Before.failed {checkpoint : Checkpoint}
    (unmarked : start.marker checkpoint.runId ≠ some checkpoint.ref)
    (before : Before start state) : Failed start checkpoint state := by
  refine ⟨before.truthful _, fun _ => before.raised, fun _ => ?_⟩
  rw [CoreWorld.marker, before.run?]
  exact unmarked

omit [Sha256] in
theorem Mutated.failed {checkpoint : Checkpoint} {previous : Option CheckpointRef} {version : ℕ}
    {error : Raised} (unmarked : start.marker checkpoint.runId ≠ some checkpoint.ref)
    (mutated : Mutated start checkpoint.runId (commits checkpoint previous) version (.error error)
      state) : Failed start checkpoint state := by
  rcases mutated with before | ⟨raised, committed⟩
  · exact before.failed unmarked
  · refine ⟨committed.truthful raised, ?_⟩
    obtain ⟨_, _, transition, -, applied, -, stored⟩ := committed
    rw [CoreWorld.marker_of_run stored, (commits_ok applied).1, raised]
    simp

theorem report_writeAndCommit (keyed : start.Keyed) (coordinator : CheckpointCoordinator)
    (provider : ProviderId) {checkpoint : Checkpoint} {run : WorkflowRun} (version : ℕ)
    (context : RuntimeCallContext) (own : run.runId = checkpoint.runId)
    (unmarked : start.marker checkpoint.runId ≠ some checkpoint.ref) (held : Held start state) :
    Reporting (coordinator.writeAndCommit provider checkpoint run version context)
      (fun outcome after => match outcome with
        | .ok committed => Mutated start checkpoint.runId
            (commits checkpoint run.latestCheckpointRef) version (.ok committed) after
        | .error _ => after.2.unaudited = true ∨ Failed start checkpoint after) state := by
  have written := report_gatewaySave coordinator.gateway provider checkpoint context held
  refine written.bind (fun _ after held => ?_) fun _ _ refused =>
    refused.imp_right fun before => before.failed unmarked
  have committing : Reporting (RunService.apply checkpoint.runId version
      (commits checkpoint run.latestCheckpointRef).apply) _ after :=
    apply_reports keyed checkpoint.runId _ version held.1
  rw [own]
  refine committing.mono fun outcome last mutated => ?_
  cases outcome with
  | ok committed => exact mutated
  | error error => exact .inr (Mutated.failed unmarked mutated)

/-- The failure that is published is not of a committed marker. -/
theorem report_publishFailure {α : Type} {checkpoint : Checkpoint} (context : RuntimeCallContext)
    (error : Raised) (failed : state.2.unaudited = true ∨ Failed start checkpoint state) :
    Reporting (CheckpointCoordinator.publishFailure checkpoint context error : CoreProgram α)
      (Ends (fun _ _ => False) (Told start checkpoint.runId)) state := by
  have told := failed.imp_right Failed.truthful
  cases error with
  | core detail =>
    have needed : reportedFailure (.checkpointFailed checkpoint detail context) state := by
      intro audited
      refine (failed.resolve_left fun unaudited => ?_).marker
      rw [unaudited] at audited
      cases audited
    have published : Reporting (coreOp (.checkpointFailed checkpoint detail context))
        (Ends (fun _ => Told start checkpoint.runId) (Told start checkpoint.runId)) state := by
      refine report_call needed fun choice _ outcome after answer => ?_
      obtain ⟨rfl, rfl⟩ : choice = outcome ∧ state.1 = after := Prod.mk.inj answer
      cases choice with
      | ok done => exact told
      | error raised => exact told
    have suppressed : Reporting
        (suppressException (coreOp (.checkpointFailed checkpoint detail context)))
        (Ends (fun _ => Told start checkpoint.runId) (Told start checkpoint.runId)) state := by
      refine published.catching (fun _ _ told => told) fun error after told => ?_
      split
      · exact told
      · exact told
    exact suppressed.next fun _ _ told => told
  | _ => exact told

theorem report_workflowRun (runId : RunId) (held : Held start state) :
    Reporting (CheckpointCoordinator.workflowRun runId)
      (Ends (fun run after => Held start after ∧ start.run? runId = some run.toRun)
        (Refused start)) state := by
  refine (report_get runId held.1).bind (fun run after got => ?_) fun _ _ got => .inr got.1
  obtain ⟨before, same, found⟩ := got
  refine Program.safe_checked (fun workflow made => ?_) (.inr before)
  rw [Run.asWorkflow_ok made]
  exact ⟨⟨before, same ▸ held.2⟩, found run rfl⟩

theorem report_nextSequence (coordinator : CheckpointCoordinator) (provider : ProviderId)
    (run : WorkflowRun) (context : RuntimeCallContext) (held : Held start state) :
    Reporting (coordinator.nextSequence provider run context)
      (Ends (fun _ => Held start) (Refused start)) state := by
  unfold CheckpointCoordinator.nextSequence
  split
  · exact held
  · exact (report_load _ _ _ _ _ _ held).next fun _ _ held => held

/-- After a commit only a cancelled publication raises. -/
theorem report_saved {checkpoint : Checkpoint} {operation : RunOperation} {version : ℕ}
    (run : WorkflowRun) (context : RuntimeCallContext)
    (committed : Applied start checkpoint.runId operation version state) :
    Reporting (suppressException (coreOp (.checkpointSaved checkpoint run context)))
      (Ends (fun _ _ => True) (Told start checkpoint.runId)) state := by
  have published : Reporting (coreOp (.checkpointSaved checkpoint run context))
      (fun outcome after => ∀ error, outcome = .error error → error.isException = false →
        Told start checkpoint.runId after) state := by
    refine report_call trivial fun choice _ outcome after answer => ?_
    obtain ⟨rfl, rfl⟩ : choice = outcome ∧ state.1 = after := Prod.mk.inj answer
    intro error raised cancels
    subst raised
    have observed : Reports.observe (.checkpointSaved checkpoint run context) (.error error) state.1
        state.1 state.2 = { state.2 with raised := true } := by
      simp only [Reports.observe, cancels]
      rfl
    rw [observed]
    exact .inr (Applied.truthful committed rfl)
  refine published.catching (fun _ _ _ => trivial) fun error after told => ?_
  split
  · trivial
  · rename_i cancels
    exact told error rfl (by simpa using cancels)

theorem report_save (keyed : start.Keyed) (coordinator : CheckpointCoordinator)
    (provider : ProviderId) (checkpoint : Checkpoint) (version : ℕ) (context : RuntimeCallContext)
    (held : Held start state) :
    Reporting (coordinator.save provider checkpoint version context)
      (Ends (fun _ _ => True) (Told start checkpoint.runId)) state := by
  have told : ∀ {state : ReportWorld}, Held start state → Told start checkpoint.runId state :=
    fun held => .inr (held.1.truthful _)
  refine (report_workflowRun checkpoint.runId held).bind (fun run after read => ?_)
    fun _ _ refused => Refused.told refused _
  obtain ⟨held, found⟩ := read
  have own : run.runId = checkpoint.runId := keyed _ _ found
  refine Program.safe_guarded (told held) fun _ _ => ?_
  split
  · refine (report_load _ _ _ _ _ _ held).bind (fun existing last held => ?_)
      fun _ _ refused => Refused.told refused _
    exact Program.safe_guarded (told held) fun _ _ => trivial
  · rename_i unmarked
    have unmarked : start.marker checkpoint.runId ≠ some checkpoint.ref := by
      rw [CoreWorld.marker_of_run found, WorkflowRun.latest]
      exact unmarked
    refine Program.safe_guarded (told held) fun _ _ => ?_
    refine (report_nextSequence coordinator provider run context held).bind
      (fun sequence last held => ?_) fun _ _ refused => Refused.told refused _
    refine Program.safe_guarded (told held) fun _ _ => ?_
    have committing : Reporting
        ((coordinator.writeAndCommit provider checkpoint run version context).catching
          (CheckpointCoordinator.publishFailure checkpoint context))
        (Ends (fun committed after => Mutated start checkpoint.runId
          (commits checkpoint run.latestCheckpointRef) version (.ok committed) after)
          (Told start checkpoint.runId)) last := by
      refine (report_writeAndCommit keyed coordinator provider version context own unmarked
        held).catching (fun _ _ mutated => mutated) fun error after failed => ?_
      exact (report_publishFailure context error failed).mono fun outcome _ told => by
        cases outcome with
        | ok committed => exact told.elim
        | error error => exact told
    refine committing.next fun committed final mutated => ?_
    obtain ⟨previous, now, transition, found', applied, rfl, done⟩ := mutated
    obtain ⟨marked, workflow, kind⟩ := commits_ok applied
    obtain ⟨result, made⟩ := Run.asWorkflow_of_kind kind
      (.assertion "checkpoint commit did not return WorkflowRun")
    rw [made]
    have changed : Applied start checkpoint.runId (commits checkpoint run.latestCheckpointRef)
        version final := by
      refine done.resolve_left fun same => unmarked ?_
      obtain ⟨-, handed, -⟩ := RunOperation.apply_ok applied
      rw [CoreWorld.marker_of_run found', ← handed, ← same]
      exact marked
    exact (report_saved result context changed).next fun _ _ _ => trivial

end Save

/-- Whatever the publishers do, a mutation or a save that raises has left the stored Run as it
was, and no failure is published for a committed marker. -/
def OutcomesReported : Prop :=
  ∀ start : CoreWorld, start.Keyed →
    (∀ (runId : RunId) (call : RunCall) (error : Raised) (after : ReportWorld),
      Steps reportEnvironment Run (call.program runId, (start, .none)) (.raise error, after) →
      after.1.run? runId = start.run? runId) ∧
    ∀ (coordinator : CheckpointCoordinator) (provider : ProviderId) (checkpoint : Checkpoint)
      (version : ℕ) (context : RuntimeCallContext),
      (∀ (error : Raised) (after : ReportWorld),
        Steps reportEnvironment WorkflowRun
          (coordinator.save provider checkpoint version context, (start, .none))
          (.raise error, after) →
        after.1.run? checkpoint.runId = start.run? checkpoint.runId) ∧
      ∀ (failed : Checkpoint) (detail : ErrorDetail) (context' : RuntimeCallContext)
        (resume : Except Raised Unit → CoreProgram WorkflowRun) (after : ReportWorld),
        Steps reportEnvironment WorkflowRun
          (coordinator.save provider checkpoint version context, (start, .none))
          (.await (.checkpointFailed failed detail context') resume, after) →
        after.1.marker failed.runId ≠ some failed.ref

omit [Sha256] in
theorem held_start (start : CoreWorld) : Held start (start, .none) := ⟨⟨rfl, rfl⟩, rfl⟩

end Reporting

namespace CommitReports

open SampleParameters

theorem sample_keyed : sampleWorld.Keyed := sample_fresh.keyed

/-- The sequence of the event of the new Run state cannot be assigned. -/
def unsequenced : (op : CoreOp) → op.Choice
  | .runStateChanged _ => .error (retryableError .unavailable "event_sequence_failed"
      "event sequence could not be assigned" none eventSequence_required)
  | op => sampleChoice op

def unsequencedSave : CoreProgram WorkflowRun × ReportWorld :=
  executeWhile reportEnvironment (samplePermits false) (fun op _ => unsequenced op) 60
    (sampleCoordinator.save sampleProvider sampleCheckpoint 1 sampleContext, (sampleWorld, .none))

theorem unsequencedSave_steps : Steps reportEnvironment WorkflowRun
    (sampleCoordinator.save sampleProvider sampleCheckpoint 1 sampleContext, (sampleWorld, .none))
    unsequencedSave := by
  apply executeWhile_steps
  intro op state permitted
  cases op with
  | newCheckpointRef => cases permitted
  | checkpointDelete request context => cases permitted
  | runGet runId => exact ⟨trivial, rfl⟩
  | runAdd run => exact ⟨trivial, rfl⟩
  | runCompareAndSet run version => exact ⟨trivial, rfl⟩
  | checkpointList query context => exact ⟨fun _ => .inl rfl, trivial⟩
  | _ => exact ⟨trivial, trivial⟩

end CommitReports

end CongeriesCore
