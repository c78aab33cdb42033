import CongeriesCore.RuntimeRun

/-! # The run state machine

Pure state transition rules; persistence and publication live elsewhere. A transition
either hands the run back unchanged or raises its version by one. -/

namespace CongeriesCore

theorem Run.attempt_positive (run : Run) : 1 ≤ run.attempt := by
  have checked := run.checked
  by_contra small
  rw [RunFields.check, requireValue, if_neg (by simpa using small)] at checked
  cases checked

namespace RunStateMachine

def staleStateVersion : Raised :=
  retryableError .conflict "stale_state_version"
    "Run state version does not match the expected version"

def checkVersion (run : Run) (expectedVersion : ℕ) : Except Raised Unit :=
  ensure (run.stateVersion == expectedVersion) staleStateVersion

/-- `replace(run, state_version=run.state_version + 1, updated_at=now, **changes)`. -/
def replace (run : Run) (now : DateTime) (changes : RunFields → RunFields) : Except Raised Run :=
  Run.make (changes { run.toRunFields with
    stateVersion := run.stateVersion + 1
    updatedAt := some now })

def illegalMessage (run : Run) (target : RunStatus) : String :=
  "cannot transition Run from " ++ run.status.value ++ " to " ++ target.value

theorem append_ne_empty {first second : String} (nonempty : first ≠ "") : first ++ second ≠ "" := by
  intro empty
  exact nonempty (String.append_eq_empty_iff.mp empty).1

theorem illegalMessage_ne_empty (run : Run) (target : RunStatus) :
    illegalMessage run target ≠ "" :=
  append_ne_empty (append_ne_empty (append_ne_empty (by decide)))

def illegal (run : Run) (target : RunStatus) : Raised :=
  coreError .conflict "illegal_run_transition" (illegalMessage run target)
    ⟨by decide, illegalMessage_ne_empty run target⟩

def attemptRecord (run : Run) (startedAt : DateTime) : AttemptRecord :=
  ⟨run.attempt, startedAt, none, none, none, run.attempt_positive, nofun⟩

def openAttempt (run : Run) (now : DateTime) : List AttemptRecord :=
  if run.attemptHistory.getLast?.any AttemptRecord.isOpen then run.attemptHistory
  else run.attemptHistory ++ [attemptRecord run now]

def closeAttempt (run : Run) (now : DateTime) (outcome : AttemptOutcome)
    (error : Option ErrorSummary := none) : Except Raised (List AttemptRecord) := do
  let history :=
    if run.attemptHistory.getLast?.any AttemptRecord.isOpen then run.attemptHistory
    else run.attemptHistory ++ [attemptRecord run (run.startedAt.getD now)]
  match history.getLast? with
  | none => .error (.other "IndexError")
  | some last => return history.dropLast ++ [← last.close outcome now error]

def start (run : Run) (expectedVersion : ℕ) (now : DateTime) : Except Raised RunTransition := do
  checkVersion run expectedVersion
  if run.status = .starting then
    return ⟨run, run, "start_idempotent"⟩
  else
    ensure (run.status == .created) (illegal run .starting)
    let current ← replace run now fun fields =>
      { fields with
        status := .starting
        startedAt := run.startedAt <|> some now
        attemptHistory := openAttempt run now }
    return ⟨run, current, "start"⟩

def advance (target : RunStatus) (run : Run) (expectedVersion : ℕ) (now : DateTime) :
    Except Raised RunTransition := do
  checkVersion run expectedVersion
  if run.status = target then
    return ⟨run, run, "advance_idempotent"⟩
  else
    ensure (run.status.advances.contains target) (illegal run target)
    let current ← replace run now fun fields =>
      { fields with
        status := target
        attemptHistory :=
          if run.status = .recovering ∧ target = .running then openAttempt run now
          else fields.attemptHistory }
    return ⟨run, current, "advance"⟩

def pause (run : Run) (expectedVersion : ℕ) (now : DateTime) : Except Raised RunTransition := do
  checkVersion run expectedVersion
  if run.status = .paused then
    return ⟨run, run, "pause_idempotent"⟩
  else
    ensure run.status.pausable (illegal run .paused)
    let current ← replace run now fun fields =>
      { fields with
        status := .paused
        continuationStatus :=
          if run.status = .retrying then run.continuationStatus else some run.status }
    return ⟨run, current, "pause"⟩

def resume (run : Run) (expectedVersion : ℕ) (now : DateTime) : Except Raised RunTransition := do
  checkVersion run expectedVersion
  ensure (run.status == .paused) (illegal run .running)
  match run.continuationStatus with
  | none => .error (illegal run .running)
  | some continuation =>
    let current ← replace run now fun fields =>
      { fields with
        status := continuation
        continuationStatus := none
        attemptHistory := openAttempt run now }
    return ⟨run, current, "resume"⟩

def nonRetryableError : Raised :=
  coreError .invalidRequest "non_retryable_error" "retry requires a retryable error"

def retry (error : ErrorDetail) (run : Run) (expectedVersion : ℕ) (now : DateTime) :
    Except Raised RunTransition := do
  checkVersion run expectedVersion
  ensure error.retryable nonRetryableError
  ensure ([RunStatus.starting, .contextLoading, .running].contains run.status)
    (illegal run .retrying)
  let summary : ErrorSummary := ⟨error, run.attempt, now, run.attempt_positive⟩
  let history ← closeAttempt run now .retryableFailure (some summary)
  let current ← replace run now fun fields =>
    { fields with
      status := .retrying
      attempt := run.attempt + 1
      continuationStatus := some run.status
      errorSummary := some summary
      attemptHistory := history }
  return ⟨run, current, "retry"⟩

def redispatchRetry (run : Run) (expectedVersion : ℕ) (now : DateTime) :
    Except Raised RunTransition := do
  checkVersion run expectedVersion
  ensure (run.status == .retrying) (illegal run .running)
  match run.continuationStatus with
  | none => .error (illegal run .running)
  | some continuation =>
    let current ← replace run now fun fields =>
      { fields with
        status := continuation
        continuationStatus := none
        attemptHistory := openAttempt run now }
    return ⟨run, current, "retry_redispatch"⟩

/-- The checkpoint a recovery starts from. -/
def recoverySource (run : Run) (checkpointRef : Option CheckpointRef) :
    Except Raised (Option CheckpointRef) :=
  match run.workflow? with
  | none => .ok checkpointRef
  | some workflow =>
    match checkpointRef <|> workflow.latestCheckpointRef with
    | none => .error (coreError .invalidRequest "missing_recovery_checkpoint"
        "Workflow recovery requires a committed checkpoint marker")
    | some source => .ok (some source)

def recover (checkpointRef : Option CheckpointRef) (run : Run) (expectedVersion : ℕ)
    (now : DateTime) : Except Raised RunTransition := do
  checkVersion run expectedVersion
  let source ← recoverySource run checkpointRef
  if run.status = .recovering then
    let currentSource := run.attemptHistory.getLast?.bind fun last =>
      if last.isOpen then last.checkpointRef else none
    ensure (currentSource == source) (coreError .conflict "recovery_source_conflict"
      "Run is already recovering from a different checkpoint")
    return ⟨run, run, "recover_idempotent"⟩
  else
    ensure (!run.status.terminal && run.status != .created) (illegal run .recovering)
    let history ← closeAttempt run now .interrupted
    let current ← replace run now fun fields =>
      { fields with
        status := .recovering
        attempt := run.attempt + 1
        continuationStatus := none
        attemptHistory := history ++
          [⟨run.attempt + 1, now, none, source, none, Nat.le_add_left 1 _, nofun⟩] }
    return ⟨run, current, "recover"⟩

def checkpointRequiresWorkflowRun : Raised :=
  coreError .invalidRequest "checkpoint_requires_workflow_run"
    "only WorkflowRun may commit a checkpoint"

def commitCheckpoint (checkpointRef : CheckpointRef) (expectedPreviousRef : Option CheckpointRef)
    (definitionId : Option DefinitionId) (graphVersion : Option String) (run : Run)
    (expectedVersion : ℕ) (now : DateTime) : Except Raised RunTransition := do
  checkVersion run expectedVersion
  match run.workflow? with
  | none => .error checkpointRequiresWorkflowRun
  | some workflow =>
    ensure (!run.status.terminal) (coreError .conflict "terminal_checkpoint_commit"
      "terminal WorkflowRun cannot advance its checkpoint marker")
    let targetDefinition := definitionId.getD run.definitionId
    let targetGraphVersion := (graphVersion.filter (· != "")).getD workflow.graphVersion
    if workflow.latestCheckpointRef = some checkpointRef ∧ run.definitionId = targetDefinition ∧
        workflow.graphVersion = targetGraphVersion then
      return ⟨run, run, "checkpoint_commit_idempotent"⟩
    else
      ensure (workflow.latestCheckpointRef == expectedPreviousRef)
        (retryableError .conflict "stale_checkpoint_marker"
          "WorkflowRun checkpoint marker does not match the expected reference")
      let current ← replace run now fun fields =>
        { fields with
          definitionId := targetDefinition
          kind := .workflow { workflow with
            graphVersion := targetGraphVersion
            latestCheckpointRef := some checkpointRef } }
      let reason :=
        if targetDefinition ≠ run.definitionId ∨ targetGraphVersion ≠ workflow.graphVersion then
          "checkpoint_migration_commit"
        else "checkpoint_commit"
      return ⟨run, current, reason⟩

def complete (run : Run) (expectedVersion : ℕ) (now : DateTime) : Except Raised RunTransition := do
  checkVersion run expectedVersion
  if run.status = .succeeded then
    return ⟨run, run, "complete_idempotent"⟩
  else
    ensure (run.status == .running) (illegal run .succeeded)
    let history ← closeAttempt run now .succeeded
    let current ← replace run now fun fields =>
      { fields with
        status := .succeeded
        endedAt := some now
        attemptHistory := history }
    return ⟨run, current, "complete"⟩

def fail (error : ErrorDetail) (run : Run) (expectedVersion : ℕ) (now : DateTime) :
    Except Raised RunTransition := do
  checkVersion run expectedVersion
  if run.status = .failed then
    return ⟨run, run, "fail_idempotent"⟩
  else
    ensure (!run.status.terminal) (illegal run .failed)
    let summary : ErrorSummary := ⟨error, run.attempt, now, run.attempt_positive⟩
    let history ← closeAttempt run now .finalFailure (some summary)
    let current ← replace run now fun fields =>
      { fields with
        status := .failed
        endedAt := some now
        continuationStatus := none
        errorSummary := some summary
        attemptHistory := history }
    return ⟨run, current, "fail"⟩

def cancel (run : Run) (expectedVersion : ℕ) (now : DateTime) : Except Raised RunTransition := do
  checkVersion run expectedVersion
  if run.status = .cancelled then
    return ⟨run, run, "cancel_idempotent"⟩
  else
    ensure (!run.status.terminal) (illegal run .cancelled)
    let history ← closeAttempt run now .cancelled
    let current ← replace run now fun fields =>
      { fields with
        status := .cancelled
        endedAt := some now
        continuationStatus := none
        attemptHistory := history }
    return ⟨run, current, "cancel"⟩

/-! ### What a transition can do -/

theorem replace_fields {run current : Run} {now : DateTime} {changes : RunFields → RunFields}
    (replaced : replace run now changes = .ok current) :
    current.toRunFields = changes { run.toRunFields with
      stateVersion := run.stateVersion + 1
      updatedAt := some now } :=
  Run.make_fields replaced

theorem checkVersion_ok {run : Run} {expectedVersion : ℕ} {done : Unit}
    (checked : checkVersion run expectedVersion = .ok done) : run.stateVersion = expectedVersion := by
  simpa [checkVersion] using checked

/-- A successful mutation of `run`: idempotent under `same`, or by the given changes. -/
def Outcome (run : Run) (expectedVersion : ℕ) (now : DateTime) (transition : RunTransition)
    (same : Prop) (changes : (RunFields → RunFields) → Prop) : Prop :=
  transition.previous = run ∧ run.stateVersion = expectedVersion ∧
    (transition.current = run ∧ same ∨
      ∃ change, changes change ∧ transition.current.toRunFields = change { run.toRunFields with
        stateVersion := run.stateVersion + 1
        updatedAt := some now })

variable {run : Run} {expectedVersion : ℕ} {now : DateTime} {transition : RunTransition}

theorem start_ok (done : start run expectedVersion now = .ok transition) :
    Outcome run expectedVersion now transition (run.status = .starting) fun change =>
      run.status = .created ∧ change = fun fields => { fields with
        status := .starting
        startedAt := run.startedAt <|> some now
        attemptHistory := openAttempt run now } := by
  obtain ⟨_, checked, rest⟩ := bind_ok done
  have version := checkVersion_ok checked
  split at rest
  · rename_i same
    cases rest
    exact ⟨rfl, version, .inl ⟨rfl, same⟩⟩
  · obtain ⟨_, legal, rest⟩ := bind_ok rest
    obtain ⟨current, replaced, made⟩ := bind_ok rest
    cases made
    exact ⟨rfl, version, .inr ⟨_, ⟨by simpa using legal, rfl⟩, replace_fields replaced⟩⟩

theorem advance_ok {target : RunStatus}
    (done : advance target run expectedVersion now = .ok transition) :
    Outcome run expectedVersion now transition (run.status = target) fun change =>
      target ∈ run.status.advances ∧ change = fun fields => { fields with
        status := target
        attemptHistory :=
          if run.status = .recovering ∧ target = .running then openAttempt run now
          else fields.attemptHistory } := by
  obtain ⟨_, checked, rest⟩ := bind_ok done
  have version := checkVersion_ok checked
  split at rest
  · rename_i same
    cases rest
    exact ⟨rfl, version, .inl ⟨rfl, same⟩⟩
  · obtain ⟨_, legal, rest⟩ := bind_ok rest
    obtain ⟨current, replaced, made⟩ := bind_ok rest
    cases made
    exact ⟨rfl, version, .inr ⟨_, ⟨by simpa using legal, rfl⟩, replace_fields replaced⟩⟩

theorem pause_ok (done : pause run expectedVersion now = .ok transition) :
    Outcome run expectedVersion now transition (run.status = .paused) fun change =>
      run.status.pausable = true ∧ change = fun fields => { fields with
        status := .paused
        continuationStatus :=
          if run.status = .retrying then run.continuationStatus else some run.status } := by
  obtain ⟨_, checked, rest⟩ := bind_ok done
  have version := checkVersion_ok checked
  split at rest
  · rename_i same
    cases rest
    exact ⟨rfl, version, .inl ⟨rfl, same⟩⟩
  · obtain ⟨_, legal, rest⟩ := bind_ok rest
    obtain ⟨current, replaced, made⟩ := bind_ok rest
    cases made
    exact ⟨rfl, version, .inr ⟨_, ⟨by simpa using legal, rfl⟩, replace_fields replaced⟩⟩

theorem resume_ok (done : resume run expectedVersion now = .ok transition) :
    Outcome run expectedVersion now transition False fun change =>
      run.status = .paused ∧ ∃ continuation, run.continuationStatus = some continuation ∧
        change = fun fields => { fields with
          status := continuation
          continuationStatus := none
          attemptHistory := openAttempt run now } := by
  obtain ⟨_, checked, rest⟩ := bind_ok done
  have version := checkVersion_ok checked
  obtain ⟨_, legal, rest⟩ := bind_ok rest
  split at rest
  · cases rest
  · rename_i continuation kept
    obtain ⟨current, replaced, made⟩ := bind_ok rest
    cases made
    exact ⟨rfl, version, .inr ⟨_, ⟨by simpa using legal, _, kept, rfl⟩, replace_fields replaced⟩⟩

theorem retry_ok {error : ErrorDetail} (done : retry error run expectedVersion now = .ok transition) :
    Outcome run expectedVersion now transition False fun change =>
      run.status ∈ [RunStatus.starting, .contextLoading, .running] ∧ ∃ summary history,
        closeAttempt run now .retryableFailure (some summary) = .ok history ∧
        change = fun fields => { fields with
          status := .retrying
          attempt := run.attempt + 1
          continuationStatus := some run.status
          errorSummary := some summary
          attemptHistory := history } := by
  obtain ⟨_, checked, rest⟩ := bind_ok done
  have version := checkVersion_ok checked
  obtain ⟨_, _, rest⟩ := bind_ok rest
  obtain ⟨_, legal, rest⟩ := bind_ok rest
  obtain ⟨history, closed, rest⟩ := bind_ok rest
  obtain ⟨current, replaced, made⟩ := bind_ok rest
  cases made
  exact ⟨rfl, version, .inr ⟨_, ⟨by simpa using legal, _, _, closed, rfl⟩, replace_fields replaced⟩⟩

theorem redispatchRetry_ok (done : redispatchRetry run expectedVersion now = .ok transition) :
    Outcome run expectedVersion now transition False fun change =>
      run.status = .retrying ∧ ∃ continuation, run.continuationStatus = some continuation ∧
        change = fun fields => { fields with
          status := continuation
          continuationStatus := none
          attemptHistory := openAttempt run now } := by
  obtain ⟨_, checked, rest⟩ := bind_ok done
  have version := checkVersion_ok checked
  obtain ⟨_, legal, rest⟩ := bind_ok rest
  split at rest
  · cases rest
  · rename_i continuation kept
    obtain ⟨current, replaced, made⟩ := bind_ok rest
    cases made
    exact ⟨rfl, version, .inr ⟨_, ⟨by simpa using legal, _, kept, rfl⟩, replace_fields replaced⟩⟩

theorem recover_ok {checkpointRef : Option CheckpointRef}
    (done : recover checkpointRef run expectedVersion now = .ok transition) :
    Outcome run expectedVersion now transition (run.status = .recovering) fun change =>
      run.status.terminal = false ∧ run.status ≠ .created ∧ ∃ source history,
        recoverySource run checkpointRef = .ok source ∧
        closeAttempt run now .interrupted = .ok history ∧
        change = fun fields => { fields with
          status := .recovering
          attempt := run.attempt + 1
          continuationStatus := none
          attemptHistory := history ++
            [⟨run.attempt + 1, now, none, source, none, Nat.le_add_left 1 _, nofun⟩] } := by
  obtain ⟨_, checked, rest⟩ := bind_ok done
  have version := checkVersion_ok checked
  obtain ⟨source, given, rest⟩ := bind_ok rest
  split at rest
  · rename_i same
    obtain ⟨_, _, made⟩ := bind_ok rest
    cases made
    exact ⟨rfl, version, .inl ⟨rfl, same⟩⟩
  · obtain ⟨_, legal, rest⟩ := bind_ok rest
    obtain ⟨history, closed, rest⟩ := bind_ok rest
    obtain ⟨current, replaced, made⟩ := bind_ok rest
    cases made
    have legal : run.status.terminal = false ∧ run.status ≠ .created := by simpa using legal
    exact ⟨rfl, version, .inr ⟨_, ⟨legal.1, legal.2, _, _, given, closed, rfl⟩,
      replace_fields replaced⟩⟩

theorem commitCheckpoint_ok {checkpointRef : CheckpointRef}
    {expectedPreviousRef : Option CheckpointRef} {definitionId : Option DefinitionId}
    {graphVersion : Option String}
    (done : commitCheckpoint checkpointRef expectedPreviousRef definitionId graphVersion run
      expectedVersion now = .ok transition) :
    ∃ workflow, run.kind = .workflow workflow ∧ run.status.terminal = false ∧
      Outcome run expectedVersion now transition
        (workflow.latestCheckpointRef = some checkpointRef) fun change =>
          workflow.latestCheckpointRef = expectedPreviousRef ∧ change = fun fields => { fields with
            definitionId := definitionId.getD run.definitionId
            kind := .workflow { workflow with
              graphVersion := (graphVersion.filter (· != "")).getD workflow.graphVersion
              latestCheckpointRef := some checkpointRef } } := by
  obtain ⟨_, checked, rest⟩ := bind_ok done
  have version := checkVersion_ok checked
  split at rest
  · cases rest
  · rename_i workflow isWorkflow
    have kind : run.kind = .workflow workflow := Run.workflow?_eq_some.mp isWorkflow
    obtain ⟨_, running, rest⟩ := bind_ok rest
    refine ⟨workflow, kind, by simpa using running, ?_⟩
    dsimp only at rest
    split at rest
    · rename_i same
      cases rest
      exact ⟨rfl, version, .inl ⟨rfl, same.1⟩⟩
    · obtain ⟨_, marker, rest⟩ := bind_ok rest
      obtain ⟨current, replaced, made⟩ := bind_ok rest
      cases made
      exact ⟨rfl, version, .inr ⟨_, ⟨by simpa using marker, rfl⟩, replace_fields replaced⟩⟩

theorem complete_ok (done : complete run expectedVersion now = .ok transition) :
    Outcome run expectedVersion now transition (run.status = .succeeded) fun change =>
      run.status = .running ∧ ∃ history, closeAttempt run now .succeeded = .ok history ∧
        change = fun fields => { fields with
          status := .succeeded
          endedAt := some now
          attemptHistory := history } := by
  obtain ⟨_, checked, rest⟩ := bind_ok done
  have version := checkVersion_ok checked
  split at rest
  · rename_i same
    cases rest
    exact ⟨rfl, version, .inl ⟨rfl, same⟩⟩
  · obtain ⟨_, legal, rest⟩ := bind_ok rest
    obtain ⟨history, closed, rest⟩ := bind_ok rest
    obtain ⟨current, replaced, made⟩ := bind_ok rest
    cases made
    exact ⟨rfl, version, .inr ⟨_, ⟨by simpa using legal, _, closed, rfl⟩, replace_fields replaced⟩⟩

theorem fail_ok {error : ErrorDetail} (done : fail error run expectedVersion now = .ok transition) :
    Outcome run expectedVersion now transition (run.status = .failed) fun change =>
      run.status.terminal = false ∧ ∃ summary history, summary.detail = error ∧
        closeAttempt run now .finalFailure (some summary) = .ok history ∧
        change = fun fields => { fields with
          status := .failed
          endedAt := some now
          continuationStatus := none
          errorSummary := some summary
          attemptHistory := history } := by
  obtain ⟨_, checked, rest⟩ := bind_ok done
  have version := checkVersion_ok checked
  split at rest
  · rename_i same
    cases rest
    exact ⟨rfl, version, .inl ⟨rfl, same⟩⟩
  · obtain ⟨_, legal, rest⟩ := bind_ok rest
    obtain ⟨history, closed, rest⟩ := bind_ok rest
    obtain ⟨current, replaced, made⟩ := bind_ok rest
    cases made
    refine ⟨rfl, version, .inr ⟨_, ⟨by simpa using legal, _, _, ?_, closed, rfl⟩,
      replace_fields replaced⟩⟩
    rfl

theorem cancel_ok (done : cancel run expectedVersion now = .ok transition) :
    Outcome run expectedVersion now transition (run.status = .cancelled) fun change =>
      run.status.terminal = false ∧ ∃ history, closeAttempt run now .cancelled = .ok history ∧
        change = fun fields => { fields with
          status := .cancelled
          endedAt := some now
          continuationStatus := none
          attemptHistory := history } := by
  obtain ⟨_, checked, rest⟩ := bind_ok done
  have version := checkVersion_ok checked
  split at rest
  · rename_i same
    cases rest
    exact ⟨rfl, version, .inl ⟨rfl, same⟩⟩
  · obtain ⟨_, legal, rest⟩ := bind_ok rest
    obtain ⟨history, closed, rest⟩ := bind_ok rest
    obtain ⟨current, replaced, made⟩ := bind_ok rest
    cases made
    exact ⟨rfl, version, .inr ⟨_, ⟨by simpa using legal, _, closed, rfl⟩, replace_fields replaced⟩⟩

end RunStateMachine

end CongeriesCore
