import CongeriesCore.RuntimeContext

/-! # Runs

The common Run envelope and its pure lifecycle state machine. The constructor of a Run
checks the envelope, so every transition builds its result through it. -/

namespace CongeriesCore

inductive RunStatus
  | created
  | starting
  | contextLoading
  | running
  | waitingApproval
  | paused
  | retrying
  | recovering
  | succeeded
  | failed
  | cancelled
  deriving DecidableEq, Repr

namespace RunStatus

def value : RunStatus → String
  | .created => "created"
  | .starting => "starting"
  | .contextLoading => "context_loading"
  | .running => "running"
  | .waitingApproval => "waiting_approval"
  | .paused => "paused"
  | .retrying => "retrying"
  | .recovering => "recovering"
  | .succeeded => "succeeded"
  | .failed => "failed"
  | .cancelled => "cancelled"

def terminal : RunStatus → Bool
  | .succeeded | .failed | .cancelled => true
  | _ => false

/-- `RunStateMachine._ADVANCE`. -/
def advances : RunStatus → List RunStatus
  | .created => [.starting]
  | .starting => [.contextLoading]
  | .contextLoading => [.running]
  | .running => [.waitingApproval, .recovering]
  | .waitingApproval => [.running]
  | .recovering => [.running]
  | _ => []

/-- The phases a status may continue in; empty where no continuation is kept. -/
def continuations : RunStatus → List RunStatus
  | .paused => [.starting, .contextLoading, .running, .waitingApproval, .recovering]
  | .retrying => [.starting, .contextLoading, .running]
  | _ => []

def pausable : RunStatus → Bool
  | .starting | .contextLoading | .running | .waitingApproval | .retrying | .recovering => true
  | _ => false

end RunStatus

inductive AttemptOutcome
  | succeeded
  | retryableFailure
  | finalFailure
  | cancelled
  | interrupted
  deriving DecidableEq, Repr

inductive AuditFailureMode
  | pause
  | fail
  deriving DecidableEq, Repr

structure RunControlPolicy where
  auditFailureMode : AuditFailureMode := .pause
  deriving DecidableEq, Repr

structure ErrorSummary where
  detail : ErrorDetail
  attempt : ℕ
  occurredAt : DateTime
  positive : 1 ≤ attempt
  deriving DecidableEq, Repr

structure AttemptRecord where
  attempt : ℕ
  startedAt : DateTime
  closed : Option (DateTime × AttemptOutcome)
  checkpointRef : Option CheckpointRef
  error : Option ErrorSummary
  positive : 1 ≤ attempt
  ordered : ∀ pair ∈ closed, startedAt ≤ pair.1
  deriving DecidableEq, Repr

theorem AttemptRecord.unended (startedAt : DateTime) :
    ∀ ending ∈ (none : Option (DateTime × AttemptOutcome)), startedAt ≤ ending.1 := nofun

namespace AttemptRecord

def isOpen (record : AttemptRecord) : Bool := record.closed.isNone

def close (record : AttemptRecord) (outcome : AttemptOutcome) (now : DateTime)
    (error : Option ErrorSummary) : Except Raised AttemptRecord :=
  if !record.isOpen then .error (.value "attempt is already closed")
  else if ordered : record.startedAt ≤ now then
    .ok { record with
      closed := some (now, outcome)
      error := error
      ordered := by simpa using ordered }
  else .error (.value "attempt cannot end before it starts")

end AttemptRecord

/-- What a `WorkflowRun` adds to a Run. -/
structure WorkflowFields where
  workflowId : WorkflowId
  graphVersion : String
  latestCheckpointRef : Option CheckpointRef
  deriving DecidableEq, Repr

/-- What an `AgentRun` adds to a Run. -/
structure AgentFields where
  agentId : AgentId
  modelBindingRef : ModelBindingRef
  deriving DecidableEq, Repr

/-- The subclass of a Run. The field `kind` has to agree with it, so it is not kept apart. -/
inductive RunKind
  | agent (fields : AgentFields)
  | workflow (fields : WorkflowFields)
  deriving DecidableEq, Repr

structure RunFields where
  runId : RunId
  kind : RunKind
  definitionId : DefinitionId
  rootRunId : RunId
  parentRunId : Option RunId
  workspaceId : WorkspaceId
  sessionRef : Option SessionRef
  scope : ScopeRef
  status : RunStatus
  attempt : ℕ
  stateVersion : ℕ
  createdAt : DateTime
  startedAt : Option DateTime
  updatedAt : Option DateTime
  endedAt : Option DateTime
  errorSummary : Option ErrorSummary
  continuationStatus : Option RunStatus
  attemptHistory : List AttemptRecord
  controlPolicy : RunControlPolicy
  deriving DecidableEq, Repr

/-- The index of every open record is the last one's, and its attempt the current one. -/
def RunFields.openLast (fields : RunFields) : Bool :=
  match fields.attemptHistory.reverse with
  | [] => true
  | last :: earlier =>
    earlier.all (fun record => !record.isOpen) && (!last.isOpen || last.attempt == fields.attempt)

/-- `Run.__post_init__` and those of its subclasses. -/
def RunFields.check (fields : RunFields) : Except Raised Unit := do
  requireValue (1 ≤ fields.attempt) "run attempt must be positive"
  requireValue (fields.parentRunId.isSome || fields.rootRunId == fields.runId)
    "root Run must reference itself as root_run_id"
  requireValue (fields.parentRunId != some fields.runId) "Run cannot be its own parent"
  requireValue (!fields.status.terminal || fields.endedAt.isSome) "terminal Run requires ended_at"
  requireValue (fields.status.terminal || fields.endedAt.isNone)
    "non-terminal Run cannot have ended_at"
  requireValue ((fields.attemptHistory.map AttemptRecord.attempt).IsChain (· < ·))
    "attempt history must increase without duplicates"
  requireValue (fields.attemptHistory.getLast?.all fun record => record.attempt ≤ fields.attempt)
    "attempt history cannot exceed the current attempt"
  requireValue fields.openLast "only the current final attempt record may be open"
  if fields.status = .paused ∨ fields.status = .retrying then do
    requireValue fields.continuationStatus.isSome
      "paused or retrying Run requires continuation_status"
    requireValue (fields.continuationStatus.all fun status =>
        fields.status.continuations.contains status)
      "continuation_status is not a resumable phase"
  else
    requireValue fields.continuationStatus.isNone
      "continuation_status is valid only while paused or retrying"
  match fields.kind with
  | .agent _ => pure ()
  | .workflow workflow =>
    requireValue (workflow.graphVersion != "") "WorkflowRun graph_version is required"

structure Run extends RunFields where
  checked : toRunFields.check = .ok ()
  deriving DecidableEq, Repr

def Run.make (fields : RunFields) : Except Raised Run :=
  match checked : fields.check with
  | .ok () => .ok ⟨fields, checked⟩
  | .error error => .error error

theorem Run.make_fields {fields : RunFields} {run : Run} (made : Run.make fields = .ok run) :
    run.toRunFields = fields := by
  unfold Run.make at made
  split at made
  · cases made; rfl
  · cases made

/-- `isinstance(run, WorkflowRun)`. -/
def Run.workflow? (run : Run) : Option WorkflowFields :=
  match run.kind with
  | .workflow fields => some fields
  | .agent _ => none

structure WorkflowRun extends Run where
  workflow : WorkflowFields
  isWorkflow : kind = .workflow workflow
  deriving DecidableEq, Repr

def WorkflowRun.latestCheckpointRef (run : WorkflowRun) : Option CheckpointRef :=
  run.workflow.latestCheckpointRef

/-- The run as a `WorkflowRun`, or the error raised where it is another kind. -/
def Run.asWorkflow (run : Run) (error : Raised) : Except Raised WorkflowRun :=
  match isWorkflow : run.kind with
  | .workflow workflow => .ok { run with workflow, isWorkflow }
  | .agent _ => .error error

theorem Run.workflow?_eq_some {run : Run} {fields : WorkflowFields} :
    run.workflow? = some fields ↔ run.kind = .workflow fields := by
  unfold Run.workflow?
  split
  · rename_i kind
    simp [kind]
  · rename_i kind
    simp [kind]

theorem Run.asWorkflow_ok {run : Run} {error : Raised} {workflow : WorkflowRun}
    (made : run.asWorkflow error = .ok workflow) : workflow.toRun = run := by
  unfold Run.asWorkflow at made
  split at made
  · cases made; rfl
  · cases made

theorem Run.asWorkflow_of_kind {run : Run} {fields : WorkflowFields}
    (kind : run.kind = .workflow fields) (error : Raised) :
    ∃ workflow, run.asWorkflow error = .ok workflow := by
  unfold Run.asWorkflow
  split
  · exact ⟨_, rfl⟩
  · rename_i agent other
    rw [kind] at other
    cases other

theorem WorkflowRun.eq_of_toRun {first second : WorkflowRun} (same : first.toRun = second.toRun) :
    first = second := by
  obtain ⟨run, fields, kind⟩ := first
  obtain ⟨other, others, otherKind⟩ := second
  obtain rfl : run = other := same
  obtain rfl := RunKind.workflow.inj (kind.symm.trans otherKind)
  rfl

structure RunTransition where
  previous : Run
  current : Run
  reason : String
  deriving DecidableEq, Repr

/-- An idempotent transition hands the run back unchanged; any other raises its version. -/
def RunTransition.unchanged (transition : RunTransition) : Bool :=
  transition.current.stateVersion == transition.previous.stateVersion

end CongeriesCore
