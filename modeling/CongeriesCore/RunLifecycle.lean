import CongeriesCore.RunStateMachine
import CongeriesCore.SampleParameters
import Mathlib.Data.List.Chain

/-! # Run lifecycles

What holds of a run after any operations of the state machine. The attempt history keeps one
closed record for each earlier attempt, then at most one of the current attempt. -/

namespace CongeriesCore

def RunKind.value : RunKind → String
  | .agent _ => "agent"
  | .workflow _ => "workflow"

/-- A run as the `create_*` functions make it; `runId` is what `RunId.new()` gave. -/
def createRun (runId : RunId) (kind : RunKind) (definitionId : DefinitionId) (rootRunId : RunId)
    (parentRunId : Option RunId) (workspaceId : WorkspaceId) (sessionRef : Option SessionRef)
    (scope : ScopeRef) (createdAt : DateTime) (controlPolicy : RunControlPolicy) :
    Except Raised Run :=
  Run.make {
    runId, kind, definitionId, rootRunId, parentRunId, workspaceId, sessionRef, scope
    status := .created
    attempt := 1
    stateVersion := 0
    createdAt
    startedAt := none
    updatedAt := some createdAt
    endedAt := none
    errorSummary := none
    continuationStatus := none
    attemptHistory := []
    controlPolicy }

def createRootAgentRun (definitionId : DefinitionId) (agentId : AgentId)
    (modelBindingRef : ModelBindingRef) (workspaceId : WorkspaceId) (scope : ScopeRef)
    (createdAt : DateTime) (sessionRef : Option SessionRef)
    (controlPolicy : Option RunControlPolicy) (runId : RunId) : Except Raised Run :=
  createRun runId (.agent ⟨agentId, modelBindingRef⟩) definitionId runId none workspaceId sessionRef
    scope createdAt (controlPolicy.getD {})

def createRootWorkflowRun (definitionId : DefinitionId) (workflowId : WorkflowId)
    (graphVersion : String) (workspaceId : WorkspaceId) (scope : ScopeRef) (createdAt : DateTime)
    (sessionRef : Option SessionRef) (controlPolicy : Option RunControlPolicy) (runId : RunId) :
    Except Raised Run :=
  createRun runId (.workflow ⟨workflowId, graphVersion, none⟩) definitionId runId none workspaceId
    sessionRef scope createdAt (controlPolicy.getD {})

def createChildAgentRun (parent : WorkflowRun) (definitionId : DefinitionId) (agentId : AgentId)
    (modelBindingRef : ModelBindingRef) (scope : ScopeRef) (createdAt : DateTime)
    (runId : RunId) : Except Raised Run := do
  ensure (!parent.status.terminal) (coreError .conflict "terminal_parent"
    "a terminal WorkflowRun cannot create a child AgentRun")
  scope.requireNarrowerThan parent.scope
  createRun runId (.agent ⟨agentId, modelBindingRef⟩) definitionId parent.rootRunId
    (some parent.runId) parent.workspaceId parent.sessionRef scope createdAt parent.controlPolicy

/-- The run is one that a `create_*` function returned. -/
inductive Created : Run → Prop
  | rootAgent {definitionId agentId modelBindingRef workspaceId scope createdAt sessionRef
      controlPolicy runId run} (made : createRootAgentRun definitionId agentId modelBindingRef
        workspaceId scope createdAt sessionRef controlPolicy runId = .ok run) : Created run
  | rootWorkflow {definitionId workflowId graphVersion workspaceId scope createdAt sessionRef
      controlPolicy runId run} (made : createRootWorkflowRun definitionId workflowId graphVersion
        workspaceId scope createdAt sessionRef controlPolicy runId = .ok run) : Created run
  | childAgent {parent definitionId agentId modelBindingRef scope createdAt runId run}
      (made : createChildAgentRun parent definitionId agentId modelBindingRef scope createdAt
        runId = .ok run) : Created run

/-- The operations of `RunStateMachine` with their own arguments. -/
inductive RunOperation
  | start
  | advance (target : RunStatus)
  | pause
  | resume
  | retry (error : ErrorDetail)
  | redispatchRetry
  | recover (checkpointRef : Option CheckpointRef)
  | commitCheckpoint (checkpointRef : CheckpointRef) (expectedPreviousRef : Option CheckpointRef)
      (definitionId : Option DefinitionId) (graphVersion : Option String)
  | complete
  | fail (error : ErrorDetail)
  | cancel

def RunOperation.apply : RunOperation → Run → ℕ → DateTime → Except Raised RunTransition
  | .start => RunStateMachine.start
  | .advance target => RunStateMachine.advance target
  | .pause => RunStateMachine.pause
  | .resume => RunStateMachine.resume
  | .retry error => RunStateMachine.retry error
  | .redispatchRetry => RunStateMachine.redispatchRetry
  | .recover checkpointRef => RunStateMachine.recover checkpointRef
  | .commitCheckpoint checkpointRef expectedPreviousRef definitionId graphVersion =>
    RunStateMachine.commitCheckpoint checkpointRef expectedPreviousRef definitionId graphVersion
  | .complete => RunStateMachine.complete
  | .fail error => RunStateMachine.fail error
  | .cancel => RunStateMachine.cancel

/-- `Operated run last current now`: operations that were given times from `last` on, the last
one `now`, have turned `run` into `current`. -/
inductive Operated (run : Run) (last : DateTime) : Run → DateTime → Prop
  | refl : Operated run last run last
  | step {current : Run} {before now : DateTime} {operation : RunOperation} {version : ℕ}
      {transition : RunTransition} (operated : Operated run last current before)
      (later : before ≤ now) (applied : operation.apply current version now = .ok transition) :
      Operated run last transition.current now

/-- What the constructors check. -/
structure RunFields.Sound (fields : RunFields) : Prop where
  positive : 1 ≤ fields.attempt
  root : fields.parentRunId.isSome = true ∨ fields.rootRunId = fields.runId
  parent : fields.parentRunId ≠ some fields.runId
  ended : fields.endedAt.isSome = fields.status.terminal
  increasing : (fields.attemptHistory.map AttemptRecord.attempt).IsChain (· < ·)
  bounded : ∀ record ∈ fields.attemptHistory.getLast?, record.attempt ≤ fields.attempt
  openLast : fields.openLast = true
  continues : fields.status = .paused ∨ fields.status = .retrying →
    ∃ phase ∈ fields.continuationStatus, phase ∈ fields.status.continuations
  settled : ¬ (fields.status = .paused ∨ fields.status = .retrying) →
    fields.continuationStatus = none
  graph : ∀ workflow, fields.kind = .workflow workflow → workflow.graphVersion ≠ ""

theorem requireValue_bind {α : Type} {condition : Bool} {message : String}
    {rest : Unit → Except Raised α} {value : α} :
    (requireValue condition message >>= rest) = .ok value ↔
      condition = true ∧ rest () = .ok value := by
  cases condition with
  | true => exact ⟨fun done => ⟨rfl, done⟩, fun done => done.2⟩
  | false => exact ⟨nofun, nofun⟩

theorem RunFields.check_graph {kind : RunKind} :
    (match kind with
      | .agent _ => pure ()
      | .workflow workflow =>
        requireValue (workflow.graphVersion != "") "WorkflowRun graph_version is required" :
      Except Raised Unit) = .ok () ↔
      ∀ workflow, kind = .workflow workflow → workflow.graphVersion ≠ "" := by
  cases kind with
  | agent fields => simp [pure, Except.pure]
  | workflow fields => simp

theorem RunFields.check_ended {terminal : Bool} {endedAt : Option DateTime} :
    endedAt.isSome = terminal ↔
      (!terminal || endedAt.isSome) = true ∧ (terminal || endedAt.isNone) = true := by
  cases terminal <;> cases endedAt <;> simp

theorem RunFields.check_bounded {history : List AttemptRecord} {attempt : ℕ} :
    (∀ record ∈ history.getLast?, record.attempt ≤ attempt) ↔
      history.getLast?.all (fun record => record.attempt ≤ attempt) = true := by
  cases history.getLast? <;> simp

theorem RunFields.check_eq_ok {fields : RunFields} : fields.check = .ok () ↔ fields.Sound := by
  unfold check
  simp only [requireValue_bind]
  by_cases keeps : fields.status = .paused ∨ fields.status = .retrying
  · simp only [if_pos keeps, requireValue_bind]
    constructor
    · rintro ⟨positive, root, parent, terminal, active, increasing, bounded, openLast, kept, allowed,
        graph⟩
      obtain ⟨phase, kept⟩ := Option.isSome_iff_exists.mp kept
      exact ⟨by simpa using positive, by simpa using root, by simpa using parent,
        check_ended.mpr ⟨terminal, active⟩, by simpa using increasing, check_bounded.mpr bounded,
        openLast, fun _ => ⟨phase, kept, by simpa [kept] using allowed⟩,
        fun other => absurd keeps other, check_graph.mp graph⟩
    · intro sound
      obtain ⟨phase, kept, allowed⟩ := sound.continues keeps
      have kept : fields.continuationStatus = some phase := kept
      obtain ⟨terminal, active⟩ := check_ended.mp sound.ended
      exact ⟨by simpa using sound.positive, by simpa using sound.root, by simpa using sound.parent,
        terminal, active, by simpa using sound.increasing, check_bounded.mp sound.bounded,
        sound.openLast, by simp [kept], by simpa [kept] using allowed, check_graph.mpr sound.graph⟩
  · simp only [if_neg keeps, requireValue_bind]
    constructor
    · rintro ⟨positive, root, parent, terminal, active, increasing, bounded, openLast, none, graph⟩
      exact ⟨by simpa using positive, by simpa using root, by simpa using parent,
        check_ended.mpr ⟨terminal, active⟩, by simpa using increasing, check_bounded.mpr bounded,
        openLast, fun kept => absurd kept keeps, fun _ => by simpa using none,
        check_graph.mp graph⟩
    · intro sound
      obtain ⟨terminal, active⟩ := check_ended.mp sound.ended
      exact ⟨by simpa using sound.positive, by simpa using sound.root, by simpa using sound.parent,
        terminal, active, by simpa using sound.increasing, check_bounded.mp sound.bounded,
        sound.openLast, by simp [sound.settled keeps], check_graph.mpr sound.graph⟩

theorem Run.sound (run : Run) : run.Sound := RunFields.check_eq_ok.mp run.checked

theorem Run.make_sound {fields : RunFields} (sound : fields.Sound) :
    ∃ run, Run.make fields = .ok run ∧ run.toRunFields = fields := by
  unfold Run.make
  split
  · exact ⟨_, rfl, rfl⟩
  · rename_i error failed
    rw [RunFields.check_eq_ok.mpr sound] at failed
    cases failed

/-! ### The attempt history -/

/-- One closed record for each attempt before `attempt`, then perhaps one of that attempt. -/
structure Attempts (attempt : ℕ) (earlier : List AttemptRecord) (current : Option AttemptRecord)
    (history : List AttemptRecord) : Prop where
  split : history = earlier ++ current.toList
  closed : ∀ record ∈ earlier, record.isOpen = false
  numbered : earlier.map AttemptRecord.attempt = List.range' 1 (attempt - 1)
  own : ∀ record ∈ current, record.attempt = attempt

/-- What the operations keep: the history, and that nothing in it lies after `last`. -/
structure RunFields.Kept (fields : RunFields) (last : DateTime) : Prop where
  attempts : ∃ earlier current, Attempts fields.attempt earlier current fields.attemptHistory ∧
    (fields.status.terminal = false →
      ∀ record ∈ current, record.isOpen = true ∧ record.startedAt ≤ last)
  started : ∀ time ∈ fields.startedAt, time ≤ last

/-- The attempts `1..k` in order with the current one last or not yet there; only the last
record, of the current attempt, may be open. -/
structure RunFields.NumberedHistory (fields : RunFields) : Prop where
  numbered : ∃ k, (k = fields.attempt ∨ k + 1 = fields.attempt) ∧
    fields.attemptHistory.map AttemptRecord.attempt = List.range' 1 k
  oneOpen : ∀ index record, fields.attemptHistory[index]? = some record → record.isOpen = true →
    index + 1 = fields.attemptHistory.length ∧ record.attempt = fields.attempt

namespace Attempts

variable {attempt : ℕ} {earlier history : List AttemptRecord} {current : Option AttemptRecord}

theorem map_attempt (attempts : Attempts attempt earlier current history) (positive : 1 ≤ attempt) :
    ∃ k, (k = attempt ∨ k + 1 = attempt) ∧
      history.map AttemptRecord.attempt = List.range' 1 k := by
  obtain ⟨split, -, numbered, own⟩ := attempts
  obtain ⟨before, rfl⟩ : ∃ before, attempt = before + 1 := ⟨attempt - 1, by omega⟩
  rw [Nat.add_sub_cancel] at numbered
  cases current with
  | none => exact ⟨before, .inr rfl, by simpa [split] using numbered⟩
  | some record =>
    refine ⟨before + 1, .inl rfl, ?_⟩
    rw [split, List.map_append, numbered, List.range'_1_concat]
    simp [own record rfl, Nat.add_comm]

theorem open_last (attempts : Attempts attempt earlier current history) {index : ℕ}
    {record : AttemptRecord} (found : history[index]? = some record) (isOpen : record.isOpen = true) :
    index + 1 = history.length ∧ record.attempt = attempt := by
  rw [attempts.split] at found ⊢
  by_cases inside : index < earlier.length
  · rw [List.getElem?_append_left inside] at found
    have closed := attempts.closed record (List.mem_of_getElem? found)
    rw [isOpen] at closed
    cases closed
  · rw [List.getElem?_append_right (by omega)] at found
    cases current with
    | none => simp at found
    | some last =>
      have first : index - earlier.length = 0 := by
        by_contra other
        rw [List.getElem?_eq_none (by simp; omega)] at found
        cases found
      rw [first] at found
      obtain rfl : last = record := by simpa using found
      exact ⟨by simp; omega, attempts.own last rfl⟩

theorem increasing (attempts : Attempts attempt earlier current history) (positive : 1 ≤ attempt) :
    (history.map AttemptRecord.attempt).IsChain (· < ·) := by
  obtain ⟨k, -, numbered⟩ := attempts.map_attempt positive
  rw [numbered]
  exact List.Pairwise.isChain (List.pairwise_lt_range' 1)

theorem bounded (attempts : Attempts attempt earlier current history) (positive : 1 ≤ attempt) :
    ∀ record ∈ history.getLast?, record.attempt ≤ attempt := by
  intro record last
  obtain ⟨k, current, numbered⟩ := attempts.map_attempt positive
  have member : record.attempt ∈ history.map AttemptRecord.attempt :=
    List.mem_map.mpr ⟨record, List.mem_of_getLast? last, rfl⟩
  rw [numbered, List.mem_range'_1] at member
  omega

theorem openLast {fields : RunFields}
    (attempts : Attempts fields.attempt earlier current fields.attemptHistory) :
    fields.openLast = true := by
  obtain ⟨split, closed, -, own⟩ := attempts
  unfold RunFields.openLast
  rw [split]
  cases current with
  | none =>
    cases reversed : earlier.reverse with
    | nil => simp [reversed]
    | cons last rest =>
      have all : ∀ record ∈ last :: rest, record.isOpen = false := by
        intro record member
        rw [← reversed] at member
        exact closed record (List.mem_reverse.mp member)
      simp only [Option.toList_none, List.append_nil, reversed]
      simp [all last (by simp)]
      exact fun record member => all record (by simp [member])
  | some last =>
    simp only [Option.toList_some, List.reverse_append, List.reverse_singleton, List.singleton_append]
    simp [own last rfl]
    exact fun record member => closed record member

/-- An attempt that has ended is one of the earlier ones. -/
theorem next {record : AttemptRecord} (attempts : Attempts attempt earlier (some record) history)
    (positive : 1 ≤ attempt) (closed : record.isOpen = false) :
    Attempts (attempt + 1) history none history := by
  have ended : ∀ other ∈ history, other.isOpen = false := by
    intro other member
    rw [attempts.split] at member
    rcases List.mem_append.mp member with before | last
    · exact attempts.closed other before
    · have same : other = record := by simpa using last
      rw [same, closed]
  have numbers : history.map AttemptRecord.attempt = List.range' 1 attempt := by
    obtain ⟨before, rfl⟩ : ∃ before, attempt = before + 1 := ⟨attempt - 1, by omega⟩
    have numbered := attempts.numbered
    rw [Nat.add_sub_cancel] at numbered
    rw [attempts.split, List.map_append, numbered, List.range'_1_concat]
    simp [attempts.own record rfl, Nat.add_comm]
  exact ⟨by simp, ended, by simpa using numbers, by simp⟩

end Attempts

theorem AttemptRecord.close_ok {record : AttemptRecord} {now : DateTime}
    (isOpen : record.isOpen = true) (later : record.startedAt ≤ now) (outcome : AttemptOutcome)
    (error : Option ErrorSummary) : ∃ closed, record.close outcome now error = .ok closed ∧
      closed.attempt = record.attempt ∧ closed.isOpen = false := by
  unfold close
  rw [if_neg (by simp [isOpen]), dif_pos later]
  exact ⟨_, rfl, rfl, rfl⟩

namespace RunStateMachine

variable {run : Run} {last time now : DateTime}

/-- `_open_attempt` of a run that has not ended: the current attempt has an open record. -/
theorem openAttempt_attempts (kept : run.Kept last) (active : run.status.terminal = false)
    (starts : time ≤ now) (later : last ≤ now) :
    ∃ earlier record, Attempts run.attempt earlier (some record) (openAttempt run time) ∧
      record.isOpen = true ∧ record.startedAt ≤ now := by
  obtain ⟨⟨earlier, current, attempts, opened⟩, -⟩ := kept
  obtain ⟨split, closed, numbered, own⟩ := attempts
  unfold openAttempt
  rw [split]
  cases current with
  | none =>
    have ended : (earlier ++ none.toList).getLast?.any AttemptRecord.isOpen = false := by
      cases found : earlier.getLast? with
      | none => simp [found]
      | some record => simp [found, closed record (List.mem_of_getLast? found)]
    rw [if_neg (Bool.eq_false_iff.mp ended)]
    have history : earlier ++ none.toList ++ [attemptRecord run time] =
        earlier ++ [attemptRecord run time] := by simp
    exact ⟨earlier, attemptRecord run time, ⟨history, closed, numbered, by simp [attemptRecord]⟩,
      rfl, starts⟩
  | some record =>
    obtain ⟨isOpen, started⟩ := opened active record rfl
    rw [if_pos (by simp [isOpen])]
    exact ⟨earlier, record, ⟨rfl, closed, numbered, own⟩, isOpen, DateTime.le_trans started later⟩

/-- `_close_attempt` of a run that has not ended: the current attempt has a closed record. -/
theorem closeAttempt_attempts (kept : run.Kept last) (active : run.status.terminal = false)
    (later : last ≤ now) (outcome : AttemptOutcome) (error : Option ErrorSummary) :
    ∃ history earlier record, closeAttempt run now outcome error = .ok history ∧
      Attempts run.attempt earlier (some record) history ∧ record.isOpen = false := by
  have starts : run.startedAt.getD now ≤ now := by
    cases started : run.startedAt with
    | none => exact DateTime.le_refl now
    | some time => exact DateTime.le_trans (kept.started time started) later
  obtain ⟨earlier, record, opened, isOpen, started⟩ :=
    openAttempt_attempts kept active starts later
  obtain ⟨closed, closes, same, ended⟩ := record.close_ok isOpen started outcome error
  have equal : closeAttempt run now outcome error = .ok (earlier ++ [closed]) := by
    have history : openAttempt run (run.startedAt.getD now) = earlier ++ [record] := opened.split
    unfold openAttempt at history
    unfold closeAttempt
    simp [history, closes]
  refine ⟨earlier ++ [closed], earlier, closed, equal, ⟨rfl, opened.closed, opened.numbered, ?_⟩,
    ended⟩
  simp [same, opened.own record rfl]

end RunStateMachine

theorem RunFields.Kept.later {fields : RunFields} {last now : DateTime} (kept : fields.Kept last)
    (later : last ≤ now) : fields.Kept now := by
  obtain ⟨⟨earlier, current, attempts, opened⟩, started⟩ := kept
  refine ⟨⟨earlier, current, attempts, fun active record found => ?_⟩, fun time found => ?_⟩
  · obtain ⟨isOpen, starts⟩ := opened active record found
    exact ⟨isOpen, DateTime.le_trans starts later⟩
  · exact DateTime.le_trans (started time found) later

/-! ### One operation -/

namespace RunStatus

theorem of_advances {status target : RunStatus} (legal : target ∈ status.advances) :
    status.terminal = false ∧
      (target.terminal = false ∧ ¬ (target = .paused ∨ target = .retrying)) ∧
      ¬ (status = .paused ∨ status = .retrying) := by
  revert legal
  cases status <;> cases target <;> decide

theorem of_pausable {status : RunStatus} (legal : status.pausable = true) :
    status.terminal = false := by
  revert legal
  cases status <;> decide

theorem of_retryable {status : RunStatus}
    (legal : status ∈ [RunStatus.starting, .contextLoading, .running]) :
    status.terminal = false := by
  revert legal
  cases status <;> decide

theorem of_continuations {status phase : RunStatus} (allowed : phase ∈ status.continuations) :
    phase.terminal = false ∧ ¬ (phase = .paused ∨ phase = .retrying) := by
  revert allowed
  cases status <;> cases phase <;> decide

end RunStatus

/-- Versions of one run agree on everything but its progress. -/
structure SameRun (previous current : RunFields) : Prop where
  runId : current.runId = previous.runId
  kind : current.kind.value = previous.kind.value
  rootRunId : current.rootRunId = previous.rootRunId
  parentRunId : current.parentRunId = previous.parentRunId
  workspaceId : current.workspaceId = previous.workspaceId
  sessionRef : current.sessionRef = previous.sessionRef
  scope : current.scope = previous.scope
  createdAt : current.createdAt = previous.createdAt
  controlPolicy : current.controlPolicy = previous.controlPolicy

/-- A transition hands the run back, or raises the version of one that has not ended. -/
def Advances (run : Run) (transition : RunTransition) : Prop :=
  transition.previous = run ∧ (transition.current = run ∨
    run.status.terminal = false ∧ transition.current.stateVersion = run.stateVersion + 1 ∧
      SameRun run.toRunFields transition.current.toRunFields)

namespace RunStateMachine

variable {run : Run} {version : ℕ} {now : DateTime} {transition : RunTransition}

theorem Outcome.advances {same : Prop} {changes : (RunFields → RunFields) → Prop}
    (outcome : Outcome run version now transition same changes)
    (active : ∀ change, changes change → run.status.terminal = false)
    (keeps : ∀ change, changes change → ∀ fields : RunFields, fields.kind = run.kind →
      (change fields).stateVersion = fields.stateVersion ∧ SameRun fields (change fields)) :
    run.stateVersion = version ∧ Advances run transition := by
  obtain ⟨previous, expected, done⟩ := outcome
  refine ⟨expected, previous, ?_⟩
  rcases done with ⟨same, -⟩ | ⟨change, changed, fields⟩
  · exact .inl same
  · obtain ⟨next, kept⟩ := keeps change changed { run.toRunFields with
      stateVersion := run.stateVersion + 1
      updatedAt := some now } rfl
    refine .inr ⟨active change changed, ?_, ?_⟩
    · rw [fields, next]
    · rw [fields]
      exact ⟨kept.runId, kept.kind, kept.rootRunId, kept.parentRunId, kept.workspaceId,
        kept.sessionRef, kept.scope, kept.createdAt, kept.controlPolicy⟩

end RunStateMachine

open RunStateMachine in
/-- An operation that succeeds was given the version of the run. -/
theorem RunOperation.apply_ok {operation : RunOperation} {run : Run} {version : ℕ}
    {now : DateTime} {transition : RunTransition}
    (done : operation.apply run version now = .ok transition) :
    run.stateVersion = version ∧ Advances run transition := by
  cases operation with
  | start =>
    refine (start_ok done).advances ?_ ?_
    · rintro _ ⟨created, -⟩
      rw [created]
      rfl
    · rintro _ ⟨-, rfl⟩ fields _
      exact ⟨rfl, by constructor <;> rfl⟩
  | advance target =>
    refine (advance_ok done).advances ?_ ?_
    · rintro _ ⟨legal, -⟩
      exact (RunStatus.of_advances legal).1
    · rintro _ ⟨-, rfl⟩ fields _
      exact ⟨rfl, by constructor <;> rfl⟩
  | pause =>
    refine (pause_ok done).advances ?_ ?_
    · rintro _ ⟨legal, -⟩
      exact RunStatus.of_pausable legal
    · rintro _ ⟨-, rfl⟩ fields _
      exact ⟨rfl, by constructor <;> rfl⟩
  | resume =>
    refine (resume_ok done).advances ?_ ?_
    · rintro _ ⟨paused, -⟩
      rw [paused]
      rfl
    · rintro _ ⟨-, _, _, rfl⟩ fields _
      exact ⟨rfl, by constructor <;> rfl⟩
  | retry error =>
    refine (retry_ok done).advances ?_ ?_
    · rintro _ ⟨legal, -⟩
      exact RunStatus.of_retryable legal
    · rintro _ ⟨-, _, _, -, rfl⟩ fields _
      exact ⟨rfl, by constructor <;> rfl⟩
  | redispatchRetry =>
    refine (redispatchRetry_ok done).advances ?_ ?_
    · rintro _ ⟨retrying, -⟩
      rw [retrying]
      rfl
    · rintro _ ⟨-, _, _, rfl⟩ fields _
      exact ⟨rfl, by constructor <;> rfl⟩
  | recover checkpointRef =>
    refine (recover_ok done).advances ?_ ?_
    · rintro _ ⟨active, -⟩
      exact active
    · rintro _ ⟨-, -, _, _, -, -, rfl⟩ fields _
      exact ⟨rfl, by constructor <;> rfl⟩
  | commitCheckpoint checkpointRef expectedPreviousRef definitionId graphVersion =>
    obtain ⟨workflow, kind, active, outcome⟩ := commitCheckpoint_ok done
    refine outcome.advances (fun _ _ => active) ?_
    rintro _ ⟨-, rfl⟩ fields same
    exact ⟨rfl, rfl, by rw [same, kind]; rfl, rfl, rfl, rfl, rfl, rfl, rfl, rfl⟩
  | complete =>
    refine (complete_ok done).advances ?_ ?_
    · rintro _ ⟨running, -⟩
      rw [running]
      rfl
    · rintro _ ⟨-, _, -, rfl⟩ fields _
      exact ⟨rfl, by constructor <;> rfl⟩
  | fail error =>
    refine (fail_ok done).advances ?_ ?_
    · rintro _ ⟨active, -⟩
      exact active
    · rintro _ ⟨-, _, _, -, -, rfl⟩ fields _
      exact ⟨rfl, by constructor <;> rfl⟩
  | cancel =>
    refine (cancel_ok done).advances ?_ ?_
    · rintro _ ⟨active, -⟩
      exact active
    · rintro _ ⟨-, _, -, rfl⟩ fields _
      exact ⟨rfl, by constructor <;> rfl⟩

/-- An operation that was given another version raises a conflict. -/
theorem RunOperation.apply_stale (operation : RunOperation) {run : Run} {version : ℕ}
    (now : DateTime) (stale : run.stateVersion ≠ version) :
    operation.apply run version now = .error RunStateMachine.staleStateVersion := by
  have refused : RunStateMachine.checkVersion run version =
      .error RunStateMachine.staleStateVersion := by
    unfold RunStateMachine.checkVersion ensure
    rw [if_neg (by simpa using stale)]
  have bound : ∀ rest : Unit → Except Raised RunTransition,
      (RunStateMachine.checkVersion run version >>= rest) =
        .error RunStateMachine.staleStateVersion := by
    intro rest
    rw [refused]
    rfl
  cases operation <;> exact bound _

/-- What an operation at the time `now` does. -/
def Stepped (run : Run) (now : DateTime) (transition : RunTransition) : Prop :=
  Advances run transition ∧ transition.current.Kept now

namespace RunStateMachine

/-- What has to hold of the fields of a next version. -/
structure NextVersion (run : Run) (now : DateTime) (fields : RunFields) : Prop where
  same : SameRun run.toRunFields fields
  version : fields.stateVersion = run.stateVersion + 1
  positive : 1 ≤ fields.attempt
  kept : fields.Kept now
  ended : fields.endedAt.isSome = fields.status.terminal
  continues : fields.status = .paused ∨ fields.status = .retrying →
    ∃ phase ∈ fields.continuationStatus, phase ∈ fields.status.continuations
  settled : ¬ (fields.status = .paused ∨ fields.status = .retrying) →
    fields.continuationStatus = none
  graph : ∀ workflow, fields.kind = .workflow workflow → workflow.graphVersion ≠ ""

theorem NextVersion.sound {run : Run} {now : DateTime} {fields : RunFields}
    (next : NextVersion run now fields) : fields.Sound := by
  obtain ⟨⟨earlier, current, attempts, -⟩, -⟩ := next.kept
  have old := run.sound
  refine ⟨next.positive, ?_, ?_, next.ended, attempts.increasing next.positive,
    attempts.bounded next.positive, attempts.openLast, next.continues, next.settled, next.graph⟩
  · rw [next.same.parentRunId, next.same.rootRunId, next.same.runId]
    exact old.root
  · rw [next.same.parentRunId, next.same.runId]
    exact old.parent

section Rules

variable {run : Run} {now : DateTime} {version : ℕ}

theorem replace_next (changes : RunFields → RunFields)
    (next : NextVersion run now (changes { run.toRunFields with
      stateVersion := run.stateVersion + 1
      updatedAt := some now })) :
    ∃ current, replace run now changes = .ok current ∧ current.toRunFields =
      changes { run.toRunFields with
        stateVersion := run.stateVersion + 1
        updatedAt := some now } := by
  obtain ⟨current, made, fields⟩ := Run.make_sound next.sound
  exact ⟨current, made, fields⟩

theorem coded_replace {changes : RunFields → RunFields} {reason : String}
    (active : run.status.terminal = false)
    (next : NextVersion run now (changes { run.toRunFields with
      stateVersion := run.stateVersion + 1
      updatedAt := some now })) :
    Coded (Stepped run now) (do
      let current ← replace run now changes
      return ⟨run, current, reason⟩) := by
  obtain ⟨current, replaced, fields⟩ := replace_next _ next
  rw [replaced]
  refine ⟨⟨rfl, .inr ⟨active, ?_, ?_⟩⟩, ?_⟩
  · rw [fields]
    exact next.version
  · rw [fields]
    exact next.same
  · rw [fields]
    exact next.kept

theorem coded_checkVersion {post : RunTransition → Prop} {rest : Unit → Except Raised RunTransition}
    (continues : Coded post (rest ())) : Coded post (checkVersion run version >>= rest) :=
  (coded_ensure _ _).bind fun _ _ => continues

/-- The operations that hand a run in the target state back and refuse an illegal one. -/
theorem coded_idempotent {target : RunStatus} {reason : String} {legal : Bool}
    {detail : ErrorDetail} {rest : Except Raised RunTransition} (kept : run.Kept now)
    (continues : run.status ≠ target → legal = true → Coded (Stepped run now) rest) :
    Coded (Stepped run now) (do
      checkVersion run version
      if run.status = target then return ⟨run, run, reason⟩
      else do
        ensure legal (.core detail)
        rest) := by
  refine coded_checkVersion ?_
  split
  · exact ⟨⟨rfl, .inl rfl⟩, kept⟩
  · rename_i other
    exact (coded_ensure legal detail).bind fun _ allowed => continues other allowed

end Rules

/-- A paused run keeps the phase it was in, or that of the retry it interrupted. -/
theorem continues_pause {run : Run} (legal : run.status.pausable = true) :
    ∃ phase ∈ if run.status = .retrying then run.continuationStatus else some run.status,
      phase ∈ RunStatus.paused.continuations := by
  by_cases retrying : run.status = .retrying
  · obtain ⟨phase, found, allowed⟩ := run.sound.continues (.inr retrying)
    rw [if_pos retrying]
    have allowed : phase ∈ run.status.continuations := allowed
    rw [retrying] at allowed
    refine ⟨phase, found, ?_⟩
    revert allowed
    cases phase <;> decide
  · rw [if_neg retrying]
    refine ⟨run.status, rfl, ?_⟩
    revert legal retrying
    cases run.status <;> decide

theorem graphVersion_ne_empty {current : String} (nonempty : current ≠ "")
    (graphVersion : Option String) : (graphVersion.filter (· != "")).getD current ≠ "" := by
  cases filtered : graphVersion.filter (· != "") with
  | none => simpa using nonempty
  | some version =>
    have given := (Option.filter_eq_some_iff.mp filtered).2
    simpa using given

section Operations

variable {run : Run} {last now : DateTime} {version : ℕ}

theorem start_coded (kept : run.Kept last) (later : last ≤ now) :
    Coded (Stepped run now) (start run version now) := by
  refine coded_idempotent (kept.later later) fun _ legal => ?_
  have created : run.status = .created := by simpa using legal
  have active : run.status.terminal = false := by rw [created]; rfl
  obtain ⟨earlier, record, attempts, opened⟩ :=
    openAttempt_attempts kept active (DateTime.le_refl now) later
  have started : ∀ time ∈ run.startedAt <|> some now, time ≤ now := by
    intro time found
    cases first : run.startedAt with
    | none =>
      obtain rfl : now = time := by simpa [first] using found
      exact DateTime.le_refl now
    | some before =>
      obtain rfl : before = time := by simpa [first] using found
      exact DateTime.le_trans (kept.started before first) later
  exact coded_replace active {
    same := by constructor <;> rfl
    version := rfl
    positive := run.attempt_positive
    kept := ⟨⟨earlier, some record, attempts, by simpa using fun _ => opened⟩, started⟩
    ended := run.sound.ended.trans active
    continues := by simp
    settled := fun _ => run.sound.settled (by simp [created])
    graph := run.sound.graph }

theorem advance_next {target : RunStatus} (kept : run.Kept last) (later : last ≤ now)
    (legal : target ∈ run.status.advances) :
    NextVersion run now { run.toRunFields with
      stateVersion := run.stateVersion + 1
      updatedAt := some now
      status := target
      attemptHistory :=
        if run.status = .recovering ∧ target = .running then openAttempt run now
        else run.attemptHistory } := by
  obtain ⟨active, runs, plain⟩ := RunStatus.of_advances legal
  refine {
    same := by constructor <;> rfl
    version := rfl
    positive := run.attempt_positive
    kept := ?_
    ended := (run.sound.ended.trans active).trans runs.1.symm
    continues := fun keeps => absurd keeps runs.2
    settled := fun _ => run.sound.settled plain
    graph := run.sound.graph }
  have started := (kept.later later).started
  by_cases restored : run.status = .recovering ∧ target = .running
  · obtain ⟨earlier, record, attempts, opened⟩ :=
      openAttempt_attempts kept active (DateTime.le_refl now) later
    refine ⟨⟨earlier, some record, ?_, by simpa using fun _ => opened⟩, started⟩
    simpa only [if_pos restored] using attempts
  · obtain ⟨earlier, current, attempts, opened⟩ := (kept.later later).attempts
    refine ⟨⟨earlier, current, ?_, fun _ => opened active⟩, started⟩
    simpa only [if_neg restored] using attempts

theorem advance_coded (target : RunStatus) (kept : run.Kept last) (later : last ≤ now) :
    Coded (Stepped run now) (advance target run version now) := by
  refine coded_idempotent (kept.later later) fun _ legal => ?_
  have legal : target ∈ run.status.advances := by simpa using legal
  exact coded_replace (RunStatus.of_advances legal).1 (advance_next kept later legal)

theorem pause_coded (kept : run.Kept last) (later : last ≤ now) :
    Coded (Stepped run now) (pause run version now) := by
  refine coded_idempotent (kept.later later) fun _ legal => ?_
  have active := RunStatus.of_pausable legal
  obtain ⟨⟨earlier, current, attempts, opened⟩, started⟩ := kept.later later
  exact coded_replace active {
    same := by constructor <;> rfl
    version := rfl
    positive := run.attempt_positive
    kept := ⟨⟨earlier, current, attempts, fun _ => opened active⟩, started⟩
    ended := run.sound.ended.trans active
    continues := fun _ => continues_pause legal
    settled := fun other => absurd (.inl rfl) other
    graph := run.sound.graph }

/-- `resume` and `redispatch_retry` go on in the phase that was kept. -/
theorem continue_coded {reason : String} {continuation : RunStatus} (kept : run.Kept last)
    (later : last ≤ now) (active : run.status.terminal = false)
    (phase : continuation.terminal = false ∧ ¬ (continuation = .paused ∨ continuation = .retrying)) :
    Coded (Stepped run now) (do
      let current ← replace run now fun fields =>
        { fields with
          status := continuation
          continuationStatus := none
          attemptHistory := openAttempt run now }
      return ⟨run, current, reason⟩) := by
  obtain ⟨earlier, record, attempts, opened⟩ :=
    openAttempt_attempts kept active (DateTime.le_refl now) later
  exact coded_replace active {
    same := by constructor <;> rfl
    version := rfl
    positive := run.attempt_positive
    kept := ⟨⟨earlier, some record, attempts, by simpa using fun _ => opened⟩,
      (kept.later later).started⟩
    ended := (run.sound.ended.trans active).trans phase.1.symm
    continues := fun keeps => absurd keeps phase.2
    settled := fun _ => rfl
    graph := run.sound.graph }

theorem resume_coded (kept : run.Kept last) (later : last ≤ now) :
    Coded (Stepped run now) (resume run version now) := by
  refine coded_checkVersion ((coded_ensure _ _).bind fun _ legal => ?_)
  have paused : run.status = .paused := by simpa using legal
  obtain ⟨continuation, found, allowed⟩ := run.sound.continues (.inl paused)
  have found : run.continuationStatus = some continuation := found
  rw [found]
  exact continue_coded kept later (by rw [paused]; rfl) (RunStatus.of_continuations allowed)

theorem redispatchRetry_coded (kept : run.Kept last) (later : last ≤ now) :
    Coded (Stepped run now) (redispatchRetry run version now) := by
  refine coded_checkVersion ((coded_ensure _ _).bind fun _ legal => ?_)
  have retrying : run.status = .retrying := by simpa using legal
  obtain ⟨continuation, found, allowed⟩ := run.sound.continues (.inr retrying)
  have found : run.continuationStatus = some continuation := found
  rw [found]
  exact continue_coded kept later (by rw [retrying]; rfl) (RunStatus.of_continuations allowed)

theorem retry_coded (error : ErrorDetail) (kept : run.Kept last) (later : last ≤ now) :
    Coded (Stepped run now) (retry error run version now) := by
  refine coded_checkVersion ((coded_ensure _ _).bind fun _ _ => (coded_ensure _ _).bind
    fun _ legal => ?_)
  have legal : run.status ∈ [RunStatus.starting, .contextLoading, .running] := by simpa using legal
  have active := RunStatus.of_retryable legal
  let summary : ErrorSummary := ⟨error, run.attempt, now, run.attempt_positive⟩
  obtain ⟨history, earlier, record, closes, attempts, closed⟩ :=
    closeAttempt_attempts kept active later .retryableFailure (some summary)
  have next := attempts.next run.attempt_positive closed
  dsimp only
  rw [closes]
  exact coded_replace active {
    same := by constructor <;> rfl
    version := rfl
    positive := Nat.le_add_left 1 run.attempt
    kept := ⟨⟨history, none, next, by simp⟩, (kept.later later).started⟩
    ended := run.sound.ended.trans active
    continues := fun _ => ⟨run.status, rfl, legal⟩
    settled := fun other => absurd (.inr rfl) other
    graph := run.sound.graph }

theorem recoverySource_coded (checkpointRef : Option CheckpointRef) :
    Coded (fun _ => True) (recoverySource run checkpointRef) := by
  unfold recoverySource
  split
  · trivial
  · split
    · trivial
    · trivial

theorem recover_next (source : Option CheckpointRef) (kept : run.Kept last) (later : last ≤ now)
    (active : run.status.terminal = false) :
    ∃ history, closeAttempt run now .interrupted = .ok history ∧
      NextVersion run now { run.toRunFields with
        stateVersion := run.stateVersion + 1
        updatedAt := some now
        status := .recovering
        attempt := run.attempt + 1
        continuationStatus := none
        attemptHistory := history ++
          [⟨run.attempt + 1, now, none, source, none, Nat.le_add_left 1 _, nofun⟩] } := by
  obtain ⟨history, earlier, record, closes, attempts, closed⟩ :=
    closeAttempt_attempts kept active later .interrupted none
  have next := attempts.next run.attempt_positive closed
  exact ⟨history, closes, {
    same := by constructor <;> rfl
    version := rfl
    positive := Nat.le_add_left 1 run.attempt
    kept := ⟨⟨history, some _, ⟨rfl, next.closed, next.numbered, by simp⟩,
      by simpa using fun _ => ⟨rfl, DateTime.le_refl now⟩⟩, (kept.later later).started⟩
    ended := run.sound.ended.trans active
    continues := by simp
    settled := fun _ => rfl
    graph := run.sound.graph }⟩

theorem recover_coded (checkpointRef : Option CheckpointRef) (kept : run.Kept last)
    (later : last ≤ now) : Coded (Stepped run now) (recover checkpointRef run version now) := by
  refine coded_checkVersion ((recoverySource_coded checkpointRef).bind fun source _ => ?_)
  split
  · exact (coded_ensure _ _).bind fun _ _ => ⟨⟨rfl, .inl rfl⟩, kept.later later⟩
  · refine (coded_ensure _ _).bind fun _ legal => ?_
    have legal : run.status.terminal = false ∧ run.status ≠ .created := by simpa using legal
    obtain ⟨history, closes, next⟩ := recover_next source kept later legal.1
    rw [closes]
    exact coded_replace legal.1 next

theorem commitCheckpoint_next {workflow : WorkflowFields} (checkpointRef : CheckpointRef)
    (definitionId : DefinitionId) (graphVersion : Option String) (kept : run.Kept last)
    (later : last ≤ now) (kind : run.kind = .workflow workflow) :
    NextVersion run now { run.toRunFields with
      stateVersion := run.stateVersion + 1
      updatedAt := some now
      definitionId := definitionId
      kind := .workflow { workflow with
        graphVersion := (graphVersion.filter (· != "")).getD workflow.graphVersion
        latestCheckpointRef := some checkpointRef } } := by
  obtain ⟨⟨earlier, current, attempts, opened⟩, started⟩ := kept.later later
  refine {
    same := ⟨rfl, by rw [kind]; rfl, rfl, rfl, rfl, rfl, rfl, rfl, rfl⟩
    version := rfl
    positive := run.attempt_positive
    kept := ⟨⟨earlier, current, attempts, opened⟩, started⟩
    ended := run.sound.ended
    continues := run.sound.continues
    settled := run.sound.settled
    graph := ?_ }
  intro next same
  obtain rfl := RunKind.workflow.inj same
  exact graphVersion_ne_empty (run.sound.graph workflow kind) graphVersion

theorem commitCheckpoint_coded (checkpointRef : CheckpointRef)
    (expectedPreviousRef : Option CheckpointRef) (definitionId : Option DefinitionId)
    (graphVersion : Option String) (kept : run.Kept last) (later : last ≤ now) :
    Coded (Stepped run now) (commitCheckpoint checkpointRef expectedPreviousRef definitionId
      graphVersion run version now) := by
  refine coded_checkVersion ?_
  split
  · trivial
  · rename_i workflow isWorkflow
    have kind : run.kind = .workflow workflow := Run.workflow?_eq_some.mp isWorkflow
    refine (coded_ensure _ _).bind fun _ legal => ?_
    have active : run.status.terminal = false := by simpa using legal
    dsimp only
    split
    · exact ⟨⟨rfl, .inl rfl⟩, kept.later later⟩
    · refine (coded_ensure _ _).bind fun _ _ => ?_
      exact coded_replace active
        (commitCheckpoint_next checkpointRef _ graphVersion kept later kind)

/-- `complete`, `fail` and `cancel` close the current attempt and end the run. -/
theorem ended_next {status : RunStatus} {summary : Option ErrorSummary}
    {continuation : Option RunStatus} {earlier history : List AttemptRecord}
    {record : AttemptRecord} (kept : run.Kept last) (later : last ≤ now)
    (terminal : status.terminal = true)
    (attempts : Attempts run.attempt earlier (some record) history)
    (settled : continuation = none) :
    NextVersion run now { run.toRunFields with
      stateVersion := run.stateVersion + 1
      updatedAt := some now
      status := status
      endedAt := some now
      errorSummary := summary
      continuationStatus := continuation
      attemptHistory := history } where
  same := by constructor <;> rfl
  version := rfl
  positive := run.attempt_positive
  kept := by
    refine ⟨⟨earlier, some record, attempts, fun active => ?_⟩, (kept.later later).started⟩
    rw [terminal] at active
    cases active
  ended := terminal.symm
  continues := by
    rintro (rfl | rfl)
    · cases terminal
    · cases terminal
  settled := fun _ => settled
  graph := run.sound.graph

theorem complete_coded (kept : run.Kept last) (later : last ≤ now) :
    Coded (Stepped run now) (complete run version now) := by
  refine coded_idempotent (kept.later later) fun _ legal => ?_
  have running : run.status = .running := by simpa using legal
  have active : run.status.terminal = false := by rw [running]; rfl
  obtain ⟨history, earlier, record, closes, attempts, -⟩ :=
    closeAttempt_attempts kept active later .succeeded none
  rw [closes]
  exact coded_replace active
    (ended_next kept later rfl attempts (run.sound.settled (by simp [running])))

theorem fail_coded (error : ErrorDetail) (kept : run.Kept last) (later : last ≤ now) :
    Coded (Stepped run now) (fail error run version now) := by
  refine coded_idempotent (kept.later later) fun _ legal => ?_
  have active : run.status.terminal = false := by simpa using legal
  let summary : ErrorSummary := ⟨error, run.attempt, now, run.attempt_positive⟩
  obtain ⟨history, earlier, record, closes, attempts, -⟩ :=
    closeAttempt_attempts kept active later .finalFailure (some summary)
  dsimp only
  rw [closes]
  exact coded_replace active (ended_next kept later rfl attempts rfl)

theorem cancel_coded (kept : run.Kept last) (later : last ≤ now) :
    Coded (Stepped run now) (cancel run version now) := by
  refine coded_idempotent (kept.later later) fun _ legal => ?_
  have active : run.status.terminal = false := by simpa using legal
  obtain ⟨history, earlier, record, closes, attempts, -⟩ :=
    closeAttempt_attempts kept active later .cancelled none
  rw [closes]
  exact coded_replace active (ended_next kept later rfl attempts rfl)

end Operations

end RunStateMachine

open RunStateMachine in
/-- The step lemma: no operation raises anything but a `CoreError`. -/
theorem RunOperation.apply_coded {run : Run} {last now : DateTime} (operation : RunOperation)
    (version : ℕ) (kept : run.Kept last) (later : last ≤ now) :
    Coded (Stepped run now) (operation.apply run version now) := by
  cases operation with
  | start => exact start_coded kept later
  | advance target => exact advance_coded target kept later
  | pause => exact pause_coded kept later
  | resume => exact resume_coded kept later
  | retry error => exact retry_coded error kept later
  | redispatchRetry => exact redispatchRetry_coded kept later
  | recover checkpointRef => exact recover_coded checkpointRef kept later
  | commitCheckpoint checkpointRef expectedPreviousRef definitionId graphVersion =>
    exact commitCheckpoint_coded checkpointRef expectedPreviousRef definitionId graphVersion kept
      later
  | complete => exact complete_coded kept later
  | fail error => exact fail_coded error kept later
  | cancel => exact cancel_coded kept later

/-! ### Any number of operations -/

theorem createRun_fields {runId : RunId} {kind : RunKind} {definitionId : DefinitionId}
    {rootRunId : RunId} {parentRunId : Option RunId} {workspaceId : WorkspaceId}
    {sessionRef : Option SessionRef} {scope : ScopeRef} {createdAt : DateTime}
    {controlPolicy : RunControlPolicy} {run : Run}
    (made : createRun runId kind definitionId rootRunId parentRunId workspaceId sessionRef scope
      createdAt controlPolicy = .ok run) :
    run.attempt = 1 ∧ run.attemptHistory = [] ∧ run.startedAt = none := by
  have fields := Run.make_fields made
  rw [fields]
  exact ⟨rfl, rfl, rfl⟩

theorem Created.kept {run : Run} (created : Created run) (last : DateTime) : run.Kept last := by
  have fresh : run.attempt = 1 ∧ run.attemptHistory = [] ∧ run.startedAt = none := by
    cases created with
    | rootAgent made => exact createRun_fields made
    | rootWorkflow made => exact createRun_fields made
    | childAgent made =>
      obtain ⟨_, _, made⟩ := bind_ok made
      obtain ⟨_, _, made⟩ := bind_ok made
      exact createRun_fields made
  obtain ⟨attempt, history, started⟩ := fresh
  have attempts : Attempts run.attempt [] none run.attemptHistory := by
    rw [history, attempt]
    exact ⟨rfl, by simp, rfl, by simp⟩
  exact ⟨⟨[], none, attempts, by simp⟩, by simp [started]⟩

theorem Operated.kept {run current : Run} {last now : DateTime}
    (operated : Operated run last current now) (kept : run.Kept last) : current.Kept now := by
  induction operated with
  | refl => exact kept
  | step _ later applied ih => exact ((RunOperation.apply_coded _ _ ih later).of_ok applied).2

theorem Operated.sameRun {run current : Run} {last now : DateTime}
    (operated : Operated run last current now) (kept : run.Kept last)
    (terminal : run.status.terminal = true) : current = run := by
  induction operated with
  | refl => rfl
  | step operated later applied ih =>
    subst ih
    have stepped := (RunOperation.apply_coded _ _ (operated.kept kept) later).of_ok applied
    rcases stepped.1.2 with same | ⟨active, -⟩
    · exact same
    · rw [terminal] at active
      cases active

theorem RunFields.Kept.numberedHistory {fields : RunFields} {last : DateTime}
    (kept : fields.Kept last) (positive : 1 ≤ fields.attempt) : fields.NumberedHistory := by
  obtain ⟨⟨earlier, current, attempts, -⟩, -⟩ := kept
  exact ⟨attempts.map_attempt positive, fun _ _ found isOpen => attempts.open_last found isOpen⟩

/-- Of a run that was created and then operated on any number of times: the next operation
raises a `CoreError`, hands the run back or makes its next version; a terminal run stays as it
is, and the attempt history is numbered. -/
theorem Created.operated_sound {run current : Run} {last : DateTime} (created : Created run)
    (operated : Operated run run.createdAt current last) :
    (∀ (operation : RunOperation) (version : ℕ) (now : DateTime), last ≤ now →
      Coded (Advances current) (operation.apply current version now)) ∧
    (current.status.terminal = true → ∀ (later : Run) (now : DateTime),
      Operated current last later now → later = current) ∧
    current.NumberedHistory := by
  have kept := operated.kept (created.kept run.createdAt)
  refine ⟨fun operation version now later => ?_, fun terminal later now after => ?_, ?_⟩
  · exact (operation.apply_coded version kept later).mono fun _ stepped => stepped.1
  · exact after.sameRun kept terminal
  · exact kept.numberedHistory current.attempt_positive

section Sample

open SampleParameters

def RunLifecycle.sampleRun : Run where
  runId := sampleRunId
  kind := .agent ⟨⟨"agent-1", by decide⟩, ⟨"model-1", by decide⟩⟩
  definitionId := ⟨"definition-1", by decide⟩
  rootRunId := sampleRunId
  parentRunId := none
  workspaceId := sampleContext.workspaceId
  sessionRef := none
  scope := sampleScope
  status := .created
  attempt := 1
  stateVersion := 0
  createdAt := sampleTime
  startedAt := none
  updatedAt := some sampleTime
  endedAt := none
  errorSummary := none
  continuationStatus := none
  attemptHistory := []
  controlPolicy := {}
  checked := by decide

/-- A run that was created and started. -/
theorem Created.operated_sound_started : ∃ started : Run,
    Operated RunLifecycle.sampleRun sampleTime started sampleTime ∧ started.NumberedHistory := by
  have made : createRootAgentRun ⟨"definition-1", by decide⟩ ⟨"agent-1", by decide⟩
      ⟨"model-1", by decide⟩ sampleContext.workspaceId sampleScope sampleTime none none
      sampleRunId = .ok RunLifecycle.sampleRun := rfl
  obtain ⟨transition, applied⟩ : ∃ transition,
      RunOperation.start.apply RunLifecycle.sampleRun 0 sampleTime = .ok transition := ⟨_, rfl⟩
  have operated : Operated RunLifecycle.sampleRun sampleTime transition.current sampleTime :=
    .step .refl (DateTime.le_refl sampleTime) applied
  exact ⟨transition.current, operated,
    (Created.operated_sound (.rootAgent made) operated).2.2⟩

end Sample

end CongeriesCore
