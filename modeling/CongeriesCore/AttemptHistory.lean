import CongeriesCore.RunLifecycle

/-! # What the operations of a run do to its attempts

The records of the attempts stay in the order of time, and a recovery starts from a source of
its own, as long as no operation takes the way around that. -/

namespace CongeriesCore

/-- `Driven permits run last current now`: permitted operations have turned `run` into `current`,
the last one at `now`. -/
inductive Driven (permits : RunOperation → Run → DateTime → DateTime → Prop) (run : Run)
    (last : DateTime) : Run → DateTime → Prop
  | refl : Driven permits run last run last
  | step {current : Run} {before now : DateTime} {operation : RunOperation} {version : ℕ}
      {transition : RunTransition} (driven : Driven permits run last current before)
      (permitted : permits operation current before now)
      (applied : operation.apply current version now = .ok transition) :
      Driven permits run last transition.current now

/-- The operation ends the current attempt. -/
def RunOperation.closes : RunOperation → Bool
  | .retry _ | .recover _ | .complete | .fail _ | .cancel => true
  | _ => false

theorem AttemptRecord.close_fields {record ended : AttemptRecord} {outcome : AttemptOutcome}
    {now : DateTime} {error : Option ErrorSummary}
    (closed : record.close outcome now error = .ok ended) :
    ended.attempt = record.attempt ∧ ended.startedAt = record.startedAt ∧
      ended.closed = some (now, outcome) := by
  unfold close at closed
  split at closed
  · cases closed
  · split at closed
    · cases closed
      exact ⟨rfl, rfl, rfl⟩
    · cases closed

namespace RunStateMachine

/-- Closing an attempt ends the record that opening it leaves last. -/
theorem closeAttempt_ok {run : Run} {now : DateTime} {outcome : AttemptOutcome}
    {error : Option ErrorSummary} {history : List AttemptRecord}
    (done : closeAttempt run now outcome error = .ok history) :
    ∃ earlier record ended, openAttempt run (run.startedAt.getD now) = earlier ++ [record] ∧
      record.close outcome now error = .ok ended ∧ history = earlier ++ [ended] := by
  have opened : openAttempt run (run.startedAt.getD now) =
      if run.attemptHistory.getLast?.any AttemptRecord.isOpen then run.attemptHistory
      else run.attemptHistory ++ [attemptRecord run (run.startedAt.getD now)] := rfl
  unfold closeAttempt at done
  dsimp only at done
  rw [← opened] at done
  split at done
  · cases done
  · rename_i last found
    obtain ⟨ended, closed, made⟩ := bind_ok done
    cases made
    refine ⟨_, last, ended, ?_, closed, rfl⟩
    exact (List.dropLast_append_getLast? last found).symm

/-- What an operation makes of the attempt history of a run. -/
inductive HistoryChange (run : Run) (now : DateTime) (operation : RunOperation) :
    List AttemptRecord → Prop
  | kept : HistoryChange run now operation run.attemptHistory
  | opened : HistoryChange run now operation (openAttempt run now)
  | closed {outcome : AttemptOutcome} {error : Option ErrorSummary} {history : List AttemptRecord}
      (closes : operation.closes = true) (active : run.status.terminal = false)
      (closing : closeAttempt run now outcome error = .ok history) :
      HistoryChange run now operation history
  | recovered {outcome : AttemptOutcome} {error : Option ErrorSummary}
      {history : List AttemptRecord} {record : AttemptRecord}
      (closes : operation.closes = true) (active : run.status.terminal = false)
      (closing : closeAttempt run now outcome error = .ok history)
      (starts : record.startedAt = now) (isOpen : record.closed = none) :
      HistoryChange run now operation (history ++ [record])

/-- What an operation makes of a run that it does not hand back. -/
structure Rewrites (run : Run) (now : DateTime) (operation : RunOperation) (current : RunFields) :
    Prop where
  history : HistoryChange run now operation current.attemptHistory
  updated : current.updatedAt = some now
  started : current.startedAt = run.startedAt ∨ current.startedAt = (run.startedAt <|> some now)

theorem Outcome.rewrites {run : Run} {version : ℕ} {now : DateTime} {transition : RunTransition}
    {same : Prop} {changes : (RunFields → RunFields) → Prop} {operation : RunOperation}
    (outcome : Outcome run version now transition same changes)
    (writes : ∀ change, changes change → Rewrites run now operation (change { run.toRunFields with
      stateVersion := run.stateVersion + 1
      updatedAt := some now })) :
    transition.current = run ∨ Rewrites run now operation transition.current.toRunFields := by
  obtain ⟨-, -, done⟩ := outcome
  rcases done with ⟨same, -⟩ | ⟨change, changed, fields⟩
  · exact .inl same
  · right
    rw [fields]
    exact writes change changed

end RunStateMachine

open RunStateMachine

theorem RunOperation.apply_rewrites {operation : RunOperation} {run : Run} {version : ℕ}
    {now : DateTime} {transition : RunTransition}
    (done : operation.apply run version now = .ok transition) :
    transition.current = run ∨ Rewrites run now operation transition.current.toRunFields := by
  cases operation with
  | start =>
    apply (start_ok done).rewrites
    rintro _ ⟨-, rfl⟩
    exact ⟨.opened, rfl, .inr rfl⟩
  | advance target =>
    apply (advance_ok done).rewrites
    rintro _ ⟨-, rfl⟩
    refine ⟨?_, rfl, .inl rfl⟩
    dsimp only
    split
    · exact .opened
    · exact .kept
  | pause =>
    apply (pause_ok done).rewrites
    rintro _ ⟨-, rfl⟩
    exact ⟨.kept, rfl, .inl rfl⟩
  | resume =>
    apply (resume_ok done).rewrites
    rintro _ ⟨-, _, -, rfl⟩
    exact ⟨.opened, rfl, .inl rfl⟩
  | retry error =>
    apply (retry_ok done).rewrites
    rintro _ ⟨legal, _, _, closing, rfl⟩
    exact ⟨.closed rfl (RunStatus.of_retryable legal) closing, rfl, .inl rfl⟩
  | redispatchRetry =>
    apply (redispatchRetry_ok done).rewrites
    rintro _ ⟨-, _, -, rfl⟩
    exact ⟨.opened, rfl, .inl rfl⟩
  | recover checkpointRef =>
    apply (recover_ok done).rewrites
    rintro _ ⟨active, -, _, _, -, closing, rfl⟩
    exact ⟨.recovered rfl active closing rfl rfl, rfl, .inl rfl⟩
  | commitCheckpoint checkpointRef expectedPreviousRef definitionId graphVersion =>
    obtain ⟨_, -, -, outcome⟩ := commitCheckpoint_ok done
    apply outcome.rewrites
    rintro _ ⟨-, rfl⟩
    exact ⟨.kept, rfl, .inl rfl⟩
  | complete =>
    apply (complete_ok done).rewrites
    rintro _ ⟨running, _, closing, rfl⟩
    exact ⟨.closed rfl (by rw [running]; rfl) closing, rfl, .inl rfl⟩
  | fail error =>
    apply (fail_ok done).rewrites
    rintro _ ⟨active, _, _, -, closing, rfl⟩
    exact ⟨.closed rfl active closing, rfl, .inl rfl⟩
  | cancel =>
    apply (cancel_ok done).rewrites
    rintro _ ⟨active, _, closing, rfl⟩
    exact ⟨.closed rfl active closing, rfl, .inl rfl⟩

/-! ## Chronology -/

/-- The record does not start before the previous one has ended. -/
def AttemptRecord.Follows (previous next : AttemptRecord) : Prop :=
  ∀ pair ∈ previous.closed, pair.1 ≤ next.startedAt

/-- The records are in the order of time, and end between their start and the last update. -/
structure RunFields.Chronological (fields : RunFields) : Prop where
  ordered : fields.attemptHistory.IsChain AttemptRecord.Follows
  ended : ∀ record ∈ fields.attemptHistory, ∀ pair ∈ record.closed, record.startedAt ≤ pair.1 ∧
    ∃ updated, fields.updatedAt = some updated ∧ pair.1 ≤ updated

/-- The records are in the order of time, and nothing in them lies after `last`. -/
structure InOrder (history : List AttemptRecord) (last : DateTime) : Prop where
  ordered : history.IsChain AttemptRecord.Follows
  past : ∀ record ∈ history, record.startedAt ≤ last ∧ ∀ pair ∈ record.closed, pair.1 ≤ last

/-- What the operations keep of a run. -/
structure RunFields.Dated (fields : RunFields) (last : DateTime) : Prop where
  inOrder : InOrder fields.attemptHistory last
  updated : ∀ record ∈ fields.attemptHistory, ∀ pair ∈ record.closed,
    ∃ updated, fields.updatedAt = some updated ∧ pair.1 ≤ updated
  started : ∀ time ∈ fields.startedAt, time ≤ last

/-- The operation ends an attempt that has no record, and would have it start when the run did,
before the attempt before it ended. -/
def RunOperation.Backdates (operation : RunOperation) (run : Run) : Prop :=
  operation.closes = true ∧ run.status.terminal = false ∧ ∃ record pair start,
    run.attemptHistory.getLast? = some record ∧ record.closed = some pair ∧
    run.startedAt = some start ∧ start < pair.1

/-- Time does not go back, and no record is made to start before the previous one has ended. -/
def NotBackdated (operation : RunOperation) (run : Run) (before now : DateTime) : Prop :=
  before ≤ now ∧ ¬operation.Backdates run

namespace InOrder

variable {history earlier : List AttemptRecord} {last now time : DateTime}

theorem later (inOrder : InOrder history last) (later : last ≤ now) : InOrder history now := by
  refine ⟨inOrder.ordered, fun record member => ?_⟩
  obtain ⟨starts, ends⟩ := inOrder.past record member
  exact ⟨DateTime.le_trans starts later,
    fun pair closed => DateTime.le_trans (ends pair closed) later⟩

/-- A record that starts after the last one has ended may be added. -/
theorem append (inOrder : InOrder history now) {record : AttemptRecord}
    (follows : ∀ previous ∈ history.getLast?, previous.Follows record)
    (starts : record.startedAt ≤ now) (isOpen : record.closed = none) :
    InOrder (history ++ [record]) now := by
  constructor
  · rw [List.isChain_append]
    refine ⟨inOrder.ordered, List.isChain_singleton record, ?_⟩
    intro previous found next same
    obtain rfl : record = next := by simpa using same
    exact follows previous found
  · intro other member
    rcases List.mem_append.mp member with before | own
    · exact inOrder.past other before
    · obtain rfl := List.mem_singleton.mp own
      exact ⟨starts, by simp [isOpen]⟩

/-- The last record may end now. -/
theorem close {record ended : AttemptRecord} (inOrder : InOrder (earlier ++ [record]) now)
    {outcome : AttemptOutcome} (starts : ended.startedAt = record.startedAt)
    (closed : ended.closed = some (now, outcome)) : InOrder (earlier ++ [ended]) now := by
  have chain := List.isChain_append.mp inOrder.ordered
  constructor
  · rw [List.isChain_append]
    refine ⟨chain.1, List.isChain_singleton ended, ?_⟩
    intro previous found next same
    obtain rfl : ended = next := by simpa using same
    intro pair found'
    rw [starts]
    exact chain.2.2 previous found record rfl pair found'
  · intro other member
    rcases List.mem_append.mp member with before | own
    · exact inOrder.past other (List.mem_append_left _ before)
    · obtain rfl := List.mem_singleton.mp own
      have started := (inOrder.past record (by simp)).1
      refine ⟨starts ▸ started, ?_⟩
      intro pair found
      rw [closed] at found
      obtain rfl : (now, outcome) = pair := by simpa using found
      exact DateTime.le_refl now

theorem openAttempt {run : Run} (inOrder : InOrder run.attemptHistory now) (starts : time ≤ now)
    (follows : ∀ record ∈ run.attemptHistory.getLast?, ∀ pair ∈ record.closed, pair.1 ≤ time) :
    InOrder (openAttempt run time) now := by
  unfold RunStateMachine.openAttempt
  split
  · exact inOrder
  · exact inOrder.append follows starts rfl

/-- An attempt may be closed, unless its record would start too early. -/
theorem closeAttempt {run : Run} (inOrder : InOrder run.attemptHistory now)
    (started : ∀ start ∈ run.startedAt, start ≤ now)
    (timely : ∀ record ∈ run.attemptHistory.getLast?, ∀ pair ∈ record.closed,
      ∀ start ∈ run.startedAt, pair.1 ≤ start) {outcome : AttemptOutcome}
    {error : Option ErrorSummary} (closing : closeAttempt run now outcome error = .ok history) :
    InOrder history now ∧ ∀ record ∈ history.getLast?, ∃ outcome, record.closed = some (now, outcome) := by
  obtain ⟨earlier, record, ended, opened, closed, rfl⟩ := closeAttempt_ok closing
  obtain ⟨-, starts, closed⟩ := AttemptRecord.close_fields closed
  have opens : InOrder (RunStateMachine.openAttempt run (run.startedAt.getD now)) now := by
    apply inOrder.openAttempt
    · cases given : run.startedAt with
      | none => exact DateTime.le_refl now
      | some start => exact started start given
    · intro record last pair ended
      cases given : run.startedAt with
      | none => exact (inOrder.past record (List.mem_of_getLast? last)).2 pair ended
      | some start => exact timely record last pair ended start given
  rw [opened] at opens
  refine ⟨opens.close starts closed, ?_⟩
  intro last found
  obtain rfl : ended = last := by simpa using found
  exact ⟨outcome, closed⟩

end InOrder

/-- One operation keeps the order. -/
theorem RunFields.Dated.step {operation : RunOperation} {run : Run} {version : ℕ}
    {before now : DateTime} {transition : RunTransition} (dated : run.Dated before)
    (permitted : NotBackdated operation run before now)
    (applied : operation.apply run version now = .ok transition) :
    transition.current.Dated now := by
  obtain ⟨later, notBackdated⟩ := permitted
  have inOrder := dated.inOrder.later later
  have started : ∀ start ∈ run.startedAt, start ≤ now :=
    fun start given => DateTime.le_trans (dated.started start given) later
  rcases RunOperation.apply_rewrites applied with same | ⟨history, updated, starts⟩
  · rw [same]
    exact ⟨inOrder, dated.updated, started⟩
  · have timely : operation.closes = true → run.status.terminal = false →
        ∀ record ∈ run.attemptHistory.getLast?, ∀ pair ∈ record.closed,
          ∀ start ∈ run.startedAt, pair.1 ≤ start := by
      intro closes active record last pair ended start given
      by_contra early
      have early : start < pair.1 := Nat.lt_of_not_le early
      exact notBackdated ⟨closes, active, record, pair, start, last, ended, given, early⟩
    have ordered : InOrder transition.current.attemptHistory now := by
      generalize transition.current.attemptHistory = records at history ⊢
      cases history with
      | kept => exact inOrder
      | opened =>
        apply inOrder.openAttempt (DateTime.le_refl now)
        intro record last pair ended
        exact (inOrder.past record (List.mem_of_getLast? last)).2 pair ended
      | closed closes active closing =>
        exact (inOrder.closeAttempt started (timely closes active) closing).1
      | recovered closes active closing starts isOpen =>
        obtain ⟨ordered, ended⟩ := inOrder.closeAttempt started (timely closes active) closing
        apply ordered.append _ (by rw [starts]; exact DateTime.le_refl now) isOpen
        intro previous last pair closed
        rw [starts]
        exact (ordered.past previous (List.mem_of_getLast? last)).2 pair closed
    refine ⟨ordered, ?_, ?_⟩
    · intro record member pair ended
      exact ⟨now, updated, (ordered.past record member).2 pair ended⟩
    · intro start given
      rcases starts with same | same
      · rw [same] at given
        exact started start given
      · rw [same] at given
        cases earlier : run.startedAt with
        | none =>
          rw [earlier] at given
          obtain rfl : now = start := by simpa using given
          exact DateTime.le_refl now
        | some time =>
          rw [earlier] at given
          obtain rfl : time = start := by simpa using given
          exact started time earlier

theorem Driven.dated {run current : Run} {last now : DateTime}
    (driven : Driven NotBackdated run last current now) (dated : run.Dated last) :
    current.Dated now := by
  induction driven with
  | refl => exact dated
  | step _ permitted applied ih => exact ih.step permitted applied

theorem Created.fields {run : Run} (created : Created run) :
    run.attemptHistory = [] ∧ run.startedAt = none ∧ run.status = .created := by
  cases created with
  | rootAgent made =>
    rw [Run.make_fields made]
    exact ⟨rfl, rfl, rfl⟩
  | rootWorkflow made =>
    rw [Run.make_fields made]
    exact ⟨rfl, rfl, rfl⟩
  | childAgent made =>
    obtain ⟨_, _, made⟩ := bind_ok made
    obtain ⟨_, _, made⟩ := bind_ok made
    rw [Run.make_fields made]
    exact ⟨rfl, rfl, rfl⟩

/-- The attempts of a run that was created and never backdated are in the order of time. -/
theorem Created.driven_chronological {run current : Run} {last now : DateTime}
    (created : Created run) (driven : Driven NotBackdated run last current now) :
    current.Chronological := by
  obtain ⟨history, started, -⟩ := created.fields
  have inOrder : InOrder run.attemptHistory last := by
    rw [history]
    exact ⟨.nil, by simp⟩
  have dated := driven.dated ⟨inOrder, by simp [history], by simp [started]⟩
  exact ⟨dated.inOrder.ordered, fun record member pair ended =>
    ⟨record.ordered pair ended, dated.updated record member pair ended⟩⟩

/-! ## Recovery -/

/-- The run is recovering, or paused while it did. -/
def RunFields.Recovering (fields : RunFields) : Prop :=
  fields.status = .recovering ∨
    fields.status = .paused ∧ fields.continuationStatus = some .recovering

/-- The last record is open and of the current attempt, follows the record of the attempt that
was interrupted, and names a checkpoint. -/
def RunFields.Sourced (fields : RunFields) : Prop :=
  ∃ earlier interrupted record time source,
    fields.attemptHistory = earlier ++ [interrupted, record] ∧
    interrupted.closed = some (time, .interrupted) ∧ interrupted.attempt < record.attempt ∧
    record.isOpen = true ∧ record.attempt = fields.attempt ∧ record.checkpointRef = some source

/-- Recovery is not entered by an `advance` of a running run. -/
def NotAdvanced (operation : RunOperation) (run : Run) (_ _ : DateTime) : Prop :=
  ¬(operation = .advance .recovering ∧ run.status = .running)

/-- A run that keeps its history and its attempt keeps its source. -/
theorem RunFields.Sourced.congr {fields other : RunFields} (sourced : fields.Sourced)
    (history : other.attemptHistory = fields.attemptHistory)
    (attempt : other.attempt = fields.attempt) : other.Sourced := by
  unfold RunFields.Sourced
  rw [history, attempt]
  exact sourced

theorem RunFields.Sourced.openAttempt {run : Run} (sourced : run.Sourced) (time : DateTime) :
    openAttempt run time = run.attemptHistory := by
  obtain ⟨earlier, interrupted, record, -, -, history, -, -, isOpen, -, -⟩ := sourced
  unfold RunStateMachine.openAttempt
  rw [if_pos (by simp [history, isOpen])]

theorem RunStatus.of_recovering {status target : RunStatus} (legal : target ∈ status.advances)
    (recovering : target = .recovering) : status = .running := by
  subst recovering
  revert legal
  cases status <;> decide

theorem RunStatus.advances_paused (status : RunStatus) : RunStatus.paused ∉ status.advances := by
  cases status <;> decide

/-- The phase a retry continues in is not a recovery. -/
theorem Run.retrying_continuation {run : Run} (retrying : run.status = .retrying) :
    run.continuationStatus ≠ some .recovering := by
  intro recovering
  obtain ⟨phase, given, legal⟩ := run.sound.continues (.inr retrying)
  rw [recovering] at given
  cases given
  rw [retrying] at legal
  revert legal
  decide

theorem RunStateMachine.recoverySource_workflow {run : Run} {workflow : WorkflowFields}
    (kind : run.kind = .workflow workflow) {checkpointRef source : Option CheckpointRef}
    (given : recoverySource run checkpointRef = .ok source) : ∃ ref, source = some ref := by
  unfold recoverySource at given
  rw [Run.workflow?_eq_some.mpr kind] at given
  dsimp only at given
  split at given
  · cases given
  · cases given
    exact ⟨_, rfl⟩

/-- A recovery opens an attempt of its own, from its own source. -/
theorem RunStateMachine.recover_sourced {checkpointRef : Option CheckpointRef} {run : Run}
    {version : ℕ} {now : DateTime} {transition : RunTransition} {workflow : WorkflowFields}
    (kind : run.kind = .workflow workflow)
    (done : recover checkpointRef run version now = .ok transition)
    (sourced : run.Recovering → run.Sourced) : transition.current.Sourced := by
  obtain ⟨-, -, same | ⟨_, ⟨-, -, source, history, given, closing, rfl⟩, fields⟩⟩ := recover_ok done
  · rw [same.1]
    exact sourced (.inl same.2)
  · obtain ⟨earlier, record, ended, -, closed, rfl⟩ := closeAttempt_ok closing
    obtain ⟨-, -, interrupted⟩ := AttemptRecord.close_fields closed
    obtain ⟨ref, rfl⟩ := recoverySource_workflow kind given
    have increasing := transition.current.sound.increasing
    have records : transition.current.attemptHistory = earlier ++ [ended,
        ⟨run.attempt + 1, now, none, some ref, none, Nat.le_add_left 1 _,
          AttemptRecord.unended now⟩] := by
      rw [fields]
      simp
    refine ⟨earlier, ended, _, now, ref, records, interrupted, ?_, rfl, ?_, rfl⟩
    · rw [records, List.map_append] at increasing
      have pair := (List.isChain_append.mp increasing).2.1
      simpa using pair
    · rw [fields]

theorem Run.Sourced.step {operation : RunOperation} {run : Run} {version : ℕ}
    {before now : DateTime} {transition : RunTransition} {workflow : WorkflowFields}
    (kind : run.kind = .workflow workflow) (sourced : run.Recovering → run.Sourced)
    (permitted : NotAdvanced operation run before now)
    (applied : operation.apply run version now = .ok transition) :
    transition.current.Recovering → transition.current.Sourced := by
  have idempotent : transition.current = run →
      transition.current.Recovering → transition.current.Sourced := by
    intro same
    rw [same]
    exact sourced
  cases operation with
  | start =>
    obtain ⟨-, -, same | ⟨_, ⟨-, rfl⟩, fields⟩⟩ := start_ok applied
    · exact idempotent same.1
    · rw [fields]
      rintro (impossible | ⟨impossible, -⟩) <;> cases impossible
  | advance target =>
    obtain ⟨-, -, same | ⟨_, ⟨legal, rfl⟩, fields⟩⟩ := advance_ok applied
    · exact idempotent same.1
    · rw [fields]
      rintro (recovering | ⟨paused, -⟩)
      · have recovering : target = .recovering := recovering
        exact absurd ⟨congrArg RunOperation.advance recovering,
          RunStatus.of_recovering legal recovering⟩ permitted
      · have paused : target = .paused := paused
        rw [paused] at legal
        exact absurd legal (RunStatus.advances_paused _)
  | pause =>
    obtain ⟨-, -, same | ⟨_, ⟨-, rfl⟩, fields⟩⟩ := pause_ok applied
    · exact idempotent same.1
    · rw [fields]
      rintro (impossible | ⟨-, continues⟩)
      · cases impossible
      · dsimp only at continues
        split at continues
        · rename_i retrying
          exact absurd continues (Run.retrying_continuation retrying)
        · have recovering : run.status = .recovering := by simpa using continues
          exact (sourced (.inl recovering)).congr rfl rfl
  | resume =>
    obtain ⟨-, -, same | ⟨_, ⟨paused, continuation, kept, rfl⟩, fields⟩⟩ := resume_ok applied
    · exact same.2.elim
    · rw [fields]
      rintro (recovering | ⟨-, impossible⟩)
      · have recovering : continuation = .recovering := recovering
        rw [recovering] at kept
        have source := sourced (.inr ⟨paused, kept⟩)
        exact source.congr (source.openAttempt now) rfl
      · cases impossible
  | retry error =>
    obtain ⟨-, -, same | ⟨_, ⟨-, _, _, -, rfl⟩, fields⟩⟩ := retry_ok applied
    · exact same.2.elim
    · rw [fields]
      rintro (impossible | ⟨impossible, -⟩) <;> cases impossible
  | redispatchRetry =>
    obtain ⟨-, -, same | ⟨_, ⟨retrying, continuation, kept, rfl⟩, fields⟩⟩ :=
      redispatchRetry_ok applied
    · exact same.2.elim
    · rw [fields]
      rintro (recovering | ⟨-, impossible⟩)
      · have recovering : continuation = .recovering := recovering
        rw [recovering] at kept
        exact absurd kept (Run.retrying_continuation retrying)
      · cases impossible
  | recover checkpointRef => exact fun _ => recover_sourced kind applied sourced
  | commitCheckpoint checkpointRef expectedPreviousRef definitionId graphVersion =>
    obtain ⟨_, -, -, -, -, same | ⟨_, ⟨-, rfl⟩, fields⟩⟩ := commitCheckpoint_ok applied
    · exact idempotent same.1
    · rw [fields]
      exact fun recovering => (sourced recovering).congr rfl rfl
  | complete =>
    obtain ⟨-, -, same | ⟨_, ⟨-, _, -, rfl⟩, fields⟩⟩ := complete_ok applied
    · exact idempotent same.1
    · rw [fields]
      rintro (impossible | ⟨impossible, -⟩) <;> cases impossible
  | fail error =>
    obtain ⟨-, -, same | ⟨_, ⟨-, _, _, -, -, rfl⟩, fields⟩⟩ := fail_ok applied
    · exact idempotent same.1
    · rw [fields]
      rintro (impossible | ⟨impossible, -⟩) <;> cases impossible
  | cancel =>
    obtain ⟨-, -, same | ⟨_, ⟨-, _, -, rfl⟩, fields⟩⟩ := cancel_ok applied
    · exact idempotent same.1
    · rw [fields]
      rintro (impossible | ⟨impossible, -⟩) <;> cases impossible

/-- A workflow run stays one. -/
theorem RunOperation.apply_workflow {operation : RunOperation} {run : Run} {version : ℕ}
    {now : DateTime} {transition : RunTransition} {workflow : WorkflowFields}
    (kind : run.kind = .workflow workflow)
    (applied : operation.apply run version now = .ok transition) :
    ∃ workflow, transition.current.kind = .workflow workflow := by
  rcases (RunOperation.apply_ok applied).2.2 with same | ⟨-, -, same⟩
  · exact ⟨workflow, by rw [same, kind]⟩
  · have value := same.kind
    rw [kind] at value
    cases own : transition.current.kind with
    | agent _ =>
      have kinds : "agent" = "workflow" := by rwa [own] at value
      exact absurd kinds (by decide)
    | workflow fields => exact ⟨fields, rfl⟩

/-- A workflow run that was never advanced into recovery has a source wherever it recovers. -/
theorem Created.driven_sourced {run current : Run} {last now : DateTime} (created : Created run)
    {workflow : WorkflowFields} (kind : run.kind = .workflow workflow)
    (driven : Driven NotAdvanced run last current now) (recovering : current.Recovering) :
    current.Sourced := by
  have kept : (∃ workflow, current.kind = .workflow workflow) ∧
      (current.Recovering → current.Sourced) := by
    clear recovering
    induction driven with
    | refl =>
      refine ⟨⟨workflow, kind⟩, ?_⟩
      obtain ⟨-, -, status⟩ := created.fields
      rintro (impossible | ⟨impossible, -⟩)
      · rw [status] at impossible
        cases impossible
      · rw [status] at impossible
        cases impossible
    | step _ permitted applied ih =>
      obtain ⟨⟨_, kind⟩, sourced⟩ := ih
      exact ⟨RunOperation.apply_workflow kind applied,
        Run.Sourced.step kind sourced permitted applied⟩
  exact kept.2 recovering

namespace AttemptHistory

open SampleParameters

/-- Time does not go back. -/
def Onward (_ : RunOperation) (_ : Run) (before now : DateTime) : Prop := before ≤ now

def createdRun : Run :=
  { RunLifecycle.sampleRun with
    kind := .workflow ⟨⟨"workflow-1", by decide⟩, "1", none⟩
    checked := by decide }

theorem createdRun_created : Created createdRun := by
  have made : createRootWorkflowRun ⟨"definition-1", by decide⟩ ⟨"workflow-1", by decide⟩ "1"
      sampleContext.workspaceId sampleScope sampleTime none none sampleRunId = .ok createdRun := rfl
  exact .rootWorkflow made

/-- Operations that each get the version of the run that the one before has made. -/
def perform : List (RunOperation × DateTime) → Run → Except Raised Run
  | [], run => .ok run
  | (operation, now) :: rest, run => do
    let transition ← operation.apply run run.stateVersion now
    perform rest transition.current

theorem driven_of_perform {run current final : Run} {last before : DateTime}
    {operations : List (RunOperation × DateTime)} (driven : Driven Onward run last current before)
    (onward : (before :: operations.map Prod.snd).IsChain (· ≤ ·))
    (performed : perform operations current = .ok final) :
    ∃ now, Driven Onward run last final now := by
  induction operations generalizing current before with
  | nil =>
    cases performed
    exact ⟨before, driven⟩
  | cons operation operations ih =>
    obtain ⟨transition, applied, rest⟩ := bind_ok performed
    rw [List.map_cons, List.isChain_cons_cons] at onward
    exact ih (.step driven onward.1 applied) onward.2 rest

def secondAfter (second : Fin 60) : DateTime :=
  ⟨2024, 1, 1, 0, 0, second, 0, by have bound := second.isLt; decide +revert⟩

def retryableDetail : ErrorDetail where
  category := .unavailable
  code := "provider_down"
  message := "provider is down"
  retryable := true
  causeId := none
  required := by decide

/-- A run that is retried, and fails before its second attempt has a record. -/
def failedRetry : List (RunOperation × DateTime) :=
  [(.start, sampleTime), (.retry retryableDetail, secondAfter 1),
    (.fail retryableDetail, secondAfter 2)]

/-- A run that is advanced into recovery. -/
def advancedRecovery : List (RunOperation × DateTime) :=
  [(.start, sampleTime), (.advance .contextLoading, secondAfter 1),
    (.advance .running, secondAfter 2), (.advance .recovering, secondAfter 3)]

/-- The operations succeed, and the run that they make passes the check. -/
def performs (operations : List (RunOperation × DateTime)) (check : Run → Bool) : Bool :=
  match perform operations createdRun with
  | .ok final => check final
  | .error _ => false

theorem driven_of_performs (operations : List (RunOperation × DateTime)) (check : Run → Bool)
    (onward : (sampleTime :: operations.map Prod.snd).IsChain (· ≤ ·))
    (performed : performs operations check = true) :
    ∃ final now, Driven Onward createdRun sampleTime final now ∧ check final = true := by
  unfold performs at performed
  split at performed
  · rename_i final made
    obtain ⟨now, driven⟩ := driven_of_perform .refl onward made
    exact ⟨final, now, driven, performed⟩
  · cases performed

instance : DecidableRel AttemptRecord.Follows := fun previous next =>
  inferInstanceAs (Decidable (∀ pair ∈ previous.closed, pair.1 ≤ next.startedAt))

end AttemptHistory

open AttemptHistory SampleParameters

/-- The second record starts with the run, before the first attempt has ended. -/
theorem Created.not_chronological : ∃ final now, Created createdRun ∧
    Driven Onward createdRun sampleTime final now ∧ ¬final.Chronological := by
  obtain ⟨final, now, driven, unordered⟩ := driven_of_performs failedRetry
    (fun final => decide ¬final.attemptHistory.IsChain AttemptRecord.Follows)
    (by decide) (by decide +kernel)
  refine ⟨final, now, createdRun_created, driven, fun chronological => ?_⟩
  exact of_decide_eq_true unordered chronological.ordered

/-- A running run that is advanced to `RECOVERING` keeps its record, which has no source. -/
theorem Created.not_sourced : ∃ final now, Created createdRun ∧
    Driven Onward createdRun sampleTime final now ∧ final.Recovering ∧ ¬final.Sourced := by
  obtain ⟨final, now, driven, unsourced⟩ := driven_of_performs advancedRecovery
    (fun final => decide (final.status = .recovering) && decide (final.attemptHistory.length = 1))
    (by decide) (by decide +kernel)
  simp only [Bool.and_eq_true, decide_eq_true_eq] at unsourced
  refine ⟨final, now, createdRun_created, driven, .inl unsourced.1, ?_⟩
  rintro ⟨earlier, interrupted, record, -, -, history, -⟩
  have length := congrArg List.length history
  rw [unsourced.2] at length
  simp at length

/-- A run that is started, and cancelled a second later. -/
theorem Created.driven_chronological_cancelled : ∃ final : Run,
    final.Chronological ∧ final.status = .cancelled := by
  obtain ⟨started, cancelled, applied, applied', history, status⟩ : ∃ started cancelled,
      RunOperation.start.apply createdRun 0 sampleTime = .ok started ∧
      RunOperation.cancel.apply started.current 1 (secondAfter 1) = .ok cancelled ∧
      started.current.attemptHistory = [attemptRecord createdRun sampleTime] ∧
      cancelled.current.status = .cancelled := ⟨_, _, rfl, rfl, rfl, rfl⟩
  have begun : NotBackdated .start createdRun sampleTime sampleTime := by
    refine ⟨DateTime.le_refl sampleTime, ?_⟩
    rintro ⟨impossible, -⟩
    cases impossible
  have ended : NotBackdated .cancel started.current sampleTime (secondAfter 1) := by
    refine ⟨by decide, ?_⟩
    rintro ⟨-, -, record, pair, start, last, closed, -⟩
    rw [history] at last
    cases last
    cases closed
  have driven : Driven NotBackdated createdRun sampleTime cancelled.current (secondAfter 1) :=
    .step (.step .refl begun applied) ended applied'
  exact ⟨cancelled.current, Created.driven_chronological createdRun_created driven, status⟩

/-- A run that is started, and recovers from a checkpoint a second later. -/
theorem Created.driven_sourced_recovered : ∃ final : Run,
    final.Sourced ∧ final.status = .recovering := by
  obtain ⟨started, recovered, applied, applied', status⟩ : ∃ started recovered,
      RunOperation.start.apply createdRun 0 sampleTime = .ok started ∧
      (RunOperation.recover (some ⟨"checkpoint-1", by decide⟩)).apply started.current 1
        (secondAfter 1) = .ok recovered ∧
      recovered.current.status = .recovering := ⟨_, _, rfl, rfl, rfl⟩
  have begun : NotAdvanced .start createdRun sampleTime sampleTime := by
    rintro ⟨impossible, -⟩
    cases impossible
  have entered : NotAdvanced (.recover (some ⟨"checkpoint-1", by decide⟩)) started.current
      sampleTime (secondAfter 1) := by
    rintro ⟨impossible, -⟩
    cases impossible
  have driven : Driven NotAdvanced createdRun sampleTime recovered.current (secondAfter 1) :=
    .step (.step .refl begun applied) entered applied'
  exact ⟨recovered.current, Created.driven_sourced createdRun_created rfl driven (.inl status),
    status⟩

end CongeriesCore
