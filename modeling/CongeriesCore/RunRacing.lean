import CongeriesCore.CoreSystem
import CongeriesCore.RunLifecycle

/-! # Racing mutations of a Run

Any number of clients of the Run service over one Run, their steps interleaved at every
suspension. Beside the world stands a log of what was committed and published, newest first,
and of the clients whose expected version was overtaken. -/

namespace CongeriesCore

open AsyncProgram

/-- A mutation of the Run service. -/
inductive RunCall
  | mutation (operation : RunOperation) (expectedVersion : ℕ)
  | auditFailure (error : ErrorDetail)

def RunOperation.call (runId : RunId) (expectedVersion : ℕ) : RunOperation → CoreProgram Run
  | .start => RunService.start runId expectedVersion
  | .advance target => RunService.advance runId expectedVersion target
  | .pause => RunService.pause runId expectedVersion
  | .resume => RunService.resume runId expectedVersion
  | .retry error => RunService.retry runId expectedVersion error
  | .redispatchRetry => RunService.redispatchRetry runId expectedVersion
  | .recover checkpointRef => RunService.recover runId expectedVersion checkpointRef
  | .commitCheckpoint checkpointRef expectedPreviousRef definitionId graphVersion =>
    RunService.commitCheckpoint runId expectedVersion checkpointRef expectedPreviousRef definitionId
      graphVersion
  | .complete => RunService.complete runId expectedVersion
  | .fail error => RunService.fail runId expectedVersion error
  | .cancel => RunService.cancel runId expectedVersion

theorem RunOperation.call_eq (operation : RunOperation) (runId : RunId) (expectedVersion : ℕ) :
    operation.call runId expectedVersion =
      RunService.apply runId expectedVersion operation.apply := by
  cases operation <;> rfl

def RunCall.program (runId : RunId) : RunCall → CoreProgram Run
  | .mutation operation expectedVersion => operation.call runId expectedVersion
  | .auditFailure error => RunService.handleAuditFailure runId error

/-- The version that the caller expects, if it names one. -/
def RunCall.expected : RunCall → Option ℕ
  | .mutation _ expectedVersion => some expectedVersion
  | .auditFailure _ => none

structure RunCommit where
  thread : ℕ
  previous : Run
  current : Run

structure RunLog where
  /-- how many clients have started -/
  started : ℕ
  commits : List RunCommit
  published : List (ℕ × RunTransition)
  expected : ℕ → Option ℕ
  /-- the clients that found another version than they expected -/
  lost : List ℕ

namespace RunLog

def empty : RunLog := ⟨0, [], [], fun _ => none, []⟩

def begin_ (log : RunLog) (expected : Option ℕ) : RunLog :=
  { log with
    started := log.started + 1
    expected := Function.update log.expected log.started expected }

def read (log : RunLog) (thread : ℕ) (run : Run) : RunLog :=
  match log.expected thread with
  | none => { log with expected := Function.update log.expected thread (some run.stateVersion) }
  | some version =>
    if run.stateVersion = version then log else { log with lost := thread :: log.lost }

/-- What the log records of one awaited call of a client. -/
def observe (thread : ℕ) : (op : CoreOp) → Except Raised op.Answer → CoreWorld → CoreWorld →
    RunLog → RunLog
  | .runGet _, .ok run, _, _, log => log.read thread run
  | .runCompareAndSet run _, .ok committed, before, _, log =>
    match before.run? run.runId with
    | none => log
    | some previous => { log with commits := ⟨thread, previous, committed⟩ :: log.commits }
  | .runCompareAndSet _ _, .error _, _, _, log => { log with lost := thread :: log.lost }
  | .runStateChanged transition, .ok _, _, _, log =>
    { log with published := (thread, transition) :: log.published }
  | _, _, _, _, log => log

end RunLog

abbrev RunWorld := CoreWorld × RunLog

/-- The in-memory repository does not fail, and the publisher returns. -/
def runAllows : (op : CoreOp) → op.Choice → RunWorld → Prop
  | .runGet _, fault, _ | .runCompareAndSet _ _, fault, _ => fault = .none
  | .runStateChanged _, outcome, _ => outcome = .ok ()
  | _, _, _ => True

section System

variable [Sha256]

abbrev runEnvironment (thread : ℕ) : Environment CoreInterface Raised RunWorld :=
  coreEnvironment.instrumented runAllows (RunLog.observe thread)

/-- The clients `calls` of the Run that the repository holds at first. -/
def runPool (initial : Run) (calls : ℕ → RunCall) : Pool CoreInterface Raised Run RunWorld where
  environment := runEnvironment
  initial world := world.1.run? initial.runId = some initial ∧ world.2 = .empty
  starts thread before program start :=
    -- the clients are counted as they start
    thread = before.2.started ∧ program = (calls thread).program initial.runId ∧
      start = (before.1, before.2.begin_ (calls thread).expected)

end System

/-! ### The committed path -/

/-- The state machine makes `current` from `previous`. -/
def LegalTransition (previous current : Run) : Prop :=
  ∃ (operation : RunOperation) (version : ℕ) (now : DateTime) (transition : RunTransition),
    operation.apply previous version now = .ok transition ∧ transition.current = current ∧
      current ≠ previous

/-- Each commit is a legal transition of the run committed just before it, the first one of
`initial`; `last` is what the last one committed. -/
def CommittedPath (initial : Run) : List RunCommit → Run → Prop
  | [], last => last = initial
  | commit :: earlier, last => last = commit.current ∧
    LegalTransition commit.previous commit.current ∧ CommittedPath initial earlier commit.previous

theorem LegalTransition.advances {previous current : Run} (legal : LegalTransition previous current) :
    previous.status.terminal = false ∧ current.stateVersion = previous.stateVersion + 1 ∧
      SameRun previous.toRunFields current.toRunFields := by
  obtain ⟨operation, version, now, transition, applied, rfl, changed⟩ := legal
  exact (RunOperation.apply_ok applied).2.2.resolve_left changed

namespace CommittedPath

variable {initial last : Run} {commits : List RunCommit}

theorem runId (path : CommittedPath initial commits last) : last.runId = initial.runId := by
  induction commits generalizing last with
  | nil => rw [path]
  | cons commit earlier ih =>
    obtain ⟨rfl, legal, path⟩ := path
    rw [legal.advances.2.2.runId]
    exact ih path

/-- The runs that were stored one after the other. -/
def On (initial : Run) (commits : List RunCommit) (run : Run) : Prop :=
  run = initial ∨ ∃ commit ∈ commits, commit.current = run

theorem on_last (path : CommittedPath initial commits last) : On initial commits last := by
  cases commits with
  | nil => exact .inl path
  | cons commit earlier => exact .inr ⟨commit, List.mem_cons_self, path.1.symm⟩

theorem On.grow {run : Run} (on : On initial commits run) (added : List RunCommit) :
    On initial (added ++ commits) run := by
  rcases on with rfl | ⟨commit, member, same⟩
  · exact .inl rfl
  · exact .inr ⟨commit, List.mem_append_right _ member, same⟩

theorem on_runId (path : CommittedPath initial commits last) {run : Run}
    (on : On initial commits run) : run.runId = initial.runId := by
  induction commits generalizing last with
  | nil =>
    rcases on with rfl | ⟨_, member, -⟩
    · rfl
    · cases member
  | cons commit earlier ih =>
    have committed := path.runId
    obtain ⟨rfl, -, path⟩ := path
    rcases on with rfl | ⟨other, member, rfl⟩
    · rfl
    · rcases List.mem_cons.mp member with rfl | member
      · exact committed
      · exact ih path (.inr ⟨other, member, rfl⟩)

/-- A stored run is the last one or has a smaller version. -/
theorem version_lt (path : CommittedPath initial commits last) {run : Run}
    (on : On initial commits run) : run = last ∨ run.stateVersion < last.stateVersion := by
  induction commits generalizing last with
  | nil =>
    rcases on with rfl | ⟨_, member, -⟩
    · exact .inl path.symm
    · cases member
  | cons commit earlier ih =>
    obtain ⟨rfl, legal, path⟩ := path
    have next := legal.advances.2.1
    have before : On initial earlier run → run.stateVersion < commit.current.stateVersion := by
      intro on
      rcases ih path on with rfl | less
      · omega
      · omega
    rcases on with rfl | ⟨other, member, rfl⟩
    · exact .inr (before (.inl rfl))
    · rcases List.mem_cons.mp member with rfl | member
      · exact .inl rfl
      · exact .inr (before (.inr ⟨other, member, rfl⟩))

/-- Nothing is committed after a terminal run. -/
theorem active (path : CommittedPath initial commits last) (active : last.status.terminal = false) :
    ∀ commit ∈ commits, commit.current.status.terminal = false := by
  induction commits generalizing last with
  | nil => simp
  | cons commit earlier ih =>
    obtain ⟨rfl, legal, path⟩ := path
    intro other member
    rcases List.mem_cons.mp member with rfl | member
    · exact active
    · exact ih path legal.advances.1 other member

def terminals (commits : List RunCommit) : ℕ :=
  commits.countP fun commit => commit.current.status.terminal

theorem terminals_le_one (path : CommittedPath initial commits last) : terminals commits ≤ 1 := by
  cases commits with
  | nil => simp [terminals]
  | cons commit earlier =>
    obtain ⟨rfl, legal, path⟩ := path
    have none : terminals earlier = 0 := by
      rw [terminals, List.countP_eq_zero]
      intro other member
      simp [path.active legal.advances.1 other member]
    unfold terminals at none ⊢
    rw [List.countP_cons, none]
    split <;> omega

end CommittedPath

/-! ### The contract of a client -/

/-- Only clients in `who` have done anything. -/
structure Extends (who : ℕ → Prop) (before after : RunLog) : Prop where
  started : before.started ≤ after.started
  commits : ∃ added, after.commits = added ++ before.commits ∧ ∀ commit ∈ added, who commit.thread
  published : ∃ added, after.published = added ++ before.published ∧ ∀ item ∈ added, who item.1
  expected : ∀ thread, ¬ who thread → after.expected thread = before.expected thread
  lost : ∀ thread, ¬ who thread → (thread ∈ after.lost ↔ thread ∈ before.lost)

namespace Extends

variable {who : ℕ → Prop} {first second third : RunLog}

theorem refl (log : RunLog) : Extends who log log :=
  ⟨le_rfl, ⟨[], rfl, by simp⟩, ⟨[], rfl, by simp⟩, fun _ _ => rfl, fun _ _ => Iff.rfl⟩

theorem trans (earlier : Extends who first second) (later : Extends who second third) :
    Extends who first third := by
  obtain ⟨commits, grown, committers⟩ := earlier.commits
  obtain ⟨commits', grown', committers'⟩ := later.commits
  obtain ⟨published, shown, publishers⟩ := earlier.published
  obtain ⟨published', shown', publishers'⟩ := later.published
  refine ⟨earlier.started.trans later.started, ⟨commits' ++ commits, by simp [grown', grown], ?_⟩,
    ⟨published' ++ published, by simp [shown', shown], ?_⟩,
    fun thread other => (later.expected thread other).trans (earlier.expected thread other),
    fun thread other => (later.lost thread other).trans (earlier.lost thread other)⟩
  · intro commit member
    exact (List.mem_append.mp member).elim (committers' commit) (committers commit)
  · intro item member
    exact (List.mem_append.mp member).elim (publishers' item) (publishers item)

theorem mono {wider : ℕ → Prop} (extended : Extends who first second)
    (wide : ∀ thread, who thread → wider thread) : Extends wider first second := by
  obtain ⟨commits, grown, committers⟩ := extended.commits
  obtain ⟨published, shown, publishers⟩ := extended.published
  exact ⟨extended.started, ⟨commits, grown, fun commit member => wide _ (committers commit member)⟩,
    ⟨published, shown, fun item member => wide _ (publishers item member)⟩,
    fun thread other => extended.expected thread (mt (wide thread) other),
    fun thread other => extended.lost thread (mt (wide thread) other)⟩

end Extends

/-- The client has neither committed nor published. -/
structure Idle (thread : ℕ) (log : RunLog) : Prop where
  commits : ∀ commit ∈ log.commits, commit.thread ≠ thread
  published : ∀ item ∈ log.published, item.1 ≠ thread

/-- The client has not found itself overtaken either. -/
structure Racing (thread : ℕ) (log : RunLog) : Prop extends Idle thread log where
  started : thread < log.started
  current : thread ∉ log.lost

/-- The client has committed and has to publish. -/
structure Publishing (thread : ℕ) (previous current : Run) (log : RunLog) : Prop where
  started : thread < log.started
  committed : ⟨thread, previous, current⟩ ∈ log.commits
  published : ∀ item ∈ log.published, item.1 ≠ thread
  current : thread ∉ log.lost

section Stable

variable {thread : ℕ} {before after : RunLog}

theorem Idle.stable (idle : Idle thread before) (extended : Extends (· ≠ thread) before after) :
    Idle thread after := by
  obtain ⟨commits, grown, committers⟩ := extended.commits
  obtain ⟨published, shown, publishers⟩ := extended.published
  refine ⟨fun commit member => ?_, fun item member => ?_⟩
  · rw [grown] at member
    exact (List.mem_append.mp member).elim (committers commit) (idle.commits commit)
  · rw [shown] at member
    exact (List.mem_append.mp member).elim (publishers item) (idle.published item)

theorem lost_stable (extended : Extends (· ≠ thread) before after) :
    thread ∈ after.lost ↔ thread ∈ before.lost :=
  extended.lost thread (by simp)

theorem Racing.stable (racing : Racing thread before)
    (extended : Extends (· ≠ thread) before after) : Racing thread after :=
  ⟨racing.toIdle.stable extended, racing.started.trans_le extended.started,
    mt (lost_stable extended).mp racing.current⟩

theorem commits_stable {who : ℕ → Prop} {commit : RunCommit} (member : commit ∈ before.commits)
    (extended : Extends who before after) : commit ∈ after.commits := by
  obtain ⟨added, grown, -⟩ := extended.commits
  rw [grown]
  exact List.mem_append_right added member

theorem published_stable {who : ℕ → Prop} {item : ℕ × RunTransition}
    (member : item ∈ before.published) (extended : Extends who before after) :
    item ∈ after.published := by
  obtain ⟨added, grown, -⟩ := extended.published
  rw [grown]
  exact List.mem_append_right added member

theorem on_stable {who : ℕ → Prop} {initial run : Run}
    (on : CommittedPath.On initial before.commits run) (extended : Extends who before after) :
    CommittedPath.On initial after.commits run := by
  obtain ⟨added, grown, -⟩ := extended.commits
  rw [grown]
  exact on.grow added

theorem Publishing.stable {previous current : Run} (publishing : Publishing thread previous current before)
    (extended : Extends (· ≠ thread) before after) : Publishing thread previous current after := by
  obtain ⟨published, shown, publishers⟩ := extended.published
  refine ⟨publishing.started.trans_le extended.started,
    commits_stable publishing.committed extended, fun item member => ?_,
    mt (lost_stable extended).mp publishing.current⟩
  rw [shown] at member
  exact (List.mem_append.mp member).elim (publishers item) (publishing.published item)

end Stable

/-- What holds of the world and the log between any two steps. -/
structure Linear (initial : Run) (state : RunWorld) : Prop where
  path : ∃ last, state.1.run? initial.runId = some last ∧
    CommittedPath initial state.2.commits last
  committers : (state.2.commits.map RunCommit.thread).Nodup
  publishers : (state.2.published.map Prod.fst).Nodup
  published : ∀ thread transition, (thread, transition) ∈ state.2.published →
    ⟨thread, transition.previous, transition.current⟩ ∈ state.2.commits
  fresh : ∀ thread, state.2.started ≤ thread → Idle thread state.2 ∧ thread ∉ state.2.lost

/-- Only a publication is awaited by a client that has committed. -/
def awaits (thread : ℕ) (log : RunLog) : CoreOp → Prop
  | .runStateChanged transition => Publishing thread transition.previous transition.current log
  | _ => Idle thread log

def runContract (initial : Run) (thread : ℕ) : Contract CoreInterface RunWorld where
  invariant := Linear initial
  rely before after := Extends (· ≠ thread) before.2 after.2
  guarantee before after := Extends (· = thread) before.2 after.2
  need op state := awaits thread state.2 op

def RunOperation.ends : RunOperation → Bool
  | .complete | .fail _ | .cancel => true
  | _ => false

def RunCall.ends : RunCall → Bool
  | .mutation operation _ => operation.ends
  | .auditFailure _ => false

/-- How a client ends: it returns a stored run, and has published what it committed; or it
raises and has committed nothing, for a conflict if it was overtaken. -/
def RunPost (initial : Run) (call : RunCall) (thread : ℕ) : Except Raised Run → RunWorld → Prop
  | .ok run, state => CommittedPath.On initial state.2.commits run ∧ thread ∉ state.2.lost ∧
    (call.ends = true → run.status.terminal = true) ∧
    (Idle thread state.2 ∨ ∃ previous reason, ⟨thread, previous, run⟩ ∈ state.2.commits ∧
      (thread, ⟨previous, run, reason⟩) ∈ state.2.published)
  | .error error, state => Idle thread state.2 ∧
    (thread ∈ state.2.lost → error = RunStateMachine.staleStateVersion)

theorem RunPost.stable {initial : Run} {call : RunCall} {thread : ℕ}
    {outcome : Except Raised Run} {before after : RunWorld}
    (post : RunPost initial call thread outcome before)
    (extended : Extends (· ≠ thread) before.2 after.2) :
    RunPost initial call thread outcome after := by
  cases outcome with
  | ok run =>
    obtain ⟨on, current, ended, done⟩ := post
    refine ⟨on_stable on extended, mt (lost_stable extended).mp current, ended, ?_⟩
    rcases done with idle | ⟨previous, reason, committed, published⟩
    · exact .inl (idle.stable extended)
    · exact .inr ⟨previous, reason, commits_stable committed extended,
        published_stable published extended⟩
  | error error =>
    obtain ⟨idle, conflict⟩ := post
    exact ⟨idle.stable extended, fun lost => conflict ((lost_stable extended).mp lost)⟩

/-! ### Steps of a client -/

section Log

variable {thread : ℕ} {initial : Run} {world : CoreWorld} {log : RunLog}

theorem Extends.lose (thread : ℕ) (log : RunLog) :
    Extends (· = thread) log { log with lost := thread :: log.lost } := by
  refine ⟨le_rfl, ⟨[], rfl, by simp⟩, ⟨[], rfl, by simp⟩, fun _ _ => rfl, fun other different => ?_⟩
  simp [different]

theorem Linear.lose (linear : Linear initial (world, log)) (started : thread < log.started) :
    Linear initial (world, { log with lost := thread :: log.lost }) := by
  refine ⟨linear.path, linear.committers, linear.publishers, linear.published,
    fun other later => ?_⟩
  obtain ⟨idle, current⟩ := linear.fresh other later
  have different : other ≠ thread := by
    have later : log.started ≤ other := later
    omega
  exact ⟨⟨idle.commits, idle.published⟩, by simpa [different] using current⟩

theorem Extends.read (thread : ℕ) (log : RunLog) (run : Run) :
    Extends (· = thread) log (log.read thread run) := by
  unfold RunLog.read
  split
  · refine ⟨le_rfl, ⟨[], rfl, by simp⟩, ⟨[], rfl, by simp⟩, fun other different => ?_,
      fun _ _ => Iff.rfl⟩
    exact Function.update_of_ne different _ _
  · split
    · exact .refl log
    · exact .lose thread log

theorem Linear.read (linear : Linear initial (world, log)) (started : thread < log.started)
    (run : Run) : Linear initial (world, log.read thread run) := by
  unfold RunLog.read
  split
  · exact ⟨linear.path, linear.committers, linear.publishers, linear.published,
      fun other later => ⟨⟨(linear.fresh other later).1.commits,
        (linear.fresh other later).1.published⟩, (linear.fresh other later).2⟩⟩
  · split
    · exact linear
    · exact linear.lose started

theorem Extends.commit (commit : RunCommit) (log : RunLog) :
    Extends (· = commit.thread) log { log with commits := commit :: log.commits } :=
  ⟨le_rfl, ⟨[commit], rfl, by simp⟩, ⟨[], rfl, by simp⟩, fun _ _ => rfl, fun _ _ => Iff.rfl⟩

theorem Linear.commit {previous current : Run} (linear : Linear initial (world, log))
    (racing : Racing thread log) (stored : world.run? initial.runId = some previous)
    (legal : LegalTransition previous current) :
    Linear initial (world.setRun current,
      { log with commits := ⟨thread, previous, current⟩ :: log.commits }) := by
  obtain ⟨last, found, path⟩ := linear.path
  have same : last = previous := by
    rw [stored] at found
    exact (Option.some.inj found).symm
  subst same
  have key : current.runId = initial.runId := legal.advances.2.2.runId.trans path.runId
  refine ⟨⟨current, ?_, rfl, legal, path⟩, ?_, linear.publishers, ?_, fun other later => ?_⟩
  · simp [CoreWorld.run?_setRun, key]
  · refine List.nodup_cons.mpr ⟨fun member => ?_, linear.committers⟩
    obtain ⟨commit, member, same⟩ := List.mem_map.mp member
    exact racing.commits commit member same
  · exact fun _ _ member => List.mem_cons_of_mem _ (linear.published _ _ member)
  · obtain ⟨idle, current⟩ := linear.fresh other later
    refine ⟨⟨fun commit member => ?_, idle.published⟩, current⟩
    rcases List.mem_cons.mp member with rfl | member
    · have later : log.started ≤ other := later
      have started := racing.started
      exact (show thread ≠ other by omega)
    · exact idle.commits commit member

theorem Extends.publish (thread : ℕ) (transition : RunTransition) (log : RunLog) :
    Extends (· = thread) log { log with published := (thread, transition) :: log.published } :=
  ⟨le_rfl, ⟨[], rfl, by simp⟩, ⟨[(thread, transition)], rfl, by simp⟩, fun _ _ => rfl,
    fun _ _ => Iff.rfl⟩

theorem Linear.publish {transition : RunTransition} (linear : Linear initial (world, log))
    (publishing : Publishing thread transition.previous transition.current log) :
    Linear initial (world, { log with published := (thread, transition) :: log.published }) := by
  refine ⟨linear.path, linear.committers, ?_, fun publisher shown member => ?_,
    fun other later => ?_⟩
  · refine List.nodup_cons.mpr ⟨fun member => ?_, linear.publishers⟩
    obtain ⟨item, member, same⟩ := List.mem_map.mp member
    exact publishing.published item member same
  · rcases List.mem_cons.mp member with same | member
    · obtain ⟨rfl, rfl⟩ := Prod.mk.inj same
      exact publishing.committed
    · exact linear.published _ _ member
  · obtain ⟨idle, current⟩ := linear.fresh other later
    refine ⟨⟨idle.commits, fun item member => ?_⟩, current⟩
    rcases List.mem_cons.mp member with rfl | member
    · have later : log.started ≤ other := later
      have started := publishing.started
      exact (show thread ≠ other by omega)
    · exact idle.published item member

end Log

theorem RunOperation.ends_terminal {operation : RunOperation} {run : Run} {version : ℕ}
    {now : DateTime} {transition : RunTransition} (ends : operation.ends = true)
    (done : operation.apply run version now = .ok transition) :
    transition.current.status.terminal = true := by
  have ended : ∀ {status : RunStatus} {changes : (RunFields → RunFields) → Prop},
      RunStateMachine.Outcome run version now transition (run.status = status) changes →
      (∀ change, changes change → ∀ fields, (change fields).status = status) →
      status.terminal = true → transition.current.status.terminal = true := by
    intro status changes outcome sets terminal
    rcases outcome.2.2 with ⟨same, already⟩ | ⟨change, changed, fields⟩
    · rw [same, already, terminal]
    · rw [fields, sets change changed, terminal]
  cases operation with
  | complete =>
    refine ended (RunStateMachine.complete_ok done) ?_ rfl
    rintro _ ⟨-, _, -, rfl⟩ _
    rfl
  | fail error =>
    refine ended (RunStateMachine.fail_ok done) ?_ rfl
    rintro _ ⟨-, _, _, -, -, rfl⟩ _
    rfl
  | cancel =>
    refine ended (RunStateMachine.cancel_ok done) ?_ rfl
    rintro _ ⟨-, _, -, rfl⟩ _
    rfl
  | _ => cases ends

section Client

variable [Sha256] {initial : Run} {thread : ℕ} {state : RunWorld}

abbrev RunSafe {α : Type} (initial : Run) (thread : ℕ) (program : CoreProgram α)
    (post : Except Raised α → RunWorld → Prop) (state : RunWorld) : Prop :=
  program.Safe (runEnvironment thread) (runContract initial thread) post state

/-- A read of the Run, and what the log then records. -/
theorem get_safe (racing : Racing thread state.2) :
    RunSafe initial thread (coreOp (.runGet initial.runId)) (fun outcome after =>
      ∃ run log, outcome = .ok run ∧ CommittedPath.On initial after.2.commits run ∧
        Racing thread log ∧ log.expected thread = state.2.expected thread ∧
        after.2 = log.read thread run) state := by
  refine Program.safe_perform fun current relied linear => ?_
  have racing := racing.stable relied
  refine ⟨racing.toIdle, ?_⟩
  rintro choice ⟨-, rfl⟩
  obtain ⟨last, found, path⟩ := linear.path
  have got : current.1.repository.get initial.runId = .ok last := by
    have found : current.1.repository.runs.get? initial.runId = some last := found
    rw [InMemoryRunRepository.get, found]
  have answer : coreAnswer (.runGet initial.runId) .none current.1 = (.ok last, current.1) := by
    simp only [coreAnswer, Fault.apply, got]
  have answered : (runEnvironment thread).answer (.runGet initial.runId) .none current =
      (.ok last, current.1, current.2.read thread last) := Environment.instrumented_answer answer
  rw [answered]
  have extended := Extends.read thread current.2 last
  exact ⟨linear.read racing.started last, extended, last, current.2, rfl,
    on_stable path.on_last extended, racing, relied.expected thread (by simp), rfl⟩

/-- The clock and the identities do not touch the Run or the log. -/
theorem now_safe (idle : Idle thread state.2) :
    RunSafe initial thread (coreOp .now) (fun outcome after =>
      (∃ now, outcome = .ok now) ∧ Extends (· ≠ thread) state.2 after.2) state := by
  refine Program.safe_perform fun current relied linear => ⟨idle.stable relied, ?_⟩
  rintro choice -
  exact ⟨linear, .refl current.2, ⟨choice, rfl⟩, relied⟩

/-- A compare-and-set commits a legal transition of the stored Run, or finds it overtaken. -/
theorem compareAndSet_safe {previous current : Run} {version : ℕ} (racing : Racing thread state.2)
    (on : CommittedPath.On initial state.2.commits previous)
    (expected : previous.stateVersion = version) (legal : LegalTransition previous current) :
    RunSafe initial thread (coreOp (.runCompareAndSet current version)) (fun outcome after =>
      match outcome with
      | .ok committed => committed = current ∧ Publishing thread previous current after.2
      | .error error => error = RunStateMachine.staleStateVersion ∧ Idle thread after.2) state := by
  refine Program.safe_perform fun before relied linear => ?_
  have racing := racing.stable relied
  refine ⟨racing.toIdle, ?_⟩
  rintro choice ⟨-, rfl⟩
  obtain ⟨last, found, path⟩ := linear.path
  have advances := legal.advances
  have key : current.runId = initial.runId :=
    advances.2.2.runId.trans (path.on_runId (on_stable on relied))
  have stored : before.1.repository.runs.get? current.runId = some last := by
    rw [key]
    exact found
  rcases path.version_lt (on_stable on relied) with rfl | less
  · have replaced := InMemoryRunRepository.compareAndSet_next stored expected
      (expected ▸ advances.2.1)
    have answer : coreAnswer (.runCompareAndSet current version) .none before.1 =
        (.ok current, before.1.setRun current) := by
      simp only [coreAnswer, Fault.apply, CoreWorld.withRepository, replaced]
      rfl
    have lookup : before.1.run? current.runId = some previous := stored
    have observed : RunLog.observe thread (.runCompareAndSet current version) (.ok current) before.1
        (before.1.setRun current) before.2 =
        { before.2 with commits := ⟨thread, previous, current⟩ :: before.2.commits } := by
      simp only [RunLog.observe, lookup]
    have answered : (runEnvironment thread).answer (.runCompareAndSet current version) .none before =
        (.ok current, before.1.setRun current,
          { before.2 with commits := ⟨thread, previous, current⟩ :: before.2.commits }) := by
      rw [← observed]
      exact Environment.instrumented_answer answer
    rw [answered]
    refine ⟨linear.commit racing found legal, .commit ⟨thread, previous, current⟩ before.2, rfl,
      racing.started, List.mem_cons_self, racing.published, racing.current⟩
  · have refused := InMemoryRunRepository.compareAndSet_stale stored
      (show last.stateVersion ≠ version by omega)
    have answer : coreAnswer (.runCompareAndSet current version) .none before.1 =
        (.error RunStateMachine.staleStateVersion, before.1) := by
      simp only [coreAnswer, Fault.apply, CoreWorld.withRepository, refused]
    have answered : (runEnvironment thread).answer (.runCompareAndSet current version) .none before =
        (.error RunStateMachine.staleStateVersion, before.1,
          { before.2 with lost := thread :: before.2.lost }) :=
      Environment.instrumented_answer answer
    rw [answered]
    exact ⟨linear.lose racing.started, .lose thread before.2, rfl, racing.commits,
      racing.published⟩

/-- A publication of what the client has committed. -/
theorem publish_safe {transition : RunTransition}
    (publishing : Publishing thread transition.previous transition.current state.2) :
    RunSafe initial thread (coreOp (.runStateChanged transition)) (fun outcome after =>
      outcome = .ok () ∧ thread ∉ after.2.lost ∧
        ⟨thread, transition.previous, transition.current⟩ ∈ after.2.commits ∧
        (thread, transition) ∈ after.2.published) state := by
  refine Program.safe_perform fun before relied linear => ?_
  have publishing := publishing.stable relied
  refine ⟨publishing, ?_⟩
  rintro choice ⟨-, rfl⟩
  exact ⟨linear.publish publishing, .publish thread transition before.2, rfl, publishing.current,
    publishing.committed, List.mem_cons_self⟩

theorem commit_safe {transition : RunTransition} {version : ℕ} {call : RunCall}
    (racing : Racing thread state.2)
    (on : CommittedPath.On initial state.2.commits transition.previous)
    (expected : transition.previous.stateVersion = version)
    (legal : LegalTransition transition.previous transition.current)
    (ended : call.ends = true → transition.current.status.terminal = true) :
    RunSafe initial thread (RunService.commit transition version) (RunPost initial call thread)
      state := by
  refine (compareAndSet_safe racing on expected legal).bind (fun committed after done => ?_) ?_
  · obtain ⟨rfl, publishing⟩ := done
    refine (publish_safe publishing).bind (fun _ after published => ?_) ?_
    · obtain ⟨-, current, committed, shown⟩ := published
      exact ⟨.inr ⟨_, committed, rfl⟩, current, ended, .inr ⟨_, _, committed, shown⟩⟩
    · rintro _ _ ⟨failed, -⟩
      cases failed
  · rintro error after ⟨rfl, idle⟩
    exact ⟨idle, fun _ => rfl⟩

/-- A mutation: read, transition, compare-and-set, publication. -/
theorem apply_safe (operation : RunOperation) (version : ℕ) {call : RunCall}
    (racing : Racing thread state.2) (expected : state.2.expected thread = some version)
    (ends : call.ends = true → operation.ends = true) :
    RunSafe initial thread (RunService.apply initial.runId version operation.apply)
      (RunPost initial call thread) state := by
  refine (get_safe racing).bind (fun previous after got => ?_) ?_
  · obtain ⟨run, log, equal, on, racing, same, logged⟩ := got
    obtain rfl := Except.ok.inj equal
    have expects : log.expected thread = some version := same.trans expected
    by_cases current : previous.stateVersion = version
    · have unread : after.2 = log := by
        rw [logged, RunLog.read, expects]
        exact if_pos current
      rw [← unread] at racing
      refine (now_safe racing.toIdle).bind (fun now ticked answered => ?_) ?_
      · have racing := racing.stable answered.2
        have on := on_stable on answered.2
        cases applied : operation.apply previous version now with
        | error error => exact ⟨racing.toIdle, fun lost => absurd lost racing.current⟩
        | ok transition =>
          obtain ⟨-, rfl, advances⟩ := RunOperation.apply_ok applied
          have ended : call.ends = true → transition.current.status.terminal = true :=
            fun stops => RunOperation.ends_terminal (ends stops) applied
          change RunSafe initial thread (if transition.unchanged then Program.ret transition.current
            else RunService.commit transition version) _ _
          split
          · rename_i unchanged
            have same : transition.current = transition.previous := by
              rcases advances with same | ⟨-, next, -⟩
              · exact same
              · have equal : transition.current.stateVersion = transition.previous.stateVersion := by
                  simpa [RunTransition.unchanged] using unchanged
                omega
            exact ⟨same ▸ on, racing.current, ended, .inl racing.toIdle⟩
          · rename_i changed
            have differs : transition.current ≠ transition.previous := by
              intro same
              exact changed (by simp [RunTransition.unchanged, same])
            exact commit_safe racing on current ⟨operation, version, now, transition, applied, rfl,
              differs⟩ ended
      · rintro _ _ ⟨⟨_, failed⟩, -⟩
        cases failed
    · have lost : after.2 = { log with lost := thread :: log.lost } := by
        rw [logged, RunLog.read, expects]
        exact if_neg current
      have idle : Idle thread after.2 := by
        rw [lost]
        exact ⟨racing.commits, racing.published⟩
      refine (now_safe idle).bind (fun now ticked answered => ?_) ?_
      · rw [operation.apply_stale now current]
        exact ⟨idle.stable answered.2, fun _ => rfl⟩
      · rintro _ _ ⟨⟨_, failed⟩, -⟩
        cases failed
  · rintro _ _ ⟨_, _, failed, -⟩
    cases failed

theorem handleAuditFailure_safe (detail : ErrorDetail) (racing : Racing thread state.2)
    (unread : state.2.expected thread = none) :
    RunSafe initial thread (RunService.handleAuditFailure initial.runId detail)
      (RunPost initial (.auditFailure detail) thread) state := by
  refine (get_safe racing).bind (fun run after got => ?_) ?_
  · obtain ⟨_, log, equal, on, racing, same, logged⟩ := got
    obtain rfl := Except.ok.inj equal
    have expects : after.2 =
        { log with expected := Function.update log.expected thread (some run.stateVersion) } := by
      rw [logged, RunLog.read, same.trans unread]
    have racing : Racing thread after.2 := by
      rw [expects]
      exact ⟨⟨racing.commits, racing.published⟩, racing.started, racing.current⟩
    have expected : after.2.expected thread = some run.stateVersion := by
      rw [expects]
      exact Function.update_self _ _ _
    have returned : RunSafe initial thread (Program.ret run)
        (RunPost initial (.auditFailure detail) thread) after :=
      ⟨on, racing.current, nofun, .inl racing.toIdle⟩
    change RunSafe initial thread (if run.status.terminal then Program.ret run
      else if run.controlPolicy.auditFailureMode = .fail then
        RunService.fail initial.runId run.stateVersion detail
      else if run.status = .paused then Program.ret run
      else RunService.pause initial.runId run.stateVersion) _ _
    split
    · exact returned
    · split
      · exact apply_safe (.fail detail) run.stateVersion racing expected nofun
      · split
        · exact returned
        · exact apply_safe .pause run.stateVersion racing expected nofun
  · rintro _ _ ⟨_, _, failed, -⟩
    cases failed

end Client

/-! ### The pool -/

/-- The outcome of a race: one path of commits, with one publication for each, and conflicts
for the clients that were overtaken. -/
structure Raced (initial : Run) (calls : ℕ → RunCall)
    (configuration : Configuration CoreInterface Raised Run RunWorld) : Prop where
  /-- the stored Run is the end of a path of legal transitions -/
  path : ∃ last, configuration.state.1.run? initial.runId = some last ∧
    CommittedPath initial configuration.state.2.commits last
  /-- a client commits and publishes at most once, and publishes what it committed -/
  once : (configuration.state.2.commits.map RunCommit.thread).Nodup ∧
    (configuration.state.2.published.map Prod.fst).Nodup ∧
    ∀ thread transition, (thread, transition) ∈ configuration.state.2.published →
      ⟨thread, transition.previous, transition.current⟩ ∈ configuration.state.2.commits
  /-- what is committed is published, or its client is awaiting the publication -/
  published : ∀ commit ∈ configuration.state.2.commits, ∃ reason,
    (commit.thread, ⟨commit.previous, commit.current, reason⟩) ∈ configuration.state.2.published ∨
    ∃ resume, configuration.threads[commit.thread]? =
      some (.await (.runStateChanged ⟨commit.previous, commit.current, reason⟩) resume)
  /-- a client that raises has committed and published nothing -/
  raised : ∀ thread error, configuration.threads[thread]? = some (.raise error) →
    Idle thread configuration.state.2
  /-- a client that was overtaken commits and publishes nothing and ends in a conflict -/
  lost : ∀ thread ∈ configuration.state.2.lost, Idle thread configuration.state.2 ∧
    (∀ run, configuration.threads[thread]? ≠ some (.ret run)) ∧
    ∀ error, configuration.threads[thread]? = some (.raise error) →
      error = RunStateMachine.staleStateVersion
  /-- at most one terminal status is committed, and one if a terminating call has returned -/
  terminal : CommittedPath.terminals configuration.state.2.commits ≤ 1 ∧
    ∀ thread run, configuration.threads[thread]? = some (.ret run) →
      (calls thread).ends = true → initial.status.terminal = false →
      CommittedPath.terminals configuration.state.2.commits = 1

section Race

variable [Sha256] {initial : Run} {calls : ℕ → RunCall}

theorem runPool_meets (initial : Run) (calls : ℕ → RunCall) :
    (runPool initial calls).Meets (runContract initial) (Linear initial)
      (fun thread => RunPost initial (calls thread) thread) where
  shared _ := rfl
  reflexive _ state := .refl state.2
  transitive _ _ _ _ earlier later := earlier.trans later
  stable _ _ _ _ relied post := post.stable relied
  compatible thread other before after distinct guaranteed :=
    guaranteed.mono fun _ same => same ▸ distinct
  initial state start := by
    obtain ⟨stored, empty⟩ := start
    refine ⟨⟨initial, stored, ?_⟩, ?_, ?_, ?_, ?_⟩ <;> rw [empty]
    · rfl
    · exact List.nodup_nil
    · exact List.nodup_nil
    · exact fun _ _ member => nomatch member
    · exact fun _ _ => ⟨⟨fun _ member => (nomatch member), fun _ member => (nomatch member)⟩, nofun⟩
  starts thread before program start linear starts := by
    obtain ⟨rfl, rfl, rfl⟩ := starts
    obtain ⟨idle, current⟩ := linear.fresh before.2.started le_rfl
    have extended : Extends (· = before.2.started) before.2
        (before.2.begin_ (calls before.2.started).expected) :=
      ⟨Nat.le_succ _, ⟨[], rfl, by simp⟩, ⟨[], rfl, by simp⟩,
        fun other different => Function.update_of_ne different _ _, fun _ _ => Iff.rfl⟩
    have racing : Racing before.2.started (before.2.begin_ (calls before.2.started).expected) :=
      ⟨⟨idle.commits, idle.published⟩, Nat.lt_succ_self _, current⟩
    have expected : (before.2.begin_ (calls before.2.started).expected).expected before.2.started =
        (calls before.2.started).expected := Function.update_self _ _ _
    refine ⟨⟨linear.path, linear.committers, linear.publishers, linear.published, ?_⟩, extended, ?_⟩
    · intro other later
      obtain ⟨idle, current⟩ := linear.fresh other (Nat.le_of_succ_le later)
      exact ⟨⟨idle.commits, idle.published⟩, current⟩
    · cases call : calls before.2.started with
      | mutation operation version =>
        rw [call] at racing expected
        rw [RunCall.program, RunOperation.call_eq]
        exact apply_safe operation version racing expected id
      | auditFailure error =>
        rw [call] at racing expected
        exact handleAuditFailure_safe error racing expected

omit [Sha256] in
theorem RunLog.observe_started (thread : ℕ) (op : CoreOp) (outcome : Except Raised op.Answer)
    (before after : CoreWorld) (log : RunLog) :
    (log.observe thread op outcome before after).started = log.started := by
  unfold observe
  split
  · unfold read
    split
    · rfl
    · split <;> rfl
  · split <;> rfl
  · rfl
  · rfl
  · rfl

theorem runPool_started {configuration : Configuration CoreInterface Raised Run RunWorld}
    (reached : (runPool initial calls).Reachable configuration) :
    configuration.state.2.started = configuration.threads.length := by
  induction reached with
  | initial start =>
    rw [start.2]
    rfl
  | move _ moves ih =>
    cases moves with
    | start starts =>
      obtain ⟨-, -, rfl⟩ := starts
      simp [RunLog.begin_, ih]
    | step found step =>
      cases step with
      | resume choice permitted =>
        rw [List.length_set, ← ih]
        exact RunLog.observe_started _ _ _ _ _ _

/-- A client that has committed has returned and published, or awaits its publication. -/
theorem Linear.committed {state : RunWorld} {commit : RunCommit} {program : CoreProgram Run}
    (linear : Linear initial state) (member : commit ∈ state.2.commits)
    (safe : RunSafe initial commit.thread program
      (RunPost initial (calls commit.thread) commit.thread) state) :
    ∃ reason, (commit.thread, ⟨commit.previous, commit.current, reason⟩) ∈ state.2.published ∨
      ∃ resume, program =
        .await (.runStateChanged ⟨commit.previous, commit.current, reason⟩) resume := by
  have only : ∀ previous current, ⟨commit.thread, previous, current⟩ ∈ state.2.commits →
      commit = ⟨commit.thread, previous, current⟩ := fun previous current other =>
    List.inj_on_of_nodup_map linear.committers member other rfl
  have busy : ¬ Idle commit.thread state.2 := fun idle => idle.commits commit member rfl
  cases program with
  | ret run =>
    obtain ⟨-, -, -, done⟩ := safe
    obtain ⟨previous, reason, committed, published⟩ := done.resolve_left busy
    refine ⟨reason, .inl ?_⟩
    rw [only previous run committed]
    exact published
  | raise error => exact absurd safe.1 busy
  | await op resume =>
    have awaited : awaits commit.thread state.2 op := (safe state (.refl state.2) linear).1
    cases op with
    | runStateChanged transition =>
      refine ⟨transition.reason, .inr ⟨resume, ?_⟩⟩
      rw [only _ _ awaited.committed]
    | _ => exact absurd awaited busy

/-- A client that was overtaken is idle until it raises a conflict. -/
theorem Linear.overtaken {state : RunWorld} {thread : ℕ} {program : CoreProgram Run}
    (linear : Linear initial state) (lost : thread ∈ state.2.lost)
    (safe : RunSafe initial thread program (RunPost initial (calls thread) thread) state) :
    Idle thread state.2 ∧ (∀ run, program ≠ .ret run) ∧
      ∀ error, program = .raise error → error = RunStateMachine.staleStateVersion := by
  cases program with
  | ret run => exact absurd lost safe.2.1
  | raise error =>
    refine ⟨safe.1, fun _ => nofun, fun other same => ?_⟩
    cases same
    exact safe.2 lost
  | await op resume =>
    have awaited : awaits thread state.2 op := (safe state (.refl state.2) linear).1
    refine ⟨?_, fun _ => nofun, fun _ => nofun⟩
    cases op with
    | runStateChanged transition => exact absurd lost awaited.current
    | _ => exact awaited

/-- In every state reached by any interleaving of any number of mutations of a Run. -/
theorem runPool_raced {configuration : Configuration CoreInterface Raised Run RunWorld}
    (reached : (runPool initial calls).Reachable configuration) :
    Raced initial calls configuration := by
  obtain ⟨linear, safe⟩ := (runPool_meets initial calls).reachable reached
  have running : ∀ thread, ¬ (Idle thread configuration.state.2 ∧
      thread ∉ configuration.state.2.lost) →
      ∃ program, configuration.threads[thread]? = some program := by
    intro thread active
    have started : thread < configuration.threads.length := by
      rw [← runPool_started reached]
      by_contra fresh
      exact active (linear.fresh thread (Nat.le_of_not_lt fresh))
    exact ⟨_, List.getElem?_eq_getElem started⟩
  obtain ⟨last, found, path⟩ := linear.path
  refine ⟨⟨last, found, path⟩, ⟨linear.committers, linear.publishers, linear.published⟩,
    fun commit member => ?_, fun thread error raised => ?_, fun thread lost => ?_,
    path.terminals_le_one, fun thread run returned ends active => ?_⟩
  · obtain ⟨program, stands⟩ := running commit.thread fun idle => idle.1.commits commit member rfl
    rw [stands]
    obtain ⟨reason, done | ⟨resume, rfl⟩⟩ := linear.committed member (safe _ program stands)
    · exact ⟨reason, .inl done⟩
    · exact ⟨reason, .inr ⟨resume, rfl⟩⟩
  · exact (safe thread _ raised).1
  · obtain ⟨program, stands⟩ := running thread fun idle => idle.2 lost
    obtain ⟨idle, running, conflict⟩ := linear.overtaken lost (safe thread program stands)
    rw [stands]
    exact ⟨idle, fun run same => running run (Option.some.inj same),
      fun error same => conflict error (Option.some.inj same)⟩
  · obtain ⟨on, -, ended, -⟩ := safe thread _ returned
    have some : 0 < CommittedPath.terminals configuration.state.2.commits := by
      rcases on with rfl | ⟨commit, member, rfl⟩
      · rw [ended ends] at active
        cases active
      · exact List.countP_pos_iff.mpr ⟨commit, member, ended ends⟩
    have most := path.terminals_le_one
    omega

end Race

namespace RunRacing

open SampleParameters RunLifecycle

/-- One client starts the Run, the other cancels it. -/
def sampleCalls (thread : ℕ) : RunCall := .mutation (if thread = 0 then .start else .cancel) 0

def sampleAnswer : (op : CoreOp) → op.Choice
  | .cancelled _ => false
  | .now => sampleTime
  | .newCheckpointRef => ⟨"checkpoint-1", checkpoint_checked⟩
  | .authorize request => .ok (allowing request)
  | .checkpointList _ _ => (.none, id)
  | .migrate checkpoint _ _ => .ok checkpoint
  | .runAdd _ | .runGet _ | .runCompareAndSet _ _ | .checkpointSave _ _ | .checkpointLoad _ _
  | .checkpointDelete _ _ => .none
  | .runStateChanged _ | .authorizationDenied _ _ | .crossScopeGranted _ _
  | .checkpointSaved _ _ _ | .checkpointFailed _ _ _ | .migrationAuthorized _ _ _
  | .fallbackAuthorized _ _ _ | .restore _ _ => .ok ()

def sampleAwaits : CoreOp → Bool
  | .runGet _ | .now | .runCompareAndSet _ _ | .runStateChanged _ => true
  | _ => false

def sampleWorld : CoreWorld := ⟨⟨Dict.empty.set sampleRunId RunLifecycle.sampleRun⟩, .empty ⟨"store-1", store_checked⟩⟩

/-- Both clients read the Run before either commits. -/
def race : Configuration CoreInterface Raised Run RunWorld :=
  (runPool RunLifecycle.sampleRun sampleCalls).execute (fun _ op _ => sampleAnswer op)
    (fun _ op _ => sampleAwaits op) ((List.range 8).map (· % 2))
    ⟨(sampleWorld, (RunLog.empty.begin_ (some 0)).begin_ (some 0)),
      [(sampleCalls 0).program sampleRunId, (sampleCalls 1).program sampleRunId]⟩

theorem race_reachable : (runPool RunLifecycle.sampleRun sampleCalls).Reachable race := by
  apply Pool.execute_reachable
  · intro thread op state permitted
    cases op with
    | runGet runId => exact ⟨trivial, rfl⟩
    | now => exact ⟨trivial, trivial⟩
    | runCompareAndSet run version => exact ⟨trivial, rfl⟩
    | runStateChanged transition => exact ⟨trivial, rfl⟩
    | _ => cases permitted
  · have empty : (runPool RunLifecycle.sampleRun sampleCalls).Reachable ⟨(sampleWorld, .empty), []⟩ :=
      .initial ⟨rfl, rfl⟩
    have starting : (runPool RunLifecycle.sampleRun sampleCalls).Reachable
        ⟨(sampleWorld, RunLog.empty.begin_ (some 0)), [(sampleCalls 0).program sampleRunId]⟩ :=
      empty.move (.start ⟨rfl, rfl, rfl⟩)
    exact starting.move (.start ⟨rfl, rfl, rfl⟩)

end RunRacing

open RunRacing SampleParameters in
/-- The client that commits second loses the race. -/
theorem runPool_raced_twice :
    race.state.2.lost = [1] ∧ Raced RunLifecycle.sampleRun sampleCalls race :=
  ⟨by decide +kernel, runPool_raced race_reachable⟩

end CongeriesCore
