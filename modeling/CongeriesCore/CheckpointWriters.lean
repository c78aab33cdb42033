import CongeriesCore.CheckpointInvariant

/-! # Every writer keeps the invariant

The rules of one thread's calls: what it establishes is stable when no step of another
thread can undo it, and where it fails it has not moved a marker. -/

namespace CongeriesCore

open AsyncProgram

/-- A fact that the steps of other threads preserve. -/
def Stable (thread : ℕ) (fact : CommitWorld → Prop) : Prop :=
  ∀ before after, Relies thread before after → fact before → fact after

/-- Where the repository and the publisher are reliable, the thread has not moved a marker. -/
def Unmoved (reliable : Prop) (thread : ℕ) (state : CommitWorld) : Prop :=
  reliable → state.2.moved thread = false

/-- The Run as the thread has read it, or a later version. -/
def Seen (run : Run) (state : CommitWorld) : Prop :=
  ∃ current, state.1.run? run.runId = some current ∧
    (current = run ∨ run.stateVersion < current.stateVersion)

theorem Seen.grows {run : Run} {before after : CommitWorld} (seen : Seen run before)
    (grows : Grows before after) : Seen run after := by
  obtain ⟨current, found, order⟩ := seen
  obtain ⟨later, foundLater, order'⟩ := grows.runs run.runId current found
  refine ⟨later, foundLater, ?_⟩
  rcases order' with rfl | less
  · exact order
  · rcases order with rfl | less'
    · exact .inr less
    · exact .inr (Nat.lt_trans less' less)

theorem Stable.and {thread : ℕ} {first second : CommitWorld → Prop} (one : Stable thread first)
    (two : Stable thread second) : Stable thread fun state => first state ∧ second state :=
  fun before after relied both => ⟨one before after relied both.1, two before after relied both.2⟩

theorem stable_const (thread : ℕ) (fact : Prop) : Stable thread fun _ => fact :=
  fun _ _ _ holds => holds

/-- A fact that only a move of a marker by the thread itself can undo. -/
def Lasting (thread : ℕ) (fact : CommitWorld → Prop) : Prop :=
  ∀ before after, Grows before after → after.2.moved thread = before.2.moved thread →
    fact before → fact after

theorem Lasting.stable {thread : ℕ} {fact : CommitWorld → Prop} (lasting : Lasting thread fact) :
    Stable thread fact :=
  fun before after relied holds => lasting before after relied.grows relied.moved holds

theorem Lasting.and {thread : ℕ} {first second : CommitWorld → Prop} (one : Lasting thread first)
    (two : Lasting thread second) : Lasting thread fun state => first state ∧ second state :=
  fun before after grows moved both =>
    ⟨one before after grows moved both.1, two before after grows moved both.2⟩

theorem lasting_unmoved (reliable : Prop) (thread : ℕ) :
    Lasting thread (Unmoved reliable thread) := by
  intro before after _ moved unmoved holds
  rw [moved]
  exact unmoved holds

theorem lasting_seen (thread : ℕ) (run : Run) : Lasting thread (Seen run) :=
  fun _ _ grows _ seen => seen.grows grows

/-- Some commit of the Run is as `fact` says. -/
def Committed (runId : RunId) (fact : Commit → Prop) (state : CommitWorld) : Prop :=
  ∃ commit ∈ state.2.commits runId, fact commit

theorem lasting_committed (thread : ℕ) (runId : RunId) (fact : Commit → Prop) :
    Lasting thread (Committed runId fact) := by
  intro before after grows _ committed
  obtain ⟨commit, member, holds⟩ := committed
  exact ⟨commit, (grows.commits runId).subset member, holds⟩

/-- A Run whose version has not changed is the Run that was read. -/
theorem Seen.same {run current : Run} {state : CommitWorld} (seen : Seen run state)
    (found : state.1.run? run.runId = some current)
    (version : current.stateVersion = run.stateVersion) : current = run := by
  obtain ⟨other, foundOther, order⟩ := seen
  rw [found] at foundOther
  cases foundOther
  rcases order with same | less
  · exact same
  · omega

/-- The log differs only in what the thread itself has staged, read and moved. -/
def OwnEntries (thread : ℕ) (log after : CommitLog) : Prop :=
  ∀ other, other ≠ thread → after.staged other = log.staged other ∧
    after.read other = log.read other ∧ after.moved other = log.moved other

theorem ownEntries_unstage (thread : ℕ) (log : CommitLog) :
    OwnEntries thread log (log.unstage thread) := by
  intro other distinct
  exact ⟨Function.update_of_ne distinct _ _, rfl, rfl⟩

theorem ownEntries_readCommits (thread : ℕ) (log : CommitLog) (runId : RunId) :
    OwnEntries thread log (log.readCommits thread runId) := by
  intro other distinct
  exact ⟨rfl, Function.update_of_ne distinct _ _, rfl⟩

theorem ownEntries_stage (thread : ℕ) (log : CommitLog) (checkpoint : Checkpoint) :
    OwnEntries thread log (log.stage thread checkpoint) := by
  intro other distinct
  exact ⟨Function.update_of_ne distinct _ _, rfl, rfl⟩

theorem ownEntries_commit (thread : ℕ) (log : CommitLog) (runId : RunId) (version : ℕ) :
    OwnEntries thread log (log.commit thread runId version) := by
  intro other distinct
  exact ⟨Function.update_of_ne distinct _ _, rfl, Function.update_of_ne distinct _ _⟩

theorem guarantees {thread : ℕ} {before after : CommitWorld} (grows : Grows before after)
    (own : OwnEntries thread before.2 after.2) :
    Grows before after ∧ ∀ other, other ≠ thread → Relies other before after := by
  refine ⟨grows, fun other distinct => ?_⟩
  obtain ⟨staged, read, moved⟩ := own other distinct
  exact ⟨grows, staged, read, moved⟩

theorem grows_relog (world : CoreWorld) {log after : CommitLog}
    (commits : after.commits = log.commits) : Grows (world, log) (world, after) := by
  refine ⟨fun runId run found => ⟨run, found, .inl rfl⟩, fun runId => ?_⟩
  have same : after.commits runId = log.commits runId := congrFun commits runId
  change log.commits runId <:+ after.commits runId
  exact same ▸ List.suffix_refl _

theorem grows_unstage (thread : ℕ) (world : CoreWorld) (log : CommitLog) :
    Grows (world, log) (world, log.unstage thread) :=
  grows_relog world rfl

theorem grows_setRun {world : CoreWorld} {log after : CommitLog} {run current : Run}
    (found : world.run? run.runId = some current) (version : current.stateVersion < run.stateVersion)
    (commits : ∀ runId, log.commits runId <:+ after.commits runId) :
    Grows (world, log) (world.setRun run, after) := by
  refine ⟨fun runId other stored => ?_, commits⟩
  change world.run? runId = some other at stored
  change ∃ later, (world.setRun run).run? runId = some later ∧ _
  rw [CoreWorld.run?_setRun]
  by_cases same : run.runId = runId
  · rw [if_pos same]
    rw [← same, found] at stored
    cases stored
    exact ⟨run, rfl, .inr version⟩
  · rw [if_neg same]
    exact ⟨other, stored, .inl rfl⟩

/-- A mutation that hands the Run back, or raises its version and keeps its marker. -/
def KeepsMarker (mutation : Mutation) : Prop :=
  ∀ run version now transition, mutation run version now = .ok transition →
    transition.previous = run ∧ run.stateVersion = version ∧
      transition.current.runId = run.runId ∧ transition.current.latest = run.latest

theorem keepsMarker_of_outcome {run : Run} {version : ℕ} {now : DateTime}
    {transition : RunTransition} {same : Prop} {changes : (RunFields → RunFields) → Prop}
    (outcome : RunStateMachine.Outcome run version now transition same changes)
    (keeps : ∀ change, changes change → ∀ fields, (change fields).runId = fields.runId ∧
      (change fields).kind = fields.kind) :
    transition.previous = run ∧ run.stateVersion = version ∧
      transition.current.runId = run.runId ∧ transition.current.latest = run.latest := by
  obtain ⟨previous, expected, ⟨unchanged, -⟩ | ⟨change, allowed, fields⟩⟩ := outcome
  · exact ⟨previous, expected, by rw [unchanged], by rw [unchanged]⟩
  · obtain ⟨runId, kind⟩ := keeps change allowed { run.toRunFields with
      stateVersion := run.stateVersion + 1
      updatedAt := some now }
    rw [← fields] at runId kind
    exact ⟨previous, expected, runId, Run.latest_of_kind kind⟩

theorem keepsMarker_fail (error : ErrorDetail) : KeepsMarker (RunStateMachine.fail error) := by
  intro run version now transition done
  refine keepsMarker_of_outcome (RunStateMachine.fail_ok done) fun change allowed fields => ?_
  obtain ⟨-, summary, history, -, -, rfl⟩ := allowed
  exact ⟨rfl, rfl⟩

theorem keepsMarker_pause : KeepsMarker RunStateMachine.pause := by
  intro run version now transition done
  refine keepsMarker_of_outcome (RunStateMachine.pause_ok done) fun change allowed fields => ?_
  obtain ⟨-, rfl⟩ := allowed
  exact ⟨rfl, rfl⟩

/-- The calls that change neither the world nor the log. -/
def CoreOp.isQuiet : CoreOp → Bool
  | .runAdd _ | .runGet _ | .runCompareAndSet _ _ | .checkpointSave _ _ | .checkpointDelete _ _
  | .checkpointFailed _ _ _ => false
  | _ => true

variable [Sha256] {reliable : Prop} {documents : Checkpoint → Prop} {thread : ℕ}
  {state : CommitWorld}

/-- From `state` the thread can run the program: a result satisfies `value`, an exception
leaves `failed`. -/
abbrev Writes (reliable : Prop) (documents : Checkpoint → Prop) (thread : ℕ) {α : Type}
    (program : CoreProgram α) (value : α → CommitWorld → Prop) (failed : CommitWorld → Prop)
    (state : CommitWorld) : Prop :=
  program.Safe (writerEnvironment reliable Orphaned thread) (writerContract documents thread)
    (Ends value failed) state

theorem answer_quiet {op : CoreOp} (quiet : op.isQuiet = true) (choice : op.Choice)
    (state : CommitWorld) : ((writerEnvironment reliable Orphaned thread).answer op choice state).2 = state := by
  cases op with
  | runAdd run => cases quiet
  | runGet runId => cases quiet
  | runCompareAndSet run version => cases quiet
  | checkpointSave checkpoint context => cases quiet
  | checkpointDelete request context => cases quiet
  | checkpointFailed checkpoint error context => cases quiet
  | checkpointLoad reference context => cases choice <;> rfl
  | checkpointList query context =>
    obtain ⟨fault, corruption⟩ := choice
    cases fault <;> rfl
  | cancelled token => rfl
  | now => rfl
  | newCheckpointRef => rfl
  | runStateChanged transition => rfl
  | authorize request => rfl
  | authorizationDenied request decision => rfl
  | crossScopeGranted request grant => rfl
  | checkpointSaved checkpoint run context => rfl
  | migrate checkpoint request context => rfl
  | migrationAuthorized source migrated context => rfl
  | fallbackAuthorized source fallback context => rfl
  | restore checkpoint context => rfl

theorem answer_writer {op : CoreOp} {choice : op.Choice} {world after : CoreWorld} {log : CommitLog}
    {outcome : Except Raised op.Answer} (answered : coreAnswer op choice world = (outcome, after)) :
    (writerEnvironment reliable Orphaned thread).answer op choice (world, log) =
      (outcome, after, CommitLog.observe thread op outcome world after log) := by
  change (_, _, CommitLog.observe thread op _ world _ log) = _
  change ((coreAnswer op choice world).1, (coreAnswer op choice world).2, CommitLog.observe thread op
    (coreAnswer op choice world).1 world (coreAnswer op choice world).2 log) = _
  rw [answered]

/-- A call from a stable fact: its step keeps the invariant, lets others rely on it, and
reaches the postcondition. -/
theorem safe_call {op : CoreOp} {fact : CommitWorld → Prop}
    {post : Except Raised op.Answer → CommitWorld → Prop} (stable : Stable thread fact)
    (step : ∀ world log, Sound documents (world, log) → fact (world, log) → ∀ choice,
      (writerEnvironment reliable Orphaned thread).permits op choice (world, log) →
      let result := (writerEnvironment reliable Orphaned thread).answer op choice (world, log)
      Sound documents result.2 ∧ (Grows (world, log) result.2 ∧
        ∀ other, other ≠ thread → Relies other (world, log) result.2) ∧ post result.1 result.2)
    (held : fact state) :
    (coreOp op).Safe (writerEnvironment reliable Orphaned thread) (writerContract documents thread) post
      state := by
  refine Program.safe_perform fun current relied kept => ⟨trivial, fun choice permitted => ?_⟩
  exact step current.1 current.2 kept (stable _ _ relied held) choice permitted

theorem safe_quiet {op : CoreOp} (quiet : op.isQuiet = true) {fact : CommitWorld → Prop}
    (stable : Stable thread fact) {value : op.Answer → CommitWorld → Prop}
    {failed : CommitWorld → Prop}
    (answers : ∀ current, Sound documents current → fact current → ∀ choice,
      (writerEnvironment reliable Orphaned thread).permits op choice current → ∀ result,
      ((writerEnvironment reliable Orphaned thread).answer op choice current).1 = .ok result →
      value result current)
    (fails : ∀ current, fact current → failed current) (held : fact state) :
    Writes reliable documents thread (coreOp op) value failed state := by
  refine safe_call stable (fun world log sound holds choice permitted => ?_) held
  have unchanged : ((writerEnvironment reliable Orphaned thread).answer op choice (world, log)).2 =
      (world, log) := answer_quiet quiet choice (world, log)
  dsimp only
  rw [unchanged]
  refine ⟨sound, ⟨.refl _, fun other _ => .refl other _⟩, ?_⟩
  have answers := answers (world, log) sound holds choice permitted
  cases outcome : ((writerEnvironment reliable Orphaned thread).answer op choice (world, log)).1 with
  | ok result => exact answers result outcome
  | error raised => exact fails _ holds

theorem safe_routine (op : CoreOp) (quiet : op.isQuiet = true) {held : CommitWorld → Prop}
    (stable : Stable thread held)
    (unmoved : ∀ current, held current → Unmoved reliable thread current) (start : held state) :
    Writes reliable documents thread (coreOp op) (fun _ => held) (Unmoved reliable thread) state :=
  safe_quiet quiet stable (fun _ _ kept _ _ _ _ => kept) unmoved start

/-- A compare-and-set fails and changes nothing, or replaces the version it expects. Where
the repository is reliable, only the first is a failure. -/
theorem safe_runCompareAndSet {fact : CommitWorld → Prop} (stable : Stable thread fact) (run : Run)
    (version : ℕ) {value : Run → CommitWorld → Prop} {failed : CommitWorld → Prop}
    (refused : ∀ world log, fact (world, log) → failed (world, log.unstage thread))
    (replaced : ∀ world log current, Sound documents (world, log) → fact (world, log) →
      world.run? run.runId = some current → current.stateVersion = version →
      run.stateVersion = version + 1 →
      let after := (world.setRun run,
        if current.latest = run.latest then log.unstage thread
        else log.commit thread run.runId version)
      Sound documents after ∧ (Grows (world, log) after ∧
        ∀ other, other ≠ thread → Relies other (world, log) after) ∧
      value run after ∧ (¬ reliable → failed after)) (held : fact state) :
    Writes reliable documents thread (coreOp (.runCompareAndSet run version)) value failed state := by
  refine safe_call stable (fun world log sound holds fault permitted => ?_) held
  rcases answer_runCompareAndSet world run version fault with
    ⟨error, refusal⟩ | ⟨current, found, expected, next, replacement⟩
  · have answered : (writerEnvironment reliable Orphaned thread).answer (.runCompareAndSet run version) fault
        (world, log) = (.error error, world, log.unstage thread) := by
      rw [answer_writer refusal, CommitLog.observe, if_pos rfl]
    dsimp only
    rw [answered]
    exact ⟨sound.unstage thread, guarantees (grows_unstage thread world log) (ownEntries_unstage thread log), refused world log holds⟩
  · have recorded : ∀ outcome, CommitLog.observe thread (.runCompareAndSet run version) outcome world
        (world.setRun run) log = if current.latest = run.latest then log.unstage thread
          else log.commit thread run.runId version := by
      intro outcome
      have before : world.marker run.runId = current.latest := CoreWorld.marker_of_run found
      have after : (world.setRun run).marker run.runId = run.latest := by
        rw [CoreWorld.marker_setRun, if_pos rfl]
      rw [CommitLog.observe, before, after]
    obtain ⟨keeps, guaranteed, reached, unreliable⟩ :=
      replaced world log current sound holds found expected next
    rcases replacement with done | ⟨error, faulty, done⟩
    · dsimp only
      rw [answer_writer done, recorded]
      exact ⟨keeps, guaranteed, reached⟩
    · have broken : ¬ reliable := fun holds => permitted.2 holds error faulty
      dsimp only
      rw [answer_writer done, recorded]
      exact ⟨keeps, guaranteed, unreliable broken⟩

theorem safe_runGet {fact : CommitWorld → Prop} (stable : Stable thread fact) (runId : RunId)
    {value : Run → CommitWorld → Prop} {failed : CommitWorld → Prop}
    (found : ∀ world log run, Sound documents (world, log) → fact (world, log) →
      world.run? runId = some run → value run (world, log.readCommits thread runId))
    (fails : ∀ world log, fact (world, log) → failed (world, log.unstage thread))
    (held : fact state) :
    Writes reliable documents thread (coreOp (.runGet runId)) value failed state := by
  refine safe_call stable (fun world log sound holds fault _ => ?_) held
  rcases answer_runGet world runId fault with ⟨error, refusal⟩ | ⟨run, stored, done⟩
  · have answered : (writerEnvironment reliable Orphaned thread).answer (.runGet runId) fault (world, log) =
        (.error error, world, log.unstage thread) := by
      rw [answer_writer refusal]
      rfl
    dsimp only
    rw [answered]
    exact ⟨sound.unstage thread, guarantees (grows_unstage thread world log) (ownEntries_unstage thread log), fails world log holds⟩
  · have answered : (writerEnvironment reliable Orphaned thread).answer (.runGet runId) fault (world, log) =
        (.ok run, world, log.readCommits thread runId) := by
      rw [answer_writer done]
      rfl
    dsimp only
    rw [answered]
    refine ⟨sound.relog rfl fun _ _ staged => staged, guarantees (grows_relog world rfl) (ownEntries_readCommits thread log runId), ?_⟩
    exact found world log run sound holds stored

/-- A transition that keeps the marker keeps every lasting fact. -/
theorem safe_apply {fact : CommitWorld → Prop} (lasting : Lasting thread fact) {mutation : Mutation}
    (keeps : KeepsMarker mutation) (runId : RunId) (version : ℕ) (held : fact state) :
    Writes reliable documents thread (RunService.apply runId version mutation) (fun _ => fact) fact
      state := by
  have unstaged : ∀ world log, fact (world, log) → fact (world, log.unstage thread) :=
    fun world log holds => lasting (world, log) _ (grows_unstage thread world log) rfl holds
  have got : Writes reliable documents thread (coreOp (.runGet runId))
      (fun run state => fact state ∧ Seen run state) fact state := by
    refine safe_runGet lasting.stable runId (fun world log run sound holds found => ?_) unstaged held
    have same : run.runId = runId := sound.keyed runId run found
    have kept := lasting (world, log) (world, log.readCommits thread runId) (grows_relog world rfl)
      rfl holds
    exact ⟨kept, run, same ▸ found, .inl rfl⟩
  refine got.next fun previous after kept => ?_
  have both : Lasting thread fun state => fact state ∧ Seen previous state :=
    lasting.and (lasting_seen thread previous)
  have clock : Writes reliable documents thread (coreOp .now)
      (fun _ state => fact state ∧ Seen previous state) fact after :=
    safe_quiet rfl both.stable (fun _ _ kept _ _ _ _ => kept) (fun _ kept => kept.1) kept
  refine clock.next fun time later kept => ?_
  refine Program.safe_guarded kept.1 fun transition done => ?_
  obtain ⟨-, expected, runId', marker⟩ := keeps previous version time transition done
  split
  · exact kept.1
  · have committed : Writes reliable documents thread
        (coreOp (.runCompareAndSet transition.current version)) (fun _ => fact) fact later := by
      refine safe_runCompareAndSet both.stable _ _ (fun world log holds => unstaged world log holds.1)
        (fun world log current sound holds found versioned next => ?_) kept
      rw [runId'] at found
      have unchanged : current = previous := holds.2.same found (versioned.trans expected.symm)
      subst unchanged
      rw [if_pos marker.symm]
      rw [← runId'] at found
      have newer : current.stateVersion < transition.current.stateVersion := by omega
      have grows : Grows (world, log) (world.setRun transition.current, log.unstage thread) :=
        grows_setRun found newer fun _ => List.suffix_refl _
      have kept : fact (world.setRun transition.current, log.unstage thread) :=
        lasting (world, log) _ grows rfl holds.1
      exact ⟨(sound.setRun found marker newer).unstage thread,
        guarantees grows (ownEntries_unstage thread log), kept, fun _ => kept⟩
    refine committed.next fun run last kept => ?_
    have published : Writes reliable documents thread
        (coreOp (.runStateChanged ⟨transition.previous, run, transition.reason⟩))
        (fun _ => fact) fact last :=
      safe_quiet rfl lasting.stable (fun _ _ kept _ _ _ _ => kept) (fun _ kept => kept) kept
    exact published.next fun _ _ kept => kept

/-- The audit failure handler pauses or fails the Run, and moves no marker. -/
theorem safe_handleAuditFailure {fact : CommitWorld → Prop} (lasting : Lasting thread fact)
    (runId : RunId) (detail : ErrorDetail) (held : fact state) :
    Writes reliable documents thread (RunService.handleAuditFailure runId detail) (fun _ => fact)
      fact state := by
  have got : Writes reliable documents thread (coreOp (.runGet runId)) (fun _ => fact) fact state := by
    refine safe_runGet lasting.stable runId (fun world log _ _ holds _ => ?_)
      (fun world log holds => ?_) held
    · exact lasting (world, log) _ (grows_relog world rfl) rfl holds
    · exact lasting (world, log) _ (grows_unstage thread world log) rfl holds
  refine got.next fun run after kept => ?_
  split
  · exact kept
  · split
    · exact safe_apply lasting (keepsMarker_fail detail) runId run.stateVersion kept
    · split
      · exact kept
      · exact safe_apply lasting keepsMarker_pause runId run.stateVersion kept

/-- The calls around a capability change nothing; where one fails the thread has not moved a
marker since. -/
theorem writer_routine {held : CommitWorld → Prop} (stable : Stable thread held)
    (unmoved : ∀ current, held current → Unmoved reliable thread current)
    (authorization : Authorization) :
    Routine (writerEnvironment reliable Orphaned thread) (writerContract documents thread)
      authorization.dispatcher held (Unmoved reliable thread) (Unmoved reliable thread) where
  cancelled token state start := safe_routine (.cancelled token) rfl stable unmoved start
  now state start := safe_routine .now rfl stable unmoved start
  authorize policy given request state start := by
    have awaited : policy = fun request => coreOp (.authorize request) := by
      unfold Authorization.dispatcher at given
      split at given
      · exact (Option.some.inj given).symm
      · cases given
    subst awaited
    exact safe_routine (.authorize request) rfl stable unmoved start
  denied request decision state start :=
    safe_routine (.authorizationDenied request decision) rfl stable unmoved start
  granted request grant state start :=
    safe_routine (.crossScopeGranted request grant) rfl stable unmoved start
  handle runId detail state start := by
    have handled : Writes reliable documents thread (RunService.handleAuditFailure runId detail)
        (fun _ => Unmoved reliable thread) (Unmoved reliable thread) state :=
      safe_handleAuditFailure (lasting_unmoved reliable thread) runId detail start
    exact handled.next fun _ _ kept => kept
  weaken := unmoved
  unhandled _ kept := kept

end CongeriesCore
