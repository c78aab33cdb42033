import CongeriesCore.CheckpointChain
import CongeriesCore.RecoveryCoordinator
import CongeriesCore.RunLifecycle

/-! # The restore gate

Any number of recoveries, saves and mutations of Runs whose steps interleave. Beside the world
stands a log, newest first, of the commits of the Runs and of the restores that returned. -/

namespace CongeriesCore

open AsyncProgram

inductive RecoveryEvent
  | committed (previous current : Run)
  | restored (checkpoint : Checkpoint)

abbrev RecoveryLog := List RecoveryEvent

namespace RecoveryLog

def observe : (op : CoreOp) → Except Raised op.Answer → CoreWorld → CoreWorld → RecoveryLog →
    RecoveryLog
  | .runCompareAndSet run _, _, before, after, log =>
    match before.run? run.runId, after.run? run.runId with
    | some previous, some current =>
      if current = previous then log else .committed previous current :: log
    | _, _ => log
  | .restore checkpoint _, .ok _, _, _, log => .restored checkpoint :: log
  | _, _, _, _, log => log

/-- What the newest commit of a Run stored. -/
def lastCommitted (runId : RunId) : RecoveryLog → Option Run
  | [] => none
  | .restored _ :: earlier => lastCommitted runId earlier
  | .committed _ current :: earlier =>
    if current.runId = runId then some current else lastCommitted runId earlier

/-- The checkpoint of the Run has been restored since the last commit of the Run. -/
def RestoredSince (runId : RunId) (reference : CheckpointRef) : RecoveryLog → Prop
  | [] => False
  | .restored checkpoint :: earlier => checkpoint.runId = runId ∧ checkpoint.ref = reference ∨
    RestoredSince runId reference earlier
  | .committed _ current :: earlier => current.runId ≠ runId ∧
    RestoredSince runId reference earlier

end RecoveryLog

/-- `current` is what a recovery of `previous` begins with. -/
def EntersRecovery (previous current : Run) : Prop :=
  current ≠ previous ∧ ∃ source version now transition,
    RunStateMachine.recover source previous version now = .ok transition ∧
      transition.current = current

/-- Between a transition into recovery and the next time the Run is running, a restore of the
marker that the Run then has has returned. -/
def RestoreGate (log : RecoveryLog) : Prop :=
  ∀ (later between earlier : RecoveryLog) (previous recovering stopped running : Run),
    log = later ++ .committed stopped running :: (between ++
      .committed previous recovering :: earlier) →
    EntersRecovery previous recovering → running.runId = recovering.runId →
    running.status = .running →
    (∀ before after, .committed before after ∈ between → after.runId = recovering.runId →
      after.status ≠ .running) →
    ∃ checkpoint, .restored checkpoint ∈ between ∧ checkpoint.runId = running.runId ∧
      running.latest = some checkpoint.ref

/-! ### The trail of the commits -/

/-- The Run is recovering, or a resume returns it to its recovery. -/
def InRecovery (run : Run) : Prop :=
  run.status = .recovering ∨ run.status = .paused ∧ run.continuationStatus = some .recovering

/-- A commit that leaves the recovery of a Run ends the Run, or has its marker restored. -/
structure Lawful (previous current : Run) (log : RecoveryLog) : Prop where
  active : previous.status.terminal = false
  runId : current.runId = previous.runId
  confined : InRecovery previous → InRecovery current ∨ current.status.terminal = true ∨
    current.status = .running ∧ ∃ reference, current.latest = some reference ∧
      RecoveryLog.RestoredSince previous.runId reference log

namespace RecoveryLog

/-- Each commit follows the one before it of the same Run, and is lawful. -/
def Trail : RecoveryLog → Prop
  | [] => True
  | .restored _ :: earlier => Trail earlier
  | .committed previous current :: earlier =>
    (∀ last, lastCommitted current.runId earlier = some last → last = previous) ∧
      Lawful previous current earlier ∧ Trail earlier

variable {runId : RunId} {later between earlier : RecoveryLog}

theorem Trail.suffix (trail : Trail (later ++ earlier)) : Trail earlier := by
  induction later with
  | nil => exact trail
  | cons event later ih =>
    cases event with
    | restored checkpoint => exact ih trail
    | committed previous current => exact ih trail.2.2

/-- From a commit into recovery on, the Run stays in recovery until it is running or has ended. -/
theorem Trail.confined {previous recovering : Run}
    (trail : Trail (between ++ .committed previous recovering :: earlier))
    (entered : InRecovery recovering)
    (stays : ∀ before after, .committed before after ∈ between → after.runId = recovering.runId →
      after.status ≠ .running) :
    ∃ last, lastCommitted recovering.runId (between ++ .committed previous recovering :: earlier) =
      some last ∧ (InRecovery last ∨ last.status.terminal = true) := by
  induction between with
  | nil => exact ⟨recovering, by simp [lastCommitted], .inl entered⟩
  | cons event between ih =>
    have stays' : ∀ before after, .committed before after ∈ between →
        after.runId = recovering.runId → after.status ≠ .running :=
      fun before after member => stays before after (List.mem_cons_of_mem _ member)
    cases event with
    | restored checkpoint => exact ih trail stays'
    | committed before after =>
      obtain ⟨follows, lawful, trail⟩ := trail
      obtain ⟨last, found, confined⟩ := ih trail stays'
      by_cases own : after.runId = recovering.runId
      · refine ⟨after, by simp [lastCommitted, own], ?_⟩
        have same : last = before := follows last (own ▸ found)
        subst same
        have inside : InRecovery last := by
          refine confined.resolve_right fun ended => ?_
          rw [lawful.active] at ended
          cases ended
        rcases lawful.confined inside with kept | ended | ⟨running, -⟩
        · exact .inl kept
        · exact .inr ended
        · exact absurd running (stays last after List.mem_cons_self own)
      · exact ⟨last, by simpa [lastCommitted, own] using found, confined⟩

/-- A restore since the last commit lies after any commit of the Run. -/
theorem RestoredSince.mem {reference : CheckpointRef} {previous current : Run}
    (restored : RestoredSince current.runId reference
      (between ++ .committed previous current :: earlier)) :
    ∃ checkpoint, .restored checkpoint ∈ between ∧ checkpoint.runId = current.runId ∧
      checkpoint.ref = reference := by
  induction between with
  | nil => exact absurd rfl restored.1
  | cons event between ih =>
    cases event with
    | restored checkpoint =>
      rcases restored with ⟨own, same⟩ | restored
      · exact ⟨checkpoint, List.mem_cons_self, own, same⟩
      · obtain ⟨found, member, holds⟩ := ih restored
        exact ⟨found, List.mem_cons_of_mem _ member, holds⟩
    | committed before after =>
      obtain ⟨found, member, holds⟩ := ih restored.2
      exact ⟨found, List.mem_cons_of_mem _ member, holds⟩

end RecoveryLog

theorem EntersRecovery.inRecovery {previous current : Run}
    (enters : EntersRecovery previous current) : InRecovery current := by
  obtain ⟨changed, source, version, now, transition, done, rfl⟩ := enters
  rcases (RunStateMachine.recover_ok done).2.2 with ⟨same, -⟩ | ⟨_, ⟨-, -, _, _, -, -, rfl⟩, fields⟩
  · exact absurd same changed
  · exact .inl (by rw [fields])

theorem RecoveryLog.Trail.gate {log : RecoveryLog} (trail : log.Trail) : RestoreGate log := by
  intro later between earlier previous recovering stopped running split enters own isRunning stays
  rw [split] at trail
  obtain ⟨follows, lawful, trail⟩ := trail.suffix
  obtain ⟨last, found, confined⟩ := trail.confined enters.inRecovery stays
  obtain rfl : last = stopped := follows last (own ▸ found)
  have inside : InRecovery last := by
    refine confined.resolve_right fun ended => ?_
    rw [lawful.active] at ended
    cases ended
  rcases lawful.confined inside with (recovering | ⟨paused, -⟩) | ended | ⟨-, marker, marked, restored⟩
  · rw [isRunning] at recovering
    cases recovering
  · rw [isRunning] at paused
    cases paused
  · rw [isRunning] at ended
    cases ended
  · have key : last.runId = recovering.runId := lawful.runId.symm.trans own
    rw [key] at restored
    obtain ⟨checkpoint, member, owner, rfl⟩ := restored.mem
    exact ⟨checkpoint, member, owner.trans own.symm, marked⟩

/-! ### The contract of a client -/

abbrev RecoveryWorld := CoreWorld × RecoveryLog

/-- A stored Run is still stored, with what had been restored, or a later version of it is. -/
def Onward (before after : RecoveryWorld) : Prop :=
  ∀ runId run, before.1.run? runId = some run → ∃ next, after.1.run? runId = some next ∧
    (next = run ∧ (∀ reference, RecoveryLog.RestoredSince runId reference before.2 →
      RecoveryLog.RestoredSince runId reference after.2) ∨ run.stateVersion < next.stateVersion)

theorem Onward.refl (state : RecoveryWorld) : Onward state state :=
  fun _ run stored => ⟨run, stored, .inl ⟨rfl, fun _ restored => restored⟩⟩

theorem Onward.trans {first second third : RecoveryWorld} (earlier : Onward first second)
    (later : Onward second third) : Onward first third := by
  intro runId run stored
  obtain ⟨middle, stored, before⟩ := earlier runId run stored
  obtain ⟨last, stored, after⟩ := later runId middle stored
  refine ⟨last, stored, ?_⟩
  rcases before with ⟨rfl, keeps⟩ | less
  · rcases after with ⟨rfl, keeps'⟩ | less
    · exact .inl ⟨rfl, fun reference restored => keeps' reference (keeps reference restored)⟩
    · exact .inr less
  · rcases after with ⟨rfl, -⟩ | less'
    · exact .inr less
    · exact .inr (less.trans less')

structure Tracked (state : RecoveryWorld) : Prop where
  keyed : state.1.Keyed
  trail : state.2.Trail
  current : ∀ runId last, state.2.lastCommitted runId = some last → state.1.run? runId = some last

def gateContract : Contract CoreInterface RecoveryWorld where
  invariant := Tracked
  rely := Onward
  guarantee := Onward
  need _ _ := True

theorem Tracked.commit {world : CoreWorld} {log : RecoveryLog} {previous current : Run}
    (tracked : Tracked (world, log)) (stored : world.run? current.runId = some previous)
    (next : current.stateVersion = previous.stateVersion + 1)
    (lawful : Lawful previous current log) :
    Tracked (world.setRun current, .committed previous current :: log) ∧
      Onward (world, log) (world.setRun current, .committed previous current :: log) := by
  have lookup := world.run?_setRun current
  refine ⟨⟨fun runId run found => ?_, ⟨fun last found => ?_, lawful, tracked.trail⟩,
    fun runId last found => ?_⟩, fun runId run found => ?_⟩
  · rw [lookup] at found
    split at found
    · rename_i own
      cases found
      exact own
    · exact tracked.keyed runId run found
  · have same := tracked.current _ last found
    rw [stored] at same
    exact (Option.some.inj same).symm
  · rw [lookup]
    unfold RecoveryLog.lastCommitted at found
    split at found
    · rename_i own
      rw [if_pos own]
      exact found
    · rename_i other
      rw [if_neg other]
      exact tracked.current runId last found
  · rw [lookup]
    by_cases own : current.runId = runId
    · subst own
      rw [stored] at found
      obtain rfl := Option.some.inj found
      exact ⟨current, if_pos rfl, .inr (by omega)⟩
    · exact ⟨run, by rw [if_neg own]; exact found,
        .inl ⟨rfl, fun reference restored => ⟨own, restored⟩⟩⟩

theorem Tracked.restore {world : CoreWorld} {log : RecoveryLog} (tracked : Tracked (world, log))
    (checkpoint : Checkpoint) : Tracked (world, .restored checkpoint :: log) ∧
      Onward (world, log) (world, .restored checkpoint :: log) :=
  ⟨⟨tracked.keyed, tracked.trail, tracked.current⟩,
    fun _ run stored => ⟨run, stored, .inl ⟨rfl, fun _ restored => .inr restored⟩⟩⟩

/-! ### What a client knows -/

/-- The Run is stored, or a later version of it is. -/
def Noted (run : Run) (state : RecoveryWorld) : Prop :=
  ∃ stored, state.1.run? run.runId = some stored ∧
    (stored = run ∨ run.stateVersion < stored.stateVersion)

/-- If the Run is stored, its checkpoint has been restored since the last commit. -/
def Restored (run : Run) (reference : CheckpointRef) (state : RecoveryWorld) : Prop :=
  ∃ stored, state.1.run? run.runId = some stored ∧
    (stored = run ∧ RecoveryLog.RestoredSince run.runId reference state.2 ∨
      run.stateVersion < stored.stateVersion)

theorem Noted.follow {run : Run} {before after : RecoveryWorld} (seen : Noted run before)
    (follows : Onward before after) : Noted run after := by
  obtain ⟨stored, found, known⟩ := seen
  obtain ⟨next, found, later⟩ := follows _ stored found
  refine ⟨next, found, ?_⟩
  rcases known with rfl | less
  · exact later.imp_left And.left
  · rcases later with ⟨rfl, -⟩ | less'
    · exact .inr less
    · exact .inr (less.trans less')

theorem Restored.follow {run : Run} {reference : CheckpointRef} {before after : RecoveryWorld}
    (restored : Restored run reference before) (follows : Onward before after) :
    Restored run reference after := by
  obtain ⟨stored, found, known⟩ := restored
  obtain ⟨next, found, later⟩ := follows _ stored found
  refine ⟨next, found, ?_⟩
  rcases known with ⟨rfl, since⟩ | less
  · exact later.imp_left fun kept => ⟨kept.1, kept.2 reference since⟩
  · rcases later with ⟨rfl, -⟩ | less'
    · exact .inr less
    · exact .inr (less.trans less')

/-- A Run that is stored at the version that was seen is the Run that was seen. -/
theorem Noted.eq {run stored : Run} {state : RecoveryWorld} (seen : Noted run state)
    (found : state.1.run? run.runId = some stored)
    (version : stored.stateVersion = run.stateVersion) : stored = run := by
  obtain ⟨other, found', known⟩ := seen
  rw [found] at found'
  obtain rfl := Option.some.inj found'
  exact known.resolve_right (by omega)

/-! ### Steps of a client -/

/-- The calls that neither write a Run nor restore. -/
def CoreOp.quiet : CoreOp → Bool
  | .runAdd _ | .runCompareAndSet _ _ | .restore _ _ => false
  | _ => true

theorem CoreOp.quiet_reads {op : CoreOp} (quiet : op.quiet = true) : op.writesRun = false := by
  cases op <;> first | rfl | cases quiet

theorem RecoveryLog.observe_quiet {op : CoreOp} (quiet : op.quiet = true)
    (outcome : Except Raised op.Answer) (before after : CoreWorld) (log : RecoveryLog) :
    observe op outcome before after log = log := by
  cases op <;> first | rfl | cases quiet

section Calls

variable [Sha256] {state : RecoveryWorld}

abbrev recoveryEnvironment : Environment CoreInterface Raised RecoveryWorld :=
  coreEnvironment.instrumented (fun _ _ _ => True) RecoveryLog.observe

abbrev GateSafe {α : Type} (program : CoreProgram α)
    (post : Except Raised α → RecoveryWorld → Prop) (state : RecoveryWorld) : Prop :=
  program.Safe recoveryEnvironment gateContract post state

theorem GateSafe.follow {α : Type} {program : CoreProgram α}
    {post : Except Raised α → RecoveryWorld → Prop} (safe : GateSafe program post state) :
    GateSafe program (fun outcome after => Onward state after ∧ post outcome after) state :=
  safe.across Onward.refl (fun _ _ _ => Onward.trans) (fun _ _ follows => follows)
    (fun _ _ follows => follows)

theorem gate_call {op : CoreOp} {post : Except Raised op.Answer → RecoveryWorld → Prop}
    (answered : ∀ current, Onward state current → Tracked current →
      ∀ (choice : op.Choice) outcome after, coreAnswer op choice current.1 = (outcome, after) →
      let next := (after, RecoveryLog.observe op outcome current.1 after current.2)
      Tracked next ∧ Onward current next ∧ post outcome next) :
    GateSafe (coreOp op) post state := by
  refine Program.safe_perform fun current relied kept => ⟨trivial, fun choice _ => ?_⟩
  exact answered current relied kept choice _ _ rfl

theorem gate_quiet (op : CoreOp) (quiet : op.quiet = true) :
    GateSafe (coreOp op) (fun _ _ => True) state := by
  refine gate_call fun current _ tracked choice outcome after answer => ?_
  have same : after.repository = current.1.repository := by
    have kept := answer_repository (CoreOp.quiet_reads quiet) choice current.1
    rw [answer] at kept
    exact kept
  have lookup : ∀ runId, after.run? runId = current.1.run? runId := by
    intro runId
    rw [CoreWorld.run?, CoreWorld.run?, same]
  rw [RecoveryLog.observe_quiet quiet]
  refine ⟨⟨fun runId run found => ?_, tracked.trail, fun runId last found => ?_⟩,
    fun runId run found => ?_, trivial⟩
  · rw [lookup] at found
    exact tracked.keyed runId run found
  · rw [lookup]
    exact tracked.current runId last found
  · exact ⟨run, (lookup runId).trans found, .inl ⟨rfl, fun _ restored => restored⟩⟩

theorem gate_get (runId : RunId) : GateSafe (coreOp (.runGet runId))
    (Ends (fun run after => run.runId = runId ∧ Noted run after ∧
      ∀ known, Noted known state → known.runId = runId →
        run = known ∨ known.stateVersion < run.stateVersion) (fun _ => True)) state := by
  refine gate_call fun current follows tracked choice outcome after answer => ?_
  rcases answer_runGet current.1 runId choice with ⟨error, refused⟩ | ⟨run, found, done⟩
  · rw [refused] at answer
    obtain ⟨rfl, rfl⟩ := Prod.mk.inj answer
    exact ⟨tracked, .refl current, trivial⟩
  · rw [done] at answer
    obtain ⟨rfl, rfl⟩ := Prod.mk.inj answer
    have own : run.runId = runId := tracked.keyed runId run found
    refine ⟨tracked, .refl current, own, ⟨run, own ▸ found, .inl rfl⟩, fun known seen same => ?_⟩
    obtain ⟨stored, found', known⟩ := seen.follow follows
    rw [same, found] at found'
    obtain rfl := Option.some.inj found'
    exact known

theorem gate_compareAndSet {run : Run} {version : ℕ}
    (lawful : ∀ current, Onward state current → Tracked current → ∀ stored,
      current.1.run? run.runId = some stored → stored.stateVersion = version →
      Lawful stored run current.2) :
    GateSafe (coreOp (.runCompareAndSet run version))
      (Ends (fun committed after => committed = run ∧ Noted run after) (fun _ => True)) state := by
  refine gate_call fun current follows tracked choice outcome after answer => ?_
  rcases answer_runCompareAndSet current.1 run version choice with
    ⟨error, refused⟩ | ⟨stored, found, expected, next, written⟩
  · rw [refused] at answer
    obtain ⟨rfl, rfl⟩ := Prod.mk.inj answer
    have observed : RecoveryLog.observe (.runCompareAndSet run version) (.error error) current.1
        current.1 current.2 = current.2 := by
      unfold RecoveryLog.observe
      dsimp only
      cases current.1.run? run.runId <;> simp
    rw [observed]
    exact ⟨tracked, .refl current, trivial⟩
  · have after_eq : after = current.1.setRun run := by
      rcases written with done | ⟨error, -, failed⟩
      · rw [done] at answer
        exact (Prod.mk.inj answer).2.symm
      · rw [failed] at answer
        exact (Prod.mk.inj answer).2.symm
    subst after_eq
    have stored' : (current.1.setRun run).run? run.runId = some run := by
      rw [CoreWorld.run?_setRun, if_pos rfl]
    have changed : run ≠ stored := by
      intro same
      rw [same] at next
      omega
    have observed : RecoveryLog.observe (.runCompareAndSet run version) outcome current.1
        (current.1.setRun run) current.2 = .committed stored run :: current.2 := by
      unfold RecoveryLog.observe
      simp only [found, stored', if_neg changed]
    rw [observed]
    have committed := tracked.commit found (expected ▸ next)
      (lawful current follows tracked stored found expected)
    refine ⟨committed.1, committed.2, ?_⟩
    rcases written with done | ⟨error, -, failed⟩
    · rw [done] at answer
      obtain ⟨rfl, -⟩ := Prod.mk.inj answer
      exact ⟨rfl, run, stored', .inl rfl⟩
    · rw [failed] at answer
      obtain ⟨rfl, -⟩ := Prod.mk.inj answer
      trivial

/-- After a restore the Run that is recovering has been restored, until it is changed. -/
theorem gate_restore {run : Run} {checkpoint : Checkpoint} (context : RuntimeCallContext)
    (seen : Noted run state) (own : checkpoint.runId = run.runId) :
    GateSafe (coreOp (.restore checkpoint context))
      (Ends (fun _ after => Restored run checkpoint.ref after) (fun _ => True)) state := by
  refine gate_call fun current follows tracked choice outcome after answer => ?_
  obtain ⟨rfl, rfl⟩ : choice = outcome ∧ current.1 = after := Prod.mk.inj answer
  cases choice with
  | error error => exact ⟨tracked, .refl current, trivial⟩
  | ok done =>
    have kept := Tracked.restore tracked checkpoint
    obtain ⟨stored, found, known⟩ := seen.follow follows
    refine ⟨kept.1, kept.2, stored, found, known.imp_left fun same => ⟨same, .inl ⟨own, rfl⟩⟩⟩

/-- What a mutation that returned has made of a Run. -/
def Made (runId : RunId) (operation : RunOperation) (version : ℕ) (state : RecoveryWorld)
    (run : Run) (after : RecoveryWorld) : Prop :=
  Noted run after ∧ run.runId = runId ∧ ∃ previous now transition,
    operation.apply previous version now = .ok transition ∧ transition.current = run ∧
    ∀ known, Noted known state → known.runId = runId → known.stateVersion = version → previous = known

/-- The mutation is lawful for the Run that is stored when it is committed. -/
theorem gate_apply (runId : RunId) (operation : RunOperation) (version : ℕ)
    (lawful : ∀ current, Onward state current → Tracked current → ∀ previous now transition,
      current.1.run? runId = some previous → operation.apply previous version now = .ok transition →
      transition.current ≠ previous → Lawful previous transition.current current.2) :
    GateSafe (RunService.apply runId version operation.apply)
      (Ends (Made runId operation version state) (fun _ => True)) state := by
  refine (gate_get runId).follow.bind (fun previous read got => ?_) fun _ _ _ => trivial
  obtain ⟨follows, own, seen, older⟩ := got
  refine (gate_quiet _ rfl).follow.bind (fun now ticked got => ?_) fun _ _ _ => trivial
  have follows := follows.trans got.1
  have seen := seen.follow got.1
  cases applied : operation.apply previous version now with
  | error error => exact trivial
  | ok transition =>
    obtain ⟨expected, handed, advances⟩ := RunOperation.apply_ok applied
    have made : ∀ after, Noted transition.current after → transition.current.runId = runId →
        Made runId operation version state transition.current after := by
      intro after seen own
      refine ⟨seen, own, previous, now, transition, applied, rfl, fun known seen own version => ?_⟩
      exact (older known seen own).resolve_right (by omega)
    change GateSafe (if transition.unchanged then Program.ret transition.current
      else RunService.commit transition version) _ _
    split
    · rename_i unchanged
      have same : transition.current = previous := by
        refine advances.resolve_right fun changed => ?_
        have equal : transition.current.stateVersion = previous.stateVersion := by
          simpa [RunTransition.unchanged, handed] using unchanged
        omega
      exact made ticked (same ▸ seen) (same ▸ own)
    · rename_i changed
      have differs : transition.current ≠ previous := by
        intro same
        exact changed (by simp [RunTransition.unchanged, handed, same])
      have key : transition.current.runId = runId :=
        (advances.resolve_left differs).2.2.runId.trans own
      have committing : GateSafe (coreOp (.runCompareAndSet transition.current version)) _ ticked :=
        gate_compareAndSet fun current later tracked stored found version => by
          have same : stored = previous := by
            refine (seen.follow later).eq ?_ (version.trans expected.symm)
            rw [own, ← key]
            exact found
          subst same
          rw [key] at found
          exact lawful current (follows.trans later) tracked stored now transition found applied
            differs
      refine committing.next fun committed after done => ?_
      obtain ⟨rfl, seen⟩ := done
      refine (gate_quiet _ rfl).follow.bind (fun _ last got => ?_) fun _ _ _ => trivial
      exact made last (seen.follow got.1) key

/-- The mutations after which a Run in recovery is in recovery or has ended. -/
def RunOperation.confined : RunOperation → Bool
  | .pause | .resume | .recover _ | .commitCheckpoint _ _ _ _ | .fail _ | .cancel => true
  | _ => false

omit [Sha256] in
open RunStateMachine in
theorem RunOperation.confined_inRecovery {operation : RunOperation} {run : Run} {version : ℕ}
    {now : DateTime} {transition : RunTransition} (confined : operation.confined = true)
    (done : operation.apply run version now = .ok transition) (inside : InRecovery run) :
    InRecovery transition.current ∨ transition.current.status.terminal = true := by
  have unchanged : transition.current = run →
      InRecovery transition.current ∨ transition.current.status.terminal = true :=
    fun same => .inl (same ▸ inside)
  cases operation with
  | pause =>
    rcases (pause_ok done).2.2 with ⟨same, -⟩ | ⟨_, ⟨legal, rfl⟩, fields⟩
    · exact unchanged same
    · have recovering : run.status = .recovering := by
        refine inside.resolve_right fun paused => ?_
        rw [paused.1] at legal
        cases legal
      refine .inl (.inr ?_)
      rw [fields, recovering]
      exact ⟨rfl, rfl⟩
  | resume =>
    rcases (resume_ok done).2.2 with ⟨same, -⟩ | ⟨_, ⟨paused, continuation, kept, rfl⟩, fields⟩
    · exact unchanged same
    · rcases inside with recovering | ⟨-, continues⟩
      · rw [paused] at recovering
        cases recovering
      · rw [kept] at continues
        exact .inl (.inl (by rw [fields]; exact Option.some.inj continues))
  | recover checkpointRef =>
    rcases (recover_ok done).2.2 with ⟨same, -⟩ | ⟨_, ⟨-, -, _, _, -, -, rfl⟩, fields⟩
    · exact unchanged same
    · exact .inl (.inl (by rw [fields]))
  | commitCheckpoint checkpointRef expectedPreviousRef definitionId graphVersion =>
    obtain ⟨workflow, -, -, -, -, same | ⟨_, ⟨-, rfl⟩, fields⟩⟩ := commitCheckpoint_ok done
    · exact unchanged same.1
    · refine .inl ?_
      unfold InRecovery
      rw [fields]
      exact inside
  | fail error =>
    rcases (fail_ok done).2.2 with ⟨same, -⟩ | ⟨_, ⟨-, _, _, -, -, rfl⟩, fields⟩
    · exact unchanged same
    · exact .inr (by rw [fields]; rfl)
  | cancel =>
    rcases (cancel_ok done).2.2 with ⟨same, -⟩ | ⟨_, ⟨-, _, -, rfl⟩, fields⟩
    · exact unchanged same
    · exact .inr (by rw [fields]; rfl)
  | _ => cases confined

theorem gate_confined (runId : RunId) {operation : RunOperation} (version : ℕ)
    (confined : operation.confined = true) :
    GateSafe (RunService.apply runId version operation.apply)
      (Ends (Made runId operation version state) (fun _ => True)) state := by
  refine gate_apply runId operation version fun current _ _ previous now transition _ applied changed => ?_
  obtain ⟨active, -, same⟩ := (RunOperation.apply_ok applied).2.2.resolve_left changed
  refine ⟨active, same.runId, fun inside => ?_⟩
  rcases RunOperation.confined_inRecovery confined applied inside with kept | ended
  · exact .inl kept
  · exact .inr (.inl ended)

/-- The advance after a restore of the marker. -/
theorem gate_advance {recovering : Run} {marker : CheckpointRef}
    (restored : Restored recovering marker state) (marked : recovering.latest = some marker) :
    GateSafe (RunService.advance recovering.runId recovering.stateVersion .running)
      (fun _ _ => True) state := by
  have lawful : GateSafe (RunService.apply recovering.runId recovering.stateVersion
      (RunOperation.advance .running).apply) _ state :=
    gate_apply _ _ _ fun current follows tracked previous now transition found applied changed => by
      obtain ⟨expected, -, advances⟩ := RunOperation.apply_ok applied
      obtain ⟨active, -, same⟩ := advances.resolve_left changed
      obtain ⟨stored, found', known⟩ := restored.follow follows
      rw [found] at found'
      obtain rfl := Option.some.inj found'
      obtain ⟨rfl, since⟩ := known.resolve_right (by omega)
      rcases (RunStateMachine.advance_ok applied).2.2 with ⟨unchanged, -⟩ | ⟨_, ⟨-, rfl⟩, fields⟩
      · exact absurd unchanged changed
      · refine ⟨active, same.runId, fun _ => .inr (.inr ⟨by rw [fields], marker, ?_, since⟩)⟩
        rw [← marked, Run.latest, Run.latest, Run.workflow?, Run.workflow?, fields]
  exact lawful.mono fun _ _ _ => trivial

/-! ### The calls of a client -/

theorem gate_auditFailure (runId : RunId) (detail : ErrorDetail) :
    GateSafe (handleRunAuditFailure runId detail) (fun _ _ => True) state := by
  have mutation : ∀ (operation : RunOperation) (version : ℕ) (state : RecoveryWorld),
      operation.confined = true →
      GateSafe (RunService.apply runId version operation.apply) (fun _ _ => True) state :=
    fun _ version state confined => (gate_confined runId version confined).mono fun _ _ _ => trivial
  unfold handleRunAuditFailure RunService.handleAuditFailure
  refine Program.Safe.bind (?_ : GateSafe _ (fun _ _ => True) state) (fun _ _ _ => trivial)
    fun _ _ _ => trivial
  refine (gate_quiet _ rfl).bind (fun run after _ => ?_) fun _ _ _ => trivial
  split
  · trivial
  · split
    · exact mutation (.fail detail) _ after rfl
    · split
      · trivial
      · exact mutation .pause _ after rfl

theorem gate_ends {α : Type} {program : CoreProgram α}
    (safe : GateSafe program (fun _ _ => True) state) :
    GateSafe program (Ends (fun _ _ => True) fun _ => True) state := by
  refine safe.mono fun outcome _ _ => ?_
  cases outcome <;> trivial

/-- The calls around a capability are no step of a recovery. -/
theorem gate_routine (authorization : Authorization) :
    Routine recoveryEnvironment gateContract authorization.dispatcher (fun _ => True)
      (fun _ => True) (fun _ => True) where
  cancelled token state _ := gate_ends (gate_quiet (.cancelled token) rfl)
  now state _ := gate_ends (gate_quiet .now rfl)
  authorize policy given request state _ := by
    have awaited : policy = fun request => coreOp (.authorize request) := by
      unfold Authorization.dispatcher at given
      split at given
      · exact (Option.some.inj given).symm
      · cases given
    subst awaited
    exact gate_ends (gate_quiet (.authorize request) rfl)
  denied request decision state _ :=
    gate_ends (gate_quiet (.authorizationDenied request decision) rfl)
  granted request grant state _ :=
    gate_ends (gate_quiet (.crossScopeGranted request grant) rfl)
  handle runId detail state _ := gate_ends (gate_auditFailure runId detail)
  weaken _ _ := trivial
  unhandled _ _ := trivial

theorem gate_load (gateway : CheckpointGateway) (provider : ProviderId) (reference : CheckpointRef)
    (runId : RunId) (scope : ScopeRef) (context : RuntimeCallContext) :
    GateSafe (gateway.load provider reference runId scope context) (fun _ _ => True) state :=
  ((gate_routine gateway.authorization).gatewayLoad (fun _ => gate_routine _) provider reference runId scope context
    (fun _ context _ => gate_ends (gate_quiet (.checkpointLoad reference context) rfl))
    trivial).mono fun _ _ _ => trivial

theorem gate_save (gateway : CheckpointGateway) (provider : ProviderId) (checkpoint : Checkpoint)
    (context : RuntimeCallContext) :
    GateSafe (gateway.save provider checkpoint context) (fun _ _ => True) state :=
  ((gate_routine gateway.authorization).gatewaySave (fun _ => gate_routine _) provider checkpoint context
    (fun _ _ context _ => gate_ends (gate_quiet (.checkpointSave checkpoint context) rfl))
    trivial).mono fun _ _ _ => trivial

theorem gate_list (gateway : CheckpointGateway) (query : CheckpointQuery)
    (context : RuntimeCallContext) :
    GateSafe (gateway.list query context) (fun _ _ => True) state :=
  ((gate_routine gateway.authorization).gatewayList (fun _ => gate_routine _) query context
    (fun _ _ query context _ _ => gate_ends (gate_quiet (.checkpointList query context) rfl))
    trivial).mono fun _ _ _ => trivial

theorem gate_audit (runId : RunId) {operation : CoreProgram Unit}
    (awaited : GateSafe operation (fun _ _ => True) state) :
    GateSafe (RecoveryCoordinator.audit runId operation) (fun _ _ => True) state := by
  refine awaited.catching (fun _ _ _ => trivial) fun error after _ => ?_
  split
  · exact (gate_auditFailure runId _).bind (fun _ _ _ => trivial) fun _ _ _ => trivial
  · trivial

theorem gate_listAll (coordinator : RecoveryCoordinator) (request : RecoveryRequest)
    (run : WorkflowRun) (context : RuntimeCallContext) (fuel : ℕ) (cursor : Option CheckpointCursor)
    (byRef : Dict CheckpointRef Checkpoint) :
    GateSafe (coordinator.listAll request run context fuel cursor byRef) (fun _ _ => True) state := by
  induction fuel generalizing cursor byRef state with
  | zero => trivial
  | succ fuel ih =>
    refine (gate_list _ _ _).bind (fun page after _ => ?_) fun _ _ _ => trivial
    split
    · trivial
    · exact ih _ _

/-- A Run whose marker is the checkpoint, as it has been seen. -/
structure Recoverable (checkpoint : Checkpoint) (run : WorkflowRun) (state : RecoveryWorld) : Prop where
  seen : Noted run.toRun state
  marked : run.latestCheckpointRef = some checkpoint.ref
  own : checkpoint.runId = run.runId

/-- What a commit of a checkpoint returns has it as its marker. -/
theorem gate_commitCheckpoint (runId : RunId) (version : ℕ) (checkpointRef : CheckpointRef)
    (previousRef : Option CheckpointRef) (definitionId : Option DefinitionId)
    (graphVersion : Option String) :
    GateSafe (RunService.commitCheckpoint runId version checkpointRef previousRef definitionId
      graphVersion) (Ends (fun run after => Noted run after ∧ run.runId = runId ∧
        run.latest = some checkpointRef) (fun _ => True)) state := by
  have committing : GateSafe (RunService.apply runId version (RunOperation.commitCheckpoint
      checkpointRef previousRef definitionId graphVersion).apply) _ state :=
    gate_confined runId version rfl
  refine committing.weaken (fun run after made => ?_) fun _ _ => trivial
  obtain ⟨seen, own, previous, now, transition, applied, rfl, -⟩ := made
  refine ⟨seen, own, ?_⟩
  obtain ⟨workflow, kind, -, -, -, ⟨same, marked⟩ | ⟨_, ⟨-, rfl⟩, fields⟩⟩ :=
    RunStateMachine.commitCheckpoint_ok applied
  · rw [same, Run.latest, Run.workflow?_eq_some.mpr kind]
    exact marked
  · rw [Run.latest, Run.workflow?, fields]
    rfl

theorem gate_fallBack (coordinator : RecoveryCoordinator) (fuel : ℕ) (request : RecoveryRequest)
    (run : WorkflowRun) (marker : CheckpointRef) (context : RuntimeCallContext) :
    GateSafe (coordinator.fallBack fuel request run marker context)
      (Ends (fun loaded after => Noted loaded.2.2.toRun after) (fun _ => True)) state := by
  unfold RecoveryCoordinator.fallBack
  refine (gate_listAll coordinator request run context fuel none .empty).bind
    (fun byRef after _ => ?_) fun _ _ _ => trivial
  split
  · trivial
  · refine Program.safe_guarded trivial fun candidate _ => ?_
    cases candidate with
    | none => trivial
    | some candidate =>
      have authorized := gate_audit run.runId
        (gate_quiet (.fallbackAuthorized marker candidate context) rfl : GateSafe _ _ after)
      refine authorized.bind (fun _ audited _ => ?_) fun _ _ _ => trivial
      refine (gate_commitCheckpoint _ _ _ _ _ _).next fun committed last made => ?_
      refine Program.safe_guarded trivial fun workflow same => ?_
      obtain rfl := Run.asWorkflow_ok same
      exact made.1

theorem gate_loadWithFallback (coordinator : RecoveryCoordinator) (fuel : ℕ)
    (request : RecoveryRequest) {run : WorkflowRun} (marker : CheckpointRef)
    (context : RuntimeCallContext) (seen : Noted run.toRun state) :
    GateSafe (coordinator.loadWithFallback fuel request run marker context)
      (Ends (fun loaded after => Noted loaded.2.2.toRun after) (fun _ => True)) state := by
  refine (gate_load _ _ _ _ _ _).follow.andThen fun outcome after got => ?_
  cases outcome with
  | ok checkpoint => exact seen.follow got.1
  | error error =>
    change GateSafe (if _ then _ else _) _ _
    split
    · exact gate_fallBack coordinator fuel request run marker context
    · trivial

omit [Sha256] in
theorem Noted.recoverable {checkpoint : Checkpoint} {run : Run} {workflow : WorkflowRun} {error : Raised}
    (seen : Noted run state) (made : run.asWorkflow error = .ok workflow)
    (marked : run.latest = some checkpoint.ref) (own : checkpoint.runId = run.runId) :
    Recoverable checkpoint workflow state := by
  obtain rfl := Run.asWorkflow_ok made
  exact ⟨seen, (WorkflowRun.latest workflow).symm.trans marked, own⟩

theorem gate_migrate (coordinator : RecoveryCoordinator) (request : RecoveryRequest)
    {run : WorkflowRun} {source : Checkpoint} (context : RuntimeCallContext)
    (own : source.runId = run.runId) :
    GateSafe (coordinator.migrate request run source context)
      (Ends (fun result after => Recoverable result.1 result.2 after) (fun _ => True)) state := by
  unfold RecoveryCoordinator.migrate
  refine Program.safe_guarded trivial fun migrationRequest _ => ?_
  refine Program.safe_guarded trivial fun _ _ => ?_
  refine (gate_quiet _ rfl).bind (fun migrated after _ => ?_) fun _ _ _ => trivial
  refine Program.safe_guarded trivial fun _ valid => ?_
  have same : migrated.runId = source.runId := by
    obtain ⟨_, -, checked⟩ := bind_ok valid
    simp only [ensure_eq_ok, Bool.and_eq_true, beq_iff_eq] at checked
    tauto
  refine (gate_save _ _ _ _).bind (fun _ saved _ => ?_) fun _ _ _ => trivial
  have authorized := gate_audit run.runId
    (gate_quiet (.migrationAuthorized source migrated context) rfl : GateSafe _ _ saved)
  refine authorized.bind (fun _ audited _ => ?_) fun _ _ _ => trivial
  refine (gate_commitCheckpoint _ _ _ _ _ _).next fun committed last made => ?_
  obtain ⟨seen, key, marked⟩ := made
  refine Program.safe_guarded trivial fun workflow result => ?_
  have published : GateSafe (suppressException
      (coreOp (.checkpointSaved migrated workflow context))) (fun _ _ => True) last :=
    (gate_quiet _ rfl).catching (fun _ _ _ => trivial) fun error after _ => by split <;> trivial
  refine published.follow.bind (fun _ final got => ?_) fun _ _ _ => trivial
  exact (seen.follow got.1).recoverable result marked ((same.trans own).trans key.symm)

theorem gate_migrateIfNeeded (coordinator : RecoveryCoordinator) (request : RecoveryRequest)
    {run : WorkflowRun} {checkpoint : Checkpoint} (context : RuntimeCallContext)
    (marked : Recoverable checkpoint run state) :
    GateSafe (coordinator.migrateIfNeeded request run checkpoint context)
      (Ends (fun result after => Recoverable result.1 result.2.1 after) (fun _ => True)) state := by
  unfold RecoveryCoordinator.migrateIfNeeded
  split
  · exact (gate_migrate coordinator request context marked.own).next fun _ _ marked => marked
  · exact marked

theorem gate_restoreAndRun (request : RecoveryRequest) {run : WorkflowRun}
    {checkpoint : Checkpoint} (context : RuntimeCallContext) (marked : Recoverable checkpoint run state) :
    GateSafe (RecoveryCoordinator.restoreAndRun request run checkpoint context)
      (Ends (fun _ _ => True) fun _ => True) state := by
  have entering : GateSafe (RunService.apply run.runId run.stateVersion
      (RunOperation.recover (some checkpoint.ref)).apply) _ state :=
    gate_confined run.runId run.stateVersion rfl
  refine entering.next fun recovering after made => ?_
  obtain ⟨seen, key, previous, now, transition, applied, rfl, only⟩ := made
  obtain rfl := only run.toRun marked.seen rfl rfl
  have latest : transition.current.latest = some checkpoint.ref := by
    rw [← marked.marked, ← WorkflowRun.latest]
    rcases (RunStateMachine.recover_ok applied).2.2 with ⟨same, -⟩ | ⟨_, ⟨-, -, _, _, -, -, rfl⟩, fields⟩
    · rw [same]
    · exact Run.latest_of_kind (by rw [fields])
  refine Program.safe_guarded trivial fun workflow made => ?_
  have same := Run.asWorkflow_ok made
  have restoring : GateSafe (coreOp (.restore checkpoint context)) _ after :=
    gate_restore context (same ▸ seen) (by rw [same, key]; exact marked.own)
  have handled : GateSafe ((coreOp (.restore checkpoint context)).catching
      (RecoveryCoordinator.handleRestoreError request workflow))
      (Ends (fun _ last => Restored workflow.toRun checkpoint.ref last) fun _ => True) after := by
    refine restoring.catching (fun _ _ restored => restored) fun error last _ => ?_
    unfold RecoveryCoordinator.handleRestoreError
    split
    · have failing : GateSafe (RunService.apply workflow.runId workflow.stateVersion
          (RunOperation.fail (RecoveryCoordinator.restoreFailure error)).apply) _ last :=
        gate_confined workflow.runId workflow.stateVersion rfl
      exact failing.next fun _ _ _ => trivial
    · trivial
  refine handled.next fun _ last restored => ?_
  have advancing := gate_ends (gate_advance restored (by rw [same]; exact latest))
  exact advancing.next fun _ _ _ => Program.safe_checked (fun _ _ => trivial) trivial

theorem gate_recover (coordinator : RecoveryCoordinator) (fuel : ℕ) (request : RecoveryRequest)
    (context : RuntimeCallContext) :
    GateSafe (coordinator.recover fuel request context) (Ends (fun _ _ => True) fun _ => True)
      state := by
  unfold RecoveryCoordinator.recover
  refine (gate_get request.runId).next fun run read got => ?_
  obtain ⟨-, seen, -⟩ := got
  refine Program.safe_guarded trivial fun workflow made => ?_
  obtain rfl := Run.asWorkflow_ok made
  refine Program.safe_guarded trivial fun marker _ => ?_
  refine (gate_loadWithFallback coordinator fuel request marker context seen).next
    fun loaded after seen => ?_
  obtain ⟨checkpoint, fellBack, current⟩ := loaded
  refine Program.safe_guarded trivial fun _ valid => ?_
  have marked : Recoverable checkpoint current after := by
    obtain ⟨_, -, checked⟩ := bind_ok valid
    simp only [ensure_eq_ok, Bool.and_eq_true, beq_iff_eq] at checked
    exact ⟨seen, checked.1.1.1.symm, checked.1.1.2⟩
  refine (gate_migrateIfNeeded coordinator request context marked).next
    fun result migrated marked => ?_
  exact (gate_restoreAndRun request context marked).next fun _ _ _ => trivial

theorem gate_suppressed {operation : CoreProgram Unit}
    (awaited : GateSafe operation (fun _ _ => True) state) :
    GateSafe (suppressException operation) (Ends (fun _ _ => True) fun _ => True) state :=
  awaited.catching (fun _ _ _ => trivial) fun error _ _ => by split <;> trivial

theorem gate_coordinatorSave (coordinator : CheckpointCoordinator) (provider : ProviderId)
    (checkpoint : Checkpoint) (version : ℕ) (context : RuntimeCallContext) :
    GateSafe (coordinator.save provider checkpoint version context)
      (Ends (fun _ _ => True) fun _ => True) state := by
  unfold CheckpointCoordinator.save CheckpointCoordinator.workflowRun
  have reading : GateSafe (do
      let run ← RunService.get checkpoint.runId
      Program.ofExcept (run.asWorkflow (coreError .invalidRequest "checkpoint_requires_workflow_run"
        "checkpoint coordination requires a WorkflowRun")))
      (Ends (fun _ _ => True) fun _ => True) state :=
    (gate_get checkpoint.runId).next fun _ _ _ => Program.safe_checked (fun _ _ => trivial) trivial
  refine reading.next fun run after _ => ?_
  refine Program.safe_guarded trivial fun _ _ => ?_
  split
  · refine (gate_ends (gate_load _ _ _ _ _ _)).next fun existing last _ => ?_
    exact Program.safe_guarded trivial fun _ _ => trivial
  · refine Program.safe_guarded trivial fun _ _ => ?_
    have sequence : GateSafe (coordinator.nextSequence provider run context)
        (Ends (fun _ _ => True) fun _ => True) after := by
      unfold CheckpointCoordinator.nextSequence
      split
      · trivial
      · exact (gate_ends (gate_load _ _ _ _ _ _)).next fun _ _ _ => trivial
    refine sequence.next fun expected last _ => ?_
    refine Program.safe_guarded trivial fun _ _ => ?_
    have writing : GateSafe (coordinator.writeAndCommit provider checkpoint run version context)
        (Ends (fun _ _ => True) fun _ => True) last := by
      refine (gate_ends (gate_save _ _ _ _)).next fun _ written _ => ?_
      exact (gate_commitCheckpoint _ _ _ _ _ _).weaken (fun _ _ _ => trivial) fun _ _ => trivial
    have committing : GateSafe
        ((coordinator.writeAndCommit provider checkpoint run version context).catching
          (CheckpointCoordinator.publishFailure checkpoint context))
        (Ends (fun _ _ => True) fun _ => True) last := by
      refine writing.catching (fun _ _ _ => trivial) fun error later _ => ?_
      cases error with
      | core detail => exact (gate_suppressed (gate_quiet _ rfl)).next fun _ _ _ => trivial
      | _ => trivial
    refine committing.next fun committed final _ => ?_
    refine Program.safe_guarded trivial fun workflow _ => ?_
    exact (gate_suppressed (gate_quiet _ rfl)).next fun _ _ _ => trivial

end Calls

/-- The calls that interleave. -/
inductive RecoveryCall [Sha256] : CoreProgram Unit → Prop
  | recover (coordinator : RecoveryCoordinator) (fuel : ℕ) (request : RecoveryRequest)
      (context : RuntimeCallContext) :
      RecoveryCall (do let _ ← coordinator.recover fuel request context)
  | pause (runId : RunId) (version : ℕ) : RecoveryCall (do let _ ← RunService.pause runId version)
  | resume (runId : RunId) (version : ℕ) : RecoveryCall (do let _ ← RunService.resume runId version)
  | cancel (runId : RunId) (version : ℕ) : RecoveryCall (do let _ ← RunService.cancel runId version)
  | fail (runId : RunId) (version : ℕ) (error : ErrorDetail) :
      RecoveryCall (do let _ ← RunService.fail runId version error)
  | save (coordinator : CheckpointCoordinator) (provider : ProviderId) (checkpoint : Checkpoint)
      (version : ℕ) (context : RuntimeCallContext) :
      RecoveryCall (do let _ ← coordinator.save provider checkpoint version context)

section Pool

variable [Sha256]

/-- The repository and the store may hold anything at first. -/
def recoveryPool : Pool CoreInterface Raised Unit RecoveryWorld where
  environment _ := recoveryEnvironment
  initial state := state.1.Keyed ∧ state.2 = []
  starts _ before program start := RecoveryCall program ∧ start = before

theorem RecoveryCall.safe {program : CoreProgram Unit} (call : RecoveryCall program)
    (state : RecoveryWorld) : GateSafe program (fun _ _ => True) state := by
  have discarded : ∀ {α : Type} {called : CoreProgram α},
      GateSafe called (fun _ _ => True) state →
      GateSafe (do let _ ← called) (fun _ _ => True) state :=
    fun safe => safe.bind (fun _ _ _ => trivial) fun _ _ _ => trivial
  have mutation : ∀ (operation : RunOperation) (runId : RunId) (version : ℕ),
      operation.confined = true →
      GateSafe (RunService.apply runId version operation.apply) (fun _ _ => True) state :=
    fun _ runId version confined => (gate_confined runId version confined).mono fun _ _ _ => trivial
  cases call with
  | recover coordinator fuel request context =>
    exact discarded ((gate_recover coordinator fuel request context).mono fun _ _ _ => trivial)
  | pause runId version => exact discarded (mutation .pause runId version rfl)
  | resume runId version => exact discarded (mutation .resume runId version rfl)
  | cancel runId version => exact discarded (mutation .cancel runId version rfl)
  | fail runId version error =>
    exact discarded (mutation (.fail error) runId version rfl)
  | save coordinator provider checkpoint version context =>
    exact discarded ((gate_coordinatorSave coordinator provider checkpoint version context).mono
      fun _ _ _ => trivial)

theorem recoveryPool_meets : recoveryPool.Meets (fun _ => gateContract) Tracked
    (fun _ _ _ => True) where
  shared _ := rfl
  reflexive _ := Onward.refl
  transitive _ _ _ _ := Onward.trans
  stable _ _ _ _ _ _ := trivial
  compatible _ _ _ _ _ onward := onward
  initial state start := by
    obtain ⟨keyed, empty⟩ := start
    exact ⟨keyed, empty ▸ trivial, fun runId last found => by rw [empty] at found; cases found⟩
  starts _ before program start tracked started := by
    obtain ⟨call, rfl⟩ := started
    exact ⟨tracked, .refl _, call.safe _⟩

/-- In every state reached by any interleaving of recoveries, saves and mutations. -/
theorem recover_gated {configuration : Configuration CoreInterface Raised Unit RecoveryWorld}
    (reached : recoveryPool.Reachable configuration) : RestoreGate configuration.state.2 :=
  (recoveryPool_meets.reachable reached).1.trail.gate

end Pool

namespace SampleParameters

/-- The run with a committed checkpoint. -/
def markedRun : Run where
  toRunFields := { sampleRun.toRunFields with
    kind := .workflow { sampleWorkflow with latestCheckpointRef := some sampleCheckpoint.ref } }
  checked := by decide +kernel

def markedWorld : CoreWorld :=
  ⟨⟨Dict.empty.set sampleRunId markedRun⟩,
    (InMemoryCheckpointStore.empty sampleProvider).insert sampleCheckpoint⟩

theorem markedWorld_keyed : markedWorld.Keyed := by
  intro runId run found
  have runs := Dict.empty.get?_set sampleRunId runId markedRun
  change (Dict.empty.set sampleRunId markedRun).get? runId = some run at found
  rw [runs] at found
  split at found
  · cases found
    assumption
  · cases found

def sampleRecovery : RecoveryCoordinator := ⟨sampleCoordinator.gateway, ⟨[]⟩⟩

def sampleRecoveryRequest : RecoveryRequest :=
  ⟨sampleRunId, 1, sampleProvider, sampleRun.definitionId, "1", {}⟩

/-- A recovery of the run that nothing disturbs. -/
def sampleRecovered : Configuration CoreInterface Raised Unit RecoveryWorld :=
  recoveryPool.execute (fun _ op _ => sampleChoice op) (fun _ op _ => samplePermits false op)
    (List.replicate 40 0) ⟨(markedWorld, []),
      [do let _ ← sampleRecovery.recover 2 sampleRecoveryRequest sampleContext]⟩

theorem sampleRecovered_reachable : recoveryPool.Reachable sampleRecovered := by
  apply Pool.execute_reachable
  · intro thread op state permitted
    cases op with
    | newCheckpointRef => cases permitted
    | checkpointDelete request context => cases permitted
    | checkpointList query context => exact ⟨fun _ => .inl rfl, trivial⟩
    | _ => exact ⟨trivial, trivial⟩
  · exact .move (.initial ⟨markedWorld_keyed, rfl⟩) (.start ⟨.recover _ _ _ _, rfl⟩)

end SampleParameters

open SampleParameters in
theorem recover_gated_sample : RestoreGate sampleRecovered.state.2 ∧
    sampleRecovered.state.2.map (fun
      | .committed previous current => (previous.status, current.status)
      | .restored _ => (.recovering, .recovering)) =
        [(.recovering, .running), (.recovering, .recovering), (.running, .recovering)] :=
  ⟨recover_gated sampleRecovered_reachable, by decide +kernel⟩

end CongeriesCore
