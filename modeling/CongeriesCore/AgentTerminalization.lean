import CongeriesCore.AgentRuntime

/-! # How executions of an AgentRun end

Any number of executions and of mutations of one AgentRun, their steps interleaved at every
suspension. The commits of the Run are recorded, newest first. -/

namespace AsyncProgram

variable {I : Interface} {ε α σ : Type} {P : Pool I ε α σ} {C : ℕ → Contract I σ}
  {invariant : σ → Prop} {post : ℕ → Except ε α → σ → Prop}

/-- What a thread is safe for from some time on. -/
theorem Pool.Meets.later (meets : P.Meets C invariant post) {thread : ℕ}
    {ends : Except ε α → σ → Prop}
    (stable : ∀ outcome before after, (C thread).rely before after → ends outcome before →
      ends outcome after)
    {before after : Configuration I ε α σ} (reached : P.Reachable before) {program : Program I ε α}
    (stands : before.threads[thread]? = some program)
    (safe : program.Safe (P.environment thread) (C thread) ends before.state)
    (run : Relation.ReflTransGen P.Moves before after) :
    P.Reachable after ∧ ∃ rest, after.threads[thread]? = some rest ∧
      rest.Safe (P.environment thread) (C thread) ends after.state := by
  induction run with
  | refl => exact ⟨reached, program, stands, safe⟩
  | @tail middle after _ moves ih =>
    obtain ⟨reached, rest, stands, safe⟩ := ih
    obtain ⟨kept, others⟩ := meets.reachable reached
    have relies {other : ℕ} {state : σ} (distinct : other ≠ thread)
        (guaranteed : (C other).guarantee middle.state state) :
        rest.Safe (P.environment thread) (C thread) ends state := by
      have relied := meets.compatible other thread _ _ distinct guaranteed
      exact safe.stable (meets.transitive thread) (fun outcome => stable outcome _ _ relied) relied
    refine ⟨.move reached moves, ?_⟩
    cases moves with
    | start starts =>
      have earlier := (List.getElem?_eq_some_iff.mp stands).1
      refine ⟨rest, ?_, relies (Nat.ne_of_gt earlier) (meets.starts _ _ _ _ kept starts).2.1⟩
      rw [List.getElem?_append_left earlier]
      exact stands
    | @step moved running next state found step =>
      by_cases same : moved = thread
      · subst same
        rw [stands] at found
        obtain rfl := Option.some.inj found
        refine ⟨next, List.getElem?_set_self (List.getElem?_eq_some_iff.mp stands).1, ?_⟩
        exact (safe.step (meets.reflexive moved) (meets.shared moved ▸ kept) step).2.2
      · have guaranteed := ((others moved running found).step (meets.reflexive moved)
          (meets.shared moved ▸ kept) step).2.1
        refine ⟨rest, ?_, relies same guaranteed⟩
        rw [List.getElem?_set_ne same]
        exact stands

/-- A schedule that is run is a run of the pool. -/
theorem Pool.execute_run
    {oracle : (thread : ℕ) → (op : I.Op) → σ → (P.environment thread).Choice op}
    {permitted : (thread : ℕ) → (op : I.Op) → σ → Bool}
    (permits : ∀ thread op state, permitted thread op state = true →
      (P.environment thread).permits op (oracle thread op state) state)
    (schedule : List ℕ) (configuration : Configuration I ε α σ) :
    Relation.ReflTransGen P.Moves configuration
      (P.execute oracle permitted schedule configuration) := by
  induction schedule generalizing configuration with
  | nil => exact .refl
  | cons thread schedule ih =>
    unfold Pool.execute
    split
    · rename_i op resume found
      split
      · rename_i approved
        have step : Step (P.environment thread) (.await op resume, configuration.state) _ :=
          .resume (oracle thread op configuration.state) (permits thread op _ approved)
        exact .head (.step found step) (ih _)
      · exact .refl
    · exact ih configuration

end AsyncProgram

namespace CongeriesCore

open AsyncProgram Program

/-! ## Conflicts -/

section Conflicts

variable {α β : Type}

/-- A `CoreError` that it raises is a conflict. -/
def RaisesConflict (computation : Except Raised α) : Prop :=
  ∀ detail, computation = .error (.core detail) → detail.category = .conflict

theorem raises_ok {value : α} : RaisesConflict (.ok value) := nofun

theorem raises_bind {first : Except Raised α} {rest : α → Except Raised β}
    (one : RaisesConflict first) (two : ∀ value, RaisesConflict (rest value)) :
    RaisesConflict (first >>= rest) := by
  intro detail failed
  rcases bind_error failed with failed | ⟨value, -, failed⟩
  · exact one detail failed
  · exact two value detail failed

theorem raises_require {condition : Bool} {message : String} :
    RaisesConflict (requireValue condition message) := by
  intro detail failed
  cases requireValue_error failed

theorem raises_ensure {condition : Bool} {error : ErrorDetail}
    (conflict : error.category = .conflict) :
    RaisesConflict (ensure condition (.core error)) := by
  intro detail failed
  unfold ensure at failed
  split at failed
  · cases failed
  · cases failed
    exact conflict

theorem raises_make (fields : RunFields) : RaisesConflict (Run.make fields) := by
  have checks : RaisesConflict fields.check := by
    unfold RunFields.check
    refine raises_bind raises_require fun _ => ?_
    refine raises_bind raises_require fun _ => ?_
    refine raises_bind raises_require fun _ => ?_
    refine raises_bind raises_require fun _ => ?_
    refine raises_bind raises_require fun _ => ?_
    refine raises_bind raises_require fun _ => ?_
    refine raises_bind raises_require fun _ => ?_
    refine raises_bind raises_require fun _ => ?_
    dsimp only
    split
    · refine raises_bind raises_require fun _ => raises_bind raises_require fun _ => ?_
      cases fields.kind with
      | agent => exact raises_ok
      | workflow => exact raises_require
    · refine raises_bind raises_require fun _ => ?_
      cases fields.kind with
      | agent => exact raises_ok
      | workflow => exact raises_require
  intro detail failed
  unfold Run.make at failed
  split at failed
  · cases failed
  · rename_i error refused
    cases failed
    exact checks detail refused

theorem raises_closeAttempt (run : Run) (now : DateTime) (outcome : AttemptOutcome)
    (error : Option ErrorSummary) :
    RaisesConflict (RunStateMachine.closeAttempt run now outcome error) := by
  have closes (record : AttemptRecord) : RaisesConflict (record.close outcome now error) := by
    intro detail failed
    unfold AttemptRecord.close at failed
    split at failed
    · cases failed
    · split at failed
      · cases failed
      · cases failed
  unfold RunStateMachine.closeAttempt
  dsimp only
  split
  · intro detail failed
    cases failed
  · exact raises_bind (closes _) fun _ => raises_ok

/-- An operation that ends a Run raises a `CoreError` only for a conflict. -/
theorem RunOperation.raises_conflict {operation : RunOperation} (ends : operation.ends = true)
    (run : Run) (version : ℕ) (now : DateTime) :
    RaisesConflict (operation.apply run version now) := by
  have course {status : RunStatus} {allowed : Bool} {unchanged : RunTransition}
      {outcome : AttemptOutcome} {error : Option ErrorSummary}
      {changes : List AttemptRecord → RunFields → RunFields} {transition : Run → RunTransition} :
      RaisesConflict (do
        RunStateMachine.checkVersion run version
        if run.status = status then return unchanged
        else
          ensure allowed (RunStateMachine.illegal run status)
          let history ← RunStateMachine.closeAttempt run now outcome error
          let current ← RunStateMachine.replace run now (changes history)
          return transition current) := by
    refine raises_bind (raises_ensure rfl) fun _ => ?_
    split
    · exact raises_ok
    · refine raises_bind (raises_ensure rfl) fun _ => ?_
      refine raises_bind (raises_closeAttempt run now outcome error) fun history => ?_
      exact raises_bind (raises_make _) fun _ => raises_ok
  cases operation with
  | complete => exact course
  | fail error => exact course
  | cancel => exact course
  | _ => cases ends

end Conflicts

/-! ## The pool -/

/-- What one awaited call answers: a call of the services as for any client, and a provider what it
chooses, or a `CoreError`. -/
abbrev AgentOp.Choice : AgentOp → Type
  | .core op => op.Choice
  | .resolve _ _ => Except ErrorDetail ResolvedContext
  | .capabilities _ _ => Except ErrorDetail ModelCapabilities
  | .generate _ _ => Except ErrorDetail ModelResponse

abbrev AgentWorld := CoreWorld × List RunCommit

/-- A compare-and-set that succeeds is recorded with the Run that it replaces. -/
def observeCommit (thread : ℕ) : (op : CoreOp) → Except Raised op.Answer → CoreWorld →
    List RunCommit → List RunCommit
  | .runCompareAndSet run _, .ok committed, before, commits =>
    match before.run? run.runId with
    | none => commits
    | some previous => ⟨thread, previous, committed⟩ :: commits
  | _, _, _, commits => commits

/-- The in-memory repository does not fail, and the publisher returns. -/
def agentAllows : (op : CoreOp) → op.Choice → Prop
  | .runGet _, fault | .runCompareAndSet _ _, fault => fault = .none
  | .runStateChanged _, outcome => outcome = .ok ()
  | _, _ => True

section System

variable [Sha256]

def agentPermits : (op : AgentOp) → op.Choice → AgentWorld → Prop
  | .core op, choice, state => corePermits op choice state.1 ∧ agentAllows op choice
  | _, _, _ => True

def agentAnswer (thread : ℕ) : (op : AgentOp) → op.Choice → AgentWorld →
    Except Raised op.Answer × AgentWorld
  | .core op, choice, state =>
    let result := coreAnswer op choice state.1
    (result.1, result.2, observeCommit thread op result.1 state.1 state.2)
  | .resolve _ _, choice, state => (choice.mapError .core, state)
  | .capabilities _ _, choice, state => (choice.mapError .core, state)
  | .generate _ _, choice, state => (choice.mapError .core, state)

def agentEnvironment (thread : ℕ) : Environment AgentInterface Raised AgentWorld where
  Choice := AgentOp.Choice
  permits := agentPermits
  answer := agentAnswer thread

end System

/-- What the clients of one AgentRun call. -/
inductive AgentClient
  | execution (input : List ContentBlock) (context : RuntimeCallContext)
  | mutation (operation : RunOperation) (expectedVersion : ℕ)

inductive AgentReturn
  | executed (result : AgentExecutionResult)
  | mutated (run : Run)

/-- An execution as a client. -/
def executed (program : AgentProgram AgentExecutionResult) : AgentProgram AgentReturn :=
  program >>= fun result => .ret (.executed result)

def AgentClient.program (runtime : AgentRuntime) (runId : RunId) :
    AgentClient → AgentProgram AgentReturn
  | .execution input context => executed (runtime.execute runId input context)
  | .mutation operation expectedVersion =>
    agentRuns (operation.call runId expectedVersion) >>= fun run => .ret (.mutated run)

/-- The clients of the Run that the repository holds at first. -/
def agentPool [Sha256] (runtime : AgentRuntime) (initial : Run) (clients : ℕ → AgentClient) :
    Pool AgentInterface Raised AgentReturn AgentWorld where
  environment := agentEnvironment
  initial state := state.1.run? initial.runId = some initial ∧ state.2 = []
  starts thread before program start :=
    program = (clients thread).program runtime initial.runId ∧ start = before

/-! ## What every client keeps -/

/-- The stored Run is the end of a path of legal transitions. -/
def StoredPath (initial : Run) (state : AgentWorld) : Prop :=
  ∃ last, state.1.run? initial.runId = some last ∧ CommittedPath initial state.2 last

/-- Runs are only committed. -/
def Commits (before after : AgentWorld) : Prop := ∃ added, after.2 = added ++ before.2

theorem Commits.refl (state : AgentWorld) : Commits state state := ⟨[], rfl⟩

theorem Commits.trans {first second third : AgentWorld} (earlier : Commits first second)
    (later : Commits second third) : Commits first third := by
  obtain ⟨added, grown⟩ := earlier
  obtain ⟨more, grown'⟩ := later
  exact ⟨more ++ added, by rw [grown', grown, List.append_assoc]⟩

theorem Commits.on {initial run : Run} {before after : AgentWorld} (commits : Commits before after)
    (on : CommittedPath.On initial before.2 run) : CommittedPath.On initial after.2 run := by
  obtain ⟨added, grown⟩ := commits
  rw [grown]
  exact on.grow added

/-- A stored Run that is terminal is the one that is stored. -/
theorem CommittedPath.terminal_last {initial last run : Run} {commits : List RunCommit}
    (path : CommittedPath initial commits last) (on : On initial commits run)
    (terminal : run.status.terminal = true) : run = last := by
  induction commits generalizing last with
  | nil =>
    rcases on with rfl | ⟨_, member, -⟩
    · exact path.symm
    · cases member
  | cons commit earlier ih =>
    obtain ⟨rfl, legal, path⟩ := path
    have never (on : On initial earlier run) : False := by
      obtain rfl := ih path on
      rw [legal.advances.1] at terminal
      cases terminal
    rcases on with rfl | ⟨other, member, rfl⟩
    · exact (never (.inl rfl)).elim
    · rcases List.mem_cons.mp member with rfl | member
      · rfl
      · exact (never (.inr ⟨other, member, rfl⟩)).elim

def agentContract (initial : Run) : Contract AgentInterface AgentWorld where
  invariant := StoredPath initial
  rely := Commits
  guarantee := Commits
  need _ _ := True

/-- The calls that do not write the Run repository. -/
def AgentOp.quiet : AgentOp → Bool
  | .core op => op.readsOnly
  | _ => true

/-! ### How calls end -/

/-- How a mutation ends: with a Run that was stored, or with an error. -/
def MutationPost (initial : Run) (operation : RunOperation) : Except Raised Run → AgentWorld → Prop
  | .ok run, state => CommittedPath.On initial state.2 run ∧
    (operation.ends = true → run.status.terminal = true)
  | .error (.core detail), _ => operation.ends = true → detail.category = .conflict
  | .error _, _ => True

/-- How a terminalization ends: with a stored Run that rests, or with the conflict. -/
def TerminalizePost (initial : Run) : Except Raised Run → AgentWorld → Prop
  | .ok run, state => CommittedPath.On initial state.2 run ∧
    (run.status.terminal = true ∨ run.status = .paused)
  | .error (.core detail), _ => detail.code = "agent_terminalization_conflict"
  | .error _, _ => True

/-- A loaded Run is returned if it rests. -/
theorem rests_of {run : Run} (rests : (run.status.terminal || run.status == .paused) = true) :
    run.status.terminal = true ∨ run.status = .paused := by
  simpa using rests

theorem AgentExecutionResult.make_run {run : Run} {response : Option ModelResponse}
    {error : Option ErrorDetail} {result : AgentExecutionResult}
    (made : make run response error = .ok result) : result.run = run := by
  unfold make at made
  split at made
  · cases made
    rfl
  · cases made

theorem AgentExecutionResult.make_value {run : Run} {response : Option ModelResponse}
    {error : Option ErrorDetail} {detail : ErrorDetail} :
    make run response error ≠ .error (.core detail) := by
  intro failed
  unfold make at failed
  split at failed
  · cases failed
  · cases failed

theorem AgentExecutionResult.status_iff (result : AgentExecutionResult) :
    (result.run.status = .succeeded ↔ result.response.isSome = true) ∧
      (result.run.status ≠ .succeeded →
        result.run.status ∈ [RunStatus.failed, .cancelled, .paused] ∧ result.error.isSome = true) := by
  have valid := result.valid
  unfold validAgentResult at valid
  cases status : result.run.status <;> simp_all

theorem competingResult_run {run : Run} {fallback : ErrorDetail} {result : AgentExecutionResult}
    (made : competingResult run fallback = .ok result) : result.run = run := by
  unfold competingResult at made
  split at made
  · cases made
  · split at made
    · exact AgentExecutionResult.make_run made
    · cases made

/-- A result is of a Run that was stored. -/
abbrev ReturnsStored (initial : Run) : Except Raised AgentExecutionResult → AgentWorld → Prop :=
  Ends (fun result state => CommittedPath.On initial state.2 result.run) fun _ => True

/-- How an execution ends: with a result of a stored Run, or with a Run that is terminal, or with
the conflict. -/
def ExecutionPost (initial : Run) : Except Raised AgentExecutionResult → AgentWorld → Prop
  | .ok result, state => CommittedPath.On initial state.2 result.run
  | .error (.core detail), state => detail.code = "agent_terminalization_conflict" ∨
    ∃ run, CommittedPath.On initial state.2 run ∧ run.status.terminal = true
  | .error _, _ => True

theorem ExecutionPost.stable {initial : Run} {outcome : Except Raised AgentExecutionResult}
    {before after : AgentWorld} (commits : Commits before after)
    (post : ExecutionPost initial outcome before) : ExecutionPost initial outcome after := by
  cases outcome with
  | ok result => exact Commits.on commits post
  | error raised =>
    cases raised with
    | core detail =>
      rcases post with conflict | ⟨run, on, terminal⟩
      · exact .inl conflict
      · exact .inr ⟨run, Commits.on commits on, terminal⟩
    | _ => trivial

/-- How a client that executes the Run ends. -/
def ExecutedPost (initial : Run) : Except Raised AgentReturn → AgentWorld → Prop
  | .ok (.executed result), state => ExecutionPost initial (.ok result) state
  | .ok (.mutated _), _ => True
  | .error raised, state => ExecutionPost initial (.error raised) state

theorem ExecutedPost.stable {initial : Run} {outcome : Except Raised AgentReturn}
    {before after : AgentWorld} (commits : Commits before after)
    (post : ExecutedPost initial outcome before) : ExecutedPost initial outcome after := by
  cases outcome with
  | ok value =>
    cases value with
    | executed result => exact @ExecutionPost.stable initial (.ok result) before after commits post
    | mutated run => trivial
  | error raised => exact @ExecutionPost.stable initial (.error raised) before after commits post

/-! ### Calls of the providers -/

theorem quiet_op {op : AgentOp} (quiet : op.quiet = true) :
    (agentOp op).Only (AgentOp.quiet · = true) :=
  only_perform.mpr quiet

theorem quiet_checkActive (context : RuntimeCallContext) :
    (context.checkActive : AgentProgram Unit).Only (AgentOp.quiet · = true) :=
  RuntimeCallContext.only_checkActive (fun _ => quiet_op rfl) (quiet_op rfl) context

/-- By induction on the selectors that are left. -/
theorem quiet_generateFrom (spec : AgentSpec) (input : List ContentBlock)
    (contextEntries : List ContextEntry) (context : RuntimeCallContext) (lastError : Raised)
    (selectors : List ModelSelector) :
    (AgentRuntime.generateFrom spec input contextEntries context lastError selectors).Only
      (AgentOp.quiet · = true) := by
  induction selectors generalizing lastError with
  | nil => trivial
  | cons selector selectors ih =>
    have tried : (AgentRuntime.tryModel spec input contextEntries context selector).Only
        (AgentOp.quiet · = true) := by
      refine Only.bind (quiet_op rfl) fun capabilities => ?_
      refine only_ite (fun _ => trivial) fun _ => ?_
      refine Only.bind only_ofExcept fun request => ?_
      exact Only.bind (quiet_op rfl) fun response => trivial
    refine tried.andThen fun outcome => ?_
    cases outcome with
    | ok response =>
      cases response with
      | none => exact ih _
      | some response => trivial
    | error raised =>
      cases raised with
      | core detail => exact only_ite (fun _ => ih _) fun _ => trivial
      | _ => trivial

section Client

variable [Sha256] {initial : Run} {thread : ℕ} {state : AgentWorld} {α β : Type}

abbrev AgentSafe (initial : Run) (thread : ℕ) (program : AgentProgram α)
    (post : Except Raised α → AgentWorld → Prop) (state : AgentWorld) : Prop :=
  program.Safe (agentEnvironment thread) (agentContract initial) post state

theorem quiet_answer {op : AgentOp} (quiet : op.quiet = true) (choice : op.Choice)
    (state : AgentWorld) : (agentAnswer thread op choice state).2 = state := by
  cases op with
  | core op =>
    have same := answer_world quiet choice state.1
    have unrecorded : observeCommit thread op (coreAnswer op choice state.1).1 state.1 state.2 =
        state.2 := by
      cases op with
      | runCompareAndSet => cases quiet
      | _ => rfl
    change ((coreAnswer op choice state.1).2, observeCommit thread op _ state.1 state.2) = state
    rw [same, unrecorded]
  | resolve => rfl
  | capabilities => rfl
  | generate => rfl

theorem quiet_safe {program : AgentProgram α} (quiet : program.Only (AgentOp.quiet · = true)) :
    AgentSafe initial thread program (fun _ _ => True) state := by
  refine quiet.safe (fun op before allowed kept => ⟨trivial, fun choice _ => ?_⟩) fun _ _ => trivial
  have same : ((agentEnvironment thread).answer op choice before).2 = before :=
    quiet_answer allowed choice before
  rw [same]
  exact ⟨kept, .refl before⟩

/-! ### Calls of the Run service -/

/-- What the Run service awaits is awaited of the services. -/
theorem agent_core_safe (op : CoreOp) {post : Except Raised op.Answer → AgentWorld → Prop}
    (safe : AgentSafe initial thread (agentOp (.core op)) post state) :
    AgentSafe initial thread (agentRuns (coreOp op)) post state := by
  have same : agentRuns (coreOp op) = agentOp (.core op) :=
    @handled_perform CoreInterface AgentInterface Raised (fun op => agentOp (.core op)) op
  rw [same]
  exact safe

/-- A stored Run is read. -/
theorem agent_get_safe :
    AgentSafe initial thread (agentRuns (RunService.get initial.runId)) (fun outcome after =>
      ∃ run, outcome = .ok run ∧ CommittedPath.On initial after.2 run) state := by
  apply agent_core_safe (.runGet initial.runId)
  refine safe_perform fun current _ kept => ⟨trivial, ?_⟩
  rintro choice ⟨-, rfl⟩
  obtain ⟨last, found, path⟩ := kept
  have got : current.1.repository.get initial.runId = .ok last := by
    have found : current.1.repository.runs.get? initial.runId = some last := found
    rw [InMemoryRunRepository.get, found]
  have answered : (agentEnvironment thread).answer (.core (.runGet initial.runId)) .none current =
      (.ok last, current) := by
    change ((coreAnswer (.runGet initial.runId) .none current.1).1, _, _) = _
    simp only [coreAnswer, Fault.apply, got]
    rfl
  rw [answered]
  exact ⟨⟨last, found, path⟩, .refl current, last, rfl, path.on_last⟩

/-- The clock is read; nothing is forgotten of the commits. -/
theorem agent_now_safe {run : Run} (on : CommittedPath.On initial state.2 run) :
    AgentSafe initial thread (agentRuns (coreOp .now)) (fun outcome after =>
      (∃ now, outcome = .ok now) ∧ CommittedPath.On initial after.2 run) state := by
  apply agent_core_safe .now
  refine safe_perform fun current relied kept => ⟨trivial, fun now _ => ?_⟩
  exact ⟨kept, .refl current, ⟨now, rfl⟩, Commits.on relied on⟩

/-- A compare-and-set commits a legal transition of the stored Run, or finds another version. -/
theorem agent_compareAndSet_safe {previous current : Run} {version : ℕ}
    (on : CommittedPath.On initial state.2 previous) (expected : previous.stateVersion = version)
    (legal : LegalTransition previous current) :
    AgentSafe initial thread (agentRuns (coreOp (.runCompareAndSet current version)))
      (fun outcome after => (outcome = .ok current ∧ CommittedPath.On initial after.2 current) ∨
        outcome = .error RunStateMachine.staleStateVersion) state := by
  apply agent_core_safe (.runCompareAndSet current version)
  refine safe_perform fun before relied kept => ⟨trivial, ?_⟩
  rintro choice ⟨-, rfl⟩
  obtain ⟨last, found, path⟩ := kept
  have on := Commits.on relied on
  have advances := legal.advances
  have key : current.runId = initial.runId := advances.2.2.runId.trans (path.on_runId on)
  have stored : before.1.repository.runs.get? current.runId = some last := by
    rw [key]
    exact found
  rcases path.version_lt on with rfl | less
  · have replaced := InMemoryRunRepository.compareAndSet_next stored expected
      (expected ▸ advances.2.1)
    have lookup : before.1.run? current.runId = some previous := stored
    have answered : (agentEnvironment thread).answer (.core (.runCompareAndSet current version)) .none
        before = (.ok current, before.1.setRun current, ⟨thread, previous, current⟩ :: before.2) := by
      change ((coreAnswer (.runCompareAndSet current version) .none before.1).1, _, _) = _
      simp only [coreAnswer, Fault.apply, CoreWorld.withRepository, replaced, observeCommit, lookup]
      rfl
    rw [answered]
    have next : CommittedPath initial (⟨thread, previous, current⟩ :: before.2) current :=
      ⟨rfl, legal, path⟩
    refine ⟨⟨current, ?_, next⟩, ⟨[⟨thread, previous, current⟩], rfl⟩, .inl ⟨rfl, next.on_last⟩⟩
    simp [CoreWorld.run?_setRun, key]
  · have refused := InMemoryRunRepository.compareAndSet_stale stored
      (show last.stateVersion ≠ version by omega)
    have answered : (agentEnvironment thread).answer (.core (.runCompareAndSet current version)) .none
        before = (.error RunStateMachine.staleStateVersion, before) := by
      change ((coreAnswer (.runCompareAndSet current version) .none before.1).1, _, _) = _
      simp only [coreAnswer, Fault.apply, CoreWorld.withRepository, refused]
      rfl
    rw [answered]
    exact ⟨⟨last, found, path⟩, .refl before, .inr rfl⟩

/-- The publisher returns. -/
theorem agent_publish_safe {transition : RunTransition} {run : Run}
    (on : CommittedPath.On initial state.2 run) :
    AgentSafe initial thread (agentRuns (coreOp (.runStateChanged transition))) (fun outcome after =>
      outcome = .ok () ∧ CommittedPath.On initial after.2 run) state := by
  apply agent_core_safe (.runStateChanged transition)
  refine safe_perform fun before relied kept => ⟨trivial, ?_⟩
  rintro choice ⟨-, rfl⟩
  exact ⟨kept, .refl before, rfl, Commits.on relied on⟩

theorem agent_commit_safe {operation : RunOperation} {transition : RunTransition} {version : ℕ}
    (on : CommittedPath.On initial state.2 transition.previous)
    (expected : transition.previous.stateVersion = version)
    (legal : LegalTransition transition.previous transition.current)
    (ended : operation.ends = true → transition.current.status.terminal = true) :
    AgentSafe initial thread (agentRuns (RunService.commit transition version))
      (MutationPost initial operation) state := by
  unfold RunService.commit agentRuns
  rw [handled_bind]
  refine (agent_compareAndSet_safe on expected legal).bind (fun committed after done => ?_) ?_
  · rcases done with ⟨same, on⟩ | stale
    · obtain rfl := Except.ok.inj same
      rw [handled_bind]
      refine (agent_publish_safe on).bind (fun _ later reached => ⟨reached.2, ended⟩) ?_
      rintro _ _ ⟨failed, -⟩
      cases failed
    · cases stale
  · rintro error after (⟨failed, -⟩ | stale)
    · cases failed
    · cases stale
      exact fun _ => rfl

theorem mutation_safe (operation : RunOperation) (version : ℕ) :
    AgentSafe initial thread (agentRuns (operation.call initial.runId version))
      (MutationPost initial operation) state := by
  rw [operation.call_eq]
  unfold RunService.apply agentRuns
  rw [handled_bind]
  refine agent_get_safe.bind (fun previous after got => ?_) ?_
  · obtain ⟨_, same, on⟩ := got
    obtain rfl := Except.ok.inj same
    rw [handled_bind]
    refine (agent_now_safe on).bind (fun now after ticked => ?_) ?_
    · have on := ticked.2
      rw [handled_bind, handled_ofExcept]
      cases applied : operation.apply previous version now with
      | error error =>
        cases error with
        | core detail =>
          exact fun ends => RunOperation.raises_conflict ends previous version now detail applied
        | _ => trivial
      | ok transition =>
        obtain ⟨expected, rfl, advances⟩ := RunOperation.apply_ok applied
        have ended (ends : operation.ends = true) : transition.current.status.terminal = true :=
          RunOperation.ends_terminal ends applied
        change AgentSafe initial thread ((if transition.unchanged then
          Program.ret transition.current else RunService.commit transition version).handled _) _ _
        rw [handled_ite]
        split
        · rename_i unchanged
          have same : transition.current = transition.previous := by
            rcases advances with same | ⟨-, next, -⟩
            · exact same
            · have equal : transition.current.stateVersion = transition.previous.stateVersion := by
                simpa [RunTransition.unchanged] using unchanged
              omega
          exact ⟨same ▸ on, ended⟩
        · rename_i changed
          have differs : transition.current ≠ transition.previous := by
            intro same
            exact changed (by simp [RunTransition.unchanged, same])
          exact agent_commit_safe on expected
            ⟨operation, version, now, transition, applied, rfl, differs⟩ ended
    · rintro _ _ ⟨⟨_, failed⟩, -⟩
      cases failed
  · rintro _ _ ⟨_, failed, -⟩
    cases failed

/-! ### Executions -/

/-- By induction on the turns: a turn that loses the race is followed by the next one. -/
theorem terminalizeFrom_safe (error : ErrorDetail) (turns : ℕ) :
    AgentSafe initial thread (AgentRuntime.terminalizeFrom initial.runId error turns)
      (TerminalizePost initial) state := by
  induction turns generalizing state with
  | zero =>
    refine agent_get_safe.bind (fun latest after got => ?_) ?_
    · obtain ⟨_, same, on⟩ := got
      obtain rfl := Except.ok.inj same
      split
      · trivial
      · split
        · rename_i rests
          exact ⟨on, rests_of rests⟩
        · exact rfl
    · rintro _ _ ⟨_, failed, -⟩
      cases failed
  | succ turns ih =>
    refine agent_get_safe.bind (fun current after got => ?_) ?_
    · obtain ⟨_, same, on⟩ := got
      obtain rfl := Except.ok.inj same
      split
      · trivial
      · split
        · rename_i rests
          exact ⟨on, rests_of rests⟩
        · obtain ⟨operation, ends, call⟩ : ∃ operation : RunOperation, operation.ends = true ∧
              (if error.category = .cancelled then
                RunService.cancel initial.runId current.stateVersion
              else RunService.fail initial.runId current.stateVersion error) =
                operation.call initial.runId current.stateVersion := by
            split
            · exact ⟨.cancel, rfl, rfl⟩
            · exact ⟨.fail error, rfl, rfl⟩
          rw [call]
          refine (mutation_safe operation current.stateVersion).andThen
            fun outcome later reached => ?_
          cases outcome with
          | ok result =>
            obtain ⟨on, terminal⟩ := reached
            dsimp only
            split
            · trivial
            · exact ⟨on, .inl (terminal ends)⟩
          | error raised =>
            cases raised with
            | core conflict =>
              dsimp only
              rw [if_pos (reached ends)]
              exact ih
            | _ => trivial
    · rintro _ _ ⟨_, failed, -⟩
      cases failed

theorem complete_safe (version : ℕ) (response : ModelResponse) :
    AgentSafe initial thread (AgentRuntime.complete initial.runId version response)
      (ReturnsStored initial) state := by
  refine (mutation_safe .complete version).andThen fun outcome after reached => ?_
  cases outcome with
  | ok completed =>
    dsimp only
    split
    · trivial
    · refine safe_checked (fun result made => ?_) trivial
      rw [AgentExecutionResult.make_run made]
      exact reached.1
  | error raised =>
    cases raised with
    | core detail =>
      dsimp only
      split
      · refine agent_get_safe.bind (fun latest later got => ?_) fun _ _ _ => trivial
        obtain ⟨_, same, on⟩ := got
        obtain rfl := Except.ok.inj same
        split
        · refine safe_checked (fun result made => ?_) trivial
          rw [AgentExecutionResult.make_run made]
          exact on
        · refine safe_checked (fun result made => ?_) trivial
          rw [competingResult_run made]
          exact on
      · trivial
    | _ => trivial

/-- What is awaited of the providers, and then the rest. -/
theorem quiet_next {program : AgentProgram α} {continuation : α → AgentProgram AgentExecutionResult}
    (quiet : program.Only (AgentOp.quiet · = true))
    (rest : ∀ value after, AgentSafe initial thread (continuation value) (ReturnsStored initial)
      after) :
    AgentSafe initial thread (program >>= continuation) (ReturnsStored initial) state :=
  (quiet_safe quiet).bind (fun value after _ => rest value after) fun _ _ _ => trivial

/-- What is asked of the Run service, and then the rest. -/
theorem mutation_next {operation : RunOperation} {version : ℕ}
    {continuation : Run → AgentProgram AgentExecutionResult}
    (rest : ∀ run after, AgentSafe initial thread (continuation run) (ReturnsStored initial) after) :
    AgentSafe initial thread (agentRuns (operation.call initial.runId version) >>= continuation)
      (ReturnsStored initial) state :=
  (mutation_safe operation version).bind (fun run after _ => rest run after) fun _ _ _ => trivial

theorem attempt_safe (spec : AgentSpec) (loaded : Run) (input : List ContentBlock)
    (context : RuntimeCallContext) :
    AgentSafe initial thread (AgentRuntime.attempt spec initial.runId loaded input context)
      (ReturnsStored initial) state := by
  refine quiet_next (quiet_checkActive context) fun _ _ => ?_
  refine @mutation_next _ initial thread _ .start loaded.stateVersion _ fun started _ => ?_
  refine @mutation_next _ initial thread _ (.advance .contextLoading) started.stateVersion _
    fun loading _ => ?_
  refine quiet_next (quiet_op rfl) fun resolved _ => ?_
  refine quiet_next only_ofExcept fun _ _ => ?_
  refine @mutation_next _ initial thread _ (.advance .running) loading.stateVersion _
    fun running _ => ?_
  refine quiet_next (quiet_generateFrom _ _ _ _ _ _) fun response _ => ?_
  refine quiet_next only_ofExcept fun _ _ => ?_
  refine quiet_next (quiet_checkActive context) fun _ _ => ?_
  exact complete_safe running.stateVersion response

theorem executeSpec_safe (spec : AgentSpec) (loaded : Run) (input : List ContentBlock)
    (context : RuntimeCallContext) :
    AgentSafe initial thread (AgentRuntime.executeSpec spec initial.runId loaded input context)
      (ExecutionPost initial) state := by
  refine (attempt_safe spec loaded input context).catching (fun result after reached => reached)
    fun raised after _ => ?_
  cases raised with
  | core detail =>
    refine (terminalizeFrom_safe detail 2).bind (fun terminal later reached => ?_) ?_
    · obtain ⟨on, rests⟩ := reached
      split
      · rename_i succeeded
        exact .inr ⟨terminal, on, by rw [succeeded]; rfl⟩
      · apply safe_ofExcept
        cases made :
            AgentExecutionResult.make terminal none (some (agentRunError terminal detail)) with
        | ok result =>
          have same := AgentExecutionResult.make_run made
          change CommittedPath.On initial later.2 result.run
          rw [same]
          exact on
        | error error =>
          cases error with
          | core detail => exact (AgentExecutionResult.make_value made).elim
          | _ => trivial
    · intro error later reached
      cases error with
      | core conflict => exact .inl reached
      | _ => trivial
  | _ => trivial

/-- Every client may end as it does. -/
theorem client_safe (runtime : AgentRuntime) (client : AgentClient) :
    AgentSafe initial thread (client.program runtime initial.runId) (fun _ _ => True) state := by
  cases client with
  | execution input context =>
    have whole : AgentSafe initial thread (runtime.execute initial.runId input context)
        (fun _ _ => True) state := by
      refine (quiet_safe only_ofExcept).bind (fun _ _ _ => ?_) fun _ _ _ => trivial
      refine agent_get_safe.bind (fun loaded _ _ => ?_) fun _ _ _ => trivial
      refine (quiet_safe only_ofExcept).bind (fun spec _ _ => ?_) fun _ _ _ => trivial
      exact (executeSpec_safe spec loaded input context).mono fun _ _ _ => trivial
    exact whole.bind (fun _ _ _ => trivial) fun _ _ _ => trivial
  | mutation operation expectedVersion =>
    exact (mutation_safe operation expectedVersion).bind (fun _ _ _ => trivial) fun _ _ _ => trivial

theorem agentPool_meets (runtime : AgentRuntime) (initial : Run) (clients : ℕ → AgentClient) :
    (agentPool runtime initial clients).Meets (fun _ => agentContract initial) (StoredPath initial)
      (fun _ _ _ => True) where
  shared _ := rfl
  reflexive _ state := .refl state
  transitive _ _ _ _ earlier later := earlier.trans later
  stable _ _ _ _ _ _ := trivial
  compatible _ _ _ _ _ guaranteed := guaranteed
  initial state start := ⟨initial, start.1, by rw [start.2]; rfl⟩
  starts thread before program start kept starts := by
    obtain ⟨rfl, rfl⟩ := starts
    exact ⟨kept, .refl start, client_safe runtime (clients thread)⟩

/-! ## What an execution tells -/

/-- What a thread that has executed the Run tells of it. -/
structure TruthfulExecution (initial : Run) (thread : ℕ)
    (configuration : Configuration AgentInterface Raised AgentReturn AgentWorld) : Prop where
  returned : ∀ result : AgentExecutionResult,
    configuration.threads[thread]? = some (.ret (.executed result)) →
    CommittedPath.On initial configuration.state.2 result.run ∧
      (result.run.status = .succeeded ↔ result.response.isSome = true) ∧
      (result.run.status ≠ .succeeded →
        result.run.status ∈ [RunStatus.failed, .cancelled, .paused] ∧ result.error.isSome = true)
  raised : ∀ detail : ErrorDetail,
    configuration.threads[thread]? = some (.raise (.core detail)) →
    detail.code ≠ "agent_terminalization_conflict" →
    ∃ run, configuration.state.1.run? initial.runId = some run ∧
      (run.status.terminal = true ∨ run.status = .paused)

theorem executed_safe (spec : AgentSpec) (loaded : Run) (input : List ContentBlock)
    (context : RuntimeCallContext) :
    AgentSafe initial thread
      (executed (AgentRuntime.executeSpec spec initial.runId loaded input context))
      (ExecutedPost initial) state :=
  (executeSpec_safe spec loaded input context).bind (fun _ _ reached => reached)
    fun _ _ failed => failed

/-- Whatever the other clients of the Run and the providers do at each suspension, an execution
that passed its preconditions returns a Run that was stored, and raises a `CoreError` other than
the conflict only if the stored Run rests. -/
theorem agent_execution_truthful (runtime : AgentRuntime) (initial : Run)
    (clients : ℕ → AgentClient) (spec : AgentSpec) (loaded : Run) (input : List ContentBlock)
    (context : RuntimeCallContext) (thread : ℕ)
    (before after : Configuration AgentInterface Raised AgentReturn AgentWorld)
    (reached : (agentPool runtime initial clients).Reachable before)
    (stands : before.threads[thread]? =
      some (executed (AgentRuntime.executeSpec spec initial.runId loaded input context)))
    (run : Relation.ReflTransGen (agentPool runtime initial clients).Moves before after) :
    TruthfulExecution initial thread after := by
  have meets := agentPool_meets runtime initial clients
  have safe := @executed_safe _ initial thread before.state spec loaded input context
  obtain ⟨reached, rest, found, ends⟩ := @Pool.Meets.later _ _ _ _ _ _ _ _ meets thread
    (ExecutedPost initial) (fun _ _ _ commits post => post.stable commits) _ _ reached _ stands safe
    run
  obtain ⟨last, stored, path⟩ := (meets.reachable reached).1
  constructor
  · intro result returned
    rw [found] at returned
    obtain rfl := Option.some.inj returned
    exact ⟨ends, result.status_iff⟩
  · intro detail raised other
    rw [found] at raised
    obtain rfl := Option.some.inj raised
    rcases ends with conflict | ⟨run, on, terminal⟩
    · exact (other conflict).elim
    · exact ⟨last, stored, .inl (path.terminal_last on terminal ▸ terminal)⟩

end Client

namespace AgentTerminalization

open SampleParameters

def sampleInput : List ContentBlock := [⟨.json, .null, none, none, .inl rfl, nofun, nofun⟩]

def sampleSpec : AgentSpec where
  agentId := ⟨"agent-1", SampleParameters.agent_checked⟩
  definitionId := ⟨"definition-1", SampleParameters.definition_checked⟩
  instructions := sampleInput
  contextBinding := ⟨[⟨"provider-1", by decide⟩],
    [⟨⟨"core", "history", by decide, by decide⟩, ⟨"core", "history", "1", by decide⟩⟩], .single,
    .requireComplete, ⟨none, none, SampleParameters.unlimited⟩, by decide, by decide⟩
  modelBinding := ⟨⟨"model-1", SampleParameters.model_checked⟩,
    ⟨⟨"provider-1", by decide⟩, ⟨"model-1", SampleParameters.model_checked⟩⟩, ⟨false, false, false, {.text}, {.text}⟩,
    ⟨false, false⟩, ⟨none, none, SampleParameters.unlimited⟩, [], by decide⟩
  skillRefs := []
  toolRefs := []
  policyRef := none
  contractVersion := "2"
  checked := by rfl

def sampleRuntime : AgentRuntime :=
  ⟨Dict.empty.set (⟨"agent-1", SampleParameters.agent_checked⟩, ⟨"definition-1", SampleParameters.definition_checked⟩) sampleSpec, none⟩

def sampleClients (_ : ℕ) : AgentClient := .execution sampleInput sampleContext

/-- The token is cancelled, and the providers are unavailable. -/
def sampleChoice : (op : AgentOp) → op.Choice
  | .core (.cancelled _) => true
  | .core (.runGet _) | .core (.runCompareAndSet _ _) => .none
  | .core (.runStateChanged _) => .ok ()
  | .core op => RunRacing.sampleAnswer op
  | .resolve _ _ | .capabilities _ _ | .generate _ _ =>
    .error ⟨.unavailable, "unavailable", "unavailable", false, none, [], by decide⟩

def sampleAwaits : AgentOp → Bool
  | .core (.cancelled _) => true
  | .core op => RunRacing.sampleAwaits op
  | _ => false

def samplePool : Pool AgentInterface Raised AgentReturn AgentWorld :=
  agentPool sampleRuntime RunLifecycle.sampleRun sampleClients

/-- The execution has loaded the Run. -/
def passed : Configuration AgentInterface Raised AgentReturn AgentWorld :=
  samplePool.execute (fun _ op _ => sampleChoice op) (fun _ op _ => sampleAwaits op) [0]
    ⟨(RunRacing.sampleWorld, []), [(sampleClients 0).program sampleRuntime sampleRunId]⟩

/-- The token is found cancelled, and the Run is cancelled. -/
def cancelled : Configuration AgentInterface Raised AgentReturn AgentWorld :=
  samplePool.execute (fun _ op _ => sampleChoice op) (fun _ op _ => sampleAwaits op)
    (List.replicate 6 0) passed

theorem sample_permits (thread : ℕ) (op : AgentOp) (state : AgentWorld)
    (awaits : sampleAwaits op = true) :
    (samplePool.environment thread).permits op (sampleChoice op) state := by
  cases op with
  | core op =>
    cases op with
    | cancelled token => exact ⟨trivial, trivial⟩
    | runGet runId => exact ⟨trivial, rfl⟩
    | now => exact ⟨trivial, trivial⟩
    | runCompareAndSet run version => exact ⟨trivial, rfl⟩
    | runStateChanged transition => exact ⟨trivial, rfl⟩
    | _ => cases awaits
  | _ => cases awaits

end AgentTerminalization

open AgentTerminalization SampleParameters in
/-- An execution whose token is cancelled cancels the Run and tells so. -/
theorem agent_execution_truthful_cancelled :
    cancelled.state.2.map (·.current.status) = [.cancelled] ∧
      TruthfulExecution RunLifecycle.sampleRun 0 cancelled := by
  have empty : samplePool.Reachable ⟨(RunRacing.sampleWorld, []), []⟩ := .initial ⟨rfl, rfl⟩
  have reached : samplePool.Reachable passed :=
    Pool.execute_reachable sample_permits [0] (empty.move (.start ⟨rfl, rfl⟩))
  have run : Relation.ReflTransGen samplePool.Moves passed cancelled :=
    Pool.execute_run sample_permits (List.replicate 6 0) passed
  exact ⟨by decide +kernel, agent_execution_truthful sampleRuntime RunLifecycle.sampleRun
    sampleClients sampleSpec RunLifecycle.sampleRun sampleInput sampleContext 0 passed cancelled
    reached rfl run⟩

end CongeriesCore
