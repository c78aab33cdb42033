import CongeriesCore.AsyncHandling
import CongeriesCore.EventRacing
import CongeriesCore.RunRacing

/-! # The order of the events of a Run

A mutation of the Run service commits, and its publisher then asks for the number of the event.
Other mutations may commit and get their numbers in between. -/

namespace CongeriesCore

open AsyncProgram AsyncProgram.Program

/-- What the Run service awaits, with a publisher over an event dispatcher. -/
inductive NumberedOp
  | core (op : CoreOp)
  | newTrace
  | newEventId
  | nextSequence (runId : RunId)
  | publish (event : RuntimeEvent)

abbrev NumberedOp.Answer : NumberedOp → Type
  | .core op => op.Answer
  | .newTrace => TraceContext
  | .newEventId => EventId
  | .nextSequence _ => ℕ
  | .publish _ => Unit

abbrev NumberedInterface : Interface := ⟨NumberedOp, NumberedOp.Answer⟩

abbrev NumberedProgram (α : Type) := Program NumberedInterface Raised α

def numberedOp (op : NumberedOp) : NumberedProgram op.Answer :=
  @Program.perform NumberedInterface Raised op

namespace RunTransition

variable (transition : RunTransition)

def values : List (String × JsonValue) :=
  [("previous_status", .str transition.previous.status.value),
    ("new_status", .str transition.current.status.value),
    ("attempt", .int transition.current.attempt), ("reason", .str transition.reason),
    ("state_version", .int transition.current.stateVersion)]

def entries : List (String × PayloadField) :=
  transition.values.map fun field => (field.1, ⟨field.2, .internal⟩)

theorem entries_keys : transition.entries.map Prod.fst =
    ["previous_status", "new_status", "attempt", "reason", "state_version"] := rfl

theorem entries_nodup : (transition.entries.map Prod.fst).Nodup := by
  rw [entries_keys]
  decide

theorem entries_trimmed : transition.entries.all (fun field => isTrimmed field.1) = true := by
  have trimmed : (transition.entries.map Prod.fst).all isTrimmed = true := by
    rw [entries_keys]
    decide +kernel
  simpa using trimmed

def payload : ClassifiedPayload :=
  ⟨⟨transition.entries, transition.entries_nodup⟩, transition.entries_trimmed⟩

/-- What `run_state_changed` asks of the dispatcher. -/
def fields (trace : TraceContext) : EventFields where
  eventType := "core.run.state_changed"
  schemaVersion := "1"
  runId := transition.current.runId
  rootRunId := transition.current.rootRunId
  parentRunId := transition.current.parentRunId
  scope := transition.current.scope
  trace := trace
  sensitivity := .internal
  deliveryClass := .observability
  payload := transition.payload

end RunTransition

/-- The `state_version` that an event carries. -/
def RuntimeEvent.stateVersion? (event : RuntimeEvent) : Option ℤ :=
  match event.payload.fields.get? "state_version" with
  | some ⟨.int version, _⟩ => some version
  | _ => none

namespace RuntimeEventPublisher

/-- `run_state_changed`, with `create_event` for a new identity. -/
def runStateChanged (dispatcher : EventDispatcher) (transition : RunTransition) :
    NumberedProgram Unit := do
  let trace ← numberedOp .newTrace
  let eventId ← numberedOp .newEventId
  let now ← numberedOp (.core .now)
  let sequence ← numberedOp (.nextSequence transition.current.runId)
  let event ← ofExcept (dispatcher.validEvent (transition.fields trace) eventId
    ⟨eventId, now, .ok sequence⟩)
  numberedOp (.publish event)

/-- The Run service publishes so. -/
def handler (dispatcher : EventDispatcher) : (op : CoreOp) → NumberedProgram op.Answer
  | .runStateChanged transition => runStateChanged dispatcher transition
  | op => numberedOp (.core op)

end RuntimeEventPublisher

/-- The clients that have committed and have no number yet, with the version that they committed;
the numbers given, with the version that each is for; and the events, newest first. -/
structure NumberLog where
  pending : List (ℕ × ℕ)
  numbered : List (ℕ × ℕ)
  events : List RuntimeEvent

structure NumberedWorld where
  core : CoreWorld
  sequences : Dict RunId ℕ
  log : NumberLog

namespace NumberLog

def commit (log : NumberLog) (thread : ℕ) : (op : CoreOp) → Except Raised op.Answer → NumberLog
  | .runCompareAndSet _ _, .ok committed =>
    { log with pending := (thread, committed.stateVersion) :: log.pending }
  | _, _ => log

def settle (log : NumberLog) (thread : ℕ) : NumberLog :=
  { log with pending := log.pending.filter fun waiting => waiting.1 ≠ thread }

def number (log : NumberLog) (thread number : ℕ) : NumberLog :=
  match log.pending.lookup thread with
  | some version => { log.settle thread with numbered := (version, number) :: log.numbered }
  | none => log

end NumberLog

/-- Between two numbers that the clients get, others may get numbers of the Run. -/
abbrev NumberedOp.Choice : NumberedOp → Type
  | .core op => op.Choice
  | .newTrace => TraceContext
  | .newEventId => EventId
  | .nextSequence _ => ℕ × Fault
  | .publish _ => Except Raised Unit

def NumberedWorld.last (world : NumberedWorld) (runId : RunId) : ℕ :=
  (world.sequences.get? runId).getD 0

section System

variable [Sha256]

def numberedAnswer (thread : ℕ) :
    (op : NumberedOp) → op.Choice → NumberedWorld → Except Raised op.Answer × NumberedWorld
  | .core op, choice, world =>
    let result := coreAnswer op choice world.core
    (result.1, { world with core := result.2, log := world.log.commit thread op result.1 })
  | .newTrace, trace, world => (.ok trace, world)
  | .newEventId, eventId, world => (.ok eventId, world)
  | .nextSequence runId, (others, fault), world =>
    let number := world.last runId + others + 1
    let sequences := world.sequences.set runId number
    match fault with
    | .none => (.ok number, { world with sequences, log := world.log.number thread number })
    | .before error => (.error error, { world with log := world.log.settle thread })
    | .after error => (.error error, { world with sequences, log := world.log.settle thread })
  | .publish event, outcome, world =>
    (outcome, { world with log := { world.log with events := event :: world.log.events } })

/-- No client commits while another one that has committed waits for the number of its event. -/
def Unhurried : (op : NumberedOp) → op.Choice → NumberedWorld → Prop
  | .core (.runCompareAndSet run version), fault, world => ∀ committed,
    (coreAnswer (.runCompareAndSet run version) fault world.core).1 = .ok committed →
      world.log.pending = []
  | _, _, _ => True

abbrev numberedEnvironment (allows : (op : NumberedOp) → op.Choice → NumberedWorld → Prop)
    (thread : ℕ) : Environment NumberedInterface Raised NumberedWorld :=
  ⟨NumberedOp.Choice, allows, numberedAnswer thread⟩

/-- The clients `calls` of the Run that the repository holds at first. -/
def numberedPool (allows : (op : NumberedOp) → op.Choice → NumberedWorld → Prop)
    (dispatcher : EventDispatcher) (initial : Run) (calls : ℕ → RunCall) :
    Pool NumberedInterface Raised Run NumberedWorld where
  environment := numberedEnvironment allows
  initial world := world.core.run? initial.runId = some initial ∧ world.log = ⟨[], [], []⟩
  starts thread before program start := start = before ∧ program =
    ((calls thread).program initial.runId).handled (RuntimeEventPublisher.handler dispatcher)

end System

/-- The numbers of the events are in the order of the versions. -/
def InStateOrder (events : List RuntimeEvent) : Prop :=
  ∀ first ∈ events, ∀ second ∈ events, ∀ version other, first.stateVersion? = some version →
    second.stateVersion? = some other → (first.sequence < second.sequence ↔ version < other)

/-- The versions and the numbers of the events. -/
def readings (events : List RuntimeEvent) : List (Option ℤ × ℕ) :=
  events.map fun event => (event.stateVersion?, event.sequence)

theorem inStateOrder_iff {events : List RuntimeEvent} :
    InStateOrder events ↔ ∀ first ∈ readings events, ∀ second ∈ readings events, ∀ version other,
      first.1 = some version → second.1 = some other →
        (first.2 < second.2 ↔ version < other) := by
  simp [InStateOrder, readings]

/-! ## What holds between any two steps -/

/-- Where no client commits while another waits for its number. -/
structure Numbered (initial : Run) (world : NumberedWorld) : Prop where
  stored : ∃ run, world.core.run? initial.runId = some run ∧ run.runId = initial.runId ∧
    (∀ waiting ∈ world.log.pending, waiting.2 ≤ run.stateVersion) ∧
    ∀ item ∈ world.log.numbered, item.1 ≤ run.stateVersion
  counted : ∀ item ∈ world.log.numbered, item.2 ≤ world.last initial.runId
  ordered : world.log.numbered.Pairwise fun later earlier =>
    earlier.1 < later.1 ∧ earlier.2 < later.2
  latest : ∀ waiting ∈ world.log.pending, ∀ item ∈ world.log.numbered, item.1 < waiting.2
  single : world.log.pending.length ≤ 1
  shown : ∀ event ∈ world.log.events, ∃ item ∈ world.log.numbered,
    event.stateVersion? = some (item.1 : ℤ) ∧ event.sequence = item.2

/-- Only clients in `who` have committed or got numbers. -/
structure Leaves (who : ℕ → Prop) (before after : NumberedWorld) : Prop where
  pending : ∀ thread, ¬who thread → ∀ version, (thread, version) ∈ before.log.pending →
    (thread, version) ∈ after.log.pending
  numbered : before.log.numbered ⊆ after.log.numbered

namespace Leaves

variable {who wider : ℕ → Prop} {first second third : NumberedWorld}

theorem refl (world : NumberedWorld) : Leaves who world world :=
  ⟨fun _ _ _ member => member, List.Subset.refl _⟩

theorem trans (earlier : Leaves who first second) (later : Leaves who second third) :
    Leaves who first third := by
  constructor
  · intro thread other version member
    exact later.pending thread other version (earlier.pending thread other version member)
  · exact List.Subset.trans earlier.numbered later.numbered

theorem mono (leaves : Leaves who first second) (wide : ∀ thread, who thread → wider thread) :
    Leaves wider first second := by
  constructor
  · intro thread other
    exact leaves.pending thread (mt (wide thread) other)
  · exact leaves.numbered

end Leaves

namespace Numbered

variable {initial : Run} {world : NumberedWorld}

theorem inStateOrder (numbered : Numbered initial world) : InStateOrder world.log.events := by
  have aligned : ∀ first ∈ world.log.numbered, ∀ second ∈ world.log.numbered,
      (first.2 < second.2 ↔ first.1 < second.1) := by
    apply List.Pairwise.forall_of_forall_of_flip
    · simp
    · apply numbered.ordered.imp
      intro later earlier less
      omega
    · apply numbered.ordered.imp
      intro later earlier less
      simp only [flip]
      omega
  intro first one second two version other carried carries
  obtain ⟨item, member, version', sequence⟩ := numbered.shown first one
  obtain ⟨item', member', other', sequence'⟩ := numbered.shown second two
  rw [carried] at version'
  rw [carries] at other'
  cases version'
  cases other'
  rw [sequence, sequence', aligned item member item' member']
  exact Int.ofNat_lt.symm

/-- A version that is stored over the Run is larger than what has been committed before. -/
theorem store {current run : Run} (numbered : Numbered initial world)
    (found : world.core.run? run.runId = some current) (own : run.runId = initial.runId)
    (next : run.stateVersion = current.stateVersion + 1) :
    (∀ waiting ∈ world.log.pending, waiting.2 < run.stateVersion) ∧
      ∀ item ∈ world.log.numbered, item.1 < run.stateVersion := by
  obtain ⟨stored, holds, -, pending, given⟩ := numbered.stored
  rw [← own, found] at holds
  cases holds
  constructor
  · intro waiting member
    have := pending waiting member
    omega
  · intro item member
    have := given item member
    omega

/-- A version is stored over the Run that no client is told of. -/
theorem advance {current run : Run} (numbered : Numbered initial world)
    (found : world.core.run? run.runId = some current) (own : run.runId = initial.runId)
    (next : run.stateVersion = current.stateVersion + 1) :
    Numbered initial { world with core := world.core.setRun run } := by
  obtain ⟨pending, given⟩ := numbered.store found own next
  have holds : (world.core.setRun run).run? initial.runId = some run := by
    rw [CoreWorld.run?_setRun, if_pos own]
  refine ⟨⟨run, holds, own, ?_, ?_⟩, numbered.counted, numbered.ordered, numbered.latest,
    numbered.single, numbered.shown⟩
  · intro waiting member
    exact Nat.le_of_lt (pending waiting member)
  · intro item member
    exact Nat.le_of_lt (given item member)

/-- A client commits a version when no other client waits. -/
theorem commit {current run : Run} {thread : ℕ} (numbered : Numbered initial world)
    (found : world.core.run? run.runId = some current) (own : run.runId = initial.runId)
    (next : run.stateVersion = current.stateVersion + 1) (free : world.log.pending = []) :
    Numbered initial { world with
      core := world.core.setRun run
      log := { world.log with pending := (thread, run.stateVersion) :: world.log.pending } } := by
  have advanced := numbered.advance found own next
  obtain ⟨-, given⟩ := numbered.store found own next
  obtain ⟨stored, holds, same, -, versions⟩ := advanced.stored
  have last : stored = run := by
    have now : (world.core.setRun run).run? initial.runId = some run := by
      rw [CoreWorld.run?_setRun, if_pos own]
    exact Option.some.inj (holds.symm.trans now)
  subst last
  rw [free]
  refine ⟨⟨stored, holds, same, ?_, versions⟩, numbered.counted, numbered.ordered, ?_, by simp,
    numbered.shown⟩
  · intro waiting member
    rw [List.mem_singleton.mp member]
  · intro waiting member item inside
    rw [List.mem_singleton.mp member]
    exact given item inside

/-- A client that waited goes on without a number. -/
theorem settle (numbered : Numbered initial world) (thread : ℕ) {sequences : Dict RunId ℕ}
    (grown : world.last initial.runId ≤ (sequences.get? initial.runId).getD 0) :
    Numbered initial { world with sequences, log := world.log.settle thread } := by
  obtain ⟨stored, holds, same, pending, versions⟩ := numbered.stored
  refine ⟨⟨stored, holds, same, ?_, versions⟩, ?_, numbered.ordered, ?_, ?_, numbered.shown⟩
  · intro waiting member
    exact pending waiting (List.mem_of_mem_filter member)
  · intro item member
    exact Nat.le_trans (numbered.counted item member) grown
  · intro waiting member
    exact numbered.latest waiting (List.mem_of_mem_filter member)
  · exact Nat.le_trans (List.length_filter_le _ _) numbered.single

theorem only {waiting : ℕ × ℕ} (numbered : Numbered initial world)
    (member : waiting ∈ world.log.pending) : world.log.pending = [waiting] := by
  have single := numbered.single
  obtain ⟨earlier, rest, split⟩ := List.append_of_mem member
  rw [split] at single ⊢
  simp only [List.length_append, List.length_cons] at single
  have none : earlier = [] := List.eq_nil_of_length_eq_zero (by omega)
  have last : rest = [] := List.eq_nil_of_length_eq_zero (by omega)
  rw [none, last]
  rfl

/-- The client that waits gets a number. -/
theorem number {thread version given : ℕ} (numbered : Numbered initial world)
    (waiting : (thread, version) ∈ world.log.pending)
    (later : world.last initial.runId < given) :
    Numbered initial { world with
      sequences := world.sequences.set initial.runId given
      log := world.log.number thread given } ∧
    world.log.number thread given = ⟨[], (version, given) :: world.log.numbered, world.log.events⟩ := by
  have log : world.log.number thread given =
      ⟨[], (version, given) :: world.log.numbered, world.log.events⟩ := by
    simp [NumberLog.number, NumberLog.settle, numbered.only waiting]
  refine ⟨?_, log⟩
  rw [log]
  obtain ⟨stored, holds, same, pending, versions⟩ := numbered.stored
  refine ⟨⟨stored, holds, same, by simp, ?_⟩, ?_, ?_, by simp, by simp, ?_⟩
  · intro item member
    rcases List.mem_cons.mp member with rfl | earlier
    · exact pending _ waiting
    · exact versions item earlier
  · intro item member
    have last : NumberedWorld.last ⟨world.core, world.sequences.set initial.runId given,
        ⟨[], (version, given) :: world.log.numbered, world.log.events⟩⟩ initial.runId = given := by
      simp [NumberedWorld.last]
    rw [last]
    rcases List.mem_cons.mp member with rfl | earlier
    · exact Nat.le_refl _
    · have counted := numbered.counted item earlier
      omega
  · apply List.pairwise_cons.mpr
    refine ⟨fun item member => ?_, numbered.ordered⟩
    have counted := numbered.counted item member
    exact ⟨numbered.latest _ waiting item member, by omega⟩
  · intro event member
    obtain ⟨item, inside, carried⟩ := numbered.shown event member
    exact ⟨item, List.mem_cons_of_mem _ inside, carried⟩

/-- An event is made with the number that was given for its version. -/
theorem show_ {event : RuntimeEvent} {version : ℕ} (numbered : Numbered initial world)
    (given : (version, event.sequence) ∈ world.log.numbered)
    (carried : event.stateVersion? = some (version : ℤ)) :
    Numbered initial { world with log := { world.log with events := event :: world.log.events } } := by
  refine ⟨numbered.stored, numbered.counted, numbered.ordered, numbered.latest, numbered.single, ?_⟩
  intro other member
  rcases List.mem_cons.mp member with rfl | earlier
  · exact ⟨_, given, carried, rfl⟩
  · exact numbered.shown other earlier

end Numbered

/-! ## The steps of a client -/

section Client

variable [Sha256] {initial : Run} {thread version : ℕ} {world : NumberedWorld}

def numberedContract (initial : Run) (thread : ℕ) : Contract NumberedInterface NumberedWorld where
  invariant := Numbered initial
  rely := Leaves (· ≠ thread)
  guarantee := Leaves (· = thread)
  need _ _ := True

abbrev NumberedSafe {α : Type} (initial : Run) (thread : ℕ) (program : NumberedProgram α)
    (post : Except Raised α → NumberedWorld → Prop) (world : NumberedWorld) : Prop :=
  program.Safe (numberedEnvironment Unhurried thread) (numberedContract initial thread) post world

theorem numberedAnswer_reads {op : CoreOp} (reads : op.readsOnly = true) (choice : op.Choice) :
    numberedAnswer thread (.core op) choice world = ((coreAnswer op choice world.core).1, world) := by
  have same := answer_world reads choice world.core
  have log : world.log.commit thread op (coreAnswer op choice world.core).1 = world.log := by
    cases op with
    | runCompareAndSet run version => cases reads
    | _ => rfl
  simp only [numberedAnswer, same, log]

/-- What only reads does not touch the log. -/
theorem reads_safe {op : CoreOp} (reads : op.readsOnly = true) :
    NumberedSafe initial thread (numberedOp (.core op)) (fun outcome after =>
      Leaves (· ≠ thread) world after ∧ Numbered initial after ∧
        ∃ choice, outcome = (coreAnswer op choice after.core).1) world := by
  apply safe_perform
  intro current relied numbered
  refine ⟨trivial, fun choice _ => ?_⟩
  have answered : (numberedEnvironment Unhurried thread).answer (.core op) choice current =
      ((coreAnswer op choice current.core).1, current) := numberedAnswer_reads reads choice
  rw [answered]
  exact ⟨numbered, .refl current, relied, numbered, choice, rfl⟩

theorem get_numbered : NumberedSafe initial thread (numberedOp (.core (.runGet initial.runId)))
    (fun outcome _ => ∀ run, outcome = .ok run → run.runId = initial.runId) world := by
  apply (reads_safe rfl).mono
  intro outcome after reached run returned
  obtain ⟨-, numbered, choice, answered⟩ := reached
  obtain ⟨stored, found, own, -⟩ := numbered.stored
  rcases answer_runGet after.core initial.runId choice with ⟨error, failed⟩ | ⟨read, held, got⟩
  · rw [answered, failed] at returned
    cases returned
  · rw [answered, got] at returned
    cases returned
    rw [found] at held
    cases held
    exact own

theorem now_numbered : NumberedSafe initial thread (numberedOp (.core .now))
    (fun _ after => Leaves (· ≠ thread) world after) world := by
  apply (reads_safe rfl).mono
  intro outcome after reached
  exact reached.1

theorem newTrace_numbered : NumberedSafe initial thread (numberedOp .newTrace)
    (fun _ after => Leaves (· ≠ thread) world after) world := by
  apply safe_perform
  intro current relied numbered
  exact ⟨trivial, fun _ _ => ⟨numbered, .refl current, relied⟩⟩

theorem newEventId_numbered : NumberedSafe initial thread (numberedOp .newEventId)
    (fun _ after => Leaves (· ≠ thread) world after) world := by
  apply safe_perform
  intro current relied numbered
  exact ⟨trivial, fun _ _ => ⟨numbered, .refl current, relied⟩⟩

omit [Sha256] in
theorem Leaves.settle {sequences : Dict RunId ℕ} : Leaves (· = thread) world
    { world with sequences, log := world.log.settle thread } := by
  constructor
  · intro other different version member
    exact List.mem_filter.mpr ⟨member, by simpa using different⟩
  · exact List.Subset.refl _

/-- The number that a client which has committed gets is for the version that it committed. -/
theorem nextSequence_numbered (waiting : (thread, version) ∈ world.log.pending) :
    NumberedSafe initial thread (numberedOp (.nextSequence initial.runId)) (fun outcome after =>
      ∀ number, outcome = .ok number → (version, number) ∈ after.log.numbered) world := by
  apply safe_perform
  intro current relied numbered
  refine ⟨trivial, fun choice _ => ?_⟩
  obtain ⟨others, fault⟩ := choice
  have waits : (thread, version) ∈ current.log.pending := relied.pending thread (by simp) _ waiting
  have later : current.last initial.runId < current.last initial.runId + others + 1 := by omega
  cases fault with
  | none =>
    obtain ⟨given, log⟩ := numbered.number waits later
    refine ⟨given, ⟨?_, ?_⟩, ?_⟩
    · intro other different version' member
      have member : (other, version') ∈ current.log.pending := member
      rw [numbered.only waits] at member
      cases List.mem_singleton.mp member
      exact absurd rfl different
    · intro item member
      have grown : item ∈ (current.log.number thread
          (current.last initial.runId + others + 1)).numbered := by
        rw [log]
        exact List.mem_cons_of_mem _ member
      exact grown
    · intro number returned
      cases returned
      have first : (version, current.last initial.runId + others + 1) ∈ (current.log.number thread
          (current.last initial.runId + others + 1)).numbered := by
        rw [log]
        exact List.mem_cons_self
      exact first
  | before error =>
    exact ⟨numbered.settle thread (Nat.le_refl _), .settle, nofun⟩
  | after error =>
    refine ⟨numbered.settle thread ?_, .settle, nofun⟩
    simp
    omega

theorem publish_numbered {event : RuntimeEvent}
    (given : (version, event.sequence) ∈ world.log.numbered)
    (carried : event.stateVersion? = some (version : ℤ)) :
    NumberedSafe initial thread (numberedOp (.publish event)) (fun _ _ => True) world := by
  apply safe_perform
  intro current relied numbered
  refine ⟨trivial, fun outcome _ => ⟨numbered.show_ (relied.numbered given) carried, ?_, trivial⟩⟩
  exact ⟨fun _ _ _ member => member, List.Subset.refl _⟩

omit [Sha256] in
/-- An event that is made for a transition carries the version of its Run. -/
theorem validEvent_carries {dispatcher : EventDispatcher} {transition : RunTransition}
    {trace : TraceContext} {eventId : EventId} {now : DateTime} {number : ℕ} {event : RuntimeEvent}
    (made : dispatcher.validEvent (transition.fields trace) eventId ⟨eventId, now, .ok number⟩ =
      .ok event) :
    event.sequence = number ∧
      event.stateVersion? = some (transition.current.stateVersion : ℤ) := by
  obtain ⟨-, asked, given⟩ := EventDispatcher.newEvent_asked (EventDispatcher.newEvent_of_valid made)
  have payload : event.payload = transition.payload := congrArg EventFields.payload asked
  constructor
  · injection given with same
    omega
  · unfold RuntimeEvent.stateVersion?
    rw [payload]
    rfl

/-- A publication by a client that has committed. -/
theorem runStateChanged_numbered {dispatcher : EventDispatcher} {transition : RunTransition}
    (own : transition.current.runId = initial.runId)
    (waiting : (thread, transition.current.stateVersion) ∈ world.log.pending) :
    NumberedSafe initial thread (RuntimeEventPublisher.runStateChanged dispatcher transition)
      (fun _ _ => True) world := by
  have still : ∀ {after : NumberedWorld}, Leaves (· ≠ thread) world after →
      (thread, transition.current.stateVersion) ∈ after.log.pending :=
    fun relied => relied.pending thread (by simp) _ waiting
  apply newTrace_numbered.bind
  · intro trace first left
    apply newEventId_numbered.bind
    · intro eventId second leaves
      apply now_numbered.bind
      · intro now third stays
        rw [own]
        apply (nextSequence_numbered (still (left.trans (leaves.trans stays)))).bind
        · intro number after given
          cases made : dispatcher.validEvent (transition.fields trace) eventId
              ⟨eventId, now, .ok number⟩ with
          | error error => trivial
          | ok event =>
            obtain ⟨sequence, carried⟩ := validEvent_carries made
            have given := given number rfl
            rw [← sequence] at given
            exact publish_numbered given carried
        · intro _ _ _
          trivial
      · intro _ _ _
        trivial
    · intro _ _ _
      trivial
  · intro _ _ _
    trivial

/-- A client commits where no other one waits for its number. -/
theorem compareAndSet_numbered {run : Run} (own : run.runId = initial.runId) :
    NumberedSafe initial thread (numberedOp (.core (.runCompareAndSet run version)))
      (fun outcome after => ∀ committed, outcome = .ok committed → committed = run ∧
        (thread, run.stateVersion) ∈ after.log.pending) world := by
  apply safe_perform
  intro current relied numbered
  refine ⟨trivial, fun fault unhurried => ?_⟩
  have unhurries : ∀ committed, (coreAnswer (.runCompareAndSet run version) fault
      current.core).1 = .ok committed → current.log.pending = [] := unhurried
  have answer : ∀ {outcome core}, coreAnswer (.runCompareAndSet run version) fault current.core =
      (outcome, core) → (numberedEnvironment Unhurried thread).answer
        (.core (.runCompareAndSet run version)) fault current = (outcome, { current with
          core := core
          log := current.log.commit thread (.runCompareAndSet run version) outcome }) := by
    intro outcome core answered
    simp only [numberedAnswer, answered]
  rcases answer_runCompareAndSet current.core run version fault with
    ⟨error, failed⟩ | ⟨stored, found, expected, next, committed | ⟨error, -, failed⟩⟩
  · rw [answer failed]
    refine ⟨numbered, .refl current, ?_⟩
    intro committed returned
    cases returned
  · have told : (coreAnswer (.runCompareAndSet run version) fault current.core).1 = .ok run := by
      rw [committed]
    have free : current.log.pending = [] := unhurries run told
    rw [answer committed]
    refine ⟨numbered.commit found own (expected ▸ next) free, ?_, ?_⟩
    · exact ⟨fun _ _ _ member => List.mem_cons_of_mem _ member, List.Subset.refl _⟩
    · intro result returned
      cases returned
      exact ⟨rfl, List.mem_cons_self⟩
  · rw [answer failed]
    refine ⟨numbered.advance found own (expected ▸ next), ?_, ?_⟩
    · exact ⟨fun _ _ _ member => member, List.Subset.refl _⟩
    · intro committed returned
      cases returned

variable {dispatcher : EventDispatcher}

abbrev Published (dispatcher : EventDispatcher) {α : Type} (program : CoreProgram α) :
    NumberedProgram α := program.handled (RuntimeEventPublisher.handler dispatcher)

/-- What the Run service awaits is what its publisher makes of it. -/
theorem coreOp_numbered (op : CoreOp) {post : Except Raised op.Answer → NumberedWorld → Prop}
    (safe : NumberedSafe initial thread (RuntimeEventPublisher.handler dispatcher op) post world) :
    NumberedSafe initial thread (Published dispatcher (coreOp op)) post world := by
  have same : Published dispatcher (coreOp op) = RuntimeEventPublisher.handler dispatcher op :=
    @handled_perform CoreInterface NumberedInterface Raised
      (RuntimeEventPublisher.handler dispatcher) op
  rw [same]
  exact safe

theorem commit_numbered {transition : RunTransition} (own : transition.current.runId = initial.runId) :
    NumberedSafe initial thread (Published dispatcher (RunService.commit transition version))
      (fun _ _ => True) world := by
  unfold RunService.commit Published
  rw [handled_bind]
  apply (coreOp_numbered (.runCompareAndSet transition.current version)
    (compareAndSet_numbered own)).bind
  · intro committed after reached
    obtain ⟨rfl, waiting⟩ := reached committed rfl
    rw [handled_bind]
    apply (coreOp_numbered (.runStateChanged ⟨transition.previous, transition.current,
      transition.reason⟩) (runStateChanged_numbered own waiting)).bind
    · intro _ _ _
      trivial
    · intro _ _ _
      trivial
  · intro _ _ _
    trivial

theorem apply_numbered (operation : RunOperation) :
    NumberedSafe initial thread
      (Published dispatcher (RunService.apply initial.runId version operation.apply))
      (fun _ _ => True) world := by
  unfold RunService.apply Published
  rw [handled_bind]
  apply (coreOp_numbered (.runGet initial.runId) get_numbered).bind
  · intro previous after read
    rw [handled_bind]
    apply (coreOp_numbered .now now_numbered).bind
    · intro now later _
      rw [handled_bind, handled_ofExcept]
      cases applied : operation.apply previous version now with
      | error error => trivial
      | ok transition =>
        have own : transition.current.runId = initial.runId := by
          have first := read previous rfl
          rcases (RunOperation.apply_ok applied).2.2 with same | ⟨-, -, same⟩
          · rw [same, first]
          · exact same.runId.trans first
        have goes : NumberedSafe initial thread (Published dispatcher
            (if transition.unchanged then Program.ret transition.current
            else RunService.commit transition version)) (fun _ _ => True) later := by
          split
          · trivial
          · exact commit_numbered own
        exact goes
    · intro _ _ _
      trivial
  · intro _ _ _
    trivial

theorem handleAuditFailure_numbered (error : ErrorDetail) :
    NumberedSafe initial thread
      (Published dispatcher (RunService.handleAuditFailure initial.runId error))
      (fun _ _ => True) world := by
  unfold RunService.handleAuditFailure Published
  rw [handled_bind]
  apply (coreOp_numbered (.runGet initial.runId) get_numbered).bind
  · intro run after _
    split
    · trivial
    · split
      · exact apply_numbered (.fail error)
      · split
        · trivial
        · exact apply_numbered .pause
  · intro _ _ _
    trivial

theorem call_numbered (call : RunCall) :
    NumberedSafe initial thread (Published dispatcher (call.program initial.runId))
      (fun _ _ => True) world := by
  cases call with
  | mutation operation version =>
    rw [RunCall.program, RunOperation.call_eq]
    exact apply_numbered operation
  | auditFailure error => exact handleAuditFailure_numbered error

theorem numberedPool_meets (dispatcher : EventDispatcher) (initial : Run) (calls : ℕ → RunCall) :
    (numberedPool Unhurried dispatcher initial calls).Meets (numberedContract initial)
      (Numbered initial) (fun _ _ _ => True) where
  shared _ := rfl
  reflexive _ world := .refl world
  transitive _ _ _ _ earlier later := earlier.trans later
  stable _ _ _ _ _ _ := trivial
  compatible thread other before after distinct guaranteed :=
    guaranteed.mono fun _ same => same ▸ distinct
  initial world start := by
    obtain ⟨stored, empty⟩ := start
    constructor
    · rw [empty]
      exact ⟨initial, stored, rfl, by simp, by simp⟩
    all_goals simp [empty]
  starts thread before program start numbered starts := by
    obtain ⟨rfl, rfl⟩ := starts
    exact ⟨numbered, .refl _, call_numbered (calls thread)⟩

/-- Where no client commits while another one waits for the number of its event, the numbers of
the events of the Run are in the order of the versions. -/
theorem numberedPool_inStateOrder {calls : ℕ → RunCall}
    {configuration : Configuration NumberedInterface Raised Run NumberedWorld}
    (reached : (numberedPool Unhurried dispatcher initial calls).Reachable configuration) :
    InStateOrder configuration.state.log.events := by
  have numbered := ((numberedPool_meets dispatcher initial calls).reachable reached).1
  exact numbered.inStateOrder

end Client

namespace RunEventOrder

open SampleParameters

/-- One client starts the Run, the other cancels it once it has been started. -/
def sampleCalls (thread : ℕ) : RunCall := .mutation (if thread = 0 then .start else .cancel) thread

def sampleDispatcher : EventDispatcher where
  schemas := ⟨Dict.empty.set ("core.run.state_changed", "1") fun _ => .ok ()⟩
  sinks := []
  authorized := true
  policy := { positive := EventDeliveryPolicy.default_positive }

def sampleAnswer (thread : ℕ) : (op : NumberedOp) → op.Choice
  | .core op => RunRacing.sampleAnswer op
  | .newTrace => sampleContext.trace
  | .newEventId => if thread = 0 then ⟨"event-1", event_checked⟩ else ⟨"event-2", by decide⟩
  | .nextSequence _ => (0, .none)
  | .publish _ => .ok ()

def sampleWorld : NumberedWorld := ⟨RunRacing.sampleWorld, .empty, ⟨[], [], []⟩⟩

/-- The clients take their steps in this order. -/
def sampleCourse (allows : (op : NumberedOp) → op.Choice → NumberedWorld → Prop)
    (permitted : ℕ → NumberedOp → NumberedWorld → Bool) (schedule : List ℕ) :
    Configuration NumberedInterface Raised Run NumberedWorld :=
  (numberedPool allows sampleDispatcher RunLifecycle.sampleRun sampleCalls).execute
    (fun thread op _ => sampleAnswer thread op) permitted schedule ⟨sampleWorld,
      [Published sampleDispatcher ((sampleCalls 0).program sampleRunId),
        Published sampleDispatcher ((sampleCalls 1).program sampleRunId)]⟩

theorem sampleCourse_reachable {allows : (op : NumberedOp) → op.Choice → NumberedWorld → Prop}
    {permitted : ℕ → NumberedOp → NumberedWorld → Bool}
    (permits : ∀ thread op world, permitted thread op world = true →
      allows op (sampleAnswer thread op) world) (schedule : List ℕ) :
    (numberedPool allows sampleDispatcher RunLifecycle.sampleRun sampleCalls).Reachable
      (sampleCourse allows permitted schedule) := by
  apply Pool.execute_reachable permits
  have empty : (numberedPool allows sampleDispatcher RunLifecycle.sampleRun sampleCalls).Reachable
      ⟨sampleWorld, []⟩ := .initial ⟨rfl, rfl⟩
  exact (empty.move (.start ⟨rfl, rfl⟩)).move (.start ⟨rfl, rfl⟩)

def sampleUnhurried : NumberedOp → NumberedWorld → Bool
  | .core (.runCompareAndSet _ _), world => world.log.pending.isEmpty
  | _, _ => true

/-- The second client commits when the first one has its number. -/
def waiting : Configuration NumberedInterface Raised Run NumberedWorld :=
  sampleCourse Unhurried (fun _ => sampleUnhurried)
    [0, 0, 0, 1, 1, 0, 0, 0, 0, 1, 1, 1, 1, 1, 0, 1]

theorem waiting_reachable : (numberedPool Unhurried sampleDispatcher RunLifecycle.sampleRun
    sampleCalls).Reachable waiting := by
  apply sampleCourse_reachable
  intro thread op world permitted
  cases op with
  | core op =>
    cases op with
    | runCompareAndSet run version =>
      intro committed _
      exact List.isEmpty_iff.mp permitted
    | _ => trivial
  | _ => trivial

theorem waiting_inStateOrder : readings waiting.state.log.events = [(some 2, 2), (some 1, 1)] ∧
    InStateOrder waiting.state.log.events :=
  ⟨by decide +kernel, numberedPool_inStateOrder waiting_reachable⟩

/-- The second client commits before the first one has its number. -/
def overtaking : List ℕ := [0, 0, 0, 1, 1, 1, 1, 1, 1, 1, 1, 0, 0, 0, 0, 0]

theorem overtaking_readings : readings (sampleCourse (fun _ _ _ => True) (fun _ _ _ => true)
    overtaking).state.log.events = [(some 1, 2), (some 2, 1)] := by
  decide +kernel

/-- The event of the first commit has the number after that of the second. -/
theorem events_out_of_order : ∃ configuration,
    (numberedPool (fun _ _ _ => True) sampleDispatcher RunLifecycle.sampleRun
      sampleCalls).Reachable configuration ∧ ¬InStateOrder configuration.state.log.events := by
  have reached := @sampleCourse_reachable (fun _ _ _ => True) (fun _ _ _ => true)
    (fun _ _ _ _ => trivial) overtaking
  refine ⟨_, reached, ?_⟩
  rw [inStateOrder_iff, overtaking_readings]
  intro ordered
  have first := ordered (some 1, 2) (by simp) (some 2, 1) (by simp) 1 2 rfl rfl
  omega

end RunEventOrder

end CongeriesCore
