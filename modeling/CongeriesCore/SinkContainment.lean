import CongeriesCore.AsyncOutcome
import CongeriesCore.EventDispatcher
import CongeriesCore.SampleParameters

/-! # Containment of sink failures

The sinks are the only part of the environment that may raise anything; the policy and the outbox
report their failures as `CoreError`. The observation worker takes the queued observations one
after the other, and a new worker is made only when something is published. -/

namespace CongeriesCore

open AsyncProgram

/-- Nothing but a `CoreError` is raised. -/
def CoreOnly {α : Type} (outcome : Except Raised α) : Prop :=
  ∀ error, outcome = .error error → error.isCore = true

/-- What the operations of the dispatcher answer: a sink what it may, the policy and the outbox a
result or a `CoreError`, the clock and the memory of the process a result. -/
def sinkAnswers (may : Except Raised (Option EventAcknowledgement) → Prop) :
    (op : EventOp) → Except Raised op.Answer → Prop
  | .deliver _ _ _, outcome => may outcome
  | .authorize _, outcome | .enqueue _ _ _ _, outcome | .markAttempt _ _ _, outcome
  | .acknowledge _, outcome | .listPending _, outcome => CoreOnly outcome
  | .cancelled _, outcome | .now, outcome | .newToken, outcome | .sleep _, outcome
  | .diagnose _, outcome | .putNowait _ _, outcome => ∃ result, outcome = .ok result

/-- The schema validators report their failures as `CoreError`, and the sinks' names are
identifiers. -/
structure EventDispatcher.Regular (dispatcher : EventDispatcher) : Prop where
  validators : ∀ event, CoreOnly (dispatcher.schemas.validate event)
  named : ∀ registration ∈ dispatcher.sinks,
    Identifier.check registration.sink.sinkId = .ok ()

/-! ### The observation worker -/

inductive ObservationWorker
  | idle
  | serving (queued : QueuedObservation) (program : EventProgram Unit)

/-- The queue and its worker, if there is one that is not done. `accepted` is all that has been
queued, `served` what the worker has been through, with the trace of each. -/
structure ObservationState where
  queue : List QueuedObservation
  worker : Option ObservationWorker
  trace : List (Event EventInterface Raised)
  accepted : List QueuedObservation
  served : List (QueuedObservation × List (Event EventInterface Raised))

namespace ObservationState

def empty : ObservationState := ⟨[], none, [], [], []⟩

/-- `_ensure_worker`. -/
def ensured (state : ObservationState) : Option ObservationWorker :=
  some (state.worker.getD .idle)

/-- The observation that the worker is at. -/
def current (state : ObservationState) : List QueuedObservation :=
  match state.worker with
  | some (.serving queued _) => [queued]
  | _ => []

end ObservationState

/-- What happens to the queue: publications, and the steps of `_observation_worker`. -/
inductive EventDispatcher.ObservationMoves (dispatcher : EventDispatcher)
    (may : Except Raised (Option EventAcknowledgement) → Prop) :
    ObservationState → ObservationState → Prop
  | publish {state : ObservationState} {queued : QueuedObservation} :
      dispatcher.schemas.validate queued.event = .ok () →
      queued.event.deliveryClass = .observability →
      state.queue.length < dispatcher.policy.observabilityQueueCapacity →
      ObservationMoves dispatcher may state { state with
        worker := state.ensured
        queue := state.queue ++ [queued]
        accepted := state.accepted ++ [queued] }
  | drop {state : ObservationState} :
      dispatcher.policy.observabilityQueueCapacity ≤ state.queue.length →
      ObservationMoves dispatcher may state { state with worker := state.ensured }
  | take {state : ObservationState} {queued : QueuedObservation} {rest : List QueuedObservation} :
      state.worker = some .idle → state.queue = queued :: rest →
      ObservationMoves dispatcher may state { state with
        worker := some (.serving queued (dispatcher.publishObservation queued))
        queue := rest
        trace := [] }
  | step {state : ObservationState} {queued : QueuedObservation} {program rest : EventProgram Unit}
      {trace : List (Event EventInterface Raised)} :
      state.worker = some (.serving queued program) →
      Step (recording (sinkAnswers may)) (program, state.trace) (rest, trace) →
      ObservationMoves dispatcher may state { state with
        worker := some (.serving queued rest)
        trace := trace }
  | finish {state : ObservationState} {queued : QueuedObservation} :
      state.worker = some (.serving queued (.ret ())) →
      ObservationMoves dispatcher may state { state with
        worker := some .idle
        served := state.served ++ [(queued, state.trace)] }
  | fail {state : ObservationState} {queued : QueuedObservation} {error : Raised} :
      state.worker = some (.serving queued (.raise error)) →
      ObservationMoves dispatcher may state { state with
        worker := none
        served := state.served ++ [(queued, state.trace)] }
  | close {state : ObservationState} : state.queue = [] → state.current = [] →
      ObservationMoves dispatcher may state { state with worker := none }

def EventDispatcher.ObservationReachable (dispatcher : EventDispatcher)
    (may : Except Raised (Option EventAcknowledgement) → Prop) : ObservationState → Prop :=
  Relation.ReflTransGen (dispatcher.ObservationMoves may) .empty

/-! ### Containment -/

/-- The operation delivers to no sink but these. -/
def DeliversAmong (sinks : List EventSink) (op : EventOp) : Prop :=
  ∀ sink event context, op = .deliver sink event context → sink ∈ sinks

/-- An audit publication ends with a result or a `CoreError`; one that raises has not come to the
sinks that are not required. -/
def EventDispatcher.AuditContained (dispatcher : EventDispatcher)
    (may : Except Raised (Option EventAcknowledgement) → Prop) : Prop :=
  ∀ (event : RuntimeEvent) (context : RuntimeCallContext) (principal : RuntimePrincipal)
    (outcome : Except Raised Unit) (trace : List (Event EventInterface Raised)),
    event.deliveryClass = .audit →
    Steps (recording (sinkAnswers may)) Unit (dispatcher.publish event context principal, [])
      (.ofExcept outcome, trace) →
    CoreOnly outcome ∧ ∀ error, outcome = .error error →
      ∀ item ∈ trace, DeliversAmong dispatcher.required item.1

/-- The sink has been given what it may see of the observation, or its own preparation, which is
the policy's decision and the fit of the event, has refused it. -/
def EventDispatcher.Offered (dispatcher : EventDispatcher)
    (may : Except Raised (Option EventAcknowledgement) → Prop) (queued : QueuedObservation)
    (sink : EventSink) (trace : List (Event EventInterface Raised)) : Prop :=
  (∃ item ∈ trace, item.1 = .deliver sink
    (redact queued.event sink.capabilities.maximumSensitivity) queued.context) ∨
  ∃ error before after, Steps (recording (sinkAnswers may)) RuntimeEvent
    (dispatcher.prepareForSink queued.event queued.context queued.principal sink, before)
    (.raise error, after) ∧ after <+: trace

/-- Each observation is served in turn and offered to every sink for observations, and what is
queued has a worker. -/
structure ObservationState.Contained (dispatcher : EventDispatcher)
    (may : Except Raised (Option EventAcknowledgement) → Prop) (state : ObservationState) :
    Prop where
  kept : state.accepted = state.served.map Prod.fst ++ state.current ++ state.queue
  offered : ∀ entry ∈ state.served, ∀ registration ∈ dispatcher.sinks,
    registration.sink.capabilities.deliveryClasses.contains .observability = true →
    dispatcher.Offered may entry.1 registration.sink entry.2
  working : state.queue ≠ [] → state.worker ≠ none

/-- Whatever the sinks of any regular dispatcher do within `may`, their failures are contained. -/
def SinksContained (may : Except Raised (Option EventAcknowledgement) → Prop) : Prop :=
  ∀ dispatcher : EventDispatcher, dispatcher.Regular → dispatcher.AuditContained may ∧
    ∀ state, dispatcher.ObservationReachable may state → state.Contained dispatcher may

namespace SinkContainment

variable {may : Except Raised (Option EventAcknowledgement) → Prop} {dispatcher : EventDispatcher}

theorem coreOnly_ok {α : Type} {result : α} : CoreOnly (.ok result : Except Raised α) := by
  intro error raised
  cases raised

theorem coreOnly_core {α : Type} {detail : ErrorDetail} :
    CoreOnly (.error (.core detail) : Except Raised α) := by
  intro error raised
  cases raised
  rfl

theorem CoreOnly.error {α β : Type} {error : Raised} (core : CoreOnly (.error error : Except Raised α)) :
    CoreOnly (.error error : Except Raised β) := by
  intro other raised
  cases raised
  exact core error rfl

/-- The program raises nothing but a `CoreError`. -/
abbrev Core {α : Type} (may : Except Raised (Option EventAcknowledgement) → Prop)
    (program : EventProgram α) : Prop :=
  program.Yields (sinkAnswers may) CoreOnly

theorem Core.bind {α β : Type} {program : EventProgram α} {rest : α → EventProgram β}
    (first : Core may program) (continues : ∀ result, Core may (rest result)) :
    Core may (program >>= rest) :=
  Program.Yields.bind first (fun result _ => continues result) fun _ core => CoreOnly.error core

theorem core_plain {op : EventOp}
    (plain : ∀ outcome, sinkAnswers may op outcome → ∃ result, outcome = .ok result) :
    Core may (eventOp op) := by
  apply Program.yields_perform
  intro outcome answered
  obtain ⟨result, rfl⟩ := plain outcome answered
  exact coreOnly_ok

theorem core_cancelled (token : CancellationId) : Core may (eventOp (.cancelled token)) :=
  core_plain fun _ answered => answered

theorem core_now : Core may (eventOp .now) := core_plain fun _ answered => answered

theorem core_checkActive (context : RuntimeCallContext) :
    Core may (context.checkActive : EventProgram Unit) := by
  apply (core_cancelled context.cancellation).bind
  intro cancelled
  apply Program.yields_ite
  · intro _
    exact coreOnly_core
  · intro _
    split
    · exact coreOnly_ok
    · apply core_now.bind
      intro now
      apply Program.yields_ite
      · intro _
        exact coreOnly_core
      · intro _
        exact coreOnly_ok

theorem core_expired (grant : Grant) :
    Core may (AuthorizedDispatcher.expired grant : EventProgram Bool) := by
  unfold AuthorizedDispatcher.expired
  split
  · exact coreOnly_ok
  · exact core_now.bind fun _ => coreOnly_ok

theorem coreOnly_sinkRequest {sink : EventSink} (event : RuntimeEvent)
    (context : RuntimeCallContext) (principal : RuntimePrincipal)
    (named : Identifier.check sink.sinkId = .ok ()) :
    CoreOnly (EventDispatcher.sinkRequest sink event context principal) := by
  have made : Identifier.make .resource sink.sinkId = .ok ⟨sink.sinkId, named⟩ :=
    Identifier.make_self ⟨sink.sinkId, named⟩
  unfold EventDispatcher.sinkRequest
  rw [made]
  exact coreOnly_ok

theorem coreOnly_deniedBecause {α : Type} {reason : Option String} {fallback message : String}
    {given : fallback ≠ "" ∧ message ≠ ""} :
    CoreOnly (.error (deniedBecause reason fallback message given) : Except Raised α) := by
  unfold deniedBecause
  split
  · exact coreOnly_core
  · split
    · exact coreOnly_core
    · exact coreOnly_core

theorem core_authorizeSink {sink : EventSink} (event : RuntimeEvent) (context : RuntimeCallContext)
    (principal : RuntimePrincipal) (named : Identifier.check sink.sinkId = .ok ()) :
    Core may (dispatcher.authorizeSink sink event context principal) := by
  unfold EventDispatcher.authorizeSink
  apply (core_checkActive context).bind
  intro _
  apply Program.yields_ite
  · intro _
    exact coreOnly_core
  intro _
  have requested : Core may
      (Program.ofExcept (EventDispatcher.sinkRequest sink event context principal)) :=
    Program.yields_ofExcept (coreOnly_sinkRequest event context principal named)
  apply requested.bind
  intro request
  have decided : Core may (eventOp (.authorize request)) :=
    Program.yields_perform fun _ answered => answered
  apply decided.bind
  intro decision
  split
  · apply (core_expired _).bind
    intro expired
    apply Program.yields_ite
    · intro _
      exact coreOnly_core
    · intro _
      apply Program.yields_ite
      · intro _
        exact coreOnly_core
      · intro _
        exact coreOnly_ok
  · exact coreOnly_deniedBecause

theorem coreOnly_checkCapabilities (event : RuntimeEvent) (sink : EventSink) :
    CoreOnly (EventDispatcher.checkCapabilities event sink) := by
  unfold EventDispatcher.checkCapabilities
  dsimp only
  split
  · exact coreOnly_core
  · split
    · exact coreOnly_core
    · split
      · exact coreOnly_core
      · exact coreOnly_ok

theorem coreOnly_validateRedacted (regular : dispatcher.Regular) (redacted : RuntimeEvent) :
    CoreOnly (dispatcher.validateRedacted redacted) := by
  unfold EventDispatcher.validateRedacted
  split
  · exact coreOnly_core
  · exact regular.validators redacted

/-- What a sink is given is what it may see. -/
theorem core_prepareForSink (regular : dispatcher.Regular) {sink : EventSink} (event : RuntimeEvent)
    (context : RuntimeCallContext) (principal : RuntimePrincipal)
    (named : Identifier.check sink.sinkId = .ok ()) :
    (dispatcher.prepareForSink event context principal sink).Yields (sinkAnswers may)
      (fun outcome => CoreOnly outcome ∧ ∀ prepared, outcome = .ok prepared →
        prepared = redact event sink.capabilities.maximumSensitivity) := by
  have failed : ∀ {error : Raised}, CoreOnly (.error error : Except Raised Unit) →
      CoreOnly (.error error : Except Raised RuntimeEvent) ∧ ∀ prepared,
        (.error error : Except Raised RuntimeEvent) = .ok prepared →
          prepared = redact event sink.capabilities.maximumSensitivity := by
    intro error core
    refine ⟨CoreOnly.error core, fun prepared same => ?_⟩
    cases same
  have capable : Core may (Program.ofExcept (EventDispatcher.checkCapabilities event sink)) :=
    Program.yields_ofExcept (coreOnly_checkCapabilities event sink)
  have redacted : Core may (Program.ofExcept
      (dispatcher.validateRedacted (redact event sink.capabilities.maximumSensitivity))) :=
    Program.yields_ofExcept (coreOnly_validateRedacted regular _)
  unfold EventDispatcher.prepareForSink
  apply Program.Yields.bind capable _ fun _ => failed
  intro _ _
  apply Program.Yields.bind (core_authorizeSink event context principal named) _ fun _ => failed
  intro _ _
  apply Program.Yields.bind redacted _ fun _ => failed
  intro _ _
  refine ⟨coreOnly_ok, fun prepared same => ?_⟩
  cases same
  rfl

section Contained

variable (core : ∀ error, may (.error error) → error.isCore = true)

include core

theorem core_deliver (sink : EventSink) (event : RuntimeEvent) (context : RuntimeCallContext) :
    Core may (eventOp (.deliver sink event context)) := by
  apply Program.yields_perform
  intro outcome answered error raised
  subst raised
  exact core error answered

omit core in
theorem core_backoff (attempt : ℕ) : Core may (dispatcher.backoff attempt) := by
  apply Program.yields_ite
  · intro _
    exact coreOnly_ok
  · intro _
    exact core_plain fun _ answered => answered

theorem core_attemptDelivery (event : RuntimeEvent) (context : RuntimeCallContext)
    (sink : EventSink) : Core may (EventDispatcher.attemptDelivery event context sink) := by
  apply (core_deliver core sink event context).bind
  intro acknowledgement
  cases acknowledgement with
  | none => exact coreOnly_core
  | some acknowledgement =>
    have marked : Core may (eventOp (.markAttempt event.eventId sink.sinkId none)) :=
      Program.yields_perform fun _ answered => answered
    apply marked.bind
    intro _
    exact Program.yields_perform fun _ answered => answered

theorem core_deliverAttempts (event : RuntimeEvent) (context : RuntimeCallContext)
    (sink : EventSink) (attempts : List ℕ) (lastError : Option ErrorDetail) :
    Core may (dispatcher.deliverAttempts event context sink attempts lastError) := by
  induction attempts generalizing lastError with
  | nil => exact coreOnly_core
  | cons attempt attempts ih =>
    apply (core_attemptDelivery core event context sink).andThen
    intro outcome ended
    match outcome with
    | .ok () => exact coreOnly_ok
    | .error (.core error) =>
      have marked : Core may (eventOp (.markAttempt event.eventId sink.sinkId (some error.code))) :=
        Program.yields_perform fun _ answered => answered
      apply marked.bind
      intro _
      apply Program.yields_ite
      · intro _
        apply (core_backoff attempt).bind
        intro _
        exact ih (some error)
      · intro _
        exact coreOnly_core
    | .error (.value _) | .error (.assertion _) | .error (.key _) | .error (.other _)
    | .error .cancelledError => exact ended

theorem core_publishToSink (regular : dispatcher.Regular) (event : RuntimeEvent)
    (context : RuntimeCallContext) (principal : RuntimePrincipal) {sink : EventSink}
    (named : Identifier.check sink.sinkId = .ok ()) :
    Core may (dispatcher.publishToSink event context principal sink) := by
  have prepared : Core may (dispatcher.prepareForSink event context principal sink) :=
    (core_prepareForSink regular event context principal named).mono fun _ ended => ended.1
  apply prepared.bind
  intro prepared
  have enqueued : Core may (eventOp (.enqueue prepared sink.sinkId context principal)) :=
    Program.yields_perform fun _ answered => answered
  apply enqueued.bind
  intro _
  exact core_deliverAttempts core prepared context sink _ none

omit core in
/-- What is caught is noted, and nothing is raised. -/
theorem returns_diagnosing {program : EventProgram Unit} {eventId : EventId} {sinkId : String}
    (core : Core may program) :
    (EventDispatcher.diagnosing program eventId sinkId).Yields (sinkAnswers may)
      (fun outcome => outcome = .ok ()) := by
  apply Program.Yields.catching core
  · intro _ _
    rfl
  · intro error raised
    have coded := raised error rfl
    match error with
    | .core detail =>
      apply Program.yields_perform
      intro outcome answered
      obtain ⟨_, same⟩ := answered
      exact same
    | .value _ | .assertion _ | .key _ | .other _ | .cancelledError => cases coded

omit core in
theorem Regular.sinks (regular : dispatcher.Regular) :
    ∀ sink ∈ dispatcher.required ++ dispatcher.optional, Identifier.check sink.sinkId = .ok () := by
  intro sink listed
  rcases List.mem_append.mp listed with required | optional
  · obtain ⟨registration, member, rfl⟩ := List.mem_map.mp required
    exact regular.named registration (List.mem_filter.mp member).1
  · obtain ⟨registration, member, rfl⟩ := List.mem_map.mp optional
    exact regular.named registration (List.mem_filter.mp member).1

/-- The sinks that are not required make nothing raise. -/
theorem returns_optional (regular : dispatcher.Regular) (event : RuntimeEvent)
    (context : RuntimeCallContext) (principal : RuntimePrincipal) :
    (Program.foldM (fun _ sink => EventDispatcher.diagnosing
      (dispatcher.publishToSink event context principal sink) event.eventId sink.sinkId) ()
      dispatcher.optional).Yields (sinkAnswers may) (fun outcome => outcome = .ok ()) := by
  apply Program.yields_foldM
  · intro _ sink listed _
    exact returns_diagnosing (core_publishToSink core regular event context principal
      (Regular.sinks regular sink (List.mem_append_right _ listed)))
  · rfl

theorem core_observeAttempts (event : RuntimeEvent) (context : RuntimeCallContext)
    (sink : EventSink) (attempts : List ℕ) (lastError : Option ErrorDetail) :
    Core may (dispatcher.observeAttempts event context sink attempts lastError) := by
  induction attempts generalizing lastError with
  | nil =>
    cases lastError with
    | none => exact coreOnly_ok
    | some error => exact coreOnly_core
  | cons attempt attempts ih =>
    apply (core_deliver core sink event context).andThen
    intro outcome ended
    match outcome with
    | .ok _ => exact coreOnly_ok
    | .error (.core error) =>
      apply Program.yields_ite
      · intro _
        apply (core_backoff attempt).bind
        intro _
        exact ih (some error)
      · intro _
        exact coreOnly_core
    | .error (.value _) | .error (.assertion _) | .error (.key _) | .error (.other _)
    | .error .cancelledError => exact CoreOnly.error ended

theorem returns_observe (regular : dispatcher.Regular) (queued : QueuedObservation)
    {sink : EventSink} (named : Identifier.check sink.sinkId = .ok ()) :
    (dispatcher.observe queued sink).Yields (sinkAnswers may) (fun outcome => outcome = .ok ()) := by
  unfold EventDispatcher.observe
  apply Program.yields_ite
  · intro _
    rfl
  intro _
  apply returns_diagnosing
  have prepared : Core may
      (dispatcher.prepareForSink queued.event queued.context queued.principal sink) :=
    (core_prepareForSink regular queued.event queued.context queued.principal named).mono
      fun _ ended => ended.1
  apply prepared.bind
  intro event
  exact core_observeAttempts core event queued.context sink _ none

theorem core_publishAudit (regular : dispatcher.Regular) (event : RuntimeEvent)
    (context : RuntimeCallContext) (principal : RuntimePrincipal) :
    Core may (dispatcher.publishAudit event context principal) := by
  unfold EventDispatcher.publishAudit
  apply Program.yields_ite
  · intro _
    exact coreOnly_core
  intro _
  have required : Core may (Program.foldM
      (fun _ sink => dispatcher.publishToSink event context principal sink) ()
      dispatcher.required) := by
    apply Program.yields_foldM
    · intro _ sink listed _
      exact core_publishToSink core regular event context principal
        (Regular.sinks regular sink (List.mem_append_left _ listed))
    · exact coreOnly_ok
  apply required.bind
  intro _
  apply (returns_optional core regular event context principal).mono
  intro outcome same
  rw [same]
  exact coreOnly_ok

/-- Every observation sink is dealt with, and nothing is raised. -/
theorem returns_publishObservation (regular : dispatcher.Regular) (queued : QueuedObservation) :
    (dispatcher.publishObservation queued).Yields (sinkAnswers may)
      (fun outcome => outcome = .ok ()) := by
  apply Program.yields_foldM
  · intro _ registration listed _
    exact returns_observe core regular queued (regular.named registration listed)
  · rfl

end Contained

/-! ### What a run has delivered -/

theorem only_deliverAttempts {sinks : List EventSink} (event : RuntimeEvent)
    (context : RuntimeCallContext) {sink : EventSink} (listed : sink ∈ sinks) (attempts : List ℕ) (lastError : Option ErrorDetail) :
    (dispatcher.deliverAttempts event context sink attempts lastError).Only (DeliversAmong sinks) := by
  induction attempts generalizing lastError with
  | nil => trivial
  | cons attempt attempts ih =>
    have attempted : (EventDispatcher.attemptDelivery event context sink).Only (DeliversAmong sinks) := by
      have delivers : (eventOp (.deliver sink event context)).Only (DeliversAmong sinks) := by
        apply EventDispatcher.only_eventOp
        intro other _ _ same
        cases same
        exact listed
      apply delivers.bind
      intro acknowledgement
      cases acknowledgement with
      | none => trivial
      | some acknowledgement =>
        have marks : (eventOp (.markAttempt event.eventId sink.sinkId none)).Only
          (DeliversAmong sinks) := EventDispatcher.only_eventOp fun _ _ _ => nofun
        exact marks.bind fun _ => EventDispatcher.only_eventOp fun _ _ _ => nofun
    apply attempted.andThen
    intro outcome
    match outcome with
    | .ok () => trivial
    | .error (.core error) =>
      have marks : (eventOp (.markAttempt event.eventId sink.sinkId (some error.code))).Only
        (DeliversAmong sinks) := EventDispatcher.only_eventOp fun _ _ _ => nofun
      apply marks.bind
      intro _
      apply Program.only_ite
      · intro _
        have waits : (dispatcher.backoff attempt).Only (DeliversAmong sinks) :=
          EventDispatcher.only_backoff (fun _ _ _ _ => nofun) dispatcher attempt
        exact waits.bind fun _ => ih (some error)
      · intro _
        trivial
    | .error (.value _) | .error (.assertion _) | .error (.key _) | .error (.other _)
    | .error .cancelledError => trivial

theorem only_publishToSink {sinks : List EventSink} (event : RuntimeEvent)
    (context : RuntimeCallContext) (principal : RuntimePrincipal) {sink : EventSink}
    (listed : sink ∈ sinks) :
    (dispatcher.publishToSink event context principal sink).Only (DeliversAmong sinks) := by
  have authorizes : (dispatcher.authorizeSink sink event context principal).Only
      (DeliversAmong sinks) :=
    EventDispatcher.only_authorizeSink (fun _ _ _ _ => nofun) (fun _ _ _ => nofun)
      (fun _ _ _ _ => nofun) dispatcher sink event context principal
  have prepares : (dispatcher.prepareForSink event context principal sink).Only
      (DeliversAmong sinks) := by
    apply Program.only_ofExcept.bind
    intro _
    apply authorizes.bind
    intro _
    apply Program.only_ofExcept.bind
    intro _
    trivial
  apply prepares.bind
  intro prepared
  have enqueues : (eventOp (.enqueue prepared sink.sinkId context principal)).Only
    (DeliversAmong sinks) := EventDispatcher.only_eventOp fun _ _ _ => nofun
  apply enqueues.bind
  intro _
  exact only_deliverAttempts prepared context listed _ none

theorem only_foldM {I : Interface} {ε α β : Type} {allowed : I.Op → Prop}
    {body : β → α → Program I ε β} (items : List α)
    (step : ∀ accumulator, ∀ item ∈ items, (body accumulator item).Only allowed)
    (accumulator : β) : (Program.foldM body accumulator items).Only allowed := by
  induction items generalizing accumulator with
  | nil => trivial
  | cons item items ih =>
    apply (step accumulator item (.head _)).bind
    intro next
    exact ih (fun accumulator other member => step accumulator other (.tail _ member)) next

/-- The deliveries of the loop over the required sinks. -/
theorem required_deliveries {event : RuntimeEvent} {context : RuntimeCallContext}
    {principal : RuntimePrincipal} {rest : EventProgram Unit}
    {trace : List (Event EventInterface Raised)}
    (steps : Steps (recording (sinkAnswers may)) Unit (Program.foldM
      (fun _ sink => dispatcher.publishToSink event context principal sink) ()
      dispatcher.required, []) (rest, trace)) :
    ∀ item ∈ trace, DeliversAmong dispatcher.required item.1 := by
  have only : (Program.foldM
      (fun _ sink => dispatcher.publishToSink event context principal sink) ()
      dispatcher.required).Only (DeliversAmong dispatcher.required) := by
    apply only_foldM
    intro _ sink listed
    exact only_publishToSink event context principal listed
  obtain ⟨added, grown, allowed⟩ := only.recorded steps
  intro item member
  rw [grown] at member
  exact allowed item member

theorem audit_contained (core : ∀ error, may (.error error) → error.isCore = true)
    (regular : dispatcher.Regular) : dispatcher.AuditContained may := by
  intro event context principal outcome trace audit steps
  have published : (dispatcher.publish event context principal) =
      (Program.ofExcept (dispatcher.schemas.validate event) >>= fun _ =>
        dispatcher.publishAudit event context principal) := by
    unfold EventDispatcher.publish
    simp only [audit, if_true]
  rw [published] at steps
  have validated : Core may (Program.ofExcept (dispatcher.schemas.validate event)) :=
    Program.yields_ofExcept (regular.validators event)
  refine ⟨(validated.bind fun _ =>
    core_publishAudit core regular event context principal).ended steps, ?_⟩
  intro error raised item member
  subst raised
  rcases Steps.bind_ended steps with ⟨_, state, first, second⟩ | ⟨_, -, first⟩
  · obtain ⟨-, rfl⟩ := first.ofExcept_ended
    unfold EventDispatcher.publishAudit at second
    split at second
    · obtain ⟨-, rfl⟩ := Steps.ended_raise second
      cases member
    · rcases Steps.bind_ended second with ⟨_, middle, loop, last⟩ | ⟨_, -, loop⟩
      · have returned := (returns_optional core regular event context principal).ended last
        cases returned
      · exact required_deliveries loop item member
  · obtain ⟨-, rfl⟩ := first.ofExcept_ended
    cases member

/-! ### What the worker has offered -/

theorem Offered.later {queued : QueuedObservation} {sink : EventSink}
    {earlier later : List (Event EventInterface Raised)} (grown : earlier <+: later)
    (offered : dispatcher.Offered may queued sink earlier) :
    dispatcher.Offered may queued sink later := by
  rcases offered with ⟨item, member, delivers⟩ | ⟨error, before, after, steps, inside⟩
  · exact .inl ⟨item, grown.subset member, delivers⟩
  · exact .inr ⟨error, before, after, steps, inside.trans grown⟩

theorem eventOp_ended {op : EventOp} {before after : List (Event EventInterface Raised)}
    {answer : Except Raised op.Answer}
    (steps : Steps (recording (sinkAnswers may)) op.Answer (eventOp op, before)
      (.ofExcept answer, after)) :
    sinkAnswers may op answer ∧ after = before ++ [⟨op, answer⟩] :=
  @Steps.perform_ended EventInterface Raised (sinkAnswers may) before after op answer steps

/-- The first attempt at a delivery offers the event. -/
theorem deliverObservation_delivers {event : RuntimeEvent} {context : RuntimeCallContext}
    {sink : EventSink} {before after : List (Event EventInterface Raised)}
    {outcome : Except Raised Unit}
    (steps : Steps (recording (sinkAnswers may)) Unit
      (dispatcher.deliverObservation event context sink, before) (.ofExcept outcome, after)) :
    ∃ item ∈ after, item.1 = .deliver sink event context := by
  have some : 0 < dispatcher.policy.observabilityMaxAttempts := dispatcher.policy.positive.2.1
  obtain ⟨rest, attempts⟩ : ∃ rest,
      List.range dispatcher.policy.observabilityMaxAttempts = 0 :: rest := by
    obtain ⟨count, same⟩ := Nat.exists_eq_add_of_lt some
    rw [same, List.range_eq_range']
    exact ⟨_, List.range'_succ⟩
  unfold EventDispatcher.deliverObservation at steps
  rw [attempts] at steps
  obtain ⟨answer, state, first, second⟩ := Steps.andThen_ended steps
  obtain ⟨-, grown⟩ := eventOp_ended first
  refine ⟨⟨.deliver sink event context, answer⟩, (Steps.grows second).subset ?_, rfl⟩
  rw [grown]
  simp

theorem observe_offered (regular : dispatcher.Regular) {queued : QueuedObservation}
    {sink : EventSink} (named : Identifier.check sink.sinkId = .ok ())
    (capable : sink.capabilities.deliveryClasses.contains .observability = true)
    {before after : List (Event EventInterface Raised)} {outcome : Except Raised Unit}
    (steps : Steps (recording (sinkAnswers may)) Unit (dispatcher.observe queued sink, before)
      (.ofExcept outcome, after)) : dispatcher.Offered may queued sink after := by
  unfold EventDispatcher.observe at steps
  rw [capable] at steps
  obtain ⟨middle, state, first, second⟩ := Steps.andThen_ended steps
  have grown := Steps.grows second
  rcases Steps.bind_ended first with ⟨prepared, ready, prepares, delivers⟩ | ⟨error, -, refused⟩
  · have ended : Steps (recording (sinkAnswers may)) RuntimeEvent (dispatcher.prepareForSink
      queued.event queued.context queued.principal sink, before) (.ofExcept (.ok prepared), ready) :=
      prepares
    have visible := (core_prepareForSink regular queued.event queued.context queued.principal
      named).ended ended
    have same := visible.2 prepared rfl
    subst same
    obtain ⟨item, member, delivered⟩ := deliverObservation_delivers delivers
    exact .inl ⟨item, grown.subset member, delivered⟩
  · exact .inr ⟨error, before, state, refused, grown⟩

theorem publishObservation_offered (core : ∀ error, may (.error error) → error.isCore = true)
    (regular : dispatcher.Regular) {queued : QueuedObservation}
    {trace : List (Event EventInterface Raised)} {outcome : Except Raised Unit}
    (steps : Steps (recording (sinkAnswers may)) Unit (dispatcher.publishObservation queued, [])
      (.ofExcept outcome, trace)) :
    ∀ registration ∈ dispatcher.sinks,
      registration.sink.capabilities.deliveryClasses.contains .observability = true →
      dispatcher.Offered may queued registration.sink trace := by
  let done (registration : SinkRegistration) (trace : List (Event EventInterface Raised)) : Prop :=
    registration.sink.capabilities.deliveryClasses.contains .observability = true →
      dispatcher.Offered may queued registration.sink trace
  have kept : ∀ registration earlier later, earlier <+: later → done registration earlier →
      done registration later := by
    intro registration earlier later grown held capable
    exact Offered.later grown (held capable)
  apply Steps.foldM_ended kept dispatcher.sinks _ steps
  intro registration listed before after outcome steps
  have named := regular.named registration listed
  exact ⟨(returns_observe core regular queued named).ended steps,
    fun capable => observe_offered regular named capable steps⟩

/-- What the worker does keeps the containment, and it is at the observation it has taken. -/
structure Working (dispatcher : EventDispatcher)
    (may : Except Raised (Option EventAcknowledgement) → Prop) (state : ObservationState) :
    Prop where
  contained : state.Contained dispatcher may
  runs : ∀ queued program, state.worker = some (.serving queued program) →
    Steps (recording (sinkAnswers may)) Unit (dispatcher.publishObservation queued, [])
      (program, state.trace)

theorem ensured_current (state : ObservationState) (queue accepted : List QueuedObservation) :
    ObservationState.current { state with
      worker := state.ensured
      queue := queue
      accepted := accepted } = state.current := by
  unfold ObservationState.current ObservationState.ensured
  cases state.worker with
  | none => rfl
  | some worker => rfl

theorem serving_ensured {state : ObservationState} {queued : QueuedObservation} {program : EventProgram Unit}
    (serving : state.ensured = some (.serving queued program)) :
    state.worker = some (.serving queued program) := by
  unfold ObservationState.ensured at serving
  cases worker : state.worker with
  | none =>
    rw [worker] at serving
    cases serving
  | some current =>
    rw [worker] at serving
    exact serving

theorem moves_working (core : ∀ error, may (.error error) → error.isCore = true)
    (regular : dispatcher.Regular) {before after : ObservationState}
    (working : Working dispatcher may before)
    (moves : dispatcher.ObservationMoves may before after) : Working dispatcher may after := by
  obtain ⟨kept, offered, busy⟩ := working.contained
  cases moves with
  | @publish queued _ _ _ =>
    refine ⟨⟨?_, offered, fun _ => nofun⟩, fun queued program serving => ?_⟩
    · rw [ensured_current]
      simp only [kept, List.append_assoc]
    · exact working.runs queued program (serving_ensured serving)
  | drop _ =>
    refine ⟨⟨?_, offered, fun _ => nofun⟩, fun queued program serving => ?_⟩
    · exact kept.trans (by rw [ensured_current])
    · exact working.runs queued program (serving_ensured serving)
  | @take queued rest idle queue =>
    refine ⟨⟨?_, offered, fun _ => nofun⟩, fun other program serving => ?_⟩
    · rw [kept]
      simp only [ObservationState.current, idle, queue, List.append_nil, List.append_assoc,
        List.singleton_append]
    · cases serving
      exact .refl
  | @step queued program rest trace serving step =>
    refine ⟨⟨?_, offered, fun _ => nofun⟩, fun other later same => ?_⟩
    · rw [kept]
      simp only [ObservationState.current, serving]
    · cases same
      exact (working.runs queued program serving).tail step
  | @finish queued serving =>
    have steps := working.runs queued _ serving
    refine ⟨⟨?_, ?_, fun _ => nofun⟩, fun other later same => ?_⟩
    · rw [kept]
      simp only [ObservationState.current, serving, List.map_append, List.map_cons, List.map_nil,
        List.append_nil]
    · intro entry listed
      rcases List.mem_append.mp listed with earlier | last
      · exact offered entry earlier
      · cases List.mem_singleton.mp last
        have ended : Steps (recording (sinkAnswers may)) Unit
          (dispatcher.publishObservation queued, []) (.ofExcept (.ok ()), before.trace) := steps
        exact publishObservation_offered core regular ended
    · cases same
  | @fail queued error serving =>
    -- the worker does not die: what it serves raises nothing
    have steps : Steps (recording (sinkAnswers may)) Unit (dispatcher.publishObservation queued, [])
      (.ofExcept (.error error), before.trace) := working.runs queued _ serving
    have returned := (returns_publishObservation core regular queued).ended steps
    cases returned
  | close empty idle =>
    refine ⟨⟨?_, offered, fun waiting => absurd empty waiting⟩, fun other later same => ?_⟩
    · rw [kept, idle]
      rfl
    · cases same

theorem reachable_working (core : ∀ error, may (.error error) → error.isCore = true)
    (regular : dispatcher.Regular) {state : ObservationState}
    (reached : dispatcher.ObservationReachable may state) : Working dispatcher may state := by
  induction reached with
  | refl =>
    refine ⟨⟨rfl, fun entry listed => ?_, fun waiting => absurd rfl waiting⟩,
      fun other later same => ?_⟩
    · cases listed
    · cases same
  | tail _ moves ih => exact moves_working core regular ih moves

/-! ### Sinks that raise something else -/

section Escape

open SampleParameters

def requiredSink : EventSink := ⟨"audit-1", ⟨[.audit], [("*", "*")], .internal, true⟩⟩

theorem requiredEvent_valid :
    '.' ∈ "core.authorization.denied".toList ∧ "1" ≠ "" ∧ 1 ≤ 1 := by decide

def requiredEvent : RuntimeEvent where
  eventId := ⟨"event-1", event_checked⟩
  eventType := "core.authorization.denied"
  schemaVersion := "1"
  occurredAt := sampleTime
  runId := sampleRunId
  rootRunId := sampleRunId
  parentRunId := none
  sequence := 1
  scope := sampleScope
  correlationId := sampleContext.trace.correlationId
  causationId := none
  sensitivity := .internal
  deliveryClass := .audit
  payload := ⟨.empty, ClassifiedPayload.empty_trimmed⟩
  valid := requiredEvent_valid

/-- A dispatcher with one required sink. -/
def requiringDispatcher : EventDispatcher where
  schemas := ⟨⟨[(("core.authorization.denied", "1"), fun _ => .ok ())], by decide⟩⟩
  sinks := [⟨requiredSink, true⟩]
  authorized := true
  policy := { positive := EventDeliveryPolicy.default_positive }

theorem requiringDispatcher_regular : requiringDispatcher.Regular := by
  constructor
  · intro event
    unfold EventSchemaRegistry.validate
    split
    · exact coreOnly_core
    · rename_i validator found
      have listed := Dict.mem_of_get? found
      simp only [requiringDispatcher, List.mem_singleton, Prod.mk.injEq] at listed
      rw [listed.2]
      exact coreOnly_ok
  · intro registration listed
    rw [List.mem_singleton.mp listed]
    decide +kernel

/-- What the policy, the outbox and the process answer when all is well. -/
def calmAnswer : (op : EventOp) → Except Raised op.Answer
  | .cancelled _ => .ok false
  | .now => .ok sampleTime
  | .newToken => .ok ⟨"token-3", token_checked⟩
  | .authorize request => .ok (allowing request)
  | .deliver _ _ _ => .error (.other "RuntimeError")
  | .listPending _ => .ok []
  | .putNowait _ _ => .ok true
  | .enqueue _ _ _ _ | .markAttempt _ _ _ | .acknowledge _ | .sleep _ | .diagnose _ => .ok ()

def isDelivery : EventOp → Bool
  | .deliver _ _ _ => true
  | _ => false

theorem calmAnswer_permitted (op : EventOp)
    (answered : isDelivery op = false ∨ may (.error (.other "RuntimeError"))) :
    sinkAnswers may op (calmAnswer op) := by
  cases op with
  | deliver sink event context =>
    rcases answered with other | raises
    · cases other
    · exact raises
  | authorize request => exact coreOnly_ok
  | enqueue event sinkId context principal => exact coreOnly_ok
  | markAttempt eventId sinkId lastError => exact coreOnly_ok
  | acknowledge acknowledgement => exact coreOnly_ok
  | listPending limit => exact coreOnly_ok
  | _ => exact ⟨_, rfl⟩

/-- The event prepared for its sink, with nothing delivered. -/
def preparedRun : EventProgram RuntimeEvent × List (Event EventInterface Raised) :=
  executeWhile (recording (sinkAnswers fun _ => False)) (fun op => !isDelivery op)
    (fun op _ => calmAnswer op) 10
    (requiringDispatcher.prepareForSink requiredEvent sampleContext samplePrincipal requiredSink, [])

theorem preparedRun_steps (may : Except Raised (Option EventAcknowledgement) → Prop) :
    ∃ prepared trace, Steps (recording (sinkAnswers may)) RuntimeEvent
    (requiringDispatcher.prepareForSink requiredEvent sampleContext samplePrincipal requiredSink, [])
    (.ret prepared, trace) := by
  have steps : Steps (recording (sinkAnswers fun _ => False)) RuntimeEvent
      (requiringDispatcher.prepareForSink requiredEvent sampleContext samplePrincipal
        requiredSink, []) preparedRun := by
    apply executeWhile_steps
    intro op trace approved
    have other : isDelivery op = false := by simpa using approved
    exact calmAnswer_permitted op (.inl other)
  have returned : preparedRun.1.returned = true := by decide +kernel
  generalize preparedRun = run at steps returned
  obtain ⟨program, trace⟩ := run
  cases program with
  | ret prepared =>
    refine ⟨prepared, trace, steps.widen ?_⟩
    intro op outcome permitted
    cases op with
    | deliver sink event context => exact permitted.elim
    | _ => exact permitted
  | raise error => cases returned
  | await op resume => cases returned

/-- What a sink raises that is no `CoreError` ends the delivery. -/
theorem deliverAudit_escapes {error : Raised} (escapes : error.isCore = false)
    (raises : may (.error error)) (event : RuntimeEvent) (context : RuntimeCallContext)
    (sink : EventSink) (trace : List (Event EventInterface Raised)) :
    ∃ after, Steps (recording (sinkAnswers may)) Unit
      (requiringDispatcher.deliverAudit event context sink, trace) (.raise error, after) := by
  have attempt : Steps (recording (sinkAnswers may)) Unit
      (EventDispatcher.attemptDelivery event context sink, trace)
      (.raise error, trace ++ [⟨.deliver sink event context, .error error⟩]) :=
    .next (.error error) raises rfl .refl
  refine ⟨trace ++ [⟨.deliver sink event context, .error error⟩], (attempt.andThen _).trans ?_⟩
  cases error with
  | core detail => cases escapes
  | _ => exact .refl

theorem publish_escapes {error : Raised} (escapes : error.isCore = false)
    (raises : may (.error error)) : ∃ trace, Steps (recording (sinkAnswers may)) Unit
      (requiringDispatcher.publish requiredEvent sampleContext samplePrincipal, [])
      (.ofExcept (.error error), trace) := by
  obtain ⟨prepared, trace, prepares⟩ := preparedRun_steps may
  have enqueues : Steps (recording (sinkAnswers may)) Unit
      (eventOp (.enqueue prepared requiredSink.sinkId sampleContext samplePrincipal), trace)
      (.ret (), trace ++ [⟨.enqueue prepared requiredSink.sinkId sampleContext samplePrincipal,
        .ok ()⟩]) := .next (.ok ()) coreOnly_ok rfl .refl
  obtain ⟨after, delivers⟩ := deliverAudit_escapes escapes raises prepared sampleContext
    requiredSink (trace ++ [⟨.enqueue prepared requiredSink.sinkId sampleContext samplePrincipal,
      .ok ()⟩])
  have toSink : Steps (recording (sinkAnswers may)) Unit (requiringDispatcher.publishToSink
      requiredEvent sampleContext samplePrincipal requiredSink, []) (.raise error, after) :=
    (prepares.bind _).trans ((enqueues.bind _).trans delivers)
  have valid : requiringDispatcher.schemas.validate requiredEvent = .ok () := by decide +kernel
  have required : requiringDispatcher.required = [requiredSink] := by decide +kernel
  refine ⟨after, ?_⟩
  unfold EventDispatcher.publish EventDispatcher.publishAudit
  rw [valid, required]
  exact (toSink.bind _).bind _

end Escape

open SampleParameters in
/-- The failures of sinks are contained exactly where they are `CoreError`. -/
theorem contained_iff : SinksContained may ↔ ∀ error, may (.error error) → error.isCore = true := by
  constructor
  · intro contained error raises
    by_contra escapes
    obtain ⟨trace, steps⟩ := publish_escapes (Bool.eq_false_iff.mpr escapes) raises
    have audit := (contained requiringDispatcher requiringDispatcher_regular).1 requiredEvent
      sampleContext samplePrincipal _ trace rfl steps
    exact escapes (audit.1 error rfl)
  · intro core dispatcher regular
    exact ⟨audit_contained core regular, fun state reached =>
      (reachable_working core regular reached).contained⟩

/-! ### The death of the worker -/

section Death

open SampleParameters

theorem serves_steps {state : ObservationState} {queued : QueuedObservation}
    {program rest : EventProgram Unit} {trace : List (Event EventInterface Raised)}
    (serving : state.worker = some (.serving queued program))
    (steps : Steps (recording (sinkAnswers may)) Unit (program, state.trace) (rest, trace)) :
    Relation.ReflTransGen (dispatcher.ObservationMoves may) state { state with
      worker := some (.serving queued rest)
      trace := trace } := by
  generalize target : (rest, trace) = last at steps
  induction steps generalizing rest trace with
  | refl =>
    cases target
    rw [← serving]
  | tail _ step ih =>
    subst target
    exact (ih rfl).tail (.step rfl step)

/-- Two observation sinks. -/
def observingDispatcher : EventDispatcher where
  schemas := ⟨⟨[(("core.authorization.denied", "1"), fun _ => .ok ())], by decide⟩⟩
  sinks := [⟨⟨"observer-1", ⟨[.observability], [("*", "*")], .internal, false⟩⟩, false⟩,
    ⟨⟨"observer-2", ⟨[.observability], [("*", "*")], .internal, false⟩⟩, false⟩]
  authorized := true
  policy := { positive := EventDeliveryPolicy.default_positive }

def sampleObservation : QueuedObservation :=
  ⟨{ requiredEvent with deliveryClass := .observability }, sampleContext, samplePrincipal⟩

/-- The first sink raises RuntimeError. -/
def servedRun : EventProgram Unit × List (Event EventInterface Raised) :=
  executeWhile (recording (sinkAnswers fun _ => True)) (fun _ => true) (fun op _ => calmAnswer op)
    10 (observingDispatcher.publishObservation sampleObservation, [])

theorem servedRun_steps : Steps (recording (sinkAnswers fun _ => True)) Unit
    (observingDispatcher.publishObservation sampleObservation, []) servedRun := by
  apply executeWhile_steps
  intro op trace _
  exact calmAnswer_permitted op (.inr trivial)

/-- An exception of the first sink leaves the second sink without the observation, and the next
observation without a worker. -/
theorem worker_dies : ∃ state,
    observingDispatcher.ObservationReachable (fun _ => True) state ∧
    state.queue = [sampleObservation] ∧ state.worker = none := by
  have raised : servedRun.1.raised? = some (.other "RuntimeError") := by decide +kernel
  have steps := servedRun_steps
  generalize servedRun = run at steps raised
  obtain ⟨program, trace⟩ := run
  have raised : program = .raise (.other "RuntimeError") := Program.raised?_eq_some.mp raised
  subst raised
  have valid : observingDispatcher.schemas.validate sampleObservation.event = .ok () := by
    decide +kernel
  let first : ObservationState := ⟨[sampleObservation], some .idle, [], [sampleObservation], []⟩
  let second : ObservationState := ⟨[sampleObservation, sampleObservation], some .idle, [],
    [sampleObservation, sampleObservation], []⟩
  let taken : ObservationState := { second with
    worker := some (.serving sampleObservation
      (observingDispatcher.publishObservation sampleObservation))
    queue := [sampleObservation] }
  have one : observingDispatcher.ObservationReachable (fun _ => True) first :=
    .single (.publish valid rfl (by decide))
  have two : observingDispatcher.ObservationReachable (fun _ => True) second :=
    one.tail (.publish valid rfl (by decide))
  have three : observingDispatcher.ObservationReachable (fun _ => True) taken :=
    two.tail (.take rfl rfl)
  have serving : taken.worker = some (.serving sampleObservation
    (observingDispatcher.publishObservation sampleObservation)) := rfl
  have four := three.trans (serves_steps serving steps)
  exact ⟨_, four.tail (.fail rfl), rfl, rfl⟩

end Death

end SinkContainment

end CongeriesCore
