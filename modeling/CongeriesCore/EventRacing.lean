import CongeriesCore.EventCreation
import CongeriesCore.SampleParameters
import Mathlib.Logic.Relation

/-! # Events that are created at the same time

`create_event` looks an identity up, awaits a sequence number and records the event it has made.
Other calls may run while it waits. -/

namespace CongeriesCore

/-- The data of an event, as arguments of `create_event`. -/
def RuntimeEvent.asked (event : RuntimeEvent) : EventFields where
  eventType := event.eventType
  schemaVersion := event.schemaVersion
  runId := event.runId
  rootRunId := event.rootRunId
  parentRunId := event.parentRunId
  scope := event.scope
  trace := ⟨event.correlationId, event.causationId⟩
  sensitivity := event.sensitivity
  deliveryClass := event.deliveryClass
  payload := event.payload

/-- The comparison of `create_event`, between the data of two calls. -/
def EventFields.matchedBy (existing requested : EventFields) : Bool :=
  existing.eventType == requested.eventType &&
    existing.schemaVersion == requested.schemaVersion && existing.runId == requested.runId &&
    existing.rootRunId == requested.rootRunId && existing.parentRunId == requested.parentRunId &&
    existing.scope == requested.scope &&
    existing.trace.correlationId == requested.trace.correlationId &&
    existing.trace.causationId == requested.trace.causationId &&
    existing.sensitivity == requested.sensitivity &&
    existing.deliveryClass == requested.deliveryClass && existing.payload.equals requested.payload

/-- The logical data of two calls are equal. -/
def EventFields.Agree (first second : EventFields) : Prop :=
  Relation.EqvGen (fun existing requested => existing.matchedBy requested = true) first second

theorem RuntimeEvent.agrees_eq (event : RuntimeEvent) (fields : EventFields) :
    event.agrees fields = event.asked.matchedBy fields := rfl

/-- A call of `create_event` waits for the sequence number, since the clock was read, or has
ended. -/
inductive CreationStage
  | allocating (occurredAt : DateTime)
  | ended (outcome : Except Raised RuntimeEvent)

structure Creation where
  fields : EventFields
  eventId : Option EventId
  stage : CreationStage

/-- What the dispatcher has created, and the calls that have been made. -/
structure CreationState where
  created : Dict EventId RuntimeEvent
  calls : List Creation

inductive CreationMove
  | begin (fields : EventFields) (eventId : Option EventId) (now : DateTime)
  | finish (thread : ℕ) (fresh : EventId) (sequence : Except Raised ℤ)

namespace EventDispatcher

/-- `create_event` up to the awaited sequence number. -/
def beginCreation (created : Dict EventId RuntimeEvent) (fields : EventFields)
    (eventId : Option EventId) (now : DateTime) : CreationStage :=
  match eventId.bind created.get? with
  | some existing =>
    .ended (if existing.agrees fields then .ok existing else .error identityConflict)
  | none => .allocating now

/-- `create_event` from the awaited sequence number on. -/
def finishCreation (dispatcher : EventDispatcher) (created : Dict EventId RuntimeEvent)
    (fields : EventFields) (eventId : Option EventId) (allocation : EventAllocation) :
    Except Raised RuntimeEvent × Dict EventId RuntimeEvent :=
  match dispatcher.validEvent fields (eventId.getD allocation.fresh) allocation with
  | .error error => (.error error, created)
  | .ok event => (.ok event, if eventId.isSome then created.set event.eventId event else created)

theorem newEvent_asked {fields : EventFields} {id : EventId} {allocation : EventAllocation}
    {event : RuntimeEvent} (made : newEvent fields id allocation = .ok event) :
    event.eventId = id ∧ event.asked = fields ∧ allocation.sequence = .ok (event.sequence : ℤ) := by
  obtain ⟨sequence, given, rest⟩ := bind_ok made
  split at rest
  · cases rest
  · rename_i checked
    cases rest
    have positive := (RuntimeEvent.checkEnvelope_ok checked).2.2
    refine ⟨rfl, rfl, ?_⟩
    rw [given]
    dsimp only
    congr 1
    omega

/-- One call after the other, the two parts are `create_event`. -/
theorem createEvent_eq (dispatcher : EventDispatcher) (created : Dict EventId RuntimeEvent)
    (fields : EventFields) (eventId : Option EventId) (allocation : EventAllocation) :
    dispatcher.createEvent created fields eventId allocation =
      match beginCreation created fields eventId allocation.now with
      | .ended outcome => (outcome, created)
      | .allocating _ => dispatcher.finishCreation created fields eventId allocation := by
  unfold createEvent beginCreation finishCreation
  cases eventId with
  | none =>
    cases made : dispatcher.validEvent fields allocation.fresh allocation with
    | error error => simp [made]
    | ok event => simp [made]
  | some id =>
    cases found : created.get? id with
    | some existing =>
      by_cases agrees : existing.agrees fields = true
      · simp [found, agrees]
      · simp [found, agrees]
    | none =>
      cases made : dispatcher.validEvent fields id allocation with
      | error error => simp [found, made]
      | ok event => simp [found, made, (newEvent_asked (newEvent_of_valid made)).1]

end EventDispatcher

open EventDispatcher

def CreationState.step (dispatcher : EventDispatcher) (state : CreationState) :
    CreationMove → Option CreationState
  | .begin fields eventId now => some {
      state with
      calls := state.calls ++ [⟨fields, eventId, beginCreation state.created fields eventId now⟩] }
  | .finish thread fresh sequence =>
    match state.calls[thread]? with
    | some ⟨fields, eventId, .allocating now⟩ =>
      let result := dispatcher.finishCreation state.created fields eventId ⟨fresh, now, sequence⟩
      some ⟨result.2, state.calls.set thread ⟨fields, eventId, .ended result.1⟩⟩
    | _ => none

/-- The move records an event under an identity under which an event has been recorded while the
call waited. -/
def CreationState.Overwrites (dispatcher : EventDispatcher) (state : CreationState) :
    CreationMove → Prop
  | .begin _ _ _ => False
  | .finish thread fresh sequence => ∃ fields id now event existing,
      state.calls[thread]? = some ⟨fields, some id, .allocating now⟩ ∧
        dispatcher.validEvent fields id ⟨fresh, now, sequence⟩ = .ok event ∧
        state.created.get? id = some existing

def CreationState.Quiet (dispatcher : EventDispatcher) (state : CreationState)
    (move : CreationMove) : Prop := ¬state.Overwrites dispatcher move

/-- The states that a dispatcher comes to by moves that are permitted. -/
inductive Creations (dispatcher : EventDispatcher)
    (permitted : CreationState → CreationMove → Prop) : CreationState → Prop
  | initial : Creations dispatcher permitted ⟨.empty, []⟩
  | move {before after : CreationState} {move : CreationMove} :
      Creations dispatcher permitted before → permitted before move →
        before.step dispatcher move = some after → Creations dispatcher permitted after

/-- The call has failed by itself: it got no sequence number, or its event was not valid. -/
def Creation.Failed (dispatcher : EventDispatcher) (creation : Creation) : Prop :=
  ∃ id allocation error, creation.stage = .ended (.error error) ∧
    dispatcher.validEvent creation.fields id allocation = .error error

def Creation.Returned (creation : Creation) (id : EventId) (event : RuntimeEvent) : Prop :=
  creation.eventId = some id ∧ creation.stage = .ended (.ok event)

def Creation.Ended (creation : Creation) (id : EventId) : Prop :=
  creation.eventId = some id ∧ ∃ outcome, creation.stage = .ended outcome

/-- Calls under one identity whose data agree return the same event; of calls whose data differ one
is refused, unless one has failed by itself. -/
structure CreationState.Idempotent (dispatcher : EventDispatcher) (state : CreationState) :
    Prop where
  identical : ∀ first ∈ state.calls, ∀ second ∈ state.calls, ∀ id event other,
    first.Returned id event → second.Returned id other → first.fields.Agree second.fields →
      event = other
  refused : ∀ first ∈ state.calls, ∀ second ∈ state.calls, ∀ id, first.Ended id →
    second.Ended id → ¬first.fields.Agree second.fields → ∃ creation, (creation = first ∨
      creation = second) ∧ (creation.stage = .ended (.error identityConflict) ∨
        creation.Failed dispatcher)

namespace EventRacing

variable {dispatcher : EventDispatcher} {permitted : CreationState → CreationMove → Prop}
  {state after : CreationState} {created later : Dict EventId RuntimeEvent} {creation : Creation}
  {fields : EventFields} {eventId : Option EventId} {allocation : EventAllocation}

theorem finishCreation_cases (dispatcher : EventDispatcher) (created : Dict EventId RuntimeEvent)
    (fields : EventFields) (eventId : Option EventId) (allocation : EventAllocation) :
    (∃ error, dispatcher.finishCreation created fields eventId allocation =
        (.error error, created) ∧
      dispatcher.validEvent fields (eventId.getD allocation.fresh) allocation = .error error) ∨
    ∃ event, dispatcher.finishCreation created fields eventId allocation =
        (.ok event, if eventId.isSome then created.set event.eventId event else created) ∧
      dispatcher.validEvent fields (eventId.getD allocation.fresh) allocation = .ok event := by
  unfold finishCreation
  cases made : dispatcher.validEvent fields (eventId.getD allocation.fresh) allocation with
  | error error => exact .inl ⟨error, rfl, rfl⟩
  | ok event => exact .inr ⟨event, rfl, rfl⟩

/-- A call that goes on had waited, and ends. -/
theorem step_finish {thread : ℕ} {fresh : EventId} {sequence : Except Raised ℤ}
    (moved : state.step dispatcher (.finish thread fresh sequence) = some after) :
    ∃ fields eventId now outcome created,
      state.calls[thread]? = some ⟨fields, eventId, .allocating now⟩ ∧
      dispatcher.finishCreation state.created fields eventId ⟨fresh, now, sequence⟩ =
        (outcome, created) ∧
      after = ⟨created, state.calls.set thread ⟨fields, eventId, .ended outcome⟩⟩ := by
  simp only [CreationState.step] at moved
  split at moved
  · rename_i fields eventId now found
    cases moved
    exact ⟨fields, eventId, now, _, _, found, rfl, rfl⟩
  · cases moved

/-- A call that has ended is not the one that goes on. -/
theorem mem_set_of_ended {calls : List Creation} {thread : ℕ} {now : DateTime}
    {outcome : Except Raised RuntimeEvent} (new : Creation)
    (found : calls[thread]? = some ⟨fields, eventId, .allocating now⟩) (member : creation ∈ calls)
    (ended : creation.stage = .ended outcome) : creation ∈ calls.set thread new := by
  obtain ⟨position, at_⟩ := List.mem_iff_getElem?.mp member
  have other : thread ≠ position := by
    intro same
    rw [same, at_] at found
    cases found
    cases ended
  apply List.mem_iff_getElem?.mpr
  exact ⟨position, by rw [List.getElem?_set_ne other, at_]⟩

/-! ## Nothing is overwritten -/

/-- What a call that has ended stands for, as long as nothing is overwritten. -/
def Settled (dispatcher : EventDispatcher) (created : Dict EventId RuntimeEvent)
    (creation : Creation) : Prop :=
  ∀ id, creation.eventId = some id →
    (∀ event, creation.stage = .ended (.ok event) →
      created.get? id = some event ∧ event.asked.Agree creation.fields) ∧
    ∀ error, creation.stage = .ended (.error error) →
      error = identityConflict ∨ creation.Failed dispatcher

theorem Settled.mono (settled : Settled dispatcher created creation)
    (kept : ∀ id event, created.get? id = some event → later.get? id = some event) :
    Settled dispatcher later creation := by
  intro id named
  obtain ⟨returned, raised⟩ := settled id named
  refine ⟨fun event ended => ?_, raised⟩
  obtain ⟨found, agree⟩ := returned event ended
  exact ⟨kept id event found, agree⟩

theorem settled_begin (now : DateTime) :
    Settled dispatcher created ⟨fields, eventId, beginCreation created fields eventId now⟩ := by
  intro id named
  have named : eventId = some id := named
  subst named
  cases found : created.get? id with
  | none =>
    have stage : beginCreation created fields (some id) now = .allocating now := by
      simp [beginCreation, found]
    rw [stage]
    constructor
    · intro event ended
      cases ended
    · intro error ended
      cases ended
  | some existing =>
    by_cases agrees : existing.agrees fields = true
    · have stage : beginCreation created fields (some id) now = .ended (.ok existing) := by
        simp [beginCreation, found, agrees]
      rw [stage]
      constructor
      · intro event ended
        cases ended
        rw [RuntimeEvent.agrees_eq] at agrees
        exact ⟨rfl, .rel _ _ agrees⟩
      · intro error ended
        cases ended
    · have stage : beginCreation created fields (some id) now = .ended (.error identityConflict) := by
        simp [beginCreation, found, agrees]
      rw [stage]
      constructor
      · intro event ended
        cases ended
      · intro error ended
        cases ended
        exact .inl rfl

/-- A call that records under an identity with no event keeps what has been recorded. -/
theorem settled_finish {outcome : Except Raised RuntimeEvent}
    (free : ∀ id event, eventId = some id → dispatcher.validEvent fields id allocation = .ok event →
      created.get? id = none)
    (finished : dispatcher.finishCreation created fields eventId allocation = (outcome, later)) :
    Settled dispatcher later ⟨fields, eventId, .ended outcome⟩ ∧
      ∀ id event, created.get? id = some event → later.get? id = some event := by
  rcases finishCreation_cases dispatcher created fields eventId allocation with
    ⟨error, result, failed⟩ | ⟨event, result, made⟩
  · rw [finished] at result
    cases result
    have own : Creation.Failed dispatcher ⟨fields, eventId, .ended (.error error)⟩ :=
      ⟨_, allocation, error, rfl, failed⟩
    refine ⟨fun id named => ⟨fun event ended => ?_, fun _ _ => .inr own⟩, fun _ _ found => found⟩
    cases ended
  · rw [finished] at result
    cases result
    cases eventId with
    | none =>
      refine ⟨fun id named => ?_, fun _ _ found => found⟩
      cases named
    | some own =>
      obtain ⟨named, asked, -⟩ := newEvent_asked (newEvent_of_valid made)
      have named : event.eventId = own := named
      have absent := free own event rfl made
      rw [named]
      constructor
      · intro id same
        cases same
        constructor
        · intro other ended
          cases ended
          rw [asked]
          exact ⟨by simp, .refl _⟩
        · intro error ended
          cases ended
      · intro id other found
        have distinct : own ≠ id := by
          intro same
          rw [same, found] at absent
          cases absent
        simpa [Dict.get?_set, distinct] using found

theorem settled_of_quiet (quiet : Creations dispatcher (CreationState.Quiet dispatcher) state) :
    ∀ creation ∈ state.calls, Settled dispatcher state.created creation := by
  induction quiet with
  | initial =>
    intro creation member
    cases member
  | @move before after move _ quiet moved ih =>
    cases move with
    | begin fields eventId now =>
      cases moved
      intro creation member
      rcases List.mem_append.mp member with earlier | new
      · exact ih creation earlier
      · rw [List.mem_singleton.mp new]
        exact settled_begin now
    | finish thread fresh sequence =>
      obtain ⟨fields, eventId, now, outcome, created, found, finished, rfl⟩ := step_finish moved
      have free : ∀ id event, eventId = some id →
          dispatcher.validEvent fields id ⟨fresh, now, sequence⟩ = .ok event →
            before.created.get? id = none := by
        intro id event named made
        cases taken : before.created.get? id with
        | none => rfl
        | some existing =>
          subst named
          exact absurd ⟨fields, id, now, event, existing, found, made, taken⟩ quiet
      obtain ⟨settled, kept⟩ := settled_finish free finished
      intro creation member
      rcases List.mem_or_eq_of_mem_set member with earlier | rfl
      · exact (ih creation earlier).mono kept
      · exact settled

/-- What the dispatcher has recorded, one of its calls has returned. -/
theorem recorded_returned (reached : Creations dispatcher permitted state) :
    ∀ id event, state.created.get? id = some event →
      ∃ creation ∈ state.calls, creation.Returned id event := by
  induction reached with
  | initial =>
    intro id event found
    cases found
  | @move before after move _ _ moved ih =>
    cases move with
    | begin fields eventId now =>
      cases moved
      intro id event found
      obtain ⟨creation, member, returned⟩ := ih id event found
      exact ⟨creation, List.mem_append_left _ member, returned⟩
    | finish thread fresh sequence =>
      obtain ⟨fields, eventId, now, outcome, created, found, finished, rfl⟩ := step_finish moved
      have earlier : ∀ id event, before.created.get? id = some event →
          ∃ creation ∈ before.calls.set thread ⟨fields, eventId, .ended outcome⟩,
            creation.Returned id event := by
        intro id event recorded
        obtain ⟨creation, member, returned⟩ := ih id event recorded
        exact ⟨creation, mem_set_of_ended _ found member returned.2, returned⟩
      rcases finishCreation_cases dispatcher before.created fields eventId
        ⟨fresh, now, sequence⟩ with ⟨error, result, -⟩ | ⟨made, result, valid⟩
      · rw [finished] at result
        cases result
        exact earlier
      · rw [finished] at result
        cases result
        cases eventId with
        | none => exact earlier
        | some own =>
          have named : made.eventId = own := (newEvent_asked (newEvent_of_valid valid)).1
          rw [named]
          intro id event recorded
          by_cases same : own = id
          · subst same
            have recorded : (before.created.set own made).get? own = some event := recorded
            rw [Dict.get?_set_self] at recorded
            cases recorded
            exact ⟨_, List.mem_set (List.getElem?_eq_some_iff.mp found).1 _, rfl, rfl⟩
          · have recorded : (before.created.set own made).get? id = some event := recorded
            rw [Dict.get?_set_of_ne _ same] at recorded
            exact earlier id event recorded

/-- Where the store does not give the number of the recorded event again, a call that records over
it makes the calls under the identity differ. -/
theorem not_idempotent_of_overwrites {fields : EventFields} {id : EventId} {now : DateTime}
    {thread : ℕ} {fresh : EventId} {number : ℤ} {existing event : RuntimeEvent}
    (reached : Creations dispatcher permitted state)
    (found : state.calls[thread]? = some ⟨fields, some id, .allocating now⟩)
    (valid : dispatcher.validEvent fields id ⟨fresh, now, .ok number⟩ = .ok event)
    (recorded : state.created.get? id = some existing)
    (numbered : existing.runId = fields.runId → (existing.sequence : ℤ) ≠ number)
    (moved : state.step dispatcher (.finish thread fresh (.ok number)) = some after) :
    ¬after.Idempotent dispatcher := by
  intro idempotent
  obtain ⟨creation, member, returned⟩ := recorded_returned reached id existing recorded
  obtain ⟨own, eventId, time, outcome, created, again, finished, rfl⟩ := step_finish moved
  rw [found] at again
  cases again
  obtain ⟨-, asked, given⟩ := newEvent_asked (newEvent_of_valid valid)
  have ended : outcome = .ok event := by
    rcases finishCreation_cases dispatcher state.created fields (some id)
      ⟨fresh, now, .ok number⟩ with ⟨error, -, failed⟩ | ⟨made, result, again⟩
    · rw [Option.getD_some, valid] at failed
      cases failed
    · rw [Option.getD_some, valid] at again
      cases again
      rw [finished] at result
      cases result
      rfl
  subst ended
  have kept := mem_set_of_ended ⟨fields, some id, .ended (.ok event)⟩ found member returned.2
  have new : (⟨fields, some id, .ended (.ok event)⟩ : Creation) ∈
      state.calls.set thread ⟨fields, some id, .ended (.ok event)⟩ :=
    List.mem_set (List.getElem?_eq_some_iff.mp found).1 _
  by_cases agree : creation.fields.Agree fields
  · have same := idempotent.identical _ kept _ new id existing event returned ⟨rfl, rfl⟩ agree
    subst same
    cases given
    exact numbered (congrArg EventFields.runId asked) rfl
  · obtain ⟨refused, either, conflict⟩ := idempotent.refused _ kept _ new id
      ⟨returned.1, _, returned.2⟩ ⟨rfl, _, rfl⟩ agree
    have accepted : ∃ other, refused.stage = .ended (.ok other) := by
      rcases either with rfl | rfl
      · exact ⟨existing, returned.2⟩
      · exact ⟨event, rfl⟩
    obtain ⟨other, accepted⟩ := accepted
    rcases conflict with conflict | ⟨_, _, _, failed, -⟩
    · rw [accepted] at conflict
      cases conflict
    · rw [accepted] at failed
      cases failed

section Samples

open SampleParameters

def sampleDispatcher : EventDispatcher where
  schemas := ⟨Dict.empty.set ("core.authorization.denied", "1") fun _ => .ok ()⟩
  sinks := []
  authorized := true
  policy := { positive := EventDeliveryPolicy.default_positive }

def sampleAsked : EventFields where
  eventType := "core.authorization.denied"
  schemaVersion := "1"
  runId := sampleRunId
  rootRunId := sampleRunId
  parentRunId := none
  scope := sampleScope
  trace := sampleContext.trace
  sensitivity := .internal
  deliveryClass := .audit
  payload := ⟨.empty, ClassifiedPayload.empty_trimmed⟩

def sampleId : EventId := ⟨"event-1", event_checked⟩

def sampleBegin : CreationMove := .begin sampleAsked (some sampleId) sampleTime

def sampleFinish (thread : ℕ) (number : ℤ) : CreationMove := .finish thread sampleId (.ok number)

/-- The event that is made with this number. -/
def sampleMade (number : ℕ) (positive : 1 ≤ number) : RuntimeEvent where
  eventId := sampleId
  eventType := "core.authorization.denied"
  schemaVersion := "1"
  occurredAt := sampleTime
  runId := sampleRunId
  rootRunId := sampleRunId
  parentRunId := none
  sequence := number
  scope := sampleScope
  correlationId := sampleContext.trace.correlationId
  causationId := sampleContext.trace.causationId
  sensitivity := .internal
  deliveryClass := .audit
  payload := ⟨.empty, ClassifiedPayload.empty_trimmed⟩
  valid := ⟨by decide, by decide, positive⟩

def sampleWaiting : Creation := ⟨sampleAsked, some sampleId, .allocating sampleTime⟩

def sampleEnded (event : RuntimeEvent) : Creation :=
  ⟨sampleAsked, some sampleId, .ended (.ok event)⟩

def sampleFirst : RuntimeEvent := sampleMade 1 (by decide)

def sampleSecond : RuntimeEvent := sampleMade 2 (by decide)

theorem validEvent_first : sampleDispatcher.validEvent sampleAsked sampleId
    ⟨sampleId, sampleTime, .ok 1⟩ = .ok sampleFirst := by
  rfl

theorem validEvent_second : sampleDispatcher.validEvent sampleAsked sampleId
    ⟨sampleId, sampleTime, .ok 2⟩ = .ok sampleSecond := by
  rfl

theorem sampleBegin_quiet (state : CreationState) :
    state.Quiet sampleDispatcher sampleBegin := fun overwrites => overwrites

theorem sampleBegin_step (calls : List Creation) :
    CreationState.step sampleDispatcher ⟨.empty, calls⟩ sampleBegin =
      some ⟨.empty, calls ++ [sampleWaiting]⟩ := rfl

theorem sampleFinish_step (later : List Creation) :
    CreationState.step sampleDispatcher ⟨.empty, sampleWaiting :: later⟩ (sampleFinish 0 1) =
      some ⟨Dict.empty.set sampleId sampleFirst, sampleEnded sampleFirst :: later⟩ := by
  have first := validEvent_first
  simp only [CreationState.step, sampleFinish, List.getElem?_cons_zero, sampleWaiting,
    finishCreation, Option.getD_some, first]
  rfl

end Samples

end EventRacing

end CongeriesCore
