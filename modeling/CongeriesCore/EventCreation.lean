import CongeriesCore.EventDispatcher
import CongeriesCore.EventDocuments

/-! # Creation of events

`EventDispatcher.create_event`. Under an identity that was asked for, the dispatcher hands back
the event it has created under it, provided that the Event data are the same. -/

namespace CongeriesCore

/-- The arguments of `create_event` besides the identity. -/
structure EventFields where
  eventType : String
  schemaVersion : String
  runId : RunId
  rootRunId : RunId
  parentRunId : Option RunId
  scope : ScopeRef
  trace : TraceContext
  sensitivity : Sensitivity
  deliveryClass : DeliveryClass
  payload : ClassifiedPayload

/-- `==` of payloads. -/
def ClassifiedPayload.equals (existing requested : ClassifiedPayload) : Bool :=
  existing.fields.entries.length == requested.fields.entries.length &&
    requested.fields.entries.all fun field =>
      (existing.fields.get? field.1).any fun other =>
        other.value.equals field.2.value && other.sensitivity == field.2.sensitivity

/-- A payload whose values equal themselves equals itself. -/
theorem ClassifiedPayload.equals_self {payload : ClassifiedPayload}
    (each : ∀ field ∈ payload.fields.entries, field.2.value.equals field.2.value = true) :
    payload.equals payload = true := by
  unfold ClassifiedPayload.equals
  rw [beq_self_eq_true, Bool.true_and, List.all_eq_true]
  intro field member
  have found : payload.fields.get? field.1 = some field.2 := Dict.get?_of_mem member
  rw [found]
  simp [each field member]

/-- Whether an event that has been created holds the Event data asked for. -/
def RuntimeEvent.agrees (existing : RuntimeEvent) (fields : EventFields) : Bool :=
  existing.eventType == fields.eventType && existing.schemaVersion == fields.schemaVersion &&
    existing.runId == fields.runId && existing.rootRunId == fields.rootRunId &&
    existing.parentRunId == fields.parentRunId && existing.scope == fields.scope &&
    existing.correlationId == fields.trace.correlationId &&
    existing.causationId == fields.trace.causationId &&
    existing.sensitivity == fields.sensitivity &&
    existing.deliveryClass == fields.deliveryClass && existing.payload.equals fields.payload

/-- What creating an event reads: a new identity, the clock and the sequence store. -/
structure EventAllocation where
  fresh : EventId
  now : DateTime
  sequence : Except Raised ℤ

namespace EventDispatcher

def identityConflict : Raised :=
  coreError .conflict "event_identity_conflict"
    "event identity was reused with different Event data"

/-- The constructor call in `create_event`. -/
def newEvent (fields : EventFields) (eventId : EventId) (allocation : EventAllocation) :
    Except Raised RuntimeEvent := do
  let sequence ← allocation.sequence
  match checked : RuntimeEvent.checkEnvelope fields.eventType fields.schemaVersion sequence with
  | .error error => .error error
  | .ok () => .ok {
      eventId
      eventType := fields.eventType
      schemaVersion := fields.schemaVersion
      occurredAt := allocation.now
      runId := fields.runId
      rootRunId := fields.rootRunId
      parentRunId := fields.parentRunId
      sequence := sequence.toNat
      scope := fields.scope
      correlationId := fields.trace.correlationId
      causationId := fields.trace.causationId
      sensitivity := fields.sensitivity
      deliveryClass := fields.deliveryClass
      payload := fields.payload
      valid := RuntimeEvent.checkEnvelope_ok checked }

/-- A new event, which the schema registry has accepted. -/
def validEvent (dispatcher : EventDispatcher) (fields : EventFields) (eventId : EventId)
    (allocation : EventAllocation) : Except Raised RuntimeEvent := do
  let event ← newEvent fields eventId allocation
  dispatcher.schemas.validate event
  return event

/-- `create_event`, over the events created so far under an identity that was asked for. -/
def createEvent (dispatcher : EventDispatcher) (created : Dict EventId RuntimeEvent)
    (fields : EventFields) (eventId : Option EventId) (allocation : EventAllocation) :
    Except Raised RuntimeEvent × Dict EventId RuntimeEvent :=
  match eventId with
  | none => (dispatcher.validEvent fields allocation.fresh allocation, created)
  | some id =>
    match created.get? id with
    | some existing =>
      if existing.agrees fields then (.ok existing, created) else (.error identityConflict, created)
    | none =>
      match dispatcher.validEvent fields id allocation with
      | .error error => (.error error, created)
      | .ok event => (.ok event, created.set id event)

theorem newEvent_agrees {fields : EventFields} {id : EventId} {allocation : EventAllocation}
    {event : RuntimeEvent} (self : fields.payload.equals fields.payload = true)
    (made : newEvent fields id allocation = .ok event) :
    event.eventId = id ∧ event.agrees fields = true ∧ event.deliveryClass = fields.deliveryClass := by
  obtain ⟨sequence, -, rest⟩ := bind_ok made
  split at rest
  · cases rest
  · cases rest
    exact ⟨rfl, by simp [RuntimeEvent.agrees, self], rfl⟩

theorem newEvent_of_valid {dispatcher : EventDispatcher} {fields : EventFields} {id : EventId}
    {allocation : EventAllocation} {event : RuntimeEvent}
    (made : dispatcher.validEvent fields id allocation = .ok event) :
    newEvent fields id allocation = .ok event := by
  obtain ⟨other, new, rest⟩ := bind_ok made
  obtain ⟨_, -, same⟩ := bind_ok rest
  cases same
  exact new

theorem validEvent_agrees {dispatcher : EventDispatcher} {fields : EventFields} {id : EventId}
    {allocation : EventAllocation} {event : RuntimeEvent}
    (self : fields.payload.equals fields.payload = true)
    (made : dispatcher.validEvent fields id allocation = .ok event) :
    event.eventId = id ∧ event.agrees fields = true ∧ event.deliveryClass = fields.deliveryClass :=
  newEvent_agrees self (newEvent_of_valid made)

/-- What a sink sees of an event has the digest of its data, whenever the event was created. -/
theorem newEvent_digest [Sha256] {fields : EventFields} {first second : EventId}
    {one two : EventAllocation} {event other : RuntimeEvent}
    (made : newEvent fields first one = .ok event) (again : newEvent fields second two = .ok other)
    (level : Sensitivity) :
    (redact event level).payloadDigest = (redact other level).payloadDigest := by
  obtain ⟨_, -, made⟩ := bind_ok made
  obtain ⟨_, -, again⟩ := bind_ok again
  split at made
  · cases made
  · split at again
    · cases again
    · cases made
      cases again
      rfl

end EventDispatcher

end CongeriesCore
