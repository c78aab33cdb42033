import CongeriesCore.EventCreation
import CongeriesCore.EventIdentity
import CongeriesCore.PluginSystem

/-! # Plugin lifecycle events

`RuntimePluginEventPublisher` over an `EventDispatcher`. An audit event takes its identity from
the operation, its type and its outcome. -/

namespace CongeriesCore

open AsyncProgram

namespace PluginEventKind

def eventType : PluginEventKind → String
  | .requested => "core.plugin.lifecycle_transition_requested"
  | .changed => "core.plugin.lifecycle_changed"
  | .failed _ => "core.plugin.lifecycle_failed"

def deliveryClass : PluginEventKind → DeliveryClass
  | .requested | .failed _ => .audit
  | .changed => .observability

def outcome : PluginEventKind → String
  | .requested => "requested"
  | .changed => "changed"
  | .failed _ => "failed"

def errorCode : PluginEventKind → List (String × JsonValue)
  | .failed errorCode => [("error_code", .str errorCode)]
  | _ => []

end PluginEventKind

namespace PluginEvent

variable (event : PluginEvent)

def values : List (String × JsonValue) :=
  [("plugin_id", .str event.plugin.name), ("plugin_version", .str event.plugin.version.text),
    ("from_state", .str event.fromState), ("to_state", .str event.toState.value),
    ("operation_id", .str event.operationId),
    ("active_lease_count", .int event.activeLeaseCount),
    ("outcome", .str event.kind.outcome)] ++ event.kind.errorCode

/-- `_payload`: every field is INTERNAL. -/
def entries : List (String × PayloadField) :=
  event.values.map fun field => (field.1, ⟨field.2, .internal⟩)

/-- The names of the fields of every event. -/
def keys : List String := ["plugin_id", "plugin_version", "from_state", "to_state", "operation_id",
  "active_lease_count", "outcome"]

theorem entries_keys : event.entries.map Prod.fst = keys ∨
    event.entries.map Prod.fst = keys ++ ["error_code"] := by
  simp only [entries, values]
  cases event.kind with
  | requested => exact .inl rfl
  | changed => exact .inl rfl
  | failed errorCode => exact .inr rfl

theorem entries_nodup : (event.entries.map Prod.fst).Nodup := by
  rcases event.entries_keys with same | same
  · rw [same]
    decide
  · rw [same]
    decide

theorem entries_trimmed : event.entries.all (fun field => isTrimmed field.1) = true := by
  have trimmed : (event.entries.map Prod.fst).all isTrimmed = true := by
    rcases event.entries_keys with same | same
    · rw [same]
      decide +kernel
    · rw [same]
      decide +kernel
  simpa using trimmed

def payload : ClassifiedPayload := ⟨⟨event.entries, event.entries_nodup⟩, event.entries_trimmed⟩

def fields : EventFields where
  eventType := event.kind.eventType
  schemaVersion := "1"
  runId := event.context.runId
  rootRunId := event.context.rootRunId
  parentRunId := event.context.parentRunId
  scope := event.context.scope
  trace := event.context.trace
  sensitivity := .internal
  deliveryClass := event.kind.deliveryClass
  payload := event.payload

/-- `RuntimePrincipal.core(CorePrincipalKind.RUN, PrincipalId(context.run_id.value))`. -/
def principal : RuntimePrincipal :=
  .core .run ⟨event.context.runId.value, event.context.runId.checked⟩

section Identity

variable [Sha256]

/-- `_audit_event_id`. -/
def auditText : String :=
  "plugin-audit:" ++ (Sha256.text (String.intercalate "\x1f" [event.kind.eventType,
    event.plugin.name, event.plugin.version.text, event.operationId, event.kind.outcome])).value

/-- The identity is always a valid one. -/
theorem auditText_checked :
    Identifier.check event.auditText = .ok () := by
  exact labelled_checked (by decide) (by simp [isPySpace]) _

/-- Audit events have the identity of their operation; other events get a new one. -/
def eventId : Except Raised (Option EventId) :=
  match event.kind.deliveryClass with
  | .audit => do return some (← Identifier.make .event event.auditText)
  | .observability => .ok none

end Identity

end PluginEvent

/-! ### The publisher -/

/-- The dispatcher and its outbox, with what has been published and how it ended. -/
structure PublisherState where
  created : Dict EventId RuntimeEvent
  world : EventWorld
  published : List (PluginEvent × Except Raised Unit)

def PublisherState.empty : PublisherState := ⟨.empty, .empty, []⟩

section Publisher

variable [Sha256]

/-- What `dispatcher.publish` makes of an event that has been created, or not. -/
def EventDispatcher.Publishes (dispatcher : EventDispatcher) (event : PluginEvent)
    (created : Except Raised RuntimeEvent) (before : EventWorld) (outcome : Except Raised Unit)
    (after : EventWorld) : Prop :=
  match created with
  | .error error => outcome = .error error ∧ after = before
  | .ok runtimeEvent => Steps publicationEnvironment Unit
      (dispatcher.publish runtimeEvent event.context event.principal, before)
      (.ofExcept outcome, after)

/-- `RuntimePluginEventPublisher._publish`. -/
def EventDispatcher.pluginPublisher (dispatcher : EventDispatcher) :
    PluginEventPublisher PublisherState where
  publishes event before outcome after := ∃ allocation world,
    (∀ error, allocation.sequence = .error error → error.isIdentityConflict = false) ∧
    match event.eventId with
    | .error error => outcome = .error error ∧ after = { before with
        published := (event, outcome) :: before.published }
    | .ok eventId =>
      let result := dispatcher.createEvent before.created event.fields eventId allocation
      dispatcher.Publishes event result.1 before.world outcome world ∧
      after = ⟨result.2, world, (event, outcome) :: before.published⟩

end Publisher

end CongeriesCore
