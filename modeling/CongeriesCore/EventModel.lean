import CongeriesCore.Dict
import CongeriesCore.RuntimeContext

/-! # Runtime events

The event envelope, its payload digest, acknowledgements and sink capabilities, the
payload schema registry and the redaction applied before a sink sees an event. -/

namespace CongeriesCore

inductive DeliveryClass
  | observability
  | audit
  deriving DecidableEq, Repr

def DeliveryClass.value : DeliveryClass → String
  | .observability => "observability"
  | .audit => "audit"

inductive Sensitivity
  | pub
  | internal
  | sensitive
  | restricted
  deriving DecidableEq, Repr

namespace Sensitivity

def toNat : Sensitivity → ℕ
  | .pub => 0
  | .internal => 1
  | .sensitive => 2
  | .restricted => 3

def wireName : Sensitivity → String
  | .pub => "public"
  | .internal => "internal"
  | .sensitive => "sensitive"
  | .restricted => "restricted"

def max (first second : Sensitivity) : Sensitivity :=
  if first.toNat < second.toNat then second else first

def min (first second : Sensitivity) : Sensitivity :=
  if second.toNat < first.toNat then second else first

end Sensitivity

structure PayloadField where
  value : JsonValue
  sensitivity : Sensitivity

def PayloadField.toData (field : PayloadField) : JsonValue :=
  .obj [("value", field.value), ("sensitivity", .str field.sensitivity.wireName)]

structure ClassifiedPayload where
  fields : Dict String PayloadField
  trimmed : fields.entries.all (fun field => isTrimmed field.1) = true

theorem ClassifiedPayload.empty_trimmed :
    ((Dict.empty : Dict String PayloadField).entries.all fun field => isTrimmed field.1) = true := rfl

def ClassifiedPayload.toData (payload : ClassifiedPayload) : JsonValue :=
  .obj (payload.fields.entries.map fun field => (field.1, field.2.toData))

structure RuntimeEvent where
  eventId : EventId
  eventType : String
  schemaVersion : String
  occurredAt : DateTime
  runId : RunId
  rootRunId : RunId
  parentRunId : Option RunId
  sequence : ℕ
  scope : ScopeRef
  correlationId : CorrelationId
  causationId : Option CausationId
  sensitivity : Sensitivity
  deliveryClass : DeliveryClass
  payload : ClassifiedPayload
  valid : '.' ∈ eventType.toList ∧ schemaVersion ≠ "" ∧ 1 ≤ sequence

/-- The logical event: what its digest covers. Its identity, time and sequence are not. -/
def RuntimeEvent.payloadDigest [Sha256] (event : RuntimeEvent) : String :=
  (JsonValue.sha256 (.obj [
    ("event_type", .str event.eventType),
    ("schema_version", .str event.schemaVersion),
    ("run_id", .str event.runId.value),
    ("root_run_id", .str event.rootRunId.value),
    ("parent_run_id", .ofOption (fun id => .str id.value) event.parentRunId),
    ("scope", event.scope.toData),
    ("correlation_id", .str event.correlationId.value),
    ("causation_id", .ofOption (fun id => .str id.value) event.causationId),
    ("sensitivity", .str event.sensitivity.wireName),
    ("delivery_class", .str event.deliveryClass.value),
    ("payload", event.payload.toData)])).value

structure EventAcknowledgement where
  acknowledgementId : AcknowledgementId
  eventId : EventId
  sinkId : String
  payloadDigest : String
  acknowledgedAt : DateTime
  required : sinkId ≠ "" ∧ payloadDigest ≠ ""
  deriving Repr

/-- What an acknowledgement is compared by. -/
theorem EventAcknowledgement.fields_injective : Function.Injective fun value : EventAcknowledgement =>
    (value.acknowledgementId, value.eventId, value.sinkId, value.payloadDigest, value.acknowledgedAt) := by
  intro first second same
  cases first
  cases second
  simpa using same

instance : DecidableEq EventAcknowledgement := EventAcknowledgement.fields_injective.decidableEq

/-- `batch` and `retry_safe` are left out: no modelled function reads them. -/
structure EventSinkCapabilities where
  deliveryClasses : List DeliveryClass
  schemaVersions : List (String × String)
  maximumSensitivity : Sensitivity
  acknowledgement : Bool
  deriving DecidableEq, Repr

abbrev PayloadValidator := RuntimeEvent → Except Raised Unit

structure EventSchemaRegistry where
  validators : Dict (String × String) PayloadValidator

def EventSchemaRegistry.validate (registry : EventSchemaRegistry) (event : RuntimeEvent) :
    Except Raised Unit :=
  match registry.validators.get? (event.eventType, event.schemaVersion) with
  | none => .error (coreError .versionMismatch "unsupported_event_schema"
      "event type or schema version is not registered")
  | some validator => validator event

/-- `ExplicitSensitivityRedactionPolicy.redact`: drop the fields above the sink's level. -/
def redact (event : RuntimeEvent) (maximumSensitivity : Sensitivity) : RuntimeEvent :=
  let visible := event.payload.fields.entries.filter fun field =>
    field.2.sensitivity.toNat ≤ maximumSensitivity.toNat
  let resulting := (visible.map fun field => field.2.sensitivity).foldl Sensitivity.max .pub
  { event with
    sensitivity := event.sensitivity.min resulting
    payload := {
      fields := ⟨visible, event.payload.fields.nodup.sublist (List.filter_sublist.map _)⟩
      trimmed := List.all_eq_true.mpr fun field member =>
        List.all_eq_true.mp event.payload.trimmed field (List.mem_of_mem_filter member) } }

@[simp] theorem redact_eventId (event : RuntimeEvent) (maximumSensitivity : Sensitivity) :
    (redact event maximumSensitivity).eventId = event.eventId := rfl

end CongeriesCore
