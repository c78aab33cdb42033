import CongeriesCore.EventModel
import CongeriesCore.JsonDocument
import CongeriesCore.PolicyAuthorization

/-! # Stored events, contexts and principals

`to_data` and `from_data` of what an outbox entry stores, and that what is read of a dumped
value is the value: a context and a principal exactly, an event up to the order in which its
payload lists fields and keys. -/

namespace CongeriesCore

open JsonValue

/-- `read(as_object(data[key]))`. -/
def JsonFields.object (data : JsonFields) (key fieldName : String) : Except Raised JsonFields := do
  (← data.item key).asObject fieldName

/-- `as_object(data.get(key))`, unless that is `None`. -/
def JsonFields.objectIf (data : JsonFields) (key fieldName : String) :
    Except Raised (Option JsonFields) :=
  if (data.get key).isNone then .ok none else do return some (← (data.get key).asObject fieldName)

/-- `Kind(str(data[key]))`. -/
def JsonFields.id (kind : IdKind) (data : JsonFields) (key : String) :
    Except Raised (Identifier kind) := do
  Identifier.make kind (← data.text key)

/-- `Kind(str(data[key])) if data.get(key) else None`. -/
def JsonFields.idIf (kind : IdKind) (data : JsonFields) (key : String) :
    Except Raised (Option (Identifier kind)) :=
  data.textIf key (Identifier.make kind)

theorem JsonFields.object_canonical {fields data : JsonFields}
    (nodup : (fields.map Prod.fst).Nodup) {key fieldName : String} {value : JsonValue}
    (found : Dict.lookup key fields = some value) (object : value.canonical = .obj data) :
    JsonFields.object (canonicalFields fields) key fieldName = .ok data := by
  rw [JsonFields.object, JsonFields.item_canonical nodup, item, found]
  change value.canonical.asObject fieldName = _
  rw [object]
  rfl

theorem JsonFields.id_canonical {kind : IdKind} {fields : JsonFields}
    (nodup : (fields.map Prod.fst).Nodup) {key : String} {id : Identifier kind}
    (found : Dict.lookup key fields = some (.str id.value)) :
    JsonFields.id kind (canonicalFields fields) key = .ok id := by
  rw [JsonFields.id, JsonFields.text_canonical nodup, text, item, found]
  exact id.make_self

/-- An optional identity is read back from the value it was written as. -/
theorem JsonFields.idIf_canonical {kind : IdKind} {fields : JsonFields}
    (nodup : (fields.map Prod.fst).Nodup) {key : String} {id : Option (Identifier kind)}
    (found : Dict.lookup key fields = some (.ofOption (fun id => .str id.value) id)) :
    JsonFields.idIf kind (canonicalFields fields) key = .ok id := by
  rw [JsonFields.idIf, JsonFields.textIf_canonical nodup]
  cases id with
  | none => simp [textIf, get, found, ofOption, truthy]
  | some id =>
    have made := Identifier.make_self id
    have read : fields.text key = .ok id.value := by
      rw [text, item, found]
      rfl
    have present : (fields.get key).truthy = true := by
      simp [get, found, ofOption, truthy, id.value_ne_empty]
    rw [textIf, if_pos present, read]
    change (do return some (← Identifier.make kind id.value)) = _
    rw [made]
    rfl

/-! ## Scopes -/

namespace ScopeRef

def ancestorsOf (parent : Option ScopeRef) : List ScopeKey := (parent.map chain).getD []

theorem ancestorsOf_checked {parent : Option ScopeRef} {scope : ScopeKey}
    (member : scope ∈ ancestorsOf parent) : scope.check = .ok () := by
  cases parent with
  | none => cases member
  | some parent => exact parent.checked scope member

/-- The constructor call. -/
def make (key : ScopeKey) (parent : Option ScopeRef) : Except Raised ScopeRef :=
  match checked : key.check with
  | .error error => .error error
  | .ok () =>
    if shallow : (ancestorsOf parent).length + 1 ≤ 64 then
      .ok ⟨key, ancestorsOf parent,
        List.forall_mem_cons.mpr ⟨checked, fun _ member => ancestorsOf_checked member⟩, shallow⟩
    else .error (.value "scope ancestry exceeds 64 levels")

mutual

def fromValue : JsonValue → Except Raised ScopeRef
  | .obj fields => do
    let parent ← parentOf fields
    let namespace_ ← JsonFields.text fields "namespace"
    let kind ← JsonFields.text fields "kind"
    let id ← JsonFields.text fields "id"
    make ⟨namespace_, kind, id⟩ parent
  | _ => .error (.value "scope parent must be an object")

/-- `data.get("parent")`, decoded unless it is `None`. -/
def parentOf : JsonFields → Except Raised (Option ScopeRef)
  | [] => .ok none
  | (key, value) :: fields =>
    if key = "parent" then
      if value.isNone then .ok none else do return some (← fromValue value)
    else parentOf fields

end

def fromData (data : JsonFields) : Except Raised ScopeRef := fromValue (.obj data)

theorem parentOf_eq (fields : JsonFields) : parentOf fields =
    if (JsonFields.get fields "parent").isNone then .ok none
    else do return some (← fromValue (JsonFields.get fields "parent")) := by
  induction fields with
  | nil => simp [parentOf, JsonFields.get, Dict.lookup, isNone]
  | cons field fields ih =>
    obtain ⟨key, value⟩ := field
    by_cases hit : key = "parent"
    · simp [parentOf, JsonFields.get, Dict.lookup, hit]
    · rw [parentOf, if_neg hit, ih, JsonFields.get, JsonFields.get, Dict.lookup, if_neg hit]

theorem make_chain {key : ScopeKey} {parent : Option ScopeRef} (scope : ScopeRef)
    (same : scope.key = key) (ancestors : scope.ancestors = ancestorsOf parent) :
    make key parent = .ok scope := by
  obtain ⟨_, _, checked, shallow⟩ := scope
  subst same ancestors
  unfold make
  split
  · rename_i refused
    rw [checked _ (List.mem_cons_self ..)] at refused
    cases refused
  · rw [dif_pos shallow]

theorem fromValue_keyToData (key : ScopeKey) {parent : JsonValue} {found : Option ScopeRef}
    (reads : (if parent.isNone then .ok none else do return some (← fromValue parent.canonical)) =
      Except.ok (ε := Raised) found) :
    fromValue (keyToData key parent).canonical = make key found := by
  have nodup : (([("namespace", .str key.namespace_), ("kind", .str key.kind),
      ("id", .str key.id), ("parent", parent)] : JsonFields).map Prod.fst).Nodup := by
    simp
  simp only [keyToData, canonical_obj, fromValue, parentOf_eq, JsonFields.get_canonical nodup,
    JsonFields.text_canonical nodup, isNone_canonical]
  have present : JsonFields.get [("namespace", .str key.namespace_), ("kind", .str key.kind),
      ("id", .str key.id), ("parent", parent)] "parent" = parent := rfl
  rw [present, reads]
  rfl

/-- A stored scope is read back with its whole ancestry. -/
theorem fromValue_toData (scope : ScopeRef) : fromValue scope.toData.canonical = .ok scope := by
  obtain ⟨key, ancestors, checked, shallow⟩ := scope
  induction ancestors generalizing key with
  | nil =>
    have reads : fromValue (keyToData key .null).canonical = make key none :=
      fromValue_keyToData key rfl
    exact reads.trans (make_chain _ rfl rfl)
  | cons parent ancestors ih =>
    have outer : ∀ scope ∈ parent :: ancestors, scope.check = .ok () := fun scope member =>
      checked scope (List.mem_cons_of_mem _ member)
    have inner := ih parent outer (Nat.le_of_succ_le shallow)
    have reads : fromValue (keyToData key (chainToData (parent :: ancestors))).canonical =
        make key (some ⟨parent, ancestors, outer, Nat.le_of_succ_le shallow⟩) := by
      have present : (chainToData (parent :: ancestors)).isNone = false := rfl
      simp only [toData, chain] at inner
      exact fromValue_keyToData key (by simp [present, inner])
    exact reads.trans (make_chain _ rfl rfl)

theorem stored_object (scope : ScopeRef) :
    ∃ data, scope.toData.canonical = .obj data ∧ fromData data = .ok scope := by
  have read := scope.fromValue_toData
  have object : ∃ data, scope.toData.canonical = .obj data :=
    ⟨_, by rw [toData, chain, chainToData, keyToData, canonical_obj]⟩
  obtain ⟨data, object⟩ := object
  refine ⟨data, object, ?_⟩
  rw [fromData, ← object]
  exact read

end ScopeRef

/-! ## Principals -/

namespace RuntimePrincipal

def make (namespace_ kind : String) (id : PrincipalId) : Except Raised RuntimePrincipal :=
  if namespaced : isName namespace_ = true then
    if kinded : isName kind = true then .ok ⟨namespace_, kind, id, namespaced, kinded⟩
    else .error (.value "principal kind is invalid")
  else .error (.value "principal namespace is invalid")

def fromData (data : JsonFields) : Except Raised RuntimePrincipal := do
  let namespace_ ← data.text "namespace"
  let kind ← data.text "kind"
  let id ← data.id .principal "id"
  make namespace_ kind id

/-- A stored principal is read back. -/
theorem fromData_dump (principal : RuntimePrincipal) :
    (jsonObject (jsonDump principal.toData) >>= fromData) = .ok principal := by
  have nodup : (([("namespace", .str principal.namespace_), ("kind", .str principal.kind),
      ("id", .str principal.id.value)] : JsonFields).map Prod.fst).Nodup := by
    simp
  have id := Identifier.make_self principal.id
  have made : make principal.namespace_ principal.kind principal.id = .ok principal := by
    simp [make, principal.named]
  rw [toData, read_jsonDump]
  simp only [fromData, JsonFields.id, JsonFields.text_canonical nodup]
  change (Identifier.make .principal principal.id.value >>= make principal.namespace_ principal.kind)
    = _
  rw [id]
  exact made

end RuntimePrincipal

/-! ## Call contexts -/

namespace SessionRef

def make (namespace_ : String) (sessionId : SessionId) : Except Raised SessionRef :=
  if trimmed : isTrimmed namespace_ = true then .ok ⟨namespace_, sessionId, trimmed⟩
  else .error (.value "session namespace must be non-empty and trimmed")

def toData (session : SessionRef) : JsonValue :=
  .obj [("namespace", .str session.namespace_), ("session_id", .str session.sessionId.value)]

def fromData (data : JsonFields) : Except Raised SessionRef := do
  let namespace_ ← data.text "namespace"
  let sessionId ← data.id .session "session_id"
  make namespace_ sessionId

theorem fromData_canonical (session : SessionRef) :
    (session.toData.canonical.asObject "session_ref" >>= fromData) = .ok session := by
  have nodup : (([("namespace", .str session.namespace_),
      ("session_id", .str session.sessionId.value)] : JsonFields).map Prod.fst).Nodup := by
    simp
  have id := Identifier.make_self session.sessionId
  have made : make session.namespace_ session.sessionId = .ok session := by
    simp [make, session.trimmed]
  rw [toData, canonical_obj]
  change fromData (canonicalFields _) = _
  simp only [fromData, JsonFields.id, JsonFields.text_canonical nodup]
  change (Identifier.make .session session.sessionId.value >>= make session.namespace_) = _
  rw [id]
  exact made

end SessionRef

/-- What `to_data` writes of a context that the model of a context leaves out: the identities
of its trace and whether its token is cancelled. -/
structure ContextTail where
  traceId : TraceId
  spanId : SpanId
  cancelled : Bool

namespace RuntimeCallContext

def traceFields (context : RuntimeCallContext) (tail : ContextTail) : JsonFields :=
  [("trace_id", .str tail.traceId.value), ("span_id", .str tail.spanId.value),
    ("correlation_id", .str context.trace.correlationId.value),
    ("causation_id", .ofOption (fun id => .str id.value) context.trace.causationId)]

def cancellationFields (context : RuntimeCallContext) (tail : ContextTail) : JsonFields :=
  [("token_id", .str context.cancellation.value), ("cancelled", .bool tail.cancelled)]

def fields (context : RuntimeCallContext) (tail : ContextTail) : JsonFields :=
  [("run_id", .str context.runId.value),
    ("root_run_id", .str context.rootRunId.value),
    ("parent_run_id", .ofOption (fun id => .str id.value) context.parentRunId),
    ("workspace_id", .str context.workspaceId.value),
    ("session_ref", .ofOption SessionRef.toData context.sessionRef),
    ("scope", context.scope.toData),
    ("deadline", .ofOption (fun deadline => .str deadline.at_.isoformat) context.deadline),
    ("cancellation", .obj (context.cancellationFields tail)),
    ("trace", .obj (context.traceFields tail)),
    ("idempotency_key", .ofOption (fun key => .str key.value) context.idempotencyKey)]

def toData (context : RuntimeCallContext) (tail : ContextTail) : JsonValue :=
  .obj (context.fields tail)

/-- `TraceContext(…)`; the identities of the trace and the span are checked and dropped. -/
def traceFromData (data : JsonFields) : Except Raised TraceContext := do
  let _ ← data.id .trace "trace_id"
  let _ ← data.id .span "span_id"
  let correlationId ← data.id .correlation "correlation_id"
  let causationId ← data.idIf .causation "causation_id"
  return ⟨correlationId, causationId⟩

def readDeadline (text : String) : Except Raised Deadline :=
  (DateTime.fromIsoformat text).map Deadline.mk

/-- `Deadline(datetime.fromisoformat(str(raw_deadline))) if raw_deadline else None`. -/
def deadlineFromData (data : JsonFields) : Except Raised (Option Deadline) :=
  data.textIf "deadline" readDeadline

/-- The decoded token is a new one with the stored identity; its stored state is dropped. -/
def fromData (data : JsonFields) : Except Raised RuntimeCallContext := do
  let rawScope ← data.object "scope" "scope"
  let rawTrace ← data.object "trace" "trace"
  let rawCancellation ← data.object "cancellation" "cancellation"
  let sessionData ← data.objectIf "session_ref" "session_ref"
  let runId ← data.id .run "run_id"
  let rootRunId ← data.id .run "root_run_id"
  let parentRunId ← data.idIf .run "parent_run_id"
  let workspaceId ← data.id .workspace "workspace_id"
  let sessionRef ← sessionData.mapM SessionRef.fromData
  let scope ← ScopeRef.fromData rawScope
  let deadline ← deadlineFromData data
  let cancellation ← rawCancellation.id .cancellation "token_id"
  let trace ← traceFromData rawTrace
  let idempotencyKey ← data.idIf .idempotency "idempotency_key"
  return ⟨runId, rootRunId, parentRunId, workspaceId, sessionRef, scope, deadline, cancellation,
    trace, idempotencyKey⟩

variable (context : RuntimeCallContext) (tail : ContextTail)

theorem traceFields_nodup : ((context.traceFields tail).map Prod.fst).Nodup := by
  simp [traceFields]

theorem cancellationFields_nodup : ((context.cancellationFields tail).map Prod.fst).Nodup := by
  simp [cancellationFields]

theorem fields_nodup : ((context.fields tail).map Prod.fst).Nodup := by
  simp [fields]

theorem traceFromData_canonical :
    traceFromData (canonicalFields (context.traceFields tail)) = .ok context.trace := by
  have nodup := context.traceFields_nodup tail
  have trace : JsonFields.id .trace _ "trace_id" = .ok tail.traceId :=
    JsonFields.id_canonical nodup rfl
  have span : JsonFields.id .span _ "span_id" = .ok tail.spanId :=
    JsonFields.id_canonical nodup rfl
  have correlation : JsonFields.id .correlation _ "correlation_id" =
      .ok context.trace.correlationId := JsonFields.id_canonical nodup rfl
  have causation : JsonFields.idIf .causation _ "causation_id" = .ok context.trace.causationId :=
    JsonFields.idIf_canonical nodup rfl
  rw [traceFromData, trace, span, correlation, causation]
  rfl

theorem deadlineFromData_fields :
    deadlineFromData (context.fields tail) = .ok context.deadline := by
  have found : Dict.lookup "deadline" (context.fields tail) = some
      (.ofOption (fun deadline => .str deadline.at_.isoformat) context.deadline) := rfl
  unfold deadlineFromData JsonFields.textIf JsonFields.get JsonFields.text JsonFields.item
  rw [found]
  cases context.deadline with
  | none => rfl
  | some deadline =>
    have present : deadline.at_.isoformat ≠ "" := deadline.at_.isoformat_ne_empty
    have read : readDeadline deadline.at_.isoformat = .ok deadline := by
      rw [readDeadline, DateTime.fromIsoformat_isoformat]
      rfl
    simp only [ofOption, Option.getD_some, truthy, bne_iff_ne, ne_eq, present, not_false_eq_true,
      if_true, bind, Except.bind, asText, read, pure, Except.pure]

theorem session_fields : ∃ data,
    JsonFields.objectIf (canonicalFields (context.fields tail)) "session_ref" "session_ref" =
      .ok data ∧ data.mapM SessionRef.fromData = .ok context.sessionRef := by
  rw [JsonFields.objectIf, JsonFields.get_canonical (context.fields_nodup tail), isNone_canonical]
  change ∃ data, (if (JsonValue.ofOption SessionRef.toData context.sessionRef).isNone = true then
    Except.ok none else do return some (← (JsonValue.ofOption SessionRef.toData
      context.sessionRef).canonical.asObject "session_ref")) = .ok data ∧ _
  cases context.sessionRef with
  | none => exact ⟨none, rfl, rfl⟩
  | some session =>
    obtain ⟨data, object, read⟩ := bind_ok session.fromData_canonical
    refine ⟨some data, ?_, ?_⟩
    · change (do return some (← session.toData.canonical.asObject "session_ref")) = _
      rw [object]
      rfl
    · change (do return some (← SessionRef.fromData data)) = _
      rw [read]
      rfl

/-- A stored context is read back. -/
theorem fromData_dump :
    (jsonObject (jsonDump (context.toData tail)) >>= fromData) = .ok context := by
  have nodup := context.fields_nodup tail
  obtain ⟨scopeData, scopeObject, scope⟩ := context.scope.stored_object
  have rawScope : JsonFields.object (canonicalFields (context.fields tail)) "scope" "scope" =
      .ok scopeData := JsonFields.object_canonical nodup rfl scopeObject
  have rawTrace : JsonFields.object (canonicalFields (context.fields tail)) "trace" "trace" =
      .ok (canonicalFields (context.traceFields tail)) :=
    JsonFields.object_canonical nodup rfl (canonical_obj _)
  have rawCancellation : JsonFields.object (canonicalFields (context.fields tail)) "cancellation"
      "cancellation" = .ok (canonicalFields (context.cancellationFields tail)) :=
    JsonFields.object_canonical nodup rfl (canonical_obj _)
  obtain ⟨sessionData, sessionObject, session⟩ := context.session_fields tail
  have runId : JsonFields.id .run (canonicalFields (context.fields tail)) "run_id" =
      .ok context.runId := JsonFields.id_canonical nodup rfl
  have rootRunId : JsonFields.id .run (canonicalFields (context.fields tail)) "root_run_id" =
      .ok context.rootRunId := JsonFields.id_canonical nodup rfl
  have parentRunId : JsonFields.idIf .run (canonicalFields (context.fields tail))
      "parent_run_id" = .ok context.parentRunId := JsonFields.idIf_canonical nodup rfl
  have workspaceId : JsonFields.id .workspace (canonicalFields (context.fields tail))
      "workspace_id" = .ok context.workspaceId := JsonFields.id_canonical nodup rfl
  have deadline : deadlineFromData (canonicalFields (context.fields tail)) =
      .ok context.deadline :=
    (JsonFields.textIf_canonical nodup _ _).trans (context.deadlineFromData_fields tail)
  have cancellation : JsonFields.id .cancellation
      (canonicalFields (context.cancellationFields tail)) "token_id" = .ok context.cancellation :=
    JsonFields.id_canonical (context.cancellationFields_nodup tail) rfl
  have trace := context.traceFromData_canonical tail
  have idempotencyKey : JsonFields.idIf .idempotency (canonicalFields (context.fields tail))
      "idempotency_key" = .ok context.idempotencyKey := JsonFields.idIf_canonical nodup rfl
  rw [toData, read_jsonDump]
  simp only [fromData, rawScope, rawTrace, rawCancellation, sessionObject, runId, rootRunId,
    parentRunId, workspaceId, session, scope, deadline, cancellation, trace, idempotencyKey, bind,
    Except.bind, pure, Except.pure]

end RuntimeCallContext

/-! ## Payloads -/

/-- `value.upper()` of ASCII text. -/
def upper (value : String) : String := String.ofList (value.toList.map Char.toUpper)

/-- `Sensitivity.from_wire`. -/
def Sensitivity.fromWire (value : String) : Except Raised Sensitivity :=
  match upper value with
  | "PUBLIC" => .ok .pub
  | "INTERNAL" => .ok .internal
  | "SENSITIVE" => .ok .sensitive
  | "RESTRICTED" => .ok .restricted
  | name => .error (.key name)

theorem Sensitivity.fromWire_wireName (sensitivity : Sensitivity) :
    fromWire sensitivity.wireName = .ok sensitivity := by
  cases sensitivity <;> rfl

/-- `DeliveryClass(value)`. -/
def DeliveryClass.fromValue (value : String) : Except Raised DeliveryClass :=
  match value with
  | "observability" => .ok .observability
  | "audit" => .ok .audit
  | _ => .error (.value (value ++ " is not a valid DeliveryClass"))

theorem DeliveryClass.fromValue_value (deliveryClass : DeliveryClass) :
    fromValue deliveryClass.value = .ok deliveryClass := by
  cases deliveryClass <;> rfl

/-- Equal payload fields, their values up to the order of keys. -/
structure SameField (first second : PayloadField) : Prop where
  sensitivity : first.sensitivity = second.sensitivity
  value : Reordered first.value second.value

namespace PayloadField

def fromData (data : JsonFields) : Except Raised PayloadField := do
  let sensitivity ← Sensitivity.fromWire (← data.text "sensitivity")
  return ⟨data.get "value", sensitivity⟩

/-- The field that is read back of a stored one. -/
def canonical (field : PayloadField) : PayloadField := ⟨field.value.canonical, field.sensitivity⟩

theorem same_canonical (field : PayloadField) : SameField field field.canonical :=
  ⟨rfl, reordered_canonical field.value⟩

theorem fromData_canonical (field : PayloadField) :
    (field.toData.canonical.asObject "classified payload field" >>= fromData) =
      .ok field.canonical := by
  have nodup : (([("value", field.value),
      ("sensitivity", .str field.sensitivity.wireName)] : JsonFields).map Prod.fst).Nodup := by
    simp
  rw [toData, canonical_obj]
  change fromData (canonicalFields _) = _
  rw [fromData, JsonFields.text_canonical nodup, JsonFields.get_canonical nodup]
  change (do
    let sensitivity ← Sensitivity.fromWire field.sensitivity.wireName
    return (⟨field.value.canonical, sensitivity⟩ : PayloadField)) = _
  rw [Sensitivity.fromWire_wireName]
  rfl

end PayloadField

namespace ClassifiedPayload

def make (fields : Dict String PayloadField) : Except Raised ClassifiedPayload :=
  if trimmed : fields.entries.all (fun field => isTrimmed field.1) = true then .ok ⟨fields, trimmed⟩
  else .error (.value "payload field names must be non-empty and trimmed")

/-- The loop of `from_data`. -/
def readFields : JsonFields → Dict String PayloadField → Except Raised (Dict String PayloadField)
  | [], fields => .ok fields
  | (key, value) :: data, fields => do
    let field ← value.asObject "classified payload field" >>= PayloadField.fromData
    readFields data (fields.set key field)

def fromData (data : JsonFields) : Except Raised ClassifiedPayload := do
  make (← readFields data .empty)

/-- Reading the values of the stored fields gives each under its key. -/
theorem readFields_ok {data : JsonFields} (nodup : (data.map Prod.fst).Nodup)
    {entries : Dict String PayloadField}
    (stored : ∀ key value, (key, value) ∈ data → ∃ field, entries.get? key = some field ∧
      value = field.toData.canonical) (fields : Dict String PayloadField) :
    ∃ result, readFields data fields = .ok result ∧ ∀ key, result.get? key =
      if key ∈ data.map Prod.fst then (entries.get? key).map PayloadField.canonical
      else fields.get? key := by
  induction data generalizing fields with
  | nil => exact ⟨fields, rfl, fun key => by simp⟩
  | cons item data ih =>
    obtain ⟨first, value⟩ := item
    rw [List.map_cons, List.nodup_cons] at nodup
    obtain ⟨field, found, same⟩ := stored first value (List.mem_cons_self ..)
    obtain ⟨result, reads, gets⟩ := ih nodup.2
      (fun key value member => stored key value (List.mem_cons_of_mem _ member))
      (fields.set first field.canonical)
    refine ⟨result, ?_, fun key => ?_⟩
    · rw [readFields, same, PayloadField.fromData_canonical]
      exact reads
    · rw [gets, List.map_cons]
      by_cases hit : key = first
      · subst hit
        simp [nodup.1, found]
      · have miss : first ≠ key := fun equal => hit equal.symm
        have member : key ∈ first :: data.map Prod.fst ↔ key ∈ data.map Prod.fst := by
          rw [List.mem_cons, or_iff_right hit]
        simp only [member, Dict.get?_set_of_ne _ miss]

theorem entries_stored (payload : ClassifiedPayload) (key : String) (value : JsonValue)
    (member : (key, value) ∈ canonicalFields (payload.fields.entries.map fun field =>
      (field.1, field.2.toData))) :
    ∃ field, payload.fields.get? key = some field ∧ value = field.toData.canonical := by
  have member := (canonicalFields_perm _).mem_iff.mp member
  rw [List.map_map, List.mem_map] at member
  obtain ⟨⟨name, field⟩, present, equal⟩ := member
  obtain ⟨rfl, rfl⟩ := Prod.mk.inj equal
  exact ⟨field, Dict.get?_of_mem present, rfl⟩

/-- A stored payload is read back up to the order of its fields and of their keys. -/
theorem fromData_stored (payload : ClassifiedPayload) :
    ∃ data decoded, payload.toData.canonical = .obj data ∧ fromData data = .ok decoded ∧
      ∀ key, Option.Rel SameField (payload.fields.get? key) (decoded.fields.get? key) := by
  let written : JsonFields := payload.fields.entries.map fun field => (field.1, field.2.toData)
  have keys : written.map Prod.fst = payload.fields.entries.map Prod.fst := by
    rw [List.map_map]
    rfl
  have order := canonicalFields_keys written
  rw [keys] at order
  obtain ⟨result, reads, gets⟩ := readFields_ok (order.nodup_iff.mpr payload.fields.nodup)
    (entries_stored payload) .empty
  have lookups : ∀ key, result.get? key =
      (payload.fields.get? key).map PayloadField.canonical := by
    intro key
    rw [gets]
    split
    · rfl
    · rename_i absent
      rw [Dict.get?_empty, Dict.get?_eq_none (fun member => absent (order.mem_iff.mpr member))]
      rfl
  have trimmed : result.entries.all (fun field => isTrimmed field.1) = true := by
    rw [List.all_eq_true]
    rintro ⟨key, field⟩ member
    have found := Dict.get?_of_mem member
    rw [lookups, Option.map_eq_some_iff] at found
    obtain ⟨original, found, -⟩ := found
    exact List.all_eq_true.mp payload.trimmed (key, original) (Dict.mem_of_get? found)
  refine ⟨canonicalFields written, ⟨result, trimmed⟩, canonical_obj _, ?_, fun key => ?_⟩
  · rw [fromData, reads]
    exact dif_pos trimmed
  · change Option.Rel SameField _ (result.get? key)
    rw [lookups]
    cases payload.fields.get? key with
    | none => exact .none
    | some field => exact .some field.same_canonical

end ClassifiedPayload

/-! ## Events -/

/-- Equal events, their payloads up to the order of fields and keys. -/
structure SameEvent (first second : RuntimeEvent) : Prop where
  envelope : { second with payload := first.payload } = first
  payload : ∀ key, Option.Rel SameField (first.payload.fields.get? key)
    (second.payload.fields.get? key)

namespace RuntimeEvent

def fields (event : RuntimeEvent) : JsonFields :=
  [("event_id", .str event.eventId.value),
    ("event_type", .str event.eventType),
    ("schema_version", .str event.schemaVersion),
    ("occurred_at", .str event.occurredAt.isoformat),
    ("run_id", .str event.runId.value),
    ("root_run_id", .str event.rootRunId.value),
    ("parent_run_id", .ofOption (fun id => .str id.value) event.parentRunId),
    ("sequence", .int event.sequence),
    ("scope", event.scope.toData),
    ("correlation_id", .str event.correlationId.value),
    ("causation_id", .ofOption (fun id => .str id.value) event.causationId),
    ("sensitivity", .str event.sensitivity.wireName),
    ("delivery_class", .str event.deliveryClass.value),
    ("payload", event.payload.toData)]

def toData (event : RuntimeEvent) : JsonValue := .obj event.fields

/-- `RuntimeEvent.__post_init__`. -/
def checkEnvelope (eventType schemaVersion : String) (sequence : ℤ) : Except Raised Unit := do
  requireValue (decide ('.' ∈ eventType.toList)) "event_type must be namespaced"
  requireValue (schemaVersion != "") "schema_version is required"
  requireValue (decide (1 ≤ sequence)) "event sequence must be positive"

theorem checkEnvelope_ok {eventType schemaVersion : String} {sequence : ℤ}
    (checked : checkEnvelope eventType schemaVersion sequence = .ok ()) :
    '.' ∈ eventType.toList ∧ schemaVersion ≠ "" ∧ 1 ≤ sequence.toNat := by
  obtain ⟨_, namespaced, rest⟩ := bind_ok checked
  obtain ⟨_, versioned, positive⟩ := bind_ok rest
  have namespaced := of_decide_eq_true (requireValue_eq_ok.mp namespaced)
  have versioned := bne_iff_ne.mp (requireValue_eq_ok.mp versioned)
  have positive := of_decide_eq_true (requireValue_eq_ok.mp positive)
  exact ⟨namespaced, versioned, by omega⟩

def fromData (data : JsonFields) : Except Raised RuntimeEvent := do
  let rawScope ← data.object "scope" "event Scope"
  let rawPayload ← data.object "payload" "event payload"
  let eventId ← data.id .event "event_id"
  let eventType ← data.text "event_type"
  let schemaVersion ← data.text "schema_version"
  let occurredAt ← DateTime.fromIsoformat (← data.text "occurred_at")
  let runId ← data.id .run "run_id"
  let rootRunId ← data.id .run "root_run_id"
  let parentRunId ← data.idIf .run "parent_run_id"
  let sequence ← (← data.item "sequence").asInt "event sequence"
  let scope ← ScopeRef.fromData rawScope
  let correlationId ← data.id .correlation "correlation_id"
  let causationId ← data.idIf .causation "causation_id"
  let sensitivity ← Sensitivity.fromWire (← data.text "sensitivity")
  let deliveryClass ← DeliveryClass.fromValue (← data.text "delivery_class")
  let payload ← ClassifiedPayload.fromData rawPayload
  match checked : checkEnvelope eventType schemaVersion sequence with
  | .error error => .error error
  | .ok () => .ok ⟨eventId, eventType, schemaVersion, occurredAt, runId, rootRunId, parentRunId,
      sequence.toNat, scope, correlationId, causationId, sensitivity, deliveryClass, payload,
      checkEnvelope_ok checked⟩

variable (event : RuntimeEvent)

theorem fields_nodup : (event.fields.map Prod.fst).Nodup := by
  simp [fields]

theorem checkEnvelope_self :
    checkEnvelope event.eventType event.schemaVersion event.sequence = .ok () := by
  have positive : (1 : ℤ) ≤ event.sequence := by
    have valid := event.valid.2.2
    omega
  simp [checkEnvelope, event.valid.1, event.valid.2.1, positive, requireValue, bind, Except.bind]

theorem text_stored {key value : String}
    (found : Dict.lookup key event.fields = some (.str value)) :
    JsonFields.text (canonicalFields event.fields) key = .ok value := by
  rw [JsonFields.text_canonical event.fields_nodup, JsonFields.text, JsonFields.item, found]
  rfl

/-- A stored event is read back up to the order of its payload. -/
theorem fromData_dump : ∃ decoded,
    (jsonObject (jsonDump event.toData) >>= fromData) = .ok decoded ∧ SameEvent event decoded := by
  have nodup := event.fields_nodup
  obtain ⟨scopeData, scopeObject, scope⟩ := event.scope.stored_object
  obtain ⟨payloadData, payload, payloadObject, decodes, same⟩ := event.payload.fromData_stored
  refine ⟨{ event with payload := payload }, ?_, rfl, same⟩
  have rawScope : JsonFields.object (canonicalFields event.fields) "scope" "event Scope" =
      .ok scopeData := JsonFields.object_canonical nodup rfl scopeObject
  have rawPayload : JsonFields.object (canonicalFields event.fields) "payload" "event payload" =
      .ok payloadData := JsonFields.object_canonical nodup rfl payloadObject
  have eventId : JsonFields.id .event (canonicalFields event.fields) "event_id" =
      .ok event.eventId := JsonFields.id_canonical nodup rfl
  have eventType : JsonFields.text (canonicalFields event.fields) "event_type" =
      .ok event.eventType := event.text_stored rfl
  have schemaVersion : JsonFields.text (canonicalFields event.fields) "schema_version" =
      .ok event.schemaVersion := event.text_stored rfl
  have occurredAt : JsonFields.text (canonicalFields event.fields) "occurred_at" =
      .ok event.occurredAt.isoformat := event.text_stored rfl
  have runId : JsonFields.id .run (canonicalFields event.fields) "run_id" = .ok event.runId :=
    JsonFields.id_canonical nodup rfl
  have rootRunId : JsonFields.id .run (canonicalFields event.fields) "root_run_id" =
      .ok event.rootRunId := JsonFields.id_canonical nodup rfl
  have parentRunId : JsonFields.idIf .run (canonicalFields event.fields) "parent_run_id" =
      .ok event.parentRunId := JsonFields.idIf_canonical nodup rfl
  have sequence : JsonFields.item (canonicalFields event.fields) "sequence" =
      .ok (.int event.sequence) := by
    rw [JsonFields.item_canonical nodup]
    exact congrArg Except.ok (canonical_int _)
  have correlationId : JsonFields.id .correlation (canonicalFields event.fields)
      "correlation_id" = .ok event.correlationId := JsonFields.id_canonical nodup rfl
  have causationId : JsonFields.idIf .causation (canonicalFields event.fields) "causation_id" =
      .ok event.causationId := JsonFields.idIf_canonical nodup rfl
  have sensitivity : JsonFields.text (canonicalFields event.fields) "sensitivity" =
      .ok event.sensitivity.wireName := event.text_stored rfl
  have deliveryClass : JsonFields.text (canonicalFields event.fields) "delivery_class" =
      .ok event.deliveryClass.value := event.text_stored rfl
  rw [toData, read_jsonDump]
  simp only [fromData, rawScope, rawPayload, eventId, eventType, schemaVersion, occurredAt,
    DateTime.fromIsoformat_isoformat, runId, rootRunId, parentRunId, sequence, asInt, scope,
    correlationId, causationId, sensitivity, Sensitivity.fromWire_wireName, deliveryClass,
    DeliveryClass.fromValue_value, decodes, ok_bind]
  split
  · rename_i refused
    rw [event.checkEnvelope_self] at refused
    cases refused
  · rfl

end RuntimeEvent

end CongeriesCore
