import CongeriesCore.MemoryModel

/-! # The memory gateway

How a page of memories is retrieved from a provider. -/

namespace CongeriesCore

open AsyncProgram AsyncProgram.Program

def memoryCapabilitiesAction : ActionRef := ⟨"core", "memory.capabilities", "1", by decide⟩
def memoryRetrieveAction : ActionRef := ⟨"core", "memory.retrieve", "1", by decide⟩

def memoryOperationStarted : String := "core.memory.operation_started"
def memoryOperationCompleted : String := "core.memory.operation_completed"
def memoryOperationFailed : String := "core.memory.operation_failed"

inductive MemoryOp
  | emit (eventType : String) (context : RuntimeCallContext) (payload : List (String × JsonValue))
  | capabilities (providerId : ProviderId) (context : RuntimeCallContext)
  | retrieve (providerId : ProviderId) (query : MemoryQuery) (context : RuntimeCallContext)

abbrev MemoryOp.Answer : MemoryOp → Type
  | .emit _ _ _ => Unit
  | .capabilities _ _ => Returned MemoryCapabilities
  | .retrieve _ _ _ => Returned MemoryPage

abbrev memoryInterface : Interface := ⟨MemoryOp, MemoryOp.Answer⟩

abbrev MemoryProgram := GatewayProgram memoryInterface

abbrev memoryOp (op : MemoryOp) : MemoryProgram op.Answer := @providerOp memoryInterface op

/-! ### Requests -/

/-- `_retrieve_constraints`. -/
def retrieveConstraints (query : MemoryQuery) : List (String × JsonValue) :=
  [("schema", query.schema.toData),
    ("filter_keys", .arr ((query.filters.keys.mergeSort fun key other => decide (key ≤ other)).map .str)),
    ("projection", .arr (query.projection.map .str)), ("limit", .int query.limit)]

/-- `_access_request`. -/
def memoryAccess (providerId : ProviderId) (context : RuntimeCallContext) (scope : ScopeRef)
    (action : ActionRef) (constraints : List (String × JsonValue)) : AccessRequest where
  principal := .core .run ⟨context.runId.value, context.runId_checked⟩
  action := action
  resource := ⟨"core", "memory_provider", ⟨providerId.value, providerId.checked⟩, none, by decide,
    by decide, nofun⟩
  scope := scope
  context := context
  constraints := constraints

/-- `_provider_failure`. -/
def memoryProviderFailure (error : Raised) : ErrorDetail :=
  ⟨.unavailable, "memory_provider_failure", "memory provider failed", true, some error.typeName,
    [], by decide⟩

/-- `_protocol_failure`. -/
def memoryProtocolFailure (message : String) (given : message ≠ "" := by decide) : Raised :=
  coreError .protocolFailure "memory_provider_protocol_failure" message ⟨by decide, given⟩

/-- `_unsupported`. -/
def memoryUnsupported (message : String) (given : message ≠ "" := by decide) : Raised :=
  coreError .unsupportedCapability "memory_capability_unsupported" message ⟨by decide, given⟩

/-! ### Checks of a cursor -/

/-- `_prevalidate_cursor`. -/
def prevalidateCursor (providerId : ProviderId) (query : MemoryQuery) : Except Raised Unit :=
  ensure (query.cursor.all fun cursor => cursor.providerId == providerId) (coreError .invalidRequest
    "memory_cursor_provider_mismatch" "memory cursor Provider does not match the request")

/-- The part of `_validate_query` about the cursor. -/
def checkCursorVersion (query : MemoryQuery) (capabilities : MemoryCapabilities) :
    Except Raised Unit :=
  ensure (query.cursor.all fun cursor => cursor.contractVersion == capabilities.contractVersion)
    (coreError .versionMismatch "memory_cursor_version_mismatch"
      "memory cursor contract version does not match Provider")

def memoryCursorQueryDrift : Raised :=
  coreError .invalidRequest "memory_cursor_query_drift"
    "memory cursor cannot be reused with a changed query"

/-- The part of `operation` about the cursor of the effective query. -/
def checkCursorDrift [Sha256] (effective : MemoryQuery) : Except Raised Unit :=
  ensure (effective.cursor.all fun cursor => cursor.queryFingerprint == effective.queryFingerprint)
    memoryCursorQueryDrift

/-! ### The gateway -/

structure MemoryGateway where
  providers : List ProviderId
  schemas : SchemaRegistry
  authorization : GatewayAuthorization

namespace MemoryGateway

/-- `MemoryProviderRegistry.get`. -/
def checkProvider (gateway : MemoryGateway) (providerId : ProviderId) : Except Raised Unit :=
  ensure (gateway.providers.contains providerId)
    (retryableError .unavailable "memory_provider_not_registered"
      "memory provider is not registered")

/-- `_emit`. -/
def emit (eventType : String) (context : RuntimeCallContext) (payload : List (String × JsonValue)) :
    MemoryProgram Unit :=
  suppressException (memoryOp (.emit eventType context payload))

/-- `_emit_started`. -/
def emitStarted (operation : MemoryOperation) (providerId : ProviderId)
    (context : RuntimeCallContext) : MemoryProgram Unit :=
  emit memoryOperationStarted context
    [("operation", .str operation.value), ("provider_id", .str providerId.value)]

/-- `_emit_completed`; the latency, for which the clock is read, is left out of the payload. -/
def emitCompleted (operation : MemoryOperation) (providerId : ProviderId)
    (context : RuntimeCallContext) (recordCount affectedCount : ℕ) (outcome : String) :
    MemoryProgram Unit := do
  let _ ← RuntimeControl.now
  emit memoryOperationCompleted context
    [("operation", .str operation.value), ("provider_id", .str providerId.value),
      ("record_count", .int recordCount), ("affected_count", .int affectedCount),
      ("outcome", .str outcome)]

/-- `_emit_failure`. -/
def emitFailure (operation : MemoryOperation) (providerId : ProviderId)
    (context : RuntimeCallContext) (error : ErrorDetail) : MemoryProgram Unit := do
  let _ ← RuntimeControl.now
  emit memoryOperationFailed context
    [("operation", .str operation.value), ("provider_id", .str providerId.value),
      ("error_code", .str error.code), ("category", .str error.category.value),
      ("outcome", .str "failed")]

/-- `except CoreError: raise` before `except Exception`. -/
def normalized {α : Type} (program : MemoryProgram α) : MemoryProgram α :=
  program.catching fun error =>
    match error with
    | .core detail => .raise (.core detail)
    | error =>
      if error.isException then .raise (.core (memoryProviderFailure error)) else .raise error

/-- `_discover`. -/
def discover (gateway : MemoryGateway) (providerId : ProviderId) (context : RuntimeCallContext)
    (scope : ScopeRef) : MemoryProgram MemoryCapabilities := do
  ofExcept (scope.requireNarrowerThan context.scope)
  ofExcept (gateway.checkProvider providerId)
  let access := memoryAccess providerId context scope memoryCapabilitiesAction []
  let raw ← gateway.authorization.dispatcher.dispatch access fun call => do
    ofExcept (ensure call.grant.constraints.isEmpty (AuthorizedDispatcher.invalidGrant
      "memory capability grant contains unknown constraints"))
    normalized (call.context.awaitProvider (memoryOp (.capabilities providerId call.context)))
  match raw with
  | .malformed => .raise (memoryProtocolFailure "memory provider returned invalid capabilities")
  | .typed capabilities => do
    ofExcept (ensure (capabilities.providerId == providerId)
      (memoryProtocolFailure "memory capabilities returned a mismatched Provider"))
    return capabilities

/-- `_require_operation`. -/
def requireOperation (capabilities : MemoryCapabilities) (operation : MemoryOperation) :
    Except Raised Unit :=
  ensure (capabilities.operations.contains operation)
    (memoryUnsupported ("memory Provider does not support " ++ operation.value) (by simp))

/-- `_validate_query`. -/
def validateQuery (gateway : MemoryGateway) (query : MemoryQuery)
    (capabilities : MemoryCapabilities) : Except Raised Unit := do
  requireOperation capabilities .retrieve
  ensure (capabilities.querySchemas.contains query.schema)
    (memoryUnsupported "memory query schema is not supported")
  ensure (capabilities.contentKinds.contains query.content.kind)
    (memoryUnsupported "memory query content kind is not supported")
  ensure (query.limit ≤ capabilities.maximumResultLimit)
    (memoryUnsupported "memory query limit exceeds Provider capability")
  ensure (query.projection.all capabilities.projections.contains)
    (memoryUnsupported "memory query projection is not supported")
  checkCursorVersion query capabilities
  gateway.schemas.validate query.schema query.content.value

/-- The loop of `_validate_page` over the records. -/
def validateRecords (gateway : MemoryGateway) (providerId : ProviderId) (query : MemoryQuery)
    (capabilities : MemoryCapabilities) : List MemoryRecord → Except Raised Unit
  | [] => .ok ()
  | record :: records => do
    ensure (record.ref.providerId == providerId && record.ref.scope.key == query.scope.key &&
        capabilities.recordSchemas.contains record.schema &&
        capabilities.contentKinds.contains record.content.kind)
      (memoryProtocolFailure "memory record identity, Scope, or schema is invalid")
    gateway.schemas.validate record.schema record.content.value
    gateway.validateRecords providerId query capabilities records

variable [Sha256]

/-- `_validate_page`. -/
def validatePage (gateway : MemoryGateway) (providerId : ProviderId) (query : MemoryQuery)
    (capabilities : MemoryCapabilities) (page : MemoryPage) : Except Raised Unit := do
  ensure (page.providerId == providerId && page.contractVersion == capabilities.contractVersion &&
      page.records.length ≤ query.limit)
    (memoryProtocolFailure "memory page identity, version, or size is invalid")
  gateway.validateRecords providerId query capabilities page.records
  ensure (page.nextCursor.all fun cursor => cursor.providerId == providerId &&
      cursor.contractVersion == capabilities.contractVersion &&
      cursor.queryFingerprint == query.queryFingerprint)
    (memoryProtocolFailure "memory page returned an invalid cursor")

/-- `operation` of `retrieve`, with the effective query that it leaves. -/
def retrieveOperation (gateway : MemoryGateway) (providerId : ProviderId) (query : MemoryQuery)
    (call : AuthorizedCall) : MemoryProgram (MemoryQuery × Returned MemoryPage) := do
  let effective ← ofExcept (constrainMemoryQuery query call.grant.constraints)
  ofExcept (checkCursorDrift effective)
  ofExcept (gateway.schemas.validate effective.schema effective.content.value)
  let raw ← normalized (call.context.awaitProvider
    (memoryOp (.retrieve providerId effective call.context)))
  return (effective, raw)

/-- The `try` of `retrieve`. -/
def retrievePage (gateway : MemoryGateway) (providerId : ProviderId) (query : MemoryQuery)
    (context : RuntimeCallContext) : MemoryProgram MemoryPage := do
  let capabilities ← gateway.discover providerId context query.scope
  ofExcept (gateway.validateQuery query capabilities)
  ofExcept (gateway.checkProvider providerId)
  let access := memoryAccess providerId context query.scope memoryRetrieveAction
    (retrieveConstraints query)
  let (effective, raw) ← gateway.authorization.dispatcher.dispatch access
    (gateway.retrieveOperation providerId query)
  match raw with
  | .malformed => .raise (memoryProtocolFailure "memory provider returned an invalid page")
  | .typed page => do
    ofExcept (gateway.validatePage providerId effective capabilities page)
    emitCompleted .retrieve providerId context page.records.length 0 page.completeness.value
    return page

def retrieve (gateway : MemoryGateway) (providerId : ProviderId) (query : MemoryQuery)
    (context : RuntimeCallContext) : MemoryProgram MemoryPage := do
  ofExcept (query.scope.requireNarrowerThan context.scope)
  ofExcept (prevalidateCursor providerId query)
  let _ ← RuntimeControl.now
  emitStarted .retrieve providerId context
  (gateway.retrievePage providerId query context).catching fun error =>
    match error with
    | .core detail => do
      emitFailure .retrieve providerId context detail
      .raise (.core detail)
    | error => .raise error

end MemoryGateway

end CongeriesCore
