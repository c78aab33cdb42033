import CongeriesCore.GrantConstraints
import CongeriesCore.LeasedCapability
import CongeriesCore.RuntimeSchema
import CongeriesCore.TimeAddition

/-! # Tools

What a Tool declares, and the gateway that executes it: under one lease and one deadline, with as
many attempts as its grant leaves. The title and the summary of a Tool are left out. -/

namespace CongeriesCore

open AsyncProgram AsyncProgram.Program

def toolContractVersion : String := "1"

def toolInvocationStarted : String := "core.tool.invocation_started"
def toolInvocationCompleted : String := "core.tool.invocation_completed"
def toolInvocationFailed : String := "core.tool.invocation_failed"

inductive ToolSideEffect
  | none
  | external
  deriving DecidableEq, Repr

def ToolSideEffect.value : ToolSideEffect → String
  | .none => "none"
  | .external => "external"

inductive ToolIdempotencyMode
  | notApplicable
  | callerKey
  deriving DecidableEq, Repr

def ToolIdempotencyMode.value : ToolIdempotencyMode → String
  | .notApplicable => "not_applicable"
  | .callerKey => "caller_key"

structure ToolExecutionPolicy where
  timeoutMs : Option ℕ
  maxAttempts : ℕ
  positive : (∀ limit ∈ timeoutMs, 1 ≤ limit) ∧ 1 ≤ maxAttempts
  deriving DecidableEq, Repr

/-- A core reference to a Tool of this contract. -/
def CapabilityRef.isTool (ref : CapabilityRef) : Prop :=
  ref.namespace_ = "core" ∧ ref.kind = "tool" ∧ ref.contractVersion = toolContractVersion

structure ToolDescriptor where
  ref : CapabilityRef
  inputSchema : SchemaRef
  outputSchema : SchemaRef
  action : ActionRef
  executionPolicy : ToolExecutionPolicy
  sideEffect : ToolSideEffect
  idempotency : ToolIdempotencyMode
  valid : ref.isTool ∧ (sideEffect = .external ↔ idempotency = .callerKey)

structure ToolCall where
  tool : CapabilityRef
  input : JsonValue
  valid : tool.isTool

structure ToolResult where
  tool : CapabilityRef
  output : JsonValue
  attempts : ℕ
  operationIdentity : IdempotencyKey
  valid : tool.isTool ∧ 1 ≤ attempts

/-- What a `ToolImplementation` does; its descriptor is what its gateway knows of it. The attempt
creates a task for its executor, which runs when the wait for it begins. -/
inductive ToolOp
  | createExecution (call : ToolCall) (context : RuntimeCallContext)
  | execute (call : ToolCall) (context : RuntimeCallContext)
  | waitExecution (context : RuntimeCallContext)

abbrev ToolOp.Answer : ToolOp → Type
  | .createExecution _ _ => Unit
  | .execute _ _ => Foreign
  | .waitExecution _ => TaskEnd

abbrev toolInterface : Interface := ⟨ToolOp, ToolOp.Answer⟩

abbrev ToolProgram := GatewayProgram (leasedInterface toolInterface ToolDescriptor)

abbrev toolOp (op : LeasedOp toolInterface ToolDescriptor) : ToolProgram op.Answer :=
  LeasedCapability.leasedOp op

/-! ### The registry -/

/-- `actions` is what the Tool registry knows. -/
structure ToolGateway where
  actions : List ActionRef
  schemas : SchemaRegistry
  authorization : GatewayAuthorization

namespace ToolRegistry

/-- The part of `resolve` after the registry has been asked. -/
def checkTool (gateway : ToolGateway) (ref : CapabilityRef)
    (published : PublishedCapability ToolDescriptor) : Except Raised ToolDescriptor := do
  ensure (published.registration.owner.name == ref.owningExtension) (coreError .conflict
    "tool_owner_mismatch" "Tool reference does not identify its owning Plugin")
  match published.implementation with
  | none => .error (coreError .protocolFailure "invalid_tool_implementation"
      "Plugin Tool implementation does not satisfy the Tool v1 contract")
  | some descriptor =>
    ensure (descriptor.ref == ref) (coreError .protocolFailure "tool_descriptor_mismatch"
      "Tool descriptor identity does not match its registration")
    ensure (gateway.schemas.contains descriptor.inputSchema &&
        gateway.schemas.contains descriptor.outputSchema)
      (coreError .versionMismatch "tool_schema_not_registered"
        "Tool input or output Schema is not registered")
    ensure (published.registration.declaration.permissions.any
        fun item => item.action == descriptor.action)
      (coreError .denied "tool_permission_undeclared"
        "Tool Action is not declared by its Plugin capability")
    ensure (gateway.actions.contains descriptor.action) (coreError .denied
      "tool_action_not_registered" "Tool Action is not registered")
    return descriptor

/-- `ToolRegistry.resolve`; only the descriptor of what it resolves is used. The reference of a
call is one to a Tool of this contract already. -/
def resolve (gateway : ToolGateway) (ref : CapabilityRef) : ToolProgram ToolDescriptor := do
  ofExcept (ensure (ref.namespace_ == "core" && ref.kind == CapabilityType.tool.value)
    (coreError .invalidRequest "invalid_tool_reference"
      "Tool reference namespace or kind is invalid"))
  ofExcept (ensure (ref.contractVersion == toolContractVersion) (coreError .versionMismatch
    "tool_contract_version_mismatch" "Tool contract version is unsupported"))
  let published ← toolOp (.getCapability ref.registrationKey)
  ofExcept (checkTool gateway ref published)

end ToolRegistry

/-! ### The grant -/

/-- `_schema_identity`. -/
def schemaIdentity (schema : SchemaRef) : String :=
  ":".intercalate [schema.namespace_, schema.name, schema.version]

/-- `_action_identity`. -/
def actionIdentity (action : ActionRef) : String :=
  ":".intercalate [action.namespace_, action.name, action.version]

namespace ToolGateway

def protocolFailure (message : String) (given : message ≠ "" := by decide) : Raised :=
  coreError .protocolFailure "tool_protocol_failure" message ⟨by decide, given⟩

/-- The part of `_validate_grant` about `max_attempts`. -/
def grantedAttempts (policy : ToolExecutionPolicy) : Option JsonValue → Except Raised ℕ
  | none => .ok policy.maxAttempts
  | some (.int rawAttempts) =>
    if rawAttempts < 1 ∨ (policy.maxAttempts : ℤ) < rawAttempts then
      .error (AuthorizedDispatcher.invalidGrant "Tool grant broadens max_attempts")
    else .ok rawAttempts.toNat
  | some _ => .error (AuthorizedDispatcher.invalidGrant "Tool max_attempts grant is invalid")

/-- The part of `_validate_grant` about `timeout_ms`. -/
def grantedTimeout (policy : ToolExecutionPolicy) : Option JsonValue → Except Raised (Option ℕ)
  | none => .ok policy.timeoutMs
  | some .null =>
    if policy.timeoutMs.isSome then
      .error (AuthorizedDispatcher.invalidGrant "Tool grant broadens timeout_ms")
    else .ok none
  | some (.int rawTimeout) =>
    if rawTimeout < 1 then
      .error (AuthorizedDispatcher.invalidGrant "Tool timeout_ms grant is invalid")
    else if policy.timeoutMs.any (fun limit : ℕ => (limit : ℤ) < rawTimeout) = true then
      .error (AuthorizedDispatcher.invalidGrant "Tool grant broadens timeout_ms")
    else .ok (some rawTimeout.toNat)
  | some _ => .error (AuthorizedDispatcher.invalidGrant "Tool timeout_ms grant is invalid")

/-- `_validate_grant`. -/
def validateGrant (descriptor : ToolDescriptor) (constraints : List (String × JsonValue)) :
    Except Raised (Option ℕ × ℕ) := do
  ensure (!unknownConstraint constraints ["input_schema", "output_schema", "action", "side_effect",
      "idempotency", "timeout_ms", "max_attempts"])
    (AuthorizedDispatcher.invalidGrant "Tool grant contains unknown constraints")
  ensure (leavesText constraints "input_schema" (schemaIdentity descriptor.inputSchema))
    (AuthorizedDispatcher.invalidGrant "Tool grant changes input_schema")
  ensure (leavesText constraints "output_schema" (schemaIdentity descriptor.outputSchema))
    (AuthorizedDispatcher.invalidGrant "Tool grant changes output_schema")
  ensure (leavesText constraints "action" (actionIdentity descriptor.action))
    (AuthorizedDispatcher.invalidGrant "Tool grant changes action")
  ensure (leavesText constraints "side_effect" descriptor.sideEffect.value)
    (AuthorizedDispatcher.invalidGrant "Tool grant changes side_effect")
  ensure (leavesText constraints "idempotency" descriptor.idempotency.value)
    (AuthorizedDispatcher.invalidGrant "Tool grant changes idempotency")
  let attempts ← grantedAttempts descriptor.executionPolicy (Dict.lookup "max_attempts" constraints)
  let timeout ← grantedTimeout descriptor.executionPolicy (Dict.lookup "timeout_ms" constraints)
  return (timeout, attempts)

/-- `_with_timeout`. -/
def withTimeout (context : RuntimeCallContext) (timeoutMs : Option ℕ) (startedAt : DateTime) :
    Except Raised RuntimeCallContext :=
  match timeoutMs with
  | none => .ok context
  | some milliseconds => do
    let deadline ← startedAt.addMilliseconds milliseconds
    match context.deadline with
    | none => context.narrow none (some ⟨deadline⟩)
    | some own =>
      if own.at_ ≤ deadline then return context else context.narrow none (some ⟨deadline⟩)

/-! ### The attempts -/

/-- `_execute_attempt`. Its `finally` leaves nothing to see: a task that has not started never does,
and what another one still raises is suppressed. -/
def executeAttempt (call : ToolCall) (context : RuntimeCallContext) : ToolProgram Foreign := do
  toolOp (.act (.createExecution call context))
  context.awaitTask (toolOp (.act (.execute call context))) (toolOp (.act (.waitExecution context)))

/-- What is checked of an output. -/
def judge (gateway : ToolGateway) (descriptor : ToolDescriptor) (output : Foreign) :
    Except Raised JsonValue := do
  let normalized ← output.asJsonValue "Tool output"
  gateway.schemas.validate descriptor.outputSchema normalized
  return normalized

/-- The attempt after so many others. -/
def attempt (gateway : ToolGateway) (descriptor : ToolDescriptor) (call : ToolCall)
    (context : RuntimeCallContext) (identity : IdempotencyKey) (made : ℕ) :
    ToolProgram ToolResult := do
  let output ← executeAttempt call context
  let normalized ← ofExcept (judge gateway descriptor output)
  return ⟨call.tool, normalized, made + 1, identity, call.valid, by omega⟩

/-- The loop goes on after such an exception, if there are attempts left. -/
def retried : Raised → Bool
  | .core detail => detail.retryable
  | error => error.isException

/-- What the last attempt raises. -/
def failure : Raised → Raised
  | .core detail => .core detail
  | error =>
    if error.isException then
      retryableError .unavailable "tool_executor_failure" "Tool executor failed"
        (some error.typeName)
    else error

/-- The `while` loop, with so many attempts made, and so many left after the next one. -/
def attempts (gateway : ToolGateway) (descriptor : ToolDescriptor) (call : ToolCall)
    (context : RuntimeCallContext) (identity : IdempotencyKey) : (made left : ℕ) →
    ToolProgram ToolResult
  | made, 0 => (gateway.attempt descriptor call context identity made).catching fun error =>
      .raise (failure error)
  | made, left + 1 => (gateway.attempt descriptor call context identity made).catching fun error =>
      if retried error then attempts gateway descriptor call context identity (made + 1) left
      else .raise (failure error)

/-! ### The gateway -/

/-- `_payload`, without the latency. -/
def payload (call : ToolCall) (attempts : ℕ) : List (String × JsonValue) :=
  [("tool_id", .str call.tool.id.value), ("attempts", .int attempts)]

/-- `_emit_failure`; the clock is read for the latency. -/
def emitFailure (call : ToolCall) (context : RuntimeCallContext) (error : ErrorDetail) :
    ToolProgram Unit := do
  let _ ← RuntimeControl.now
  LeasedCapability.emit toolInvocationFailed context (payload call 0 ++
    [("category", .str error.category.value), ("error_code", .str error.code)])

/-- `operation` of `execute`. -/
def operation (gateway : ToolGateway) (descriptor : ToolDescriptor) (call : ToolCall)
    (identity : IdempotencyKey) (startedAt : DateTime)
    (published : PublishedCapability ToolDescriptor) (authorized : AuthorizedCall) :
    ToolProgram ToolResult := do
  let (timeoutMs, maxAttempts) ← ofExcept (validateGrant descriptor authorized.grant.constraints)
  match published.implementation with
  | none => .raise (protocolFailure "Tool implementation is invalid")
  | some _ =>
    let effectiveContext ← ofExcept (withTimeout authorized.context timeoutMs startedAt)
    gateway.attempts descriptor call effectiveContext identity 0 (maxAttempts - 1)

def invocation (descriptor : ToolDescriptor) (call : ToolCall) (context : RuntimeCallContext) :
    Invocation where
  pluginId := call.tool.owningExtension
  capabilityKey := call.tool.registrationKey
  action := descriptor.action
  resource := call.tool.resource
  context := context
  principal := .core .run ⟨context.runId.value, context.runId_checked⟩
  constraints := [("input_schema", .str (schemaIdentity descriptor.inputSchema)),
    ("output_schema", .str (schemaIdentity descriptor.outputSchema)),
    ("action", .str (actionIdentity descriptor.action)),
    ("side_effect", .str descriptor.sideEffect.value),
    ("idempotency", .str descriptor.idempotency.value),
    ("timeout_ms", .ofOption (fun limit => .int limit) descriptor.executionPolicy.timeoutMs),
    ("max_attempts", .int descriptor.executionPolicy.maxAttempts)]
  resourceValidator := none

/-- The `try` of `execute`. -/
def executeTool (gateway : ToolGateway) (descriptor : ToolDescriptor) (call : ToolCall)
    (context : RuntimeCallContext) (identity : IdempotencyKey) (startedAt : DateTime) :
    ToolProgram ToolResult := do
  let result ← LeasedCapability.invoke gateway.authorization (invocation descriptor call context)
    (gateway.operation descriptor call identity startedAt)
  let _ ← RuntimeControl.now
  LeasedCapability.emit toolInvocationCompleted context (payload call result.attempts)
  return result

/-- `execute` after the Tool has been resolved. -/
def executeResolved (gateway : ToolGateway) (descriptor : ToolDescriptor) (call : ToolCall)
    (context : RuntimeCallContext) (identity : IdempotencyKey) (startedAt : DateTime) :
    ToolProgram ToolResult := do
  ofExcept (gateway.schemas.validate descriptor.inputSchema call.input)
  LeasedCapability.emit toolInvocationStarted context (payload call 0)
  (gateway.executeTool descriptor call context identity startedAt).catching fun error =>
    match error with
    | .core detail => do
      emitFailure call context detail
      .raise (.core detail)
    | error => .raise error

/-- `ToolGateway.execute`. -/
def execute (gateway : ToolGateway) (call : ToolCall) (context : RuntimeCallContext) :
    ToolProgram ToolResult := do
  let startedAt ← RuntimeControl.now
  match context.idempotencyKey with
  | none => .raise (missingInvocationIdentity "Tool execution requires an invocation identity")
  | some identity => do
    let descriptor ← ToolRegistry.resolve gateway call.tool
    gateway.executeResolved descriptor call context identity startedAt

end ToolGateway

end CongeriesCore
