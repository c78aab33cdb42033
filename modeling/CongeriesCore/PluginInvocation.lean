import CongeriesCore.PluginLifecycle
import CongeriesCore.PluginRegistry

/-! # Capability invocation

What a Plugin's callers and its manager await, and the invocation of a capability under an
execution lease. Authorization and the declared Scope come before the lease. -/

namespace CongeriesCore

open AsyncProgram

/-- `commitRegistration plan` is `registry.commit(plan, expected_version=…)` with the version
of the snapshot taken right before it: nothing is awaited in between. -/
inductive PluginOp
  | cancelled (token : CancellationId)
  | now
  | newToken
  | authorize (request : AccessRequest)
  | authorizationDenied (request : AccessRequest) (decision : PolicyDecision)
  | crossScopeGranted (request : AccessRequest) (grant : Grant)
  | auditFailed (runId : RunId) (error : ErrorDetail)
  | acquireOperationLock
  | releaseOperationLock
  | getRecord
  | discover (manifest : PluginManifest)
  | transition (target : PluginLifecycleState) (expectedVersion : ℕ)
      (receipt : Option RegistrationReceipt) (clearReceipt : Bool)
  | markHook (hook : PluginHookName)
  | acquire (capabilityKey : CapabilityKey) (runId : RunId) (invocation : String)
  | release (lease : ExecutionLease)
  | activeLeaseCount
  | noLeases
  | waitForChange
  | activePluginRefs
  | registrySnapshot
  | getCapability (key : CapabilityKey)
  | commitRegistration (plan : CapabilityRegistrationPlan)
  | unregister (receipt : RegistrationReceipt)
  | rollback (receipt : RegistrationReceipt)
  | getPrepared
  | setPrepared (prepared : PreparedPlugin)
  | forgetPrepared
  | transitionRequested (plugin : PluginRef) (fromState : String) (toState : PluginLifecycleState)
      (operationId : String) (activeLeaseCount : ℕ) (context : RuntimeCallContext)
  | lifecycleChanged (plugin : PluginRef) (fromState : String) (toState : PluginLifecycleState)
      (operationId : String) (activeLeaseCount : ℕ) (context : RuntimeCallContext)
  | lifecycleFailed (plugin : PluginRef) (fromState : String) (toState : PluginLifecycleState)
      (operationId : String) (activeLeaseCount : ℕ) (error : ErrorDetail)
      (context : RuntimeCallContext)
  | prepare (manifest : PluginManifest) (context : RuntimeCallContext)
  | runHook (prepared : PreparedPlugin) (hook : PluginHookName) (context : RuntimeCallContext)
  | cleanup (prepared : PreparedPlugin) (context : RuntimeCallContext)
  | startOperation (registration : CapabilityRegistration) (call : AuthorizedCall)
  | awaitOperation

abbrev PluginOp.Answer : PluginOp → Type
  | .cancelled _ => Bool
  | .now => DateTime
  | .newToken => CancellationId
  | .authorize _ => PolicyDecision
  | .getRecord | .discover _ | .transition _ _ _ _ | .markHook _ => PluginStateRecord
  | .acquire _ _ _ => ExecutionLease
  | .activeLeaseCount => ℕ
  | .noLeases => Bool
  | .getCapability _ => CapabilityRegistration
  | .activePluginRefs => List PluginRef
  | .registrySnapshot => CapabilityRegistry
  | .commitRegistration _ => RegistrationReceipt
  | .getPrepared => Option PreparedPlugin
  | .prepare _ _ => PreparedPlugin
  | .awaitOperation => JsonValue
  | .authorizationDenied _ _ | .crossScopeGranted _ _ | .auditFailed _ _ | .acquireOperationLock
  | .releaseOperationLock | .release _ | .waitForChange | .unregister _ | .rollback _
  | .setPrepared _ | .forgetPrepared | .transitionRequested _ _ _ _ _ _
  | .lifecycleChanged _ _ _ _ _ _ | .lifecycleFailed _ _ _ _ _ _ _ | .runHook _ _ _ | .cleanup _ _
  | .startOperation _ _ => Unit

abbrev PluginInterface : Interface := ⟨PluginOp, PluginOp.Answer⟩

abbrev PluginProgram (α : Type) := Program PluginInterface Raised α

def pluginOp (op : PluginOp) : PluginProgram op.Answer := @Program.perform PluginInterface Raised op

instance : RuntimeControl PluginInterface where
  cancelled token := pluginOp (.cancelled token)
  now := pluginOp .now

/-- What the `AuthorizedDispatcher` of a Plugin runtime is configured with. -/
structure PluginAuthorization where
  actions : List ActionRef
  hasPolicy : Bool

def PluginAuthorization.dispatcher (authorization : PluginAuthorization) :
    AuthorizedDispatcher PluginInterface where
  actions := authorization.actions
  policy :=
    if authorization.hasPolicy then some fun request => pluginOp (.authorize request) else none
  authorizationDenied request decision := pluginOp (.authorizationDenied request decision)
  crossScopeGranted request grant := pluginOp (.crossScopeGranted request grant)
  handleAuditFailure runId error := pluginOp (.auditFailed runId error)

/-- The arguments of one invocation. -/
structure Invocation where
  pluginId : String
  capabilityKey : CapabilityKey
  action : ActionRef
  resource : ResourceRef
  context : RuntimeCallContext
  principal : RuntimePrincipal
  constraints : List (String × JsonValue)
  resourceValidator : Option (CapabilityRegistration → ResourceRef → Bool)

namespace PluginCapabilityInvoker

/-- Where no validator is given, the resource must be the capability itself. -/
def resourceMatches (invocation : Invocation) (registration : CapabilityRegistration) : Bool :=
  match invocation.resourceValidator with
  | some validator => validator registration invocation.resource
  | none =>
    invocation.resource.namespace_ == "core" &&
      invocation.resource.kind == registration.declaration.type.value &&
      invocation.resource.id.value == registration.declaration.capabilityId

/-- The permission the declaration gives for the action. -/
def checkInvocation (invocation : Invocation) (registration : CapabilityRegistration) :
    Except Raised PluginPermission := do
  ensure (registration.owner.name == invocation.pluginId)
    (registrationIdentityConflict "Capability is owned by another Plugin")
  ensure (invocation.resource.owningExtension == some invocation.pluginId)
    (registrationIdentityConflict "Invocation resource does not identify the owning Plugin")
  ensure (resourceMatches invocation registration) (coreError .conflict
    "invocation_resource_mismatch" "Invocation resource does not match the registered capability")
  match registration.declaration.permissions.find? fun item => item.action == invocation.action with
  | none => .error (coreError .denied "permission_denied"
      "Capability invocation action is not declared")
  | some permission => return permission

/-- `PluginLifecycleController.acquire`. -/
def acquire (capabilityKey : CapabilityKey) (context : RuntimeCallContext) :
    PluginProgram ExecutionLease :=
  match context.idempotencyKey with
  | none => .raise (missingInvocationIdentity
      "Plugin capability invocation requires an idempotency key")
  | some invocation => pluginOp (.acquire capabilityKey context.runId invocation.value)

/-- The callback as a task of its own, and the wait for it. -/
def runOperation (registration : CapabilityRegistration) (call : AuthorizedCall) :
    PluginProgram JsonValue := do
  pluginOp (.startOperation registration call)
  pluginOp .awaitOperation

def authorized (invocation : Invocation) (registration : CapabilityRegistration)
    (permission : PluginPermission) (call : AuthorizedCall) : PluginProgram JsonValue := do
  Program.ofExcept (ensure (permission.permits call.context.scope) (coreError .denied
    "permission_denied" "Capability invocation Scope is outside its declaration"))
  let lease ← acquire invocation.capabilityKey call.context
  (call.context.awaitProvider (runOperation registration call)).finallyDo
    (pluginOp (.release lease))

def invoke (authorization : PluginAuthorization) (invocation : Invocation) :
    PluginProgram JsonValue := do
  let registration ← pluginOp (.getCapability invocation.capabilityKey)
  let permission ← Program.ofExcept (checkInvocation invocation registration)
  authorization.dispatcher.dispatch
    { principal := invocation.principal
      action := invocation.action
      resource := invocation.resource
      scope := invocation.context.scope
      context := invocation.context
      constraints := invocation.constraints }
    (authorized invocation registration permission)

end PluginCapabilityInvoker

end CongeriesCore
