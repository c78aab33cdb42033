import CongeriesCore.DependencyResolver
import CongeriesCore.PluginInvocation

/-! # Plugin lifecycle operations

Load, activation, drain and unload of one Plugin. Every call holds the operation lock of the
Plugin, so that what it has read of the lifecycle stays true until it changes it. -/

namespace CongeriesCore

open AsyncProgram

def pluginLoadAction : ActionRef := ⟨"core", "plugin.load", "1", by decide⟩
def pluginActivateAction : ActionRef := ⟨"core", "plugin.activate", "1", by decide⟩
def pluginDrainAction : ActionRef := ⟨"core", "plugin.drain", "1", by decide⟩
def pluginCancelDrainAction : ActionRef := ⟨"core", "plugin.cancel_drain", "1", by decide⟩
def pluginUnloadAction : ActionRef := ⟨"core", "plugin.unload", "1", by decide⟩

/-- `ResourceRef("core", "plugin", ResourceId(plugin_id), owning_extension=plugin_id)`. -/
def pluginResource (pluginId : String) : Except Raised ResourceRef := do
  let id ← Identifier.make .resource pluginId
  if named : isName pluginId = true then
    return ⟨"core", "plugin", id, some pluginId, by decide, by decide, by simpa using named⟩
  else .error (.value "owning extension is invalid")

/-- The resource of a declared capability. -/
def capabilityResource (pluginId : String) (declaration : CapabilityDeclaration) :
    Except Raised ResourceRef := do
  let id ← Identifier.make .resource declaration.capabilityId
  if named : isName pluginId = true then
    return ⟨"core", declaration.type.value, id, some pluginId, by decide,
      by cases declaration.type <;> decide, by simpa using named⟩
  else .error (.value "owning extension is invalid")

/-- The calls on one Plugin. The preflight is a pure check of a manifest. -/
structure PluginManager where
  pluginId : String
  authorization : PluginAuthorization
  checkLocal : PluginManifest → Except Raised Unit

namespace PluginManager

def invalidState (message : String) (given : message ≠ "" := by decide) : Raised :=
  coreError .conflict "invalid_lifecycle_transition" message ⟨by decide, given⟩

def operationId (manager : PluginManager) (context : RuntimeCallContext) (action : ActionRef) :
    Except Raised String :=
  match context.idempotencyKey with
  | none => .error (missingInvocationIdentity
      "Plugin lifecycle operation requires an idempotency key")
  | some key => .ok (action.name ++ ":" ++ manager.pluginId ++ ":" ++ key.value)

/-- Cleanup and failure reports outlive the call that led to them. -/
def recoveryContext (context : RuntimeCallContext) : PluginProgram RuntimeCallContext := do
  let token ← pluginOp .newToken
  return { context with deadline := none, cancellation := token }

def emitChanged (plugin : PluginRef) (fromState : String) (toState : PluginLifecycleState)
    (operationId : String) (context : RuntimeCallContext) : PluginProgram Unit :=
  suppressException do
    let count ← pluginOp .activeLeaseCount
    let recovery ← recoveryContext context
    pluginOp (.lifecycleChanged plugin fromState toState operationId count recovery)

def emitFailed (plugin : PluginRef) (fromState : String) (toState : PluginLifecycleState)
    (operationId : String) (error : ErrorDetail) (context : RuntimeCallContext) :
    PluginProgram Unit := do
  let count ← pluginOp .activeLeaseCount
  let recovery ← recoveryContext context
  pluginOp (.lifecycleFailed plugin fromState toState operationId count error recovery)

def preparedPlugin : PluginProgram PreparedPlugin := do
  match ← pluginOp .getPrepared with
  | none => .raise (retryableError .unavailable "plugin_not_loaded"
      "Plugin has no prepared loader state")
  | some prepared => return prepared

def runHook (prepared : PreparedPlugin) (hook : PluginHookName) (context : RuntimeCallContext) :
    PluginProgram Unit :=
  if prepared.hooks hook then context.awaitProvider (pluginOp (.runHook prepared hook context))
  else return ()

/-- The progress of a declared hook is recorded. -/
def markDeclared (hook : PluginHookName) (record : PluginStateRecord) :
    PluginProgram PluginStateRecord :=
  if hook ∈ record.manifest.lifecycle then pluginOp (.markHook hook) else return record

/-- A hook that has succeeded is not run again. -/
def completeHook (prepared : PreparedPlugin) (hook : PluginHookName) (record : PluginStateRecord)
    (context : RuntimeCallContext) : PluginProgram PluginStateRecord :=
  if hook ∈ record.successfulHooks then return record
  else do
    runHook prepared hook context
    markDeclared hook record

/-- A transition of the record that was read, and its event. -/
def changeState (record : PluginStateRecord) (target : PluginLifecycleState) (clearReceipt : Bool)
    (operationId : String) (context : RuntimeCallContext) : PluginProgram PluginStateRecord := do
  let changed ← pluginOp (.transition target record.stateVersion none clearReceipt)
  emitChanged changed.manifest.ref record.state.value changed.state operationId context
  return changed

/-- Lease admission is closed before any hook runs. -/
def beginDraining (record : PluginStateRecord) (operationId : String)
    (context : RuntimeCallContext) : PluginProgram PluginStateRecord :=
  if record.state = .active then changeState record .draining false operationId context
  else return record

def ensureDraining (record : PluginStateRecord) (operationId : String)
    (context : RuntimeCallContext) : PluginProgram PluginStateRecord := do
  let record ← beginDraining record operationId context
  Program.ofExcept
    (ensure (record.state == .draining) (invalidState "drain requires ACTIVE or DRAINING"))
  let prepared ← preparedPlugin
  completeHook prepared .onDrain record context

/-- `wait_for_zero`. -/
def waitForZero (context : RuntimeCallContext) : ℕ → PluginProgram Unit
  | 0 => .raise outOfFuel
  | fuel + 1 => do
    if ← pluginOp .noLeases then return ()
    else
      context.awaitProvider (pluginOp .waitForChange)
      waitForZero context fuel

def normalizeDrainError (error : ErrorDetail) : ErrorDetail :=
  if error.category = .timeout then
    ⟨.timeout, "drain_timeout", "Plugin drain deadline expired before active leases reached zero",
      true, some error.code, [], by decide⟩
  else error

/-- An exception of a hook or a loader as an error of the runtime. -/
def mappedFailure (code message : String) (required : code ≠ "" ∧ message ≠ "") (error : Raised) :
    ErrorDetail :=
  ⟨.protocolFailure, code, message, true, some error.typeName, [], required⟩

def reportFailure {α : Type} (target : PluginLifecycleState) (operationId : String)
    (detail : ErrorDetail) (context : RuntimeCallContext) : PluginProgram α := do
  let current ← pluginOp .getRecord
  emitFailed current.manifest.ref current.state.value target operationId detail context
  .raise (.core detail)

def drainFailure {α : Type} (operationId : String) (context : RuntimeCallContext) :
    Raised → PluginProgram α
  | .core detail => reportFailure .draining operationId (normalizeDrainError detail) context
  | .cancelledError => .raise .cancelledError
  | error => reportFailure .draining operationId
      (mappedFailure "lifecycle_hook_failed" "Plugin drain hook failed" (by decide) error) context

def drainEffect (manager : PluginManager) (fuel : ℕ) (context : RuntimeCallContext) :
    PluginProgram PluginStateRecord := do
  let record ← pluginOp .getRecord
  let operationId ← Program.ofExcept (manager.operationId context pluginDrainAction)
  let count ← pluginOp .activeLeaseCount
  pluginOp (.transitionRequested record.manifest.ref record.state.value .draining operationId count
    context)
  Program.catching (do
    let _ ← ensureDraining record operationId context
    waitForZero context fuel
    pluginOp .getRecord) (drainFailure operationId context)

def cancelDrainEffect (manager : PluginManager) (context : RuntimeCallContext) :
    PluginProgram PluginStateRecord := do
  let record ← pluginOp .getRecord
  let operationId ← Program.ofExcept (manager.operationId context pluginCancelDrainAction)
  let count ← pluginOp .activeLeaseCount
  pluginOp (.transitionRequested record.manifest.ref record.state.value .active operationId count
    context)
  Program.ofExcept
    (ensure (record.state == .draining) (invalidState "cancel-drain requires DRAINING"))
  Program.ofExcept
    (ensure record.registrationReceipt.isSome (invalidState "cannot reactivate unregistered Plugin"))
  changeState record .active false operationId context

/-- The leases are gone before the capabilities are: drain first where needed. -/
def drainFirst (fuel : ℕ) (record : PluginStateRecord) (operationId : String)
    (context : RuntimeCallContext) : PluginProgram PluginStateRecord :=
  if record.state = .active ∨ record.state = .draining then do
    let _ ← ensureDraining record operationId context
    waitForZero context fuel
    pluginOp .getRecord
  else return record

def unregisterCapabilities (record : PluginStateRecord) (operationId : String)
    (context : RuntimeCallContext) : PluginProgram PluginStateRecord :=
  if record.state = .draining ∨ record.state = .registered then
    match record.registrationReceipt with
    | none => .raise (invalidState "registered Plugin lacks receipt")
    | some receipt => do
      pluginOp (.unregister receipt)
      changeState record .unregistered true operationId context
  else return record

def unloadSteps (fuel : ℕ) (prepared : PreparedPlugin) (record : PluginStateRecord)
    (operationId : String) (context : RuntimeCallContext) : PluginProgram PluginStateRecord := do
  let record ← drainFirst fuel record operationId context
  let record ← unregisterCapabilities record operationId context
  Program.ofExcept (ensure (record.state == .unregistered)
    (invalidState "unload requires ACTIVE, DRAINING, REGISTERED, or UNREGISTERED"))
  let record ← completeHook prepared .onUnload record context
  context.awaitProvider (pluginOp (.cleanup prepared context))
  let unloaded ← pluginOp (.transition .unloaded record.stateVersion none false)
  pluginOp .forgetPrepared
  emitChanged unloaded.manifest.ref record.state.value unloaded.state operationId context
  return unloaded

def unloadFailure {α : Type} (operationId : String) (context : RuntimeCallContext) :
    Raised → PluginProgram α
  | .core detail => do
    let record ← pluginOp .getRecord
    reportFailure .unloaded operationId
      (if record.state = .draining then normalizeDrainError detail else detail) context
  | .cancelledError => .raise .cancelledError
  | error => reportFailure .unloaded operationId
      (mappedFailure "unload_failed" "Plugin unload cleanup failed" (by decide) error) context

def unloadEffect (manager : PluginManager) (fuel : ℕ) (context : RuntimeCallContext) :
    PluginProgram PluginStateRecord := do
  let record ← pluginOp .getRecord
  let operationId ← Program.ofExcept (manager.operationId context pluginUnloadAction)
  let count ← pluginOp .activeLeaseCount
  pluginOp (.transitionRequested record.manifest.ref record.state.value .unloaded operationId count
    context)
  if record.state = .unloaded then return record
  else do
    let prepared ← preparedPlugin
    (unloadSteps fuel prepared record operationId context).catching
      (unloadFailure operationId context)

/-! ### Load -/

/-- `_catalog_snapshot`. -/
def catalogSnapshot : PluginProgram CapabilityCatalogSnapshot := do
  let registry ← pluginOp .registrySnapshot
  let plugins ← pluginOp .activePluginRefs
  let ordered := registry.registrations.values.mergeSort fun first second =>
    first.declaration.notAfter second.declaration
  Program.ofExcept (CapabilityCatalogSnapshot.make plugins
    (ordered.map fun item => ⟨item.owner, item.declaration⟩))

def loadMismatch (message : String) (given : message ≠ "" := by decide) : Raised :=
  coreError .protocolFailure "plugin_load_failed" message ⟨by decide, given⟩

def hookNames : List PluginHookName := [.onLoad, .onActivate, .onDrain, .onUnload]

/-- `loaded == declared and len(loaded) == len(prepared.capabilities)`. -/
def sameKeys (loaded declared : List CapabilityKey) : Bool :=
  decide loaded.Nodup && (loaded.all fun key => declared.contains key) &&
    declared.all fun key => loaded.contains key

def validatePrepared (prepared : PreparedPlugin) (manifest : PluginManifest) :
    Except Raised Unit := do
  ensure (prepared.manifest == manifest) (loadMismatch "Loader returned a different Plugin manifest")
  ensure (sameKeys (prepared.capabilities.map CapabilityDeclaration.key)
      (manifest.provides.map CapabilityDeclaration.key))
    (loadMismatch "Loader capabilities do not exactly match the manifest")
  ensure (hookNames.all fun hook => prepared.hooks hook == manifest.lifecycle.contains hook)
    (loadMismatch "Loader hooks do not exactly match the manifest")

/-- `if prepared is not None: await self._cleanup_staged(…)`. -/
def cleanupStaged (prepared : Option PreparedPlugin) (context : RuntimeCallContext) :
    PluginProgram Unit :=
  match prepared with
  | none => return ()
  | some prepared => suppressException do
    let recovery ← recoveryContext context
    pluginOp (.cleanup prepared recovery)

/-- Whatever the loader has prepared is cleaned up, and the failure reported. -/
def reportLoadFailure {α : Type} (prepared : Option PreparedPlugin) (manifest : PluginManifest)
    (operationId : String) (detail : ErrorDetail) (context : RuntimeCallContext) :
    PluginProgram α := do
  cleanupStaged prepared context
  emitFailed manifest.ref PluginLifecycleState.validated.value .loaded operationId detail context
  .raise (.core detail)

def loadFailure {α : Type} (prepared : Option PreparedPlugin) (manifest : PluginManifest)
    (operationId : String) (context : RuntimeCallContext) : Raised → PluginProgram α
  | .core detail => reportLoadFailure prepared manifest operationId detail context
  | .cancelledError => .raise .cancelledError
  | error => reportLoadFailure prepared manifest operationId
      (mappedFailure "plugin_load_failed" "Plugin loader failed" (by decide) error) context

/-- What follows `loader.prepare`: the handle stays staged until it matches the manifest. -/
def stagePrepared (prepared : PreparedPlugin) (manifest : PluginManifest)
    (record : PluginStateRecord) (operationId : String) (context : RuntimeCallContext) :
    PluginProgram PluginStateRecord := do
  Program.ofExcept (validatePrepared prepared manifest)
  runHook prepared .onLoad context
  let record ← markDeclared .onLoad record
  pluginOp (.setPrepared prepared)
  changeState record .loaded false operationId context

def stage (manifest : PluginManifest) (record : PluginStateRecord) (operationId : String)
    (context : RuntimeCallContext) : PluginProgram PluginStateRecord :=
  (context.awaitProvider (pluginOp (.prepare manifest context))).andThen fun
    | .error error => loadFailure none manifest operationId context error
    | .ok prepared => (stagePrepared prepared manifest record operationId context).catching
        (loadFailure (some prepared) manifest operationId context)

/-- A Plugin that is loaded already is handed back, under the same manifest. -/
def existingLoad (manifest : PluginManifest) : PluginProgram PluginStateRecord := do
  let record ← pluginOp .getRecord
  Program.ofExcept (ensure (record.manifest == manifest) (registrationIdentityConflict
    "Plugin identity is already loaded with another manifest"))
  return record

theorem alreadyRegistered_given : "Capability is already registered" ≠ "" := by decide

/-- The checks before a load is announced. -/
def checkLoad (manager : PluginManager) (manifest : PluginManifest) : PluginProgram Unit := do
  Program.ofExcept (manager.checkLocal manifest)
  let available ← catalogSnapshot
  let _ ← Program.ofExcept
    ((DependencyResolver.resolve [manifest] available).mapError PluginError.raised)
  let registry ← pluginOp .registrySnapshot
  Program.ofExcept (ensure (!manifest.provides.any fun declaration =>
    registry.registrations.contains declaration.key)
      (registrationConflict "Capability is already registered" alreadyRegistered_given))

def discoverPlugin (manifest : PluginManifest) (operationId : String)
    (context : RuntimeCallContext) : PluginProgram PluginStateRecord := do
  let record ← pluginOp (.discover manifest)
  emitChanged manifest.ref "absent" record.state operationId context
  if record.state = .discovered then changeState record .validated false operationId context
  else return record

def loadEffect (manager : PluginManager) (manifest : PluginManifest)
    (context : RuntimeCallContext) : PluginProgram PluginStateRecord := do
  let operationId ← Program.ofExcept (manager.operationId context pluginLoadAction)
  match ← pluginOp .getPrepared with
  | some _ => existingLoad manifest
  | none => do
    manager.checkLoad manifest
    pluginOp (.transitionRequested manifest.ref "absent" .loaded operationId 0 context)
    let record ← discoverPlugin manifest operationId context
    if record.state = .validated then stage manifest record operationId context
    else return record

/-! ### Activation -/

/-- `CapabilityRegistrationPlan(record.ref, prepared.capabilities)`. -/
def registrationPlan (owner : PluginRef) (capabilities : List CapabilityDeclaration) :
    Except Raised CapabilityRegistrationPlan :=
  if distinct : (capabilities.map CapabilityDeclaration.key).Nodup then
    .ok ⟨owner, capabilities, distinct⟩
  else .error (.value "registration plan contains duplicate capabilities")

/-- `except Exception: registry.rollback(receipt); raise`. -/
def undoCommit {α : Type} (receipt : RegistrationReceipt) (error : Raised) : PluginProgram α :=
  if error.isException then do
    pluginOp (.rollback receipt)
    .raise error
  else .raise error

/-- Publication comes before the state commit, and is rolled back where that fails. -/
def publishCapabilities (prepared : PreparedPlugin) (record : PluginStateRecord)
    (operationId : String) (context : RuntimeCallContext) : PluginProgram PluginStateRecord :=
  if record.state = .loaded then do
    let plan ← Program.ofExcept (registrationPlan record.manifest.ref prepared.capabilities)
    let receipt ← pluginOp (.commitRegistration plan)
    let registered ← Program.catching
      (pluginOp (.transition .registered record.stateVersion (some receipt) false))
      (undoCommit receipt)
    emitChanged registered.manifest.ref record.state.value registered.state operationId context
    return registered
  else return record

/-- The permissions of the manifest, each for its resource. -/
def activationRequests (manifest : PluginManifest) :
    Except Raised (List (PluginPermission × ResourceRef)) := do
  let own ← manifest.permissions.mapM fun permission =>
    return (permission, ← pluginResource manifest.ref.name)
  let declared ← manifest.provides.mapM fun declaration =>
    declaration.permissions.mapM fun permission =>
      return (permission, ← capabilityResource manifest.ref.name declaration)
  return own ++ declared.flatten

/-- `_allow_declared_permission`. -/
def allowDeclaredPermission (permission : PluginPermission) (call : AuthorizedCall) :
    PluginProgram Unit :=
  Program.ofExcept (ensure (permission.permits call.context.scope) (coreError .denied
    "permission_denied" "Requested Plugin permission is outside its declared Scope"))

def activationDenied : Raised → Raised
  | .core detail =>
    if detail.category = .denied then
      .core ⟨.denied, "permission_denied", "Plugin permission request was denied", false,
        some detail.code, [], by decide⟩
    else .core detail
  | error => error

/-- Activation is authorized as the Plugin, not as the user who requested it. -/
def authorizeActivation (manager : PluginManager) (manifest : PluginManifest)
    (context : RuntimeCallContext) : PluginProgram Unit := do
  let id ← Program.ofExcept (Identifier.make .principal manifest.ref.name)
  let requests ← Program.ofExcept (activationRequests manifest)
  Program.foldM (fun _ (permission, resource) =>
    (manager.authorization.dispatcher.dispatch
      { principal := .core .plugin id
        action := permission.action
        resource := resource
        scope := context.scope
        context := context
        constraints := [] }
      (allowDeclaredPermission permission)).catching fun error => .raise (activationDenied error))
    () requests

def activateFailure {α : Type} (operationId : String) (context : RuntimeCallContext) :
    Raised → PluginProgram α
  | .core detail => reportFailure .active operationId detail context
  | .cancelledError => .raise .cancelledError
  | error => reportFailure .active operationId
      (mappedFailure "lifecycle_hook_failed" "Plugin activation failed" (by decide) error) context

def activateSteps (manager : PluginManager) (prepared : PreparedPlugin)
    (record : PluginStateRecord) (operationId : String) (context : RuntimeCallContext) :
    PluginProgram PluginStateRecord := do
  let record ← publishCapabilities prepared record operationId context
  Program.ofExcept (ensure (record.state == .registered)
    (invalidState "activation requires LOADED or REGISTERED"))
  manager.authorizeActivation record.manifest context
  let record ← completeHook prepared .onActivate record context
  changeState record .active false operationId context

def activateEffect (manager : PluginManager) (context : RuntimeCallContext) :
    PluginProgram PluginStateRecord := do
  let record ← pluginOp .getRecord
  let operationId ← Program.ofExcept (manager.operationId context pluginActivateAction)
  let count ← pluginOp .activeLeaseCount
  pluginOp (.transitionRequested record.manifest.ref record.state.value .active operationId count
    context)
  if record.state = .active then return record
  else do
    let prepared ← preparedPlugin
    (manager.activateSteps prepared record operationId context).catching
      (activateFailure operationId context)

/-- `async with operation_lock: return await self._authorized(…)`. -/
def locked (manager : PluginManager) (action : ActionRef) (context : RuntimeCallContext)
    (principal : RuntimePrincipal)
    (effect : RuntimeCallContext → PluginProgram PluginStateRecord) :
    PluginProgram PluginStateRecord := do
  pluginOp .acquireOperationLock
  Program.finallyDo (do
    let resource ← Program.ofExcept (pluginResource manager.pluginId)
    manager.authorization.dispatcher.dispatch
      { principal, action, resource, scope := context.scope, context, constraints := [] }
      fun call => effect call.context) (pluginOp .releaseOperationLock)

/-- The manifest has been validated and names the Plugin of the manager. -/
def load (manager : PluginManager) (manifest : PluginManifest) (context : RuntimeCallContext)
    (principal : RuntimePrincipal) : PluginProgram PluginStateRecord :=
  manager.locked pluginLoadAction context principal (manager.loadEffect manifest)

def activate (manager : PluginManager) (context : RuntimeCallContext)
    (principal : RuntimePrincipal) : PluginProgram PluginStateRecord :=
  manager.locked pluginActivateAction context principal manager.activateEffect

def drain (manager : PluginManager) (fuel : ℕ) (context : RuntimeCallContext)
    (principal : RuntimePrincipal) : PluginProgram PluginStateRecord :=
  manager.locked pluginDrainAction context principal (manager.drainEffect fuel)

def cancelDrain (manager : PluginManager) (context : RuntimeCallContext)
    (principal : RuntimePrincipal) : PluginProgram PluginStateRecord :=
  manager.locked pluginCancelDrainAction context principal manager.cancelDrainEffect

def unload (manager : PluginManager) (fuel : ℕ) (context : RuntimeCallContext)
    (principal : RuntimePrincipal) : PluginProgram PluginStateRecord :=
  manager.locked pluginUnloadAction context principal (manager.unloadEffect fuel)

end PluginManager

end CongeriesCore
