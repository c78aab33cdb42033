import CongeriesCore.Dict
import CongeriesCore.PluginVersion
import CongeriesCore.PolicyAuthorization

/-! # Plugin contracts

Manifests, capability declarations, and what a loader prepares. Implementations and the
hooks themselves are opaque. -/

namespace CongeriesCore

inductive CapabilityType
  | workflow
  | skill
  | tool
  | contextProvider
  | memoryProvider
  | modelProvider
  | storageProvider
  | mcpAdapter
  deriving DecidableEq, Repr

def CapabilityType.value : CapabilityType → String
  | .workflow => "workflow"
  | .skill => "skill"
  | .tool => "tool"
  | .contextProvider => "context_provider"
  | .memoryProvider => "memory_provider"
  | .modelProvider => "model_provider"
  | .storageProvider => "storage_provider"
  | .mcpAdapter => "mcp_adapter"

inductive PluginLifecycleState
  | discovered
  | validated
  | loaded
  | registered
  | active
  | draining
  | unregistered
  | unloaded
  deriving DecidableEq, Repr

namespace PluginLifecycleState

def value : PluginLifecycleState → String
  | .discovered => "discovered"
  | .validated => "validated"
  | .loaded => "loaded"
  | .registered => "registered"
  | .active => "active"
  | .draining => "draining"
  | .unregistered => "unregistered"
  | .unloaded => "unloaded"

/-- `_ALLOWED_TRANSITIONS`. -/
def allowed : PluginLifecycleState → List PluginLifecycleState
  | .discovered => [.validated]
  | .validated => [.loaded]
  | .loaded => [.registered]
  | .registered => [.active, .unregistered]
  | .active => [.draining]
  | .draining => [.active, .unregistered]
  | .unregistered => [.unloaded]
  | .unloaded => []

end PluginLifecycleState

inductive PluginHookName
  | onLoad
  | onActivate
  | onDrain
  | onUnload
  deriving DecidableEq, Repr

structure PluginRef where
  name : String
  version : SemVer
  deriving DecidableEq, Repr

def PluginRef.toData (plugin : PluginRef) : JsonValue :=
  .obj [("name", .str plugin.name), ("version", .str plugin.version.text)]

abbrev CapabilityKey := String × String × String

/-- A permission with the three parts of its Scope pattern. -/
structure PluginPermission where
  action : ActionRef
  scopeNamespace : String
  scopeKind : String
  scopeId : String
  deriving DecidableEq, Repr

/-- Whether the effective Scope or one of its ancestors matches. -/
def PluginPermission.permits (permission : PluginPermission) (scope : ScopeRef) : Bool :=
  scope.chain.any fun key =>
    key.namespace_ == permission.scopeNamespace && key.kind == permission.scopeKind &&
      (permission.scopeId == "*" || key.id == permission.scopeId)

structure CapabilityDeclaration where
  type : CapabilityType
  capabilityId : String
  contractVersion : SemVer
  permissions : List PluginPermission
  deriving DecidableEq, Repr

def CapabilityDeclaration.key (declaration : CapabilityDeclaration) : CapabilityKey :=
  (declaration.type.value, declaration.capabilityId, declaration.contractVersion.text)

/-- A Plugin by its name, or a capability by its type and identity. -/
inductive PluginDependency
  | plugin (pluginId : String) (versionRange : VersionRange)
  | capability (capabilityType : CapabilityType) (capabilityId : String)
      (versionRange : VersionRange)
  deriving DecidableEq, Repr

/-- `dependency.capability_id or dependency.plugin_id`. -/
def PluginDependency.identifier : PluginDependency → String
  | .plugin pluginId _ => pluginId
  | .capability _ capabilityId _ => capabilityId

def PluginDependency.stableKey : PluginDependency → String × String × String
  | .plugin pluginId _ => ("plugin", "", pluginId)
  | .capability capabilityType capabilityId _ =>
    ("capability", capabilityType.value, capabilityId)

structure CapabilityRegistration where
  registrationId : String
  owner : PluginRef
  declaration : CapabilityDeclaration
  deriving DecidableEq, Repr

structure RegistrationReceipt where
  registrationId : String
  owner : PluginRef
  registryVersion : ℕ
  capabilityKeys : List CapabilityKey
  deriving DecidableEq, Repr

/-- `other` stands for the fields that only the preflight reads. -/
structure PluginManifest where
  ref : PluginRef
  provides : List CapabilityDeclaration
  requires : List PluginDependency
  permissions : List PluginPermission
  lifecycle : List PluginHookName
  other : String
  unique : (provides.map fun item => (item.type, item.capabilityId)).Nodup
  requiredOnce : (requires.map PluginDependency.stableKey).Nodup
  deriving DecidableEq, Repr

/-- What one call of a loader has prepared. `handle` is the identity of the object; which
hooks it has is data, what they do is awaited. -/
structure PreparedPlugin where
  handle : ℕ
  manifest : PluginManifest
  capabilities : List CapabilityDeclaration
  hooks : PluginHookName → Bool

def missingInvocationIdentity (message : String) (given : message ≠ "" := by decide) : Raised :=
  coreError .invalidRequest "missing_invocation_identity" message ⟨by decide, given⟩

def registrationIdentityConflict (message : String) (given : message ≠ "" := by decide) : Raised :=
  coreError .conflict "registration_identity_conflict" message ⟨by decide, given⟩

/-! ### The capability registry -/

/-- A committed snapshot and the receipts that are used up. -/
structure CapabilityRegistry where
  version : ℕ
  registrations : Dict CapabilityKey CapabilityRegistration
  retiredReceipts : List String

namespace CapabilityRegistry

def get (registry : CapabilityRegistry) (key : CapabilityKey) :
    Except Raised CapabilityRegistration :=
  match registry.registrations.get? key with
  | none => .error (retryableError .unavailable "capability_not_registered"
      "Capability is not registered")
  | some registration => .ok registration

def owns (registry : CapabilityRegistry) (receipt : RegistrationReceipt) (key : CapabilityKey) :
    Bool :=
  (registry.registrations.get? key).any fun existing =>
    existing.owner == receipt.owner && existing.registrationId == receipt.registrationId

/-- A retired receipt is a harmless retry; a live one must own every key it names. -/
def unregister (registry : CapabilityRegistry) (receipt : RegistrationReceipt) :
    Except Raised Unit × CapabilityRegistry :=
  if registry.retiredReceipts.contains receipt.registrationId then (.ok (), registry)
  else if receipt.capabilityKeys.all (registry.owns receipt) then
    (.ok (), {
      version := registry.version + 1
      registrations := receipt.capabilityKeys.foldl Dict.erase registry.registrations
      retiredReceipts := receipt.registrationId :: registry.retiredReceipts })
  else (.error (registrationIdentityConflict
    "Registration receipt does not own the committed capability"), registry)

end CapabilityRegistry

end CongeriesCore
