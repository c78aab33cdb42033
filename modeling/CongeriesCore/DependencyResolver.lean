import CongeriesCore.KeyedSort
import CongeriesCore.PluginRegistry
import Mathlib.Data.Finset.Sort

/-! # Plugin dependency resolution

Every requirement of a candidate is bound to the one provider it has among the candidates and the
catalog; the candidates are then ordered so that each comes after its providers. -/

namespace CongeriesCore

open KeyedSort

structure CatalogCapability where
  owner : PluginRef
  declaration : CapabilityDeclaration
  deriving DecidableEq, Repr

structure CapabilityCatalogSnapshot where
  plugins : List PluginRef
  capabilities : List CatalogCapability
  names : (plugins.map PluginRef.name).Nodup
  keys : (capabilities.map fun item => item.declaration.key).Nodup

/-- `__post_init__`. -/
def CapabilityCatalogSnapshot.make (plugins : List PluginRef)
    (capabilities : List CatalogCapability) : Except Raised CapabilityCatalogSnapshot :=
  if names : (plugins.map PluginRef.name).Nodup then
    if keys : (capabilities.map fun item => item.declaration.key).Nodup then
      .ok ⟨plugins, capabilities, names, keys⟩
    else .error (.value "catalog contains duplicate capability identities")
  else .error (.value "catalog contains multiple versions of one Plugin")

structure ResolvedDependency where
  consumer : PluginRef
  dependency : PluginDependency
  provider : PluginRef
  capability : Option CapabilityDeclaration
  deriving DecidableEq, Repr

structure DependencyResolutionPlan where
  orderedPlugins : List PluginRef
  bindings : List ResolvedDependency
  deriving DecidableEq, Repr

/-- A `plugin_error`: the detail, and the Plugin and the capability that its metadata names. -/
structure PluginError where
  detail : ErrorDetail
  plugin : Option String
  capability : Option String
  deriving DecidableEq, Repr

def PluginError.raised (error : PluginError) : Raised := .core error.detail

/-- The order of a tuple of three strings. -/
def keyOrder (key : String × String × String) : String ×ₗ String ×ₗ String :=
  toLex (key.1, toLex (key.2.1, key.2.2))

/-- `(item.name, item.version) < (other.name, other.version)`. -/
def PluginRef.before (left right : PluginRef) : Bool :=
  if left.name ≠ right.name then left.name < right.name
  else !left.version.same right.version && left.version.before right.version

namespace DependencyResolver

def dependencyAmbiguous (message : String) (plugin : String) (capability : Option String)
    (given : message ≠ "" := by decide) : PluginError :=
  ⟨⟨.conflict, "dependency_ambiguous", message, false, none, [], by decide, given⟩, some plugin,
    capability⟩

/-- `_unavailable`. -/
def unavailable (consumer : PluginRef) (dependency : PluginDependency) (incompatible : Bool) :
    PluginError where
  detail :=
    if incompatible then ⟨.versionMismatch, "dependency_unavailable",
      "Plugin dependency is incompatible", false, none, [], by decide⟩
    else ⟨.unavailable, "dependency_unavailable", "Plugin dependency is unavailable", true, none,
      [], by decide⟩
  plugin := some consumer.name
  capability := some dependency.identifier

def selfDependency (plugin : String) : PluginError :=
  ⟨⟨.conflict, "dependency_cycle", "Plugin depends on itself", false, none, [], by decide⟩,
    some plugin, none⟩

def cycleMessage (cycle : List String) : String :=
  "Plugin dependency graph contains a cycle: " ++ String.intercalate ", " cycle

def dependencyCycle (cycle : List String) : PluginError where
  detail := ⟨.conflict, "dependency_cycle", cycleMessage cycle, false, none, [], by decide, by
    intro empty
    exact absurd (String.append_eq_empty_iff.mp empty).1 (by decide)⟩
  plugin := none
  capability := none

/-! ### The candidates by name -/

def indexCandidate (available : CapabilityCatalogSnapshot) (byName : Dict String PluginManifest)
    (manifest : PluginManifest) : Except PluginError (Dict String PluginManifest) :=
  if byName.contains manifest.ref.name ||
      available.plugins.any fun plugin => plugin.name == manifest.ref.name then
    .error (dependencyAmbiguous "Multiple candidate or active versions exist for one Plugin"
      manifest.ref.name none)
  else .ok (byName.set manifest.ref.name manifest)

def indexCandidates (candidates : List PluginManifest) (available : CapabilityCatalogSnapshot) :
    Except PluginError (Dict String PluginManifest) :=
  candidates.foldlM (indexCandidate available) .empty

/-! ### One requirement -/

/-- `_select_provider`. -/
def selectProvider (consumer : PluginRef) (dependency : PluginDependency)
    (matching compatible : List PluginRef) : Except PluginError PluginRef :=
  match compatible with
  | [] => .error (unavailable consumer dependency (!matching.isEmpty))
  | [selected] => .ok selected
  | _ :: _ :: _ => .error (dependencyAmbiguous
      "Plugin dependency has multiple compatible providers" consumer.name dependency.identifier)

/-- `_resolve_plugin`. -/
def resolvePlugin (dependency : PluginDependency) (pluginId : String) (versionRange : VersionRange)
    (consumer : PluginRef) (candidates : Dict String PluginManifest)
    (available : CapabilityCatalogSnapshot) : Except PluginError ResolvedDependency := do
  let matching := (candidates.get? pluginId).toList.map PluginManifest.ref ++
    available.plugins.filter fun plugin => plugin.name == pluginId
  let compatible := matching.filter fun plugin => versionRange.admits plugin.version
  let selected ← selectProvider consumer dependency matching compatible
  return ⟨consumer, dependency, selected, none⟩

/-- `providers`: the active registrations, and what the candidates declare. -/
def capabilityProviders (candidates : Dict String PluginManifest)
    (available : CapabilityCatalogSnapshot) : List CatalogCapability :=
  available.capabilities ++ candidates.values.flatMap fun manifest =>
    manifest.provides.map fun declaration => ⟨manifest.ref, declaration⟩

/-- `_resolve_capability`. -/
def resolveCapability (dependency : PluginDependency) (capabilityType : CapabilityType)
    (capabilityId : String) (versionRange : VersionRange) (consumer : PluginRef)
    (candidates : Dict String PluginManifest) (available : CapabilityCatalogSnapshot) :
    Except PluginError ResolvedDependency :=
  let matching := (capabilityProviders candidates available).filter fun item =>
    item.declaration.type == capabilityType && item.declaration.capabilityId == capabilityId
  let compatible := matching.filter fun item =>
    versionRange.admits item.declaration.contractVersion
  match compatible with
  | [] => .error (unavailable consumer dependency (!matching.isEmpty))
  | [selected] => .ok ⟨consumer, dependency, selected.owner, some selected.declaration⟩
  | _ :: _ :: _ => .error (dependencyAmbiguous
      "Capability dependency has multiple compatible providers" consumer.name (some capabilityId))

/-- `_resolve_one`. -/
def resolveOne (dependency : PluginDependency) (consumer : PluginRef)
    (candidates : Dict String PluginManifest) (available : CapabilityCatalogSnapshot) :
    Except PluginError ResolvedDependency :=
  match dependency with
  | .plugin pluginId versionRange =>
    resolvePlugin dependency pluginId versionRange consumer candidates available
  | .capability capabilityType capabilityId versionRange =>
    resolveCapability dependency capabilityType capabilityId versionRange consumer candidates
      available

/-- `_reject_self_plugin_dependency`. -/
def rejectSelfPluginDependency (consumer : PluginRef) : PluginDependency → Except PluginError Unit
  | .plugin _ _ => .error (selfDependency consumer.name)
  | .capability _ _ _ => .ok ()

/-! ### The graph of the candidates -/

structure Resolution where
  edges : Dict String (Finset String)
  incoming : Dict String ℤ
  bindings : List ResolvedDependency

namespace Resolution

def start (names : List String) : Resolution :=
  ⟨Dict.setAll id (fun _ => ∅) .empty names, Dict.setAll id (fun _ => 0) .empty names, []⟩

def consumers (resolution : Resolution) (provider : String) : Finset String :=
  (resolution.edges.get? provider).getD ∅

/-- An edge from a provider to a consumer, counted once. -/
def connect (resolution : Resolution) (provider consumer : String) : Resolution :=
  if consumer ∈ resolution.consumers provider then resolution
  else { resolution with
    edges := resolution.edges.set provider (insert consumer (resolution.consumers provider))
    incoming := resolution.incoming.set consumer
      ((resolution.incoming.get? consumer).getD 0 + 1) }

end Resolution

/-- The body of the loop over the requirements of a candidate. -/
def resolveRequirement (byName : Dict String PluginManifest) (available : CapabilityCatalogSnapshot)
    (manifest : PluginManifest) (resolution : Resolution) (dependency : PluginDependency) :
    Except PluginError Resolution := do
  let binding ← resolveOne dependency manifest.ref byName available
  let resolution := { resolution with bindings := resolution.bindings ++ [binding] }
  if byName.contains binding.provider.name && binding.provider.name != manifest.ref.name then
    return resolution.connect binding.provider.name manifest.ref.name
  else if binding.provider.name == manifest.ref.name then do
    rejectSelfPluginDependency manifest.ref dependency
    return resolution
  else return resolution

def sortCandidates (candidates : List PluginManifest) : List PluginManifest :=
  candidates.mergeSort fun first second => !second.ref.before first.ref

def sortDependencies (requires : List PluginDependency) : List PluginDependency :=
  sortedBy (fun dependency => keyOrder dependency.stableKey) requires

def resolveCandidate (byName : Dict String PluginManifest) (available : CapabilityCatalogSnapshot)
    (resolution : Resolution) (manifest : PluginManifest) : Except PluginError Resolution :=
  (sortDependencies manifest.requires).foldlM (resolveRequirement byName available manifest)
    resolution

/-! ### The order of the candidates -/

def sortNames (names : List String) : List String := sortedBy id names

structure Pending where
  incoming : Dict String ℤ
  ready : List String

def Pending.count (pending : Pending) (name : String) : ℤ := (pending.incoming.get? name).getD 0

/-- One provider of `dependent` is placed. -/
def Pending.release (pending : Pending) (dependent : String) : Pending :=
  let incoming := pending.incoming.set dependent (pending.count dependent - 1)
  if (incoming.get? dependent).getD 0 = 0 then ⟨incoming, sortNames (pending.ready ++ [dependent])⟩
  else ⟨incoming, pending.ready⟩

/-- `while ready`, for at most `fuel` names, and the counters at the end. -/
def visit (resolution : Resolution) : ℕ → Pending → List String × Pending
  | 0, pending => ([], pending)
  | fuel + 1, pending =>
    match pending.ready with
    | [] => ([], pending)
    | current :: ready =>
      let dependents := (resolution.consumers current).sort (· ≤ ·)
      let (ordered, final) := visit resolution fuel
        (dependents.foldl Pending.release ⟨pending.incoming, ready⟩)
      (current :: ordered, final)

/-- The names of a set, in order. -/
def sortedNames (names : Finset String) : List String := names.sort (· ≤ ·)

/-- `sorted(name for name, count in incoming.items() if test(count))`. -/
def namesWhere (test : ℤ → Bool) (incoming : Dict String ℤ) : List String :=
  sortNames ((incoming.entries.filter fun entry => test entry.2).map Prod.fst)

/-- A name is ready once, so the loop ends within one turn for each candidate. -/
def orderCandidates (candidates : List PluginManifest) (resolution : Resolution) :
    Except PluginError (List String) :=
  let (ordered, final) := visit resolution candidates.length
    ⟨resolution.incoming, namesWhere (· == 0) resolution.incoming⟩
  if ordered.length ≠ candidates.length then
    .error (dependencyCycle (namesWhere (· != 0) final.incoming))
  else .ok ordered

/-- The key of `bindings.sort`. -/
def bindingKey (binding : ResolvedDependency) : String ×ₗ (String ×ₗ String ×ₗ String) ×ₗ
    String ×ₗ (String ×ₗ String ×ₗ String) :=
  toLex (binding.consumer.name, toLex (keyOrder binding.dependency.stableKey,
    toLex (binding.provider.name,
      keyOrder ((binding.capability.map CapabilityDeclaration.key).getD ("", "", "")))))

def resolve (candidates : List PluginManifest) (available : CapabilityCatalogSnapshot) :
    Except PluginError DependencyResolutionPlan := do
  let byName ← indexCandidates candidates available
  let resolution ← (sortCandidates candidates).foldlM (resolveCandidate byName available)
    (.start (byName.entries.map Prod.fst))
  let ordered ← orderCandidates candidates resolution
  return ⟨ordered.filterMap fun name => (byName.get? name).map PluginManifest.ref,
    sortedBy bindingKey resolution.bindings⟩

end DependencyResolver

end CongeriesCore
