import CongeriesCore.JsonDocument
import CongeriesCore.PluginModel
import Mathlib.Data.Prod.Lex
import Mathlib.Data.String.Basic

/-! # Capability publication

A plan is published whole or not at all, against the registry version it was made for. The
receipt it returns names the registration generation; only that generation's keys are ever
removed with it. -/

namespace CongeriesCore

structure CapabilityRegistrationPlan where
  owner : PluginRef
  capabilities : List CapabilityDeclaration
  distinct : (capabilities.map CapabilityDeclaration.key).Nodup

/-- The order of the key as a tuple of strings. -/
def CapabilityKey.order (key : CapabilityKey) : String ×ₗ String ×ₗ String :=
  toLex (key.1, toLex (key.2.1, key.2.2))

def CapabilityDeclaration.notAfter (first second : CapabilityDeclaration) : Bool :=
  decide (CapabilityKey.order first.key ≤ CapabilityKey.order second.key)

namespace CapabilityRegistrationPlan

def ordered (plan : CapabilityRegistrationPlan) : List CapabilityDeclaration :=
  plan.capabilities.mergeSort CapabilityDeclaration.notAfter

def keys (plan : CapabilityRegistrationPlan) : List CapabilityKey :=
  plan.ordered.map CapabilityDeclaration.key

variable (plan : CapabilityRegistrationPlan)

theorem mem_ordered {declaration : CapabilityDeclaration} :
    declaration ∈ plan.ordered ↔ declaration ∈ plan.capabilities :=
  List.mem_mergeSort

theorem keys_nodup : plan.keys.Nodup :=
  (((List.mergeSort_perm _ _).map _).nodup_iff).mpr plan.distinct

theorem mem_keys {key : CapabilityKey} :
    key ∈ plan.keys ↔ ∃ declaration ∈ plan.capabilities, declaration.key = key := by
  simp [keys, mem_ordered]

/-- What the receipt's constructor checks of its keys. -/
theorem keys_sorted :
    plan.keys.Pairwise fun first second => CapabilityKey.order first ≤ CapabilityKey.order second := by
  have sorted : plan.ordered.Pairwise fun first second => first.notAfter second = true := by
    apply List.pairwise_mergeSort
    · intro first second third
      simp only [CapabilityDeclaration.notAfter, decide_eq_true_eq]
      exact le_trans
    · intro first second
      simp only [CapabilityDeclaration.notAfter, Bool.or_eq_true, decide_eq_true_eq]
      exact le_total _ _
  rw [keys, List.pairwise_map]
  exact sorted.imp fun {first second} before => by
    simpa [CapabilityDeclaration.notAfter] using before

end CapabilityRegistrationPlan

/-- What `_registration_id` digests. -/
def registrationDocument (owner : PluginRef) (keys : List CapabilityKey) (registryVersion : ℕ) :
    JsonValue :=
  .obj [("owner", owner.toData),
    ("capabilities", .arr (keys.map fun key => .arr [.str key.1, .str key.2.1, .str key.2.2])),
    ("registry_version", .int registryVersion)]

def RegistrationReceipt.document (receipt : RegistrationReceipt) : JsonValue :=
  registrationDocument receipt.owner receipt.capabilityKeys receipt.registryVersion

theorem registrationDocument_version {owner other : PluginRef} {keys otherKeys : List CapabilityKey}
    {version otherVersion : ℕ}
    (same : (registrationDocument owner keys version).canonical =
      (registrationDocument other otherKeys otherVersion).canonical) : version = otherVersion := by
  simp only [registrationDocument, JsonValue.canonical_obj, JsonValue.obj.injEq] at same
  have looked := congrArg (Dict.lookup "registry_version") same
  rw [JsonValue.lookup_canonicalFields (by simp), JsonValue.lookup_canonicalFields (by simp)] at looked
  have equal : (version : ℤ) = otherVersion := by simpa [Dict.lookup] using looked
  exact Int.ofNat.inj equal

def registrationConflict (message : String) (given : message ≠ "" := by decide) : Raised :=
  coreError .conflict "registration_conflict" message ⟨by decide, given⟩

section Commit

variable [Sha256]

def registrationId (owner : PluginRef) (keys : List CapabilityKey) (registryVersion : ℕ) : String :=
  "plugin-registration:" ++ (registrationDocument owner keys registryVersion).sha256.value

def CapabilityRegistrationPlan.receipt (plan : CapabilityRegistrationPlan) (version : ℕ) :
    RegistrationReceipt :=
  ⟨registrationId plan.owner plan.keys version, plan.owner, version, plan.keys⟩

namespace CapabilityRegistry

def empty : CapabilityRegistry := ⟨0, .empty, []⟩

def publish (registry : CapabilityRegistry) (plan : CapabilityRegistrationPlan) :
    Dict CapabilityKey CapabilityRegistration :=
  registry.registrations.setAll CapabilityDeclaration.key
    (fun declaration =>
      ⟨(plan.receipt (registry.version + 1)).registrationId, plan.owner, declaration⟩) plan.ordered

/-- The whole plan is checked against one version before anything is published. -/
def commit (registry : CapabilityRegistry) (plan : CapabilityRegistrationPlan)
    (expectedVersion : ℤ) : Except Raised RegistrationReceipt × CapabilityRegistry :=
  if (registry.version : ℤ) ≠ expectedVersion then
    (.error (registrationConflict "Capability registry version is stale"), registry)
  else if plan.ordered.any fun declaration => registry.registrations.contains declaration.key then
    (.error (registrationConflict "Capability is already registered"), registry)
  else
    (.ok (plan.receipt (registry.version + 1)),
      { registry with version := registry.version + 1, registrations := registry.publish plan })

variable {registry : CapabilityRegistry}

/-- A commit fails and changes nothing, or publishes the whole plan under a new generation. -/
theorem commit_cases (plan : CapabilityRegistrationPlan) (expectedVersion : ℤ) :
    (∃ error, registry.commit plan expectedVersion = (.error error, registry)) ∨
    ((∀ key ∈ plan.keys, registry.registrations.get? key = none) ∧
      registry.commit plan expectedVersion = (.ok (plan.receipt (registry.version + 1)),
        { registry with version := registry.version + 1, registrations := registry.publish plan })) := by
  unfold commit
  split
  · exact .inl ⟨_, rfl⟩
  · split
    · exact .inl ⟨_, rfl⟩
    · rename_i free
      have absent : ∀ key ∈ plan.keys, registry.registrations.get? key = none := by
        intro key member
        obtain ⟨declaration, listed, rfl⟩ := List.mem_map.mp member
        simp only [List.any_eq_true, not_exists, not_and] at free
        simpa [Dict.contains] using free declaration listed
      exact .inr ⟨absent, rfl⟩

theorem get?_publish_of_mem {plan : CapabilityRegistrationPlan} {declaration : CapabilityDeclaration}
    (member : declaration ∈ plan.capabilities) :
    (registry.publish plan).get? declaration.key =
      some ⟨(plan.receipt (registry.version + 1)).registrationId, plan.owner, declaration⟩ := by
  apply Dict.get?_setAll_of_mem CapabilityDeclaration.key _ _ plan.keys_nodup
  exact plan.mem_ordered.mpr member

theorem get?_publish_of_not_mem {plan : CapabilityRegistrationPlan} {key : CapabilityKey}
    (absent : key ∉ plan.keys) : (registry.publish plan).get? key = registry.registrations.get? key :=
  Dict.get?_setAll_of_not_mem CapabilityDeclaration.key _ _ absent

end CapabilityRegistry

end Commit

namespace CapabilityRegistry

variable {registry : CapabilityRegistry} {receipt : RegistrationReceipt}

/-- `del registrations[key]` for every key, under the next version. -/
def withdrawn (registry : CapabilityRegistry) (receipt : RegistrationReceipt) :
    CapabilityRegistry where
  version := registry.version + 1
  registrations := receipt.capabilityKeys.foldl Dict.erase registry.registrations
  retiredReceipts := receipt.registrationId :: registry.retiredReceipts

theorem get?_withdrawn (key : CapabilityKey) :
    (registry.withdrawn receipt).registrations.get? key =
      if key ∈ receipt.capabilityKeys then none else registry.registrations.get? key := by
  rw [withdrawn, Dict.get?_foldl_erase]
  congr

theorem unregister_retired (retired : receipt.registrationId ∈ registry.retiredReceipts) :
    registry.unregister receipt = (.ok (), registry) := by
  rw [unregister, if_pos (List.contains_iff_mem.mpr retired)]

theorem owns_iff {key : CapabilityKey} :
    registry.owns receipt key = true ↔ ∃ registration,
      registry.registrations.get? key = some registration ∧ registration.owner = receipt.owner ∧
        registration.registrationId = receipt.registrationId := by
  simp [owns, Option.any_eq_true]

theorem unregister_live (live : receipt.registrationId ∉ registry.retiredReceipts)
    (owned : ∀ key ∈ receipt.capabilityKeys, registry.owns receipt key = true) :
    registry.unregister receipt = (.ok (), registry.withdrawn receipt) := by
  have unretired : registry.retiredReceipts.contains receipt.registrationId = false := by
    simpa using live
  rw [unregister, unretired, if_neg (by simp), if_pos (List.all_eq_true.mpr owned)]
  rfl

def rollback (registry : CapabilityRegistry) (receipt : RegistrationReceipt) :
    Except Raised Unit × CapabilityRegistry :=
  registry.unregister receipt

end CapabilityRegistry

end CongeriesCore
