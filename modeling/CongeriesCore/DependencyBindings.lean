import CongeriesCore.DependencyResolver
import Mathlib.Data.Finset.Dedup

/-! # Dependency bindings

Which candidates can be indexed by their names, and which provider a requirement is bound to. Both
are told apart from what the candidates and the catalog offer, not from the order they come in. -/

namespace CongeriesCore

def PluginDependency.versionRange : PluginDependency → VersionRange
  | .plugin _ versionRange | .capability _ _ versionRange => versionRange

namespace DependencyResolver

variable {candidates : List PluginManifest} {available : CapabilityCatalogSnapshot}

/-! ### Loops that may raise -/

section Loops

variable {ε α β σ : Type}

/-- A loop that computes an item and places it computes all the items first. -/
theorem foldlM_eq_mapM {compute : α → Except ε β} {place : σ → β → σ} (items : List α) (state : σ) :
    items.foldlM (fun state item => do return place state (← compute item)) state =
      (do return (← items.mapM compute).foldl place state) := by
  induction items generalizing state with
  | nil => rfl
  | cons item items ih =>
    rw [List.foldlM_cons, List.mapM_cons]
    cases compute item with
    | error error => rfl
    | ok result =>
      change items.foldlM _ (place state result) = _
      rw [ih]
      cases items.mapM compute <;> rfl

theorem foldlM_flatMap {inner : α → List β} {step : σ → β → Except ε σ} (items : List α) (state : σ) :
    items.foldlM (fun state item => (inner item).foldlM step state) state =
      (items.flatMap inner).foldlM step state := by
  induction items generalizing state with
  | nil => rfl
  | cons item items ih =>
    rw [List.foldlM_cons, List.flatMap_cons, List.foldlM_append]
    exact congrArg _ (funext ih)

theorem mapM_ok {compute : α → Except ε β} {items : List α} {results : List β} :
    items.mapM compute = .ok results ↔
      List.Forall₂ (fun item result => compute item = .ok result) items results := by
  induction items generalizing results with
  | nil =>
    simp only [List.mapM_nil, List.forall₂_nil_left_iff]
    constructor
    · intro done
      cases done
      rfl
    · rintro rfl
      rfl
  | cons item items ih =>
    rw [List.mapM_cons, List.forall₂_cons_left_iff]
    cases computed : compute item with
    | error error =>
      constructor
      · intro done
        cases done
      · rintro ⟨result, rest, done, -⟩
        cases done
    | ok result =>
      cases later : items.mapM compute with
      | error error =>
        constructor
        · intro done
          cases done
        · rintro ⟨_, rest, -, related, -⟩
          rw [ih.mpr related] at later
          cases later
      | ok rest =>
        constructor
        · intro done
          cases done
          exact ⟨result, rest, rfl, ih.mp later, rfl⟩
        · rintro ⟨_, _, done, related, rfl⟩
          cases done
          rw [ih.mpr related] at later
          cases later
          rfl

end Loops

/-! ### The candidates by name -/

def names (candidates : List PluginManifest) : List String :=
  candidates.map fun manifest => manifest.ref.name

/-- A Plugin of this name is active already. -/
def Active (available : CapabilityCatalogSnapshot) (name : String) : Prop :=
  name ∈ available.plugins.map PluginRef.name

instance (name : String) : Decidable (Active available name) := inferInstanceAs (Decidable (_ ∈ _))

theorem any_active {name : String} :
    (available.plugins.any fun plugin => plugin.name == name) = true ↔ Active available name := by
  simp [Active]

/-- Every candidate under its name. -/
def byName (candidates : List PluginManifest) : Dict String PluginManifest :=
  Dict.setAll (fun manifest => manifest.ref.name) id .empty candidates

theorem indexCandidate_ok {dict result : Dict String PluginManifest} {manifest : PluginManifest} :
    indexCandidate available dict manifest = .ok result ↔ dict.get? manifest.ref.name = none ∧
      ¬ Active available manifest.ref.name ∧ result = dict.set manifest.ref.name manifest := by
  rw [← any_active]
  unfold indexCandidate Dict.contains
  split
  · rename_i taken
    constructor
    · intro done
      cases done
    · intro free
      obtain ⟨absent, inactive, -⟩ := free
      rw [absent] at taken
      simp [inactive] at taken
  · rename_i free
    simp only [Bool.or_eq_true, not_or, Bool.not_eq_true, Option.isSome_eq_false_iff,
      Option.isNone_iff_eq_none] at free
    constructor
    · intro done
      cases done
      exact ⟨free.1, by simp [free.2], rfl⟩
    · rintro ⟨-, -, rfl⟩
      rfl

theorem foldlM_indexCandidate {dict result : Dict String PluginManifest} :
    candidates.foldlM (indexCandidate available) dict = .ok result ↔
      (names candidates).Nodup ∧ (∀ name ∈ names candidates, dict.get? name = none) ∧
        (∀ name ∈ names candidates, ¬ Active available name) ∧
        result = dict.setAll (fun manifest => manifest.ref.name) id candidates := by
  induction candidates generalizing dict with
  | nil =>
    simp only [List.foldlM_nil, names, Dict.setAll]
    constructor
    · intro done
      cases done
      simp
    · rintro ⟨-, -, -, rfl⟩
      rfl
  | cons manifest candidates ih =>
    have others : ∀ name ∈ names candidates, manifest.ref.name ∉ names candidates →
        (dict.set manifest.ref.name manifest).get? name = dict.get? name := by
      intro name member fresh
      apply Dict.get?_set_of_ne
      rintro rfl
      exact fresh member
    rw [List.foldlM_cons]
    unfold names at ih others ⊢
    simp only [List.map_cons, List.nodup_cons, List.forall_mem_cons]
    constructor
    · intro done
      cases first : indexCandidate available dict manifest with
      | error error =>
        rw [first] at done
        cases done
      | ok next =>
        rw [first] at done
        obtain ⟨absent, inactive, rfl⟩ := indexCandidate_ok.mp first
        obtain ⟨distinct, unset, free, rfl⟩ := ih.mp done
        have fresh : manifest.ref.name ∉ candidates.map fun manifest => manifest.ref.name := by
          intro member
          have none := unset _ member
          rw [Dict.get?_set_self] at none
          cases none
        refine ⟨⟨fresh, distinct⟩, ⟨absent, fun name member => ?_⟩, ⟨inactive, free⟩, rfl⟩
        rw [← others name member fresh]
        exact unset name member
    · rintro ⟨⟨fresh, distinct⟩, ⟨absent, unset⟩, ⟨inactive, free⟩, rfl⟩
      rw [indexCandidate_ok.mpr ⟨absent, inactive, rfl⟩]
      apply ih.mpr
      refine ⟨distinct, fun name member => ?_, free, rfl⟩
      rw [others name member fresh]
      exact unset name member

theorem indexCandidates_ok {result : Dict String PluginManifest} :
    indexCandidates candidates available = .ok result ↔ (names candidates).Nodup ∧
      (∀ name ∈ names candidates, ¬ Active available name) ∧ result = byName candidates := by
  unfold indexCandidates
  rw [foldlM_indexCandidate]
  simp [byName]

theorem byName_entries (distinct : (names candidates).Nodup) :
    (byName candidates).entries = candidates.map fun manifest => (manifest.ref.name, manifest) :=
  Dict.entries_setAll _ _ distinct (by simp [Dict.empty])

theorem byName_values (distinct : (names candidates).Nodup) :
    (byName candidates).values = candidates := by
  rw [Dict.values, byName_entries distinct, List.map_map]
  exact List.map_id candidates

theorem byName_names (distinct : (names candidates).Nodup) :
    (byName candidates).entries.map Prod.fst = names candidates := by
  rw [byName_entries distinct, List.map_map]
  rfl

theorem byName_get? (distinct : (names candidates).Nodup) {name : String}
    {manifest : PluginManifest} : (byName candidates).get? name = some manifest ↔
      manifest ∈ candidates ∧ manifest.ref.name = name := by
  have entries := byName_entries distinct
  constructor
  · intro found
    have member := Dict.mem_of_get? found
    rw [entries] at member
    obtain ⟨other, inside, same⟩ := List.mem_map.mp member
    cases same
    exact ⟨inside, rfl⟩
  · rintro ⟨member, rfl⟩
    apply Dict.get?_of_mem
    rw [entries]
    exact List.mem_map.mpr ⟨manifest, member, rfl⟩

theorem byName_contains (distinct : (names candidates).Nodup) {name : String} :
    (byName candidates).contains name = true ↔ name ∈ names candidates := by
  rw [Dict.contains_iff]
  simp only [byName_get? distinct, names, List.mem_map]

/-- The candidate of a name, as the list of those that bear it. -/
theorem byName_toList (distinct : (names candidates).Nodup) (name : String) :
    ((byName candidates).get? name).toList =
      candidates.filter fun manifest => manifest.ref.name == name := by
  have once : candidates.Nodup := distinct.of_map _
  have listed : ((byName candidates).get? name).toList.Nodup := by
    cases (byName candidates).get? name <;> simp
  have perm : ((byName candidates).get? name).toList.Perm
      (candidates.filter fun manifest => manifest.ref.name == name) := by
    rw [List.perm_ext_iff_of_nodup listed (once.filter _)]
    intro manifest
    rw [Option.mem_toList, byName_get? distinct, List.mem_filter, beq_iff_eq]
  cases found : (byName candidates).get? name with
  | none =>
    rw [found] at perm
    exact (List.nil_perm.mp perm).symm
  | some manifest =>
    rw [found] at perm
    exact List.singleton_perm.mp perm

/-! ### What is offered -/

/-- A Plugin, or a capability it declares, offered by a candidate or by the catalog. -/
structure Offer where
  candidate : Bool
  provider : PluginRef
  capability : Option CapabilityDeclaration
  deriving DecidableEq

namespace Offer

/-- What a version range is asked about. -/
def version (offer : Offer) : SemVer :=
  match offer.capability with
  | none => offer.provider.version
  | some declaration => declaration.contractVersion

/-- Whether the offer has the identity that the dependency names. -/
def named (offer : Offer) (dependency : PluginDependency) : Bool :=
  match dependency, offer.capability with
  | .plugin pluginId _, none => offer.provider.name == pluginId
  | .capability capabilityType capabilityId _, some declaration =>
    declaration.type == capabilityType && declaration.capabilityId == capabilityId
  | _, _ => false

end Offer

inductive Offered (candidates : List PluginManifest) (available : CapabilityCatalogSnapshot) :
    Offer → Prop
  | candidatePlugin {manifest : PluginManifest} (member : manifest ∈ candidates) :
      Offered candidates available ⟨true, manifest.ref, none⟩
  | candidateCapability {manifest : PluginManifest} {declaration : CapabilityDeclaration}
      (member : manifest ∈ candidates) (provided : declaration ∈ manifest.provides) :
      Offered candidates available ⟨true, manifest.ref, some declaration⟩
  | activePlugin {plugin : PluginRef} (member : plugin ∈ available.plugins) :
      Offered candidates available ⟨false, plugin, none⟩
  | activeCapability {owner : PluginRef} {declaration : CapabilityDeclaration}
      (member : ⟨owner, declaration⟩ ∈ available.capabilities) :
      Offered candidates available ⟨false, owner, some declaration⟩

/-- A compatible provider of the dependency. -/
structure Provides (candidates : List PluginManifest) (available : CapabilityCatalogSnapshot)
    (dependency : PluginDependency) (offer : Offer) : Prop where
  offered : Offered candidates available offer
  named : offer.named dependency = true
  admitted : dependency.versionRange.admits offer.version = true

def pluginOffers (candidates : List PluginManifest) (available : CapabilityCatalogSnapshot) :
    List Offer :=
  (candidates.map fun manifest => ⟨true, manifest.ref, none⟩) ++
    available.plugins.map fun plugin => ⟨false, plugin, none⟩

def capabilityOffers (candidates : List PluginManifest) (available : CapabilityCatalogSnapshot) :
    List Offer :=
  (available.capabilities.map fun item => ⟨false, item.owner, some item.declaration⟩) ++
    candidates.flatMap fun manifest => manifest.provides.map fun declaration =>
      ⟨true, manifest.ref, some declaration⟩

/-- The offers that a dependency names, in the order in which the resolver collects them. -/
def namedOffers (candidates : List PluginManifest) (available : CapabilityCatalogSnapshot)
    (dependency : PluginDependency) : List Offer :=
  match dependency with
  | .plugin _ _ => (pluginOffers candidates available).filter (·.named dependency)
  | .capability _ _ _ => (capabilityOffers candidates available).filter (·.named dependency)

def compatibleOffers (candidates : List PluginManifest) (available : CapabilityCatalogSnapshot)
    (dependency : PluginDependency) : List Offer :=
  (namedOffers candidates available dependency).filter fun offer =>
    dependency.versionRange.admits offer.version

theorem mem_compatibleOffers {dependency : PluginDependency} {offer : Offer} :
    offer ∈ compatibleOffers candidates available dependency ↔
      Provides candidates available dependency offer := by
  have named : offer ∈ namedOffers candidates available dependency ↔
      Offered candidates available offer ∧ offer.named dependency = true := by
    cases dependency with
    | plugin pluginId versionRange =>
      simp only [namedOffers, pluginOffers, List.mem_filter, List.mem_append, List.mem_map]
      refine and_congr_left fun named => ?_
      constructor
      · rintro (⟨manifest, member, rfl⟩ | ⟨plugin, member, rfl⟩)
        · exact .candidatePlugin member
        · exact .activePlugin member
      · intro offered
        cases offered with
        | candidatePlugin member => exact .inl ⟨_, member, rfl⟩
        | activePlugin member => exact .inr ⟨_, member, rfl⟩
        | candidateCapability _ _ => cases named
        | activeCapability _ => cases named
    | capability capabilityType capabilityId versionRange =>
      simp only [namedOffers, capabilityOffers, List.mem_filter, List.mem_append, List.mem_map,
        List.mem_flatMap]
      refine and_congr_left fun named => ?_
      constructor
      · rintro (⟨item, member, rfl⟩ | ⟨manifest, member, declaration, provided, rfl⟩)
        · exact .activeCapability member
        · exact .candidateCapability member provided
      · intro offered
        cases offered with
        | candidatePlugin _ => cases named
        | activePlugin _ => cases named
        | candidateCapability member provided => exact .inr ⟨_, member, _, provided, rfl⟩
        | activeCapability member => exact .inl ⟨_, member, rfl⟩
  rw [compatibleOffers, List.mem_filter, named]
  constructor
  · intro ⟨⟨offered, named⟩, admitted⟩
    exact ⟨offered, named, admitted⟩
  · intro provides
    exact ⟨⟨provides.offered, provides.named⟩, provides.admitted⟩

theorem pluginOffers_nodup (distinct : (names candidates).Nodup) :
    (pluginOffers candidates available).Nodup := by
  unfold pluginOffers
  rw [List.nodup_append]
  refine ⟨?_, ?_, ?_⟩
  · have refs : ((candidates.map fun manifest => (⟨true, manifest.ref, none⟩ : Offer)).map
        fun offer => offer.provider.name).Nodup := by
      rw [List.map_map]
      exact distinct
    exact refs.of_map _
  · have plugins : ((available.plugins.map fun plugin => (⟨false, plugin, none⟩ : Offer)).map
        fun offer => offer.provider.name).Nodup := by
      rw [List.map_map]
      exact available.names
    exact plugins.of_map _
  · intro first one second two same
    obtain ⟨manifest, -, rfl⟩ := List.mem_map.mp one
    obtain ⟨plugin, -, rfl⟩ := List.mem_map.mp two
    cases same

theorem capabilityOffers_nodup (distinct : (names candidates).Nodup) :
    (capabilityOffers candidates available).Nodup := by
  unfold capabilityOffers
  rw [List.nodup_append]
  refine ⟨?_, ?_, ?_⟩
  · have keys : ((available.capabilities.map fun item =>
        (⟨false, item.owner, some item.declaration⟩ : Offer)).map
          fun offer => offer.capability.map CapabilityDeclaration.key).Nodup := by
      rw [List.map_map]
      have once := available.keys.map (Option.some_injective _)
      rwa [List.map_map] at once
    exact keys.of_map _
  · rw [List.nodup_flatMap]
    constructor
    · intro manifest _
      have once : manifest.provides.Nodup := manifest.unique.of_map _
      apply once.map
      intro first second same
      exact Option.some.inj (congrArg Offer.capability same)
    · have apart : candidates.Pairwise fun first second => first.ref.name ≠ second.ref.name :=
        List.pairwise_map.mp distinct
      apply apart.imp
      intro first second different offer one two
      obtain ⟨declaration, -, rfl⟩ := List.mem_map.mp one
      obtain ⟨other, -, same⟩ := List.mem_map.mp two
      exact different (congrArg (fun offer => offer.provider.name) same.symm)
  · intro first one second two same
    obtain ⟨item, -, rfl⟩ := List.mem_map.mp one
    obtain ⟨manifest, -, member⟩ := List.mem_flatMap.mp two
    obtain ⟨declaration, -, rfl⟩ := List.mem_map.mp member
    cases same

theorem compatibleOffers_nodup (distinct : (names candidates).Nodup)
    (dependency : PluginDependency) : (compatibleOffers candidates available dependency).Nodup := by
  apply List.Nodup.filter
  cases dependency with
  | plugin _ _ => exact (pluginOffers_nodup distinct).filter _
  | capability _ _ _ => exact (capabilityOffers_nodup distinct).filter _

/-- There is one compatible provider exactly when one is collected. -/
theorem existsUnique_provides (distinct : (names candidates).Nodup) {dependency : PluginDependency} :
    (∃! offer, Provides candidates available dependency offer) ↔
      ∃ offer, compatibleOffers candidates available dependency = [offer] := by
  have once : (compatibleOffers candidates available dependency).Nodup :=
    compatibleOffers_nodup distinct dependency
  constructor
  · intro ⟨offer, provides, only⟩
    refine ⟨offer, List.perm_singleton.mp ?_⟩
    rw [List.perm_ext_iff_of_nodup once (List.nodup_singleton offer)]
    intro other
    rw [mem_compatibleOffers, List.mem_singleton]
    constructor
    · exact only other
    · rintro rfl
      exact provides
  · intro ⟨offer, collected⟩
    refine ⟨offer, mem_compatibleOffers.mp (by simp [collected]), fun other provides => ?_⟩
    have member := mem_compatibleOffers.mpr provides
    rw [collected, List.mem_singleton] at member
    exact member

/-! ### The binding of one requirement -/

def Offer.entry? (offer : Offer) : Option CatalogCapability :=
  offer.capability.map fun declaration => ⟨offer.provider, declaration⟩

def Offer.binding (offer : Offer) (consumer : PluginRef) (dependency : PluginDependency) :
    ResolvedDependency :=
  ⟨consumer, dependency, offer.provider, offer.capability⟩

theorem severalPlugins_given : "Plugin dependency has multiple compatible providers" ≠ "" := by
  decide

theorem severalCapabilities_given :
    "Capability dependency has multiple compatible providers" ≠ "" := by decide

def severalProviders (consumer : PluginRef) : PluginDependency → PluginError
  | .plugin pluginId _ => dependencyAmbiguous
      "Plugin dependency has multiple compatible providers" consumer.name pluginId
      severalPlugins_given
  | .capability _ capabilityId _ => dependencyAmbiguous
      "Capability dependency has multiple compatible providers" consumer.name capabilityId
      severalCapabilities_given

/-- The only compatible offer, or why there is not one. -/
def choose (consumer : PluginRef) (dependency : PluginDependency) (named compatible : List Offer) :
    Except PluginError ResolvedDependency :=
  match compatible with
  | [] => .error (unavailable consumer dependency (!named.isEmpty))
  | [offer] => .ok (offer.binding consumer dependency)
  | _ :: _ :: _ => .error (severalProviders consumer dependency)

theorem map_provider_namedOffers (distinct : (names candidates).Nodup) (pluginId : String)
    (versionRange : VersionRange) :
    ((byName candidates).get? pluginId).toList.map PluginManifest.ref ++
        available.plugins.filter (fun plugin => plugin.name == pluginId) =
      (namedOffers candidates available (.plugin pluginId versionRange)).map Offer.provider := by
  rw [byName_toList distinct, namedOffers, pluginOffers, List.filter_append, List.map_append,
    List.filter_map, List.filter_map, List.map_map, List.map_map]
  congr 1
  exact (List.map_id _).symm

theorem filterMap_entry_namedOffers (distinct : (names candidates).Nodup)
    (capabilityType : CapabilityType) (capabilityId : String) (versionRange : VersionRange) :
    (capabilityProviders (byName candidates) available).filter (fun item =>
        item.declaration.type == capabilityType &&
          item.declaration.capabilityId == capabilityId) =
      (namedOffers candidates available
        (.capability capabilityType capabilityId versionRange)).filterMap Offer.entry? := by
  have providers : capabilityProviders (byName candidates) available =
      (capabilityOffers candidates available).filterMap Offer.entry? := by
    rw [capabilityProviders, byName_values distinct, capabilityOffers, List.filterMap_append,
      List.filterMap_map, List.filterMap_flatMap]
    congr 1
    · exact List.filterMap_some.symm
    · congr 1
      funext manifest
      simp [List.filterMap_map, Function.comp_def, Offer.entry?]
  rw [providers, namedOffers, List.filter_filterMap, List.filterMap_filter]
  congr 1
  funext offer
  obtain ⟨candidate, provider, capability⟩ := offer
  cases capability with
  | none => simp [Offer.entry?]
  | some declaration => simp [Offer.entry?, Offer.named, Option.filter]

theorem resolvePlugin_eq (distinct : (names candidates).Nodup) (consumer : PluginRef)
    (pluginId : String) (versionRange : VersionRange) :
    let dependency : PluginDependency := .plugin pluginId versionRange
    resolvePlugin dependency pluginId versionRange consumer (byName candidates) available =
      choose consumer dependency (namedOffers candidates available dependency)
        (compatibleOffers candidates available dependency) := by
  intro dependency
  have matching : _ ++ available.plugins.filter _ = _ :=
    map_provider_namedOffers distinct pluginId versionRange
  have plain : ∀ offer ∈ namedOffers candidates available dependency, offer.capability = none := by
    intro offer member
    have named := (List.mem_filter.mp member).2
    obtain ⟨candidate, provider, capability⟩ := offer
    cases capability with
    | none => rfl
    | some declaration => cases named
  have compatible : ((namedOffers candidates available dependency).map Offer.provider).filter
      (fun plugin => versionRange.admits plugin.version) =
        (compatibleOffers candidates available dependency).map Offer.provider := by
    rw [List.filter_map, compatibleOffers]
    congr 1
    apply List.filter_congr
    intro offer member
    simp [Offer.version, plain offer member, PluginDependency.versionRange, dependency]
  have kept : ∀ offer ∈ compatibleOffers candidates available dependency, offer.capability = none :=
    fun offer member => plain offer (List.mem_filter.mp member).1
  unfold resolvePlugin
  dsimp only
  rw [matching, compatible]
  generalize compatibleOffers candidates available dependency = offers at kept
  generalize namedOffers candidates available dependency = named
  match offers with
  | [] =>
    simp only [choose, selectProvider, List.map_nil, List.isEmpty_map]
    rfl
  | [offer] =>
    have none := kept offer (by simp)
    simp only [choose, Offer.binding, none]
    rfl
  | _ :: _ :: _ => rfl

theorem resolveCapability_eq (distinct : (names candidates).Nodup) (consumer : PluginRef)
    (capabilityType : CapabilityType) (capabilityId : String) (versionRange : VersionRange) :
    let dependency : PluginDependency := .capability capabilityType capabilityId versionRange
    resolveCapability dependency capabilityType capabilityId versionRange consumer
        (byName candidates) available =
      choose consumer dependency (namedOffers candidates available dependency)
        (compatibleOffers candidates available dependency) := by
  intro dependency
  have matching : (capabilityProviders (byName candidates) available).filter _ = _ :=
    filterMap_entry_namedOffers distinct capabilityType capabilityId versionRange
  have carried : ∀ offer ∈ namedOffers candidates available dependency,
      ∃ declaration, offer.capability = some declaration := by
    intro offer member
    have named := (List.mem_filter.mp member).2
    obtain ⟨candidate, provider, capability⟩ := offer
    cases capability with
    | none => cases named
    | some declaration => exact ⟨declaration, rfl⟩
  have compatible : ((namedOffers candidates available dependency).filterMap Offer.entry?).filter
      (fun item => versionRange.admits item.declaration.contractVersion) =
        (compatibleOffers candidates available dependency).filterMap Offer.entry? := by
    rw [compatibleOffers, List.filter_filterMap, List.filterMap_filter]
    congr 1
    funext offer
    obtain ⟨candidate, provider, capability⟩ := offer
    cases capability with
    | none => simp [Offer.entry?]
    | some declaration =>
      by_cases admitted : versionRange.admits declaration.contractVersion = true <;>
        simp [Offer.entry?, Offer.version, PluginDependency.versionRange, dependency, admitted]
  have kept : ∀ offer ∈ compatibleOffers candidates available dependency,
      ∃ declaration, offer.capability = some declaration :=
    fun offer member => carried offer (List.mem_filter.mp member).1
  have related : ((namedOffers candidates available dependency).filterMap Offer.entry?).isEmpty =
      (namedOffers candidates available dependency).isEmpty := by
    cases found : namedOffers candidates available dependency with
    | nil => rfl
    | cons offer offers =>
      obtain ⟨declaration, carries⟩ := carried offer (by simp [found])
      simp [Offer.entry?, carries]
  unfold resolveCapability
  dsimp only
  rw [matching, compatible, related]
  generalize compatibleOffers candidates available dependency = offers at kept
  match offers with
  | [] => rfl
  | [offer] =>
    obtain ⟨declaration, carries⟩ := kept offer (by simp)
    simp [choose, Offer.binding, Offer.entry?, carries]
  | first :: second :: rest =>
    obtain ⟨declaration, one⟩ := kept first (by simp)
    obtain ⟨other, two⟩ := kept second (by simp)
    simp [choose, Offer.entry?, one, two, severalProviders, dependency]

/-- A requirement is bound to the only compatible offer. -/
theorem resolveOne_eq (distinct : (names candidates).Nodup) (consumer : PluginRef)
    (dependency : PluginDependency) :
    resolveOne dependency consumer (byName candidates) available =
      choose consumer dependency (namedOffers candidates available dependency)
        (compatibleOffers candidates available dependency) := by
  cases dependency with
  | plugin pluginId versionRange => exact resolvePlugin_eq distinct consumer pluginId versionRange
  | capability capabilityType capabilityId versionRange =>
    exact resolveCapability_eq distinct consumer capabilityType capabilityId versionRange

theorem resolveOne_ok (distinct : (names candidates).Nodup) {consumer : PluginRef}
    {dependency : PluginDependency} {binding : ResolvedDependency} :
    resolveOne dependency consumer (byName candidates) available = .ok binding ↔
      ∃ offer, compatibleOffers candidates available dependency = [offer] ∧
        binding = offer.binding consumer dependency := by
  rw [resolveOne_eq distinct]
  unfold choose
  match compatibleOffers candidates available dependency with
  | [] => simp
  | [offer] =>
    constructor
    · intro done
      cases done
      exact ⟨offer, rfl, rfl⟩
    · rintro ⟨other, same, rfl⟩
      cases same
      rfl
  | _ :: _ :: _ => simp

end DependencyResolver

end CongeriesCore
