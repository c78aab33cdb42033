import CongeriesCore.DependencyOrder

/-! # Exact resolution

The resolver succeeds exactly where every requirement has one compatible provider and the
candidates can be ordered; the plan is then determined. -/

namespace CongeriesCore

open KahnSort KeyedSort TopologicalOrder

namespace DependencyResolver

variable {candidates : List PluginManifest} {available : CapabilityCatalogSnapshot}

/-! ### The requirements -/

theorem sortCandidates_eq (distinct : (names candidates).Nodup) :
    sortCandidates candidates = sortedBy (fun manifest => manifest.ref.name) candidates := by
  apply mergeSort_eq_sortedBy
  intro first one second two
  unfold PluginRef.before
  by_cases same : second.ref.name = first.ref.name
  · obtain rfl := List.inj_on_of_nodup_map distinct two one same
    simp [SemVer.before_self]
  · simp only [ne_eq, same, not_false_eq_true, if_true, ← decide_not, not_lt]

theorem requirements_perm : (requirements candidates).Perm (candidates.flatMap fun manifest =>
    manifest.requires.map fun dependency => (manifest.ref, dependency)) := by
  unfold requirements
  apply List.Perm.flatMap (List.mergeSort_perm _ _)
  intro manifest _
  exact sortedBy_perm.map _

theorem mem_requirements {requirement : PluginRef × PluginDependency} :
    requirement ∈ requirements candidates ↔
      ∃ manifest ∈ candidates, manifest.ref = requirement.1 ∧ requirement.2 ∈ manifest.requires := by
  rw [requirements_perm.mem_iff, List.mem_flatMap]
  obtain ⟨consumer, dependency⟩ := requirement
  constructor
  · rintro ⟨manifest, member, inside⟩
    obtain ⟨_, required, same⟩ := List.mem_map.mp inside
    cases same
    exact ⟨manifest, member, rfl, required⟩
  · rintro ⟨manifest, member, rfl, required⟩
    exact ⟨manifest, member, List.mem_map.mpr ⟨dependency, required, rfl⟩⟩

theorem bindRequirement_ok (distinct : (names candidates).Nodup)
    {requirement : PluginRef × PluginDependency} {binding : ResolvedDependency} :
    bindRequirement (byName candidates) available requirement = .ok binding ↔
      ∃ offer, compatibleOffers candidates available requirement.2 = [offer] ∧
        binding = offer.binding requirement.1 requirement.2 ∧
        ∀ pluginId versionRange, requirement.2 = .plugin pluginId versionRange →
          pluginId ≠ requirement.1.name := by
  obtain ⟨consumer, dependency⟩ := requirement
  -- An offer for a Plugin dependency is of the Plugin that it names.
  have bears : ∀ offer pluginId versionRange, dependency = .plugin pluginId versionRange →
      compatibleOffers candidates available dependency = [offer] →
        offer.provider.name = pluginId := by
    rintro ⟨candidate, provider, capability⟩ pluginId versionRange rfl collected
    have provides : Provides candidates available (.plugin pluginId versionRange) _ :=
      mem_compatibleOffers.mp (by rw [collected]; exact List.mem_singleton_self _)
    have named := provides.named
    cases capability with
    | none => exact beq_iff_eq.mp named
    | some declaration => cases named
  unfold bindRequirement
  dsimp only
  constructor
  · intro done
    cases resolved : resolveOne dependency consumer (byName candidates) available with
    | error error =>
      rw [resolved] at done
      cases done
    | ok bound =>
      obtain ⟨offer, collected, rfl⟩ := (resolveOne_ok distinct).mp resolved
      rw [resolved] at done
      simp only [bind, Except.bind] at done
      split at done
      · rename_i own
        cases dependency with
        | plugin pluginId versionRange => cases done
        | capability _ _ _ =>
          cases done
          exact ⟨offer, collected, rfl, nofun⟩
      · rename_i apart
        cases done
        refine ⟨offer, collected, rfl, fun pluginId versionRange same itself => apart ?_⟩
        exact (bears offer pluginId versionRange same collected).trans itself
  · rintro ⟨offer, collected, rfl, apart⟩
    rw [(resolveOne_ok distinct).mpr ⟨offer, collected, rfl⟩]
    simp only [bind, Except.bind]
    split
    · rename_i own
      cases dependency with
      | plugin pluginId versionRange =>
        have named := bears offer pluginId versionRange rfl collected
        exact absurd (named.symm.trans own) (apart pluginId versionRange rfl)
      | capability _ _ _ => rfl
    · rfl

/-! ### The plan -/

/-- The bindings of all requirements, in turn. -/
def bindAll (candidates : List PluginManifest) (available : CapabilityCatalogSnapshot) :
    Except PluginError (List ResolvedDependency) :=
  (requirements candidates).mapM (bindRequirement (byName candidates) available)

theorem bindAll_consumer (distinct : (names candidates).Nodup) {bindings : List ResolvedDependency}
    (bound : bindAll candidates available = .ok bindings) :
    bindings.map (fun binding => (binding.consumer, binding.dependency)) =
      requirements candidates := by
  have related := mapM_ok.mp bound
  clear bound
  generalize requirements candidates = items at related ⊢
  induction related with
  | nil => rfl
  | cons first _ ih =>
    obtain ⟨offer, -, rfl, -⟩ := (bindRequirement_ok distinct).mp first
    rw [List.map_cons, ih]
    rfl

theorem bindAll_member (distinct : (names candidates).Nodup) {bindings : List ResolvedDependency}
    (bound : bindAll candidates available = .ok bindings) {binding : ResolvedDependency}
    (member : binding ∈ bindings) : ∃ offer,
      compatibleOffers candidates available binding.dependency = [offer] ∧
        binding = offer.binding binding.consumer binding.dependency := by
  have related := mapM_ok.mp bound
  clear bound
  generalize requirements candidates = items at related
  induction related with
  | nil => cases member
  | cons first _ ih =>
    rcases List.mem_cons.mp member with rfl | later
    · obtain ⟨offer, collected, rfl, -⟩ := (bindRequirement_ok distinct).mp first
      exact ⟨offer, collected, rfl⟩
    · exact ih later

/-- The consumers are candidates. -/
theorem bindAll_known (distinct : (names candidates).Nodup) {bindings : List ResolvedDependency}
    (bound : bindAll candidates available = .ok bindings) {binding : ResolvedDependency}
    (member : binding ∈ bindings) : binding.consumer.name ∈ (names candidates).toFinset := by
  have required : (binding.consumer, binding.dependency) ∈ requirements candidates := by
    rw [← bindAll_consumer distinct bound]
    exact List.mem_map.mpr ⟨binding, member, rfl⟩
  obtain ⟨manifest, inside, same, -⟩ := mem_requirements.mp required
  rw [List.mem_toFinset]
  exact List.mem_map.mpr ⟨manifest, inside, congrArg PluginRef.name same⟩

/-- What follows once every requirement is bound: the plan, or a cycle. -/
theorem resolve_bound (distinct : (names candidates).Nodup)
    (inactive : ∀ name ∈ names candidates, ¬ Active available name)
    {bindings : List ResolvedDependency} (bound : bindAll candidates available = .ok bindings)
    {ordered : List String}
    (greedy : Greedy (Linked (names candidates).toFinset bindings) (names candidates).toFinset ∅
      ordered) :
    resolve candidates available =
      if ordered.length = (names candidates).toFinset.card then
        .ok ⟨ordered.filterMap fun name => ((byName candidates).get? name).map PluginManifest.ref,
          sortedBy bindingKey bindings⟩
      else .error (dependencyCycle (leftOver (names candidates).toFinset bindings ordered)) := by
  have known : ∀ name, (byName candidates).contains name = true ↔
      name ∈ (names candidates).toFinset := fun name => by
    rw [byName_contains distinct, List.mem_toFinset]
  obtain ⟨graph, placed⟩ := graph_foldl known bindings (graph_start distinct)
    fun binding member => bindAll_known distinct bound member
  change _ = bindings at placed
  generalize resolved : bindings.foldl (place (byName candidates)) (.start (names candidates)) =
    resolution at graph placed
  have counted : (names candidates).toFinset.card = candidates.length := by
    rw [List.toFinset_card_of_nodup distinct, names, List.length_map]
  obtain rfl := placed.symm
  have ordering := orderCandidates_eq graph (fun binding => bindAll_known distinct bound) counted
    greedy
  unfold resolve
  rw [indexCandidates_ok.mpr ⟨distinct, inactive, rfl⟩]
  simp only [bind, Except.bind, byName_names distinct]
  have folded : (sortCandidates candidates).foldlM (resolveCandidate (byName candidates) available)
      (.start (names candidates)) = .ok resolution := by
    rw [foldlM_resolveCandidate distinct]
    change (bindAll candidates available >>= _) = _
    rw [bound]
    exact congrArg Except.ok resolved
  rw [folded]
  dsimp only
  rw [ordering]
  by_cases full : ordered.length = (names candidates).toFinset.card
  · rw [if_pos full, if_pos full]
    rfl
  · rw [if_neg full, if_neg full]

theorem resolve_unbound (distinct : (names candidates).Nodup)
    (inactive : ∀ name ∈ names candidates, ¬ Active available name) {error : PluginError}
    (failed : bindAll candidates available = .error error) :
    resolve candidates available = .error error := by
  unfold resolve
  rw [indexCandidates_ok.mpr ⟨distinct, inactive, rfl⟩]
  simp only [bind, Except.bind]
  have folded (state : Resolution) : (sortCandidates candidates).foldlM
      (resolveCandidate (byName candidates) available) state = .error error := by
    rw [foldlM_resolveCandidate distinct]
    change (bindAll candidates available >>= _) = _
    rw [failed]
    rfl
  rw [folded]

theorem resolve_conflict {error : PluginError}
    (failed : indexCandidates candidates available = .error error) :
    resolve candidates available = .error error := by
  unfold resolve
  rw [failed]
  rfl

/-! ### When the resolver succeeds, and with what -/

/-- A candidate provides what another candidate requires. A candidate is known by its name. -/
def Supplies (candidates : List PluginManifest) (available : CapabilityCatalogSnapshot)
    (provider consumer : String) : Prop :=
  provider ∈ names candidates ∧ provider ≠ consumer ∧
    ∃ manifest ∈ candidates, manifest.ref.name = consumer ∧ ∃ dependency ∈ manifest.requires,
      ∃ offer, Provides candidates available dependency offer ∧ offer.provider.name = provider

structure Resolvable (candidates : List PluginManifest) (available : CapabilityCatalogSnapshot) :
    Prop where
  distinct : (names candidates).Nodup
  inactive : ∀ name ∈ names candidates, ¬ Active available name
  provided : ∀ manifest ∈ candidates, ∀ dependency ∈ manifest.requires,
    ∃! offer, Provides candidates available dependency offer
  apart : ∀ manifest ∈ candidates, ∀ pluginId versionRange,
    .plugin pluginId versionRange ∈ manifest.requires → pluginId ≠ manifest.ref.name
  acyclic : Acyclic (Supplies candidates available)

/-- Every requirement is bound once, to its only provider, and the candidates stand in the least
order that puts each after its providers. -/
structure Resolves (candidates : List PluginManifest) (available : CapabilityCatalogSnapshot)
    (plan : DependencyResolutionPlan) : Prop where
  once : (plan.bindings.map fun binding => (binding.consumer, binding.dependency)).Perm
    (candidates.flatMap fun manifest =>
      manifest.requires.map fun dependency => (manifest.ref, dependency))
  bound : ∀ binding ∈ plan.bindings, ∃ offer,
    Provides candidates available binding.dependency offer ∧
      (∀ other, Provides candidates available binding.dependency other → other = offer) ∧
      binding.provider = offer.provider ∧ binding.capability = offer.capability
  placed : plan.orderedPlugins.Perm (candidates.map PluginManifest.ref)
  topological : IsTopological (Supplies candidates available) (names candidates).toFinset ∅
    (plan.orderedPlugins.map PluginRef.name)
  least : ∀ other, IsTopological (Supplies candidates available) (names candidates).toFinset ∅ other →
    plan.orderedPlugins.map PluginRef.name = other ∨
      List.Lex (· < ·) (plan.orderedPlugins.map PluginRef.name) other

/-- The edges of the bindings are those of the only providers. -/
theorem linked_iff (distinct : (names candidates).Nodup) {bindings : List ResolvedDependency}
    (bound : bindAll candidates available = .ok bindings) {provider consumer : String} :
    Linked (names candidates).toFinset bindings provider consumer ↔
      Supplies candidates available provider consumer := by
  have consumers := bindAll_consumer distinct bound
  unfold Linked Supplies
  rw [List.mem_toFinset]
  refine and_congr_right fun _ => and_congr_right fun _ => ?_
  constructor
  · rintro ⟨binding, member, rfl, rfl⟩
    obtain ⟨offer, collected, made⟩ := bindAll_member distinct bound member
    have required : (binding.consumer, binding.dependency) ∈ requirements candidates := by
      rw [← consumers]
      exact List.mem_map.mpr ⟨binding, member, rfl⟩
    obtain ⟨manifest, inside, same, listed⟩ := mem_requirements.mp required
    have provides : Provides candidates available binding.dependency offer :=
      mem_compatibleOffers.mp (by simp [collected])
    refine ⟨manifest, inside, congrArg PluginRef.name same, binding.dependency, listed, offer,
      provides, ?_⟩
    rw [made]
    rfl
  · rintro ⟨manifest, inside, rfl, dependency, listed, offer, provides, rfl⟩
    have required : (manifest.ref, dependency) ∈ requirements candidates :=
      mem_requirements.mpr ⟨manifest, inside, rfl, listed⟩
    rw [← consumers] at required
    obtain ⟨binding, member, same⟩ := List.mem_map.mp required
    obtain ⟨consumer, same⟩ := Prod.mk.inj same
    obtain ⟨other, collected, made⟩ := bindAll_member distinct bound member
    rw [same] at collected
    have only := mem_compatibleOffers.mpr provides
    rw [collected, List.mem_singleton] at only
    subst only
    refine ⟨binding, member, ?_, congrArg PluginRef.name consumer⟩
    rw [made]
    rfl

/-- All requirements are bound if and only if each has one provider, not the Plugin itself. -/
theorem bindAll_ok (distinct : (names candidates).Nodup) :
    (∃ bindings, bindAll candidates available = .ok bindings) ↔
      (∀ manifest ∈ candidates, ∀ dependency ∈ manifest.requires,
        ∃! offer, Provides candidates available dependency offer) ∧
      ∀ manifest ∈ candidates, ∀ pluginId versionRange,
        .plugin pluginId versionRange ∈ manifest.requires → pluginId ≠ manifest.ref.name := by
  have each : (∃ bindings, bindAll candidates available = .ok bindings) ↔
      ∀ requirement ∈ requirements candidates, ∃ binding,
        bindRequirement (byName candidates) available requirement = .ok binding := by
    unfold bindAll
    simp only [mapM_ok]
    generalize requirements candidates = items
    induction items with
    | nil => simp
    | cons item items ih =>
      simp only [List.forall₂_cons_left_iff, List.forall_mem_cons, ← ih]
      constructor
      · rintro ⟨_, binding, bindings, first, rest, rfl⟩
        exact ⟨⟨binding, first⟩, bindings, rest⟩
      · rintro ⟨⟨binding, first⟩, bindings, rest⟩
        exact ⟨_, binding, bindings, first, rest, rfl⟩
  rw [each]
  constructor
  · intro bound
    constructor
    · intro manifest member dependency required
      obtain ⟨binding, first⟩ := bound (manifest.ref, dependency)
        (mem_requirements.mpr ⟨manifest, member, rfl, required⟩)
      obtain ⟨offer, collected, -, -⟩ := (bindRequirement_ok distinct).mp first
      exact (existsUnique_provides distinct).mpr ⟨offer, collected⟩
    · intro manifest member pluginId versionRange required
      obtain ⟨binding, first⟩ := bound (manifest.ref, .plugin pluginId versionRange)
        (mem_requirements.mpr ⟨manifest, member, rfl, required⟩)
      obtain ⟨offer, -, -, apart⟩ := (bindRequirement_ok distinct).mp first
      exact apart pluginId versionRange rfl
  · intro ⟨provided, apart⟩ requirement member
    obtain ⟨manifest, inside, same, required⟩ := mem_requirements.mp member
    obtain ⟨offer, collected⟩ :=
      (existsUnique_provides distinct).mp (provided manifest inside _ required)
    refine ⟨offer.binding requirement.1 requirement.2, (bindRequirement_ok distinct).mpr
      ⟨offer, collected, rfl, fun pluginId versionRange named => ?_⟩⟩
    rw [named] at required
    rw [← same]
    exact apart manifest inside pluginId versionRange required

theorem linked_eq (distinct : (names candidates).Nodup) {bindings : List ResolvedDependency}
    (bound : bindAll candidates available = .ok bindings) :
    Linked (names candidates).toFinset bindings = Supplies candidates available := by
  funext provider consumer
  exact propext (linked_iff distinct bound)

theorem supplies_source {provider consumer : String}
    (supplies : Supplies candidates available provider consumer) :
    provider ∈ (names candidates).toFinset := List.mem_toFinset.mpr supplies.1

theorem supplies_target {provider consumer : String}
    (supplies : Supplies candidates available provider consumer) :
    consumer ∈ (names candidates).toFinset := by
  obtain ⟨-, -, manifest, member, rfl, -⟩ := supplies
  exact List.mem_toFinset.mpr (List.mem_map.mpr ⟨manifest, member, rfl⟩)

/-- The Plugins of some names of candidates. -/
def pluginsOf (candidates : List PluginManifest) (ordered : List String) : List PluginRef :=
  ordered.filterMap fun name => ((byName candidates).get? name).map PluginManifest.ref

theorem map_name_pluginsOf (distinct : (names candidates).Nodup) {ordered : List String}
    (known : ∀ name ∈ ordered, name ∈ names candidates) :
    (pluginsOf candidates ordered).map PluginRef.name = ordered := by
  induction ordered with
  | nil => rfl
  | cons name ordered ih =>
    obtain ⟨manifest, member, named⟩ := List.mem_map.mp (known name (by simp))
    have found := (byName_get? distinct).mpr ⟨member, named⟩
    have rest := ih fun other inside => known other (by simp [inside])
    unfold pluginsOf at rest ⊢
    rw [List.filterMap_cons_some (by rw [found]; rfl), List.map_cons, rest, named]

theorem pluginsOf_perm (distinct : (names candidates).Nodup) {ordered : List String}
    (perm : ordered.Perm (names candidates)) :
    (pluginsOf candidates ordered).Perm (candidates.map PluginManifest.ref) := by
  have all : pluginsOf candidates (names candidates) = candidates.map PluginManifest.ref := by
    unfold pluginsOf names
    rw [List.filterMap_map, ← List.filterMap_eq_map]
    apply List.filterMap_congr
    intro manifest member
    simp only [Function.comp_apply, (byName_get? distinct).mpr ⟨member, rfl⟩, Option.map_some]
  rw [← all]
  exact perm.filterMap _

/-- The plan of bound requirements on an acyclic graph. -/
theorem resolves_of_greedy (distinct : (names candidates).Nodup)
    {bindings : List ResolvedDependency} (bound : bindAll candidates available = .ok bindings)
    (acyclic : Acyclic (Supplies candidates available)) {ordered : List String}
    (greedy : Greedy (Supplies candidates available) (names candidates).toFinset ∅ ordered) :
    Resolves candidates available
      ⟨pluginsOf candidates ordered, sortedBy bindingKey bindings⟩ := by
  have topological := greedy.isTopological acyclic fun _ _ => supplies_source
  have members : ∀ name, name ∈ ordered ↔ name ∈ names candidates := by
    intro name
    rw [topological.covers, List.mem_toFinset]
    simp
  have perm : ordered.Perm (names candidates) :=
    (List.perm_ext_iff_of_nodup topological.nodup distinct).mpr members
  have names := map_name_pluginsOf distinct fun name member => (members name).mp member
  refine ⟨?_, fun binding member => ?_, pluginsOf_perm distinct perm, ?_, fun other => ?_⟩
  · have consumers := bindAll_consumer distinct bound
    have sorted : (sortedBy bindingKey bindings).Perm bindings := sortedBy_perm
    have pairs := sorted.map fun binding => (binding.consumer, binding.dependency)
    rw [consumers] at pairs
    exact pairs.trans requirements_perm
  · obtain ⟨offer, collected, made⟩ := bindAll_member distinct bound (mem_sortedBy.mp member)
    refine ⟨offer, mem_compatibleOffers.mp (by simp [collected]), fun other provides => ?_, ?_, ?_⟩
    · have only := mem_compatibleOffers.mpr provides
      rw [collected, List.mem_singleton] at only
      exact only
    · rw [made]
      rfl
    · rw [made]
      rfl
  · rw [names]
    exact topological
  · intro another
    rw [names]
    exact greedy.least another

theorem resolve_ok {plan : DependencyResolutionPlan}
    (resolved : resolve candidates available = .ok plan) :
    Resolvable candidates available ∧ Resolves candidates available plan := by
  cases indexed : indexCandidates candidates available with
  | error error =>
    rw [resolve_conflict indexed] at resolved
    cases resolved
  | ok dict =>
    obtain ⟨distinct, inactive, -⟩ := indexCandidates_ok.mp indexed
    cases bound : bindAll candidates available with
    | error error =>
      rw [resolve_unbound distinct inactive bound] at resolved
      cases resolved
    | ok bindings =>
      obtain ⟨provided, apart⟩ := (bindAll_ok distinct).mp ⟨bindings, bound⟩
      have same := linked_eq distinct bound
      obtain ⟨ordered, greedy⟩ := exists_greedy (Linked (names candidates).toFinset bindings)
        (names candidates).toFinset ∅
      rw [resolve_bound distinct inactive bound greedy] at resolved
      rw [same] at greedy
      have complete := greedy.complete_iff (fun _ _ => supplies_source) fun _ _ => supplies_target
      split at resolved
      · rename_i full
        obtain rfl := Except.ok.inj resolved
        have acyclic := complete.mp full
        exact ⟨⟨distinct, inactive, provided, apart, acyclic⟩,
          resolves_of_greedy distinct bound acyclic greedy⟩
      · cases resolved

end DependencyResolver

end CongeriesCore
