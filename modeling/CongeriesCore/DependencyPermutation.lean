import CongeriesCore.DependencyResolution

/-! # Presentations of one input

The same candidates and the same catalog may be presented in any order. The plan and every error
about a requirement or a cycle are those of the input; only where several candidates collide with
other versions does the order decide which of them is named. -/

namespace CongeriesCore

open KahnSort KeyedSort TopologicalOrder

/-- The same manifest with its requirements and its capabilities in another order. -/
structure PluginManifest.Rearranged (manifest other : PluginManifest) : Prop where
  ref : manifest.ref = other.ref
  requires : manifest.requires.Perm other.requires
  provides : manifest.provides.Perm other.provides
  permissions : manifest.permissions = other.permissions
  lifecycle : manifest.lifecycle = other.lifecycle
  rest : manifest.other = other.other

structure CapabilityCatalogSnapshot.Rearranged (available other : CapabilityCatalogSnapshot) :
    Prop where
  plugins : available.plugins.Perm other.plugins
  capabilities : available.capabilities.Perm other.capabilities

namespace DependencyResolver

/-- The same candidates, each rearranged, in another order. -/
def Rearranged (candidates others : List PluginManifest) : Prop :=
  ∃ middle, candidates.Perm middle ∧ List.Forall₂ PluginManifest.Rearranged middle others

/-- Another version of the candidate of this name is a candidate or active. -/
def Conflicting (candidates : List PluginManifest) (available : CapabilityCatalogSnapshot)
    (name : String) : Prop :=
  name ∈ names candidates ∧ (Active available name ∨ 2 ≤ (names candidates).count name)

variable {candidates others : List PluginManifest} {available catalog : CapabilityCatalogSnapshot}

/-- What is read off each manifest is permuted with the manifests. -/
theorem Rearranged.map (rearranged : Rearranged candidates others) {α : Type}
    {read : PluginManifest → α}
    (same : ∀ manifest other, manifest.Rearranged other → read manifest = read other) :
    (candidates.map read).Perm (others.map read) := by
  obtain ⟨middle, perm, related⟩ := rearranged
  have equal : middle.map read = others.map read := by
    induction related generalizing candidates with
    | nil => rfl
    | cons first _ ih => rw [List.map_cons, List.map_cons, same _ _ first, ih (List.Perm.refl _)]
  rw [← equal]
  exact perm.map read

theorem Rearranged.names (rearranged : Rearranged candidates others) :
    (names candidates).Perm (names others) :=
  rearranged.map fun _ _ same => congrArg PluginRef.name same.ref

theorem Rearranged.flatMap (rearranged : Rearranged candidates others) {α : Type}
    {read : PluginManifest → List α}
    (same : ∀ manifest other, manifest.Rearranged other → (read manifest).Perm (read other)) :
    (candidates.flatMap read).Perm (others.flatMap read) := by
  obtain ⟨middle, perm, related⟩ := rearranged
  have equal : (middle.flatMap read).Perm (others.flatMap read) := by
    induction related generalizing candidates with
    | nil => exact List.Perm.refl _
    | cons first _ ih =>
      rw [List.flatMap_cons, List.flatMap_cons]
      exact (same _ _ first).append (ih (List.Perm.refl _))
  exact (perm.flatMap_right read).trans equal

theorem active_iff (rearranged : available.Rearranged catalog) {name : String} :
    Active available name ↔ Active catalog name := (rearranged.plugins.map _).mem_iff

/-! ### Names that collide -/

theorem conflicting_iff (listed : Rearranged candidates others)
    (rearranged : available.Rearranged catalog) {name : String} :
    Conflicting candidates available name ↔ Conflicting others catalog name := by
  unfold Conflicting
  rw [listed.names.mem_iff, active_iff rearranged, listed.names.count_eq]

theorem nameConflict_given :
    "Multiple candidate or active versions exist for one Plugin" ≠ "" := by decide

def nameConflict (name : String) : PluginError :=
  dependencyAmbiguous "Multiple candidate or active versions exist for one Plugin" name none
    nameConflict_given

theorem indexCandidate_error {dict : Dict String PluginManifest} {manifest : PluginManifest}
    {error : PluginError} (failed : indexCandidate available dict manifest = .error error) :
    error = nameConflict manifest.ref.name ∧
      (dict.contains manifest.ref.name = true ∨ Active available manifest.ref.name) := by
  unfold indexCandidate at failed
  split at failed
  · rename_i taken
    rw [Bool.or_eq_true, any_active] at taken
    cases failed
    exact ⟨rfl, taken⟩
  · cases failed

/-- The error names a candidate that collides. -/
theorem indexCandidates_error {error : PluginError}
    (failed : indexCandidates candidates available = .error error) :
    ∃ name, Conflicting candidates available name ∧ error = nameConflict name := by
  have loop : ∀ (rest done : List PluginManifest) (dict : Dict String PluginManifest),
      (∀ name, dict.contains name = true → name ∈ names done) →
      rest.foldlM (indexCandidate available) dict = .error error →
      ∃ name, Conflicting (done ++ rest) available name ∧ error = nameConflict name := by
    intro rest
    induction rest with
    | nil =>
      intro done dict _ failed
      cases failed
    | cons manifest rest ih =>
      intro done dict inside failed
      rw [List.foldlM_cons] at failed
      cases first : indexCandidate available dict manifest with
      | error raised =>
        rw [first] at failed
        cases failed
        obtain ⟨rfl, taken⟩ := indexCandidate_error first
        refine ⟨manifest.ref.name, ⟨by simp [names], ?_⟩, rfl⟩
        rcases taken with earlier | active
        · right
          have counted := List.one_le_count_iff.mpr (inside _ earlier)
          unfold names at counted ⊢
          rw [List.map_append, List.map_cons, List.count_append, List.count_cons_self]
          omega
        · exact .inl active
      | ok next =>
        rw [first] at failed
        obtain ⟨-, -, rfl⟩ := indexCandidate_ok.mp first
        have later := ih (done ++ [manifest]) _ (fun name contained => ?_) failed
        · simpa using later
        · rw [Dict.contains_iff, Dict.get?_set] at contained
          obtain ⟨value, found⟩ := contained
          unfold names
          rw [List.map_append, List.mem_append, List.map_singleton, List.mem_singleton]
          split at found
          · rename_i same
            exact .inr same.symm
          · exact .inl (inside name (Dict.contains_iff.mpr ⟨value, found⟩))
  have result := loop candidates [] .empty (by simp [Dict.contains]) failed
  simpa using result

/-- Names collide, or they are distinct and none is active. -/
theorem conflicting_or_distinct : (∃ name, Conflicting candidates available name) ∨
    ((names candidates).Nodup ∧ ∀ name ∈ names candidates, ¬ Active available name) := by
  cases indexed : indexCandidates candidates available with
  | error error =>
    obtain ⟨name, conflicting, -⟩ := indexCandidates_error indexed
    exact .inl ⟨name, conflicting⟩
  | ok dict =>
    obtain ⟨distinct, inactive, -⟩ := indexCandidates_ok.mp indexed
    exact .inr ⟨distinct, inactive⟩

/-- Where names collide the resolver names one of them. -/
theorem resolve_conflicting {name : String} (conflicting : Conflicting candidates available name) :
    ∃ named, Conflicting candidates available named ∧
      resolve candidates available = .error (nameConflict named) := by
  cases indexed : indexCandidates candidates available with
  | error error =>
    obtain ⟨named, one, rfl⟩ := indexCandidates_error indexed
    exact ⟨named, one, resolve_conflict indexed⟩
  | ok dict =>
    obtain ⟨distinct, inactive, -⟩ := indexCandidates_ok.mp indexed
    rcases conflicting with ⟨member, active | twice⟩
    · exact absurd active (inactive name member)
    · have once := List.nodup_iff_count_le_one.mp distinct name
      omega

/-- The candidates of one name in front of the others. -/
def inFront (name : String) (candidates : List PluginManifest) : List PluginManifest :=
  candidates.filter (fun manifest => manifest.ref.name == name) ++
    candidates.filter fun manifest => !(manifest.ref.name == name)

theorem inFront_perm (name : String) (candidates : List PluginManifest) :
    candidates.Perm (inFront name candidates) := (List.filter_append_perm _ _).symm

/-- If the candidates that collide come first, they are named. -/
theorem resolve_inFront {name : String} (conflicting : Conflicting candidates available name) :
    resolve (inFront name candidates) available = .error (nameConflict name) := by
  apply resolve_conflict
  unfold indexCandidates inFront
  have bears : ∀ manifest ∈ candidates.filter (fun manifest => manifest.ref.name == name),
      manifest.ref.name = name := fun manifest member => by
    simpa using (List.mem_filter.mp member).2
  have counted : (candidates.filter fun manifest => manifest.ref.name == name).length =
      (names candidates).count name := by
    rw [names, List.count, List.countP_map, List.countP_eq_length_filter]
    rfl
  have present := List.one_le_count_iff.mpr conflicting.1
  rw [List.foldlM_append]
  generalize candidates.filter (fun manifest => manifest.ref.name == name) = matching at bears counted
  generalize candidates.filter (fun manifest => !(manifest.ref.name == name)) = rest
  cases matching with
  | nil =>
    simp only [List.length_nil] at counted
    omega
  | cons manifest matching =>
    obtain rfl := bears manifest (by simp)
    by_cases active : Active available manifest.ref.name
    · have taken := any_active.mpr active
      simp only [List.foldlM_cons, indexCandidate, taken, Bool.or_true, if_true]
      rfl
    · have twice := conflicting.2.resolve_left active
      have free : indexCandidate available .empty manifest =
          .ok (Dict.empty.set manifest.ref.name manifest) :=
        indexCandidate_ok.mpr ⟨rfl, active, rfl⟩
      cases matching with
      | nil =>
        simp only [List.length_cons, List.length_nil] at counted
        omega
      | cons second matching =>
        have same := bears second (by simp)
        have taken : (Dict.empty.set manifest.ref.name manifest).contains manifest.ref.name = true :=
          Dict.contains_iff.mpr ⟨manifest, Dict.get?_set_self _ _ _⟩
        have refused : indexCandidate available (Dict.empty.set manifest.ref.name manifest) second =
            .error (nameConflict manifest.ref.name) := by
          unfold indexCandidate
          rw [same, taken]
          rfl
        simp only [List.foldlM_cons, free, refused, bind, Except.bind]

/-! ### Everything else -/

/-- The offers of a dependency are those of the input. -/
theorem namedOffers_perm (listed : Rearranged candidates others)
    (rearranged : available.Rearranged catalog) (dependency : PluginDependency) :
    (namedOffers candidates available dependency).Perm (namedOffers others catalog dependency) := by
  cases dependency with
  | plugin pluginId versionRange =>
    apply List.Perm.filter
    apply List.Perm.append
    · exact listed.map fun manifest other same => by rw [same.ref]
    · exact rearranged.plugins.map _
  | capability capabilityType capabilityId versionRange =>
    apply List.Perm.filter
    apply List.Perm.append
    · exact rearranged.capabilities.map _
    · apply listed.flatMap
      intro manifest other same
      rw [same.ref]
      exact same.provides.map _

/-- Which offer is chosen, or why none is, does not depend on their order. -/
theorem choose_perm (consumer : PluginRef) (dependency : PluginDependency)
    {named namedOther compatible compatibleOther : List Offer} (related : named.Perm namedOther)
    (perm : compatible.Perm compatibleOther) :
    choose consumer dependency named compatible =
      choose consumer dependency namedOther compatibleOther := by
  have empty : named.isEmpty = namedOther.isEmpty := by
    rw [Bool.eq_iff_iff, List.isEmpty_iff, List.isEmpty_iff]
    constructor
    · rintro rfl
      exact List.nil_perm.mp related
    · rintro rfl
      exact List.perm_nil.mp related
  have lengths := perm.length_eq
  match compatible, compatibleOther with
  | [], [] => simp only [choose, empty]
  | [offer], [other] =>
    have same := List.singleton_perm_singleton.mp perm
    rw [same]
    rfl
  | _ :: _ :: _, _ :: _ :: _ => rfl
  | [], _ :: _ => simp at lengths
  | _ :: _, [] => simp at lengths
  | [_], _ :: _ :: _ => simp at lengths
  | _ :: _ :: _, [_] => simp at lengths

theorem bindRequirement_rearranged (distinct : (names candidates).Nodup)
    (listed : Rearranged candidates others) (rearranged : available.Rearranged catalog)
    (requirement : PluginRef × PluginDependency) :
    bindRequirement (byName candidates) available requirement =
      bindRequirement (byName others) catalog requirement := by
  have named := namedOffers_perm listed rearranged requirement.2
  have compatible : (compatibleOffers candidates available requirement.2).Perm
      (compatibleOffers others catalog requirement.2) := named.filter _
  unfold bindRequirement
  rw [resolveOne_eq distinct, resolveOne_eq (listed.names.nodup_iff.mp distinct),
    choose_perm requirement.1 requirement.2 named compatible]

theorem sortDependencies_perm {manifest other : PluginManifest}
    (perm : manifest.requires.Perm other.requires) :
    sortDependencies manifest.requires = sortDependencies other.requires := by
  apply sortedBy_of_perm perm
  have injective : Function.Injective keyOrder := by
    intro first second same
    have one := congrArg (fun key => (ofLex key).1) same
    have two := congrArg (fun key => (ofLex (ofLex key).2).1) same
    have three := congrArg (fun key => (ofLex (ofLex key).2).2) same
    exact Prod.ext one (Prod.ext two three)
  have once := manifest.requiredOnce.map injective
  rwa [List.map_map] at once

/-- The requirements are resolved in an order of their own. -/
theorem requirements_rearranged (distinct : (names candidates).Nodup)
    (listed : Rearranged candidates others) : requirements candidates = requirements others := by
  let profile : PluginManifest → PluginRef × List PluginDependency := fun manifest =>
    (manifest.ref, sortDependencies manifest.requires)
  have profiled : ∀ candidates : List PluginManifest, (names candidates).Nodup →
      requirements candidates = (sortedBy (fun entry : PluginRef × List PluginDependency =>
        entry.1.name) (candidates.map profile)).flatMap fun entry =>
          entry.2.map fun dependency => (entry.1, dependency) := by
    intro candidates distinct
    have sorted : (sortedBy (fun manifest : PluginManifest => manifest.ref.name) candidates).map
        profile = sortedBy (fun entry : PluginRef × List PluginDependency => entry.1.name)
          (candidates.map profile) := map_sortedBy fun _ _ => rfl
    rw [requirements, sortCandidates_eq distinct, ← sorted, List.flatMap_map]
  have perm : (candidates.map profile).Perm (others.map profile) := by
    apply listed.map
    intro manifest other same
    exact Prod.ext same.ref (sortDependencies_perm same.requires)
  rw [profiled candidates distinct, profiled others (listed.names.nodup_iff.mp distinct)]
  congr 1
  apply sortedBy_of_perm perm
  rw [List.map_map]
  exact distinct

theorem byName_ref {name : String} {plugin : PluginRef} (distinct : (names candidates).Nodup) :
    ((byName candidates).get? name).map PluginManifest.ref = some plugin ↔
      plugin ∈ candidates.map PluginManifest.ref ∧ plugin.name = name := by
  rw [Option.map_eq_some_iff]
  simp only [byName_get? distinct, List.mem_map]
  constructor
  · rintro ⟨manifest, ⟨member, named⟩, rfl⟩
    exact ⟨⟨manifest, member, rfl⟩, named⟩
  · rintro ⟨⟨manifest, member, rfl⟩, named⟩
    exact ⟨manifest, ⟨member, named⟩, rfl⟩

theorem pluginsOf_rearranged (distinct : (names candidates).Nodup)
    (listed : Rearranged candidates others) (ordered : List String) :
    pluginsOf candidates ordered = pluginsOf others ordered := by
  have refs := listed.map fun _ _ same => same.ref
  apply List.filterMap_congr
  intro name _
  apply Option.ext
  intro plugin
  rw [byName_ref distinct, byName_ref (listed.names.nodup_iff.mp distinct), refs.mem_iff]

/-- Where no names collide the resolver sees the input only. -/
theorem resolve_rearranged (distinct : (names candidates).Nodup)
    (inactive : ∀ name ∈ names candidates, ¬ Active available name)
    (listed : Rearranged candidates others) (rearranged : available.Rearranged catalog) :
    resolve others catalog = resolve candidates available := by
  have distinctOther := listed.names.nodup_iff.mp distinct
  have inactiveOther : ∀ name ∈ names others, ¬ Active catalog name := fun name member =>
    (not_congr (active_iff rearranged)).mp (inactive name (listed.names.mem_iff.mpr member))
  have same : bindAll candidates available = bindAll others catalog := by
    unfold bindAll
    rw [requirements_rearranged distinct listed]
    congr 1
    funext requirement
    exact bindRequirement_rearranged distinct listed rearranged requirement
  cases bound : bindAll candidates available with
  | error error =>
    rw [resolve_unbound distinct inactive bound,
      resolve_unbound distinctOther inactiveOther (same ▸ bound)]
  | ok bindings =>
    have vertices : (names candidates).toFinset = (names others).toFinset :=
      List.toFinset_eq_of_perm _ _ listed.names
    obtain ⟨ordered, greedy⟩ := exists_greedy (Linked (names candidates).toFinset bindings)
      (names candidates).toFinset ∅
    have here := resolve_bound distinct inactive bound greedy
    rw [vertices] at greedy
    have there := resolve_bound distinctOther inactiveOther (same ▸ bound) greedy
    have plugins := pluginsOf_rearranged distinct listed ordered
    unfold pluginsOf at plugins
    rw [here, there, plugins, vertices]

end DependencyResolver

namespace SampleParameters

/-- A Plugin that neither provides nor requires anything. -/
def plainManifest (name : String) : PluginManifest :=
  ⟨⟨name, .release 2 0 0⟩, [], [], [], [], "", by simp, by simp⟩

/-- Both Plugins are active in an earlier version. -/
def earlierCatalog : CapabilityCatalogSnapshot :=
  ⟨[⟨"sample.first", .release 1 0 0⟩, ⟨"sample.second", .release 1 0 0⟩], [], by decide, by decide⟩

end SampleParameters

namespace DependencyResolver

end DependencyResolver

end CongeriesCore
