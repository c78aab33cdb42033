import CongeriesCore.DependencyBindings
import CongeriesCore.KahnSort

/-! # The order of the candidates

The requirements are bound one after the other, and every binding to a candidate is an edge of the
graph. The loop over the graph visits it in its greedy order. -/

namespace CongeriesCore

open KahnSort KeyedSort TopologicalOrder

namespace DependencyResolver

variable {candidates : List PluginManifest} {available : CapabilityCatalogSnapshot}

/-! ### Every requirement in turn -/

/-- The requirements in the order in which they are resolved. -/
def requirements (candidates : List PluginManifest) : List (PluginRef × PluginDependency) :=
  (sortCandidates candidates).flatMap fun manifest =>
    (sortDependencies manifest.requires).map fun dependency => (manifest.ref, dependency)

/-- A requirement is bound, but not to the Plugin that it is a requirement of. -/
def bindRequirement (dict : Dict String PluginManifest) (available : CapabilityCatalogSnapshot)
    (requirement : PluginRef × PluginDependency) : Except PluginError ResolvedDependency := do
  let binding ← resolveOne requirement.2 requirement.1 dict available
  if binding.provider.name = requirement.1.name then
    rejectSelfPluginDependency requirement.1 requirement.2
  return binding

def place (dict : Dict String PluginManifest) (resolution : Resolution)
    (binding : ResolvedDependency) : Resolution :=
  let placed := { resolution with bindings := resolution.bindings ++ [binding] }
  if dict.contains binding.provider.name && binding.provider.name != binding.consumer.name then
    placed.connect binding.provider.name binding.consumer.name
  else placed

theorem resolveRequirement_eq (distinct : (names candidates).Nodup) (manifest : PluginManifest)
    (resolution : Resolution) (dependency : PluginDependency) :
    resolveRequirement (byName candidates) available manifest resolution dependency = (do
      let binding ← bindRequirement (byName candidates) available (manifest.ref, dependency)
      return place (byName candidates) resolution binding) := by
  unfold resolveRequirement bindRequirement
  dsimp only
  cases resolved : resolveOne dependency manifest.ref (byName candidates) available with
  | error error => rfl
  | ok binding =>
    obtain ⟨offer, -, rfl⟩ := (resolveOne_ok distinct).mp resolved
    generalize made : offer.binding manifest.ref dependency = binding
    have consumer : binding.consumer = manifest.ref := by rw [← made]; rfl
    simp only [bind, Except.bind]
    by_cases own : binding.provider.name = manifest.ref.name
    · have placed : place (byName candidates) resolution binding =
          { resolution with bindings := resolution.bindings ++ [binding] } := by
        simp [place, consumer, own]
      simp only [own, bne_self_eq_false, Bool.and_false, Bool.false_eq_true, if_false,
        beq_self_eq_true, if_true]
      cases rejectSelfPluginDependency manifest.ref dependency with
      | error error => rfl
      | ok done => exact congrArg Except.ok placed.symm
    · have apart : (binding.provider.name == manifest.ref.name) = false := by simpa using own
      simp only [own, apart, bne, Bool.not_false, Bool.and_true, if_false, Bool.false_eq_true]
      unfold place
      simp only [consumer, apart, bne, Bool.not_false, Bool.and_true, pure, Except.pure]
      split <;> rfl

theorem foldlM_resolveCandidate (distinct : (names candidates).Nodup) (state : Resolution) :
    (sortCandidates candidates).foldlM (resolveCandidate (byName candidates) available) state = (do
      let bindings ← (requirements candidates).mapM (bindRequirement (byName candidates) available)
      return bindings.foldl (place (byName candidates)) state) := by
  have inner : resolveCandidate (byName candidates) available = fun resolution manifest =>
      ((sortDependencies manifest.requires).map fun dependency =>
        (manifest.ref, dependency)).foldlM (fun resolution requirement => do
          let binding ← bindRequirement (byName candidates) available requirement
          return place (byName candidates) resolution binding) resolution := by
    funext resolution manifest
    rw [List.foldlM_map]
    exact congrArg (fun step => List.foldlM step resolution _)
      (funext fun state => funext (resolveRequirement_eq distinct manifest state))
  rw [inner, foldlM_flatMap, ← foldlM_eq_mapM]
  rfl

/-! ### The graph of the bindings -/

/-- A binding of the consumer to another candidate. -/
def Linked (vertices : Finset String) (bindings : List ResolvedDependency)
    (provider consumer : String) : Prop :=
  provider ∈ vertices ∧ provider ≠ consumer ∧
    ∃ binding ∈ bindings, binding.provider.name = provider ∧ binding.consumer.name = consumer

instance (vertices : Finset String) (bindings : List ResolvedDependency) :
    DecidableRel (Linked vertices bindings) :=
  fun _ _ => inferInstanceAs (Decidable (_ ∧ _ ∧ ∃ binding ∈ bindings, _))

/-- The edges and the counters are those of the bindings. -/
structure Graph (vertices : Finset String) (resolution : Resolution) : Prop where
  edges : ∀ provider consumer, consumer ∈ resolution.consumers provider ↔
    Linked vertices resolution.bindings provider consumer
  counts : ∀ name, (resolution.incoming.get? name).getD 0 =
    unmet (Linked vertices resolution.bindings) vertices ∅ name
  keys : ∀ name, name ∈ resolution.incoming.entries.map Prod.fst ↔ name ∈ vertices

theorem linked_append {vertices : Finset String} {bindings : List ResolvedDependency}
    {binding : ResolvedDependency} {provider consumer : String} :
    Linked vertices (bindings ++ [binding]) provider consumer ↔
      Linked vertices bindings provider consumer ∨ (provider ∈ vertices ∧ provider ≠ consumer ∧
        binding.provider.name = provider ∧ binding.consumer.name = consumer) := by
  unfold Linked
  simp only [List.mem_append, List.mem_singleton, or_and_right, exists_or, exists_eq_left,
    and_or_left]

/-- A dictionary of the names that holds one value for each of them holds nothing else. -/
theorem getD_setAll {ν : Type} (value : ν) (names : List String) (name : String) :
    ((Dict.setAll id (fun _ => value) .empty names).get? name).getD value = value := by
  have held : ∀ (names : List String) (dict : Dict String ν), (dict.get? name).getD value = value →
      ((dict.setAll id (fun _ => value) names).get? name).getD value = value := by
    intro names
    induction names with
    | nil => exact fun _ held => held
    | cons first names ih =>
      intro dict held
      apply ih
      rw [Dict.get?_set]
      split
      · rfl
      · exact held
  exact held names .empty rfl

theorem graph_start {names : List String} (distinct : names.Nodup) :
    Graph names.toFinset (.start names) where
  edges provider consumer := by
    have none : (Resolution.start names).consumers provider = ∅ := getD_setAll ∅ names provider
    rw [none]
    simp [Linked, Resolution.start]
  counts name := by
    have zero : ((Resolution.start names).incoming.get? name).getD 0 = 0 := getD_setAll 0 names name
    rw [zero]
    symm
    rw [Int.natCast_eq_zero, unmet_eq_zero fun _ _ linked => linked.1]
    intro source linked
    obtain ⟨-, -, binding, member, -⟩ := linked
    cases member
  keys name := by
    have entries : (Dict.setAll id (fun _ => (0 : ℤ)) .empty names).entries = [] ++ _ :=
      Dict.entries_setAll id _ (by simpa using distinct) (by simp [Dict.empty])
    change name ∈ (Dict.setAll id (fun _ => (0 : ℤ)) .empty names).entries.map Prod.fst ↔ _
    rw [entries]
    simp

/-- A new edge enters the graph and the counter of its target. -/
theorem graph_connect {vertices : Finset String} {resolution : Resolution} {provider consumer : String}
    {bindings : List ResolvedDependency}
    (graph : Graph vertices { resolution with bindings })
    (declared : provider ∈ vertices) (known : consumer ∈ vertices)
    (fresh : consumer ∉ resolution.consumers provider)
    (grows : ∀ first second, Linked vertices resolution.bindings first second ↔
      Linked vertices bindings first second ∨ (first = provider ∧ second = consumer)) :
    Graph vertices (resolution.connect provider consumer) := by
  have connected : resolution.connect provider consumer = { resolution with
      edges := resolution.edges.set provider (insert consumer (resolution.consumers provider))
      incoming := resolution.incoming.set consumer
        ((resolution.incoming.get? consumer).getD 0 + 1) } := by
    unfold Resolution.connect
    rw [if_neg fresh]
  have edges := graph.edges
  have counts := graph.counts
  have keys := graph.keys
  change ∀ first second, second ∈ resolution.consumers first ↔ Linked vertices bindings first second
    at edges
  change ∀ name, (resolution.incoming.get? name).getD 0 =
    unmet (Linked vertices bindings) vertices ∅ name at counts
  rw [connected]
  refine ⟨fun first second => ?_, fun name => ?_, fun name => ?_⟩
  · rw [grows, ← edges]
    unfold Resolution.consumers
    dsimp only
    rw [Dict.get?_set]
    by_cases same : provider = first
    · subst same
      simp [or_comm]
    · have other : first ≠ provider := fun equal => same equal.symm
      simp [same, other]
  · have added := unmet_add declared (fun linked => fresh ((edges _ _).mpr linked)) grows name
    dsimp only
    rw [added, Dict.get?_set]
    by_cases same : consumer = name
    · subst same
      simp [counts]
    · have other : name ≠ consumer := fun equal => same equal.symm
      simp [same, other, counts]
  · dsimp only
    rw [Dict.keys_set_of_mem ((keys consumer).mpr known)]
    exact keys name

/-- Every binding leaves the graph that of the bindings so far. -/
theorem graph_place {dict : Dict String PluginManifest} {vertices : Finset String}
    (known : ∀ name, dict.contains name = true ↔ name ∈ vertices) {resolution : Resolution}
    (graph : Graph vertices resolution) {binding : ResolvedDependency}
    (consumer : binding.consumer.name ∈ vertices) :
    Graph vertices (place dict resolution binding) ∧
      (place dict resolution binding).bindings = resolution.bindings ++ [binding] := by
  let placed : Resolution := { resolution with bindings := resolution.bindings ++ [binding] }
  -- Where the binding is no new edge, only the list of bindings grows.
  have still : (∀ first second, Linked vertices placed.bindings first second ↔
      Linked vertices resolution.bindings first second) → Graph vertices placed := by
    intro same
    refine ⟨fun first second => ?_, fun name => ?_, graph.keys⟩
    · exact (graph.edges first second).trans (same first second).symm
    · rw [unmet_congr same]
      exact graph.counts name
  unfold place
  split
  · rename_i edge
    rw [Bool.and_eq_true, known, bne_iff_ne] at edge
    have appended : ∀ first second, Linked vertices placed.bindings first second ↔
        Linked vertices resolution.bindings first second ∨
          (first = binding.provider.name ∧ second = binding.consumer.name) := by
      intro first second
      rw [linked_append]
      constructor
      · rintro (linked | ⟨-, -, rfl, rfl⟩)
        · exact .inl linked
        · exact .inr ⟨rfl, rfl⟩
      · rintro (linked | ⟨rfl, rfl⟩)
        · exact .inl linked
        · exact .inr ⟨edge.1, edge.2, rfl, rfl⟩
    by_cases present : binding.consumer.name ∈ resolution.consumers binding.provider.name
    · have unchanged : placed.connect binding.provider.name binding.consumer.name = placed :=
        if_pos present
      change Graph vertices (placed.connect _ _) ∧ (placed.connect _ _).bindings = _
      rw [unchanged]
      refine ⟨still fun first second => ?_, rfl⟩
      rw [appended]
      constructor
      · rintro (linked | ⟨rfl, rfl⟩)
        · exact linked
        · exact (graph.edges _ _).mp present
      · exact .inl
    · have fresh : binding.consumer.name ∉ placed.consumers binding.provider.name := present
      refine ⟨graph_connect graph edge.1 consumer fresh appended, ?_⟩
      change (placed.connect _ _).bindings = _
      unfold Resolution.connect
      rw [if_neg fresh]
  · rename_i loop
    rw [Bool.and_eq_true, known, bne_iff_ne] at loop
    refine ⟨still fun first second => ?_, rfl⟩
    change Linked vertices (resolution.bindings ++ [binding]) first second ↔ _
    rw [linked_append]
    constructor
    · rintro (linked | ⟨declared, different, rfl, rfl⟩)
      · exact linked
      · exact absurd ⟨declared, different⟩ loop
    · exact .inl

theorem graph_foldl {dict : Dict String PluginManifest} {vertices : Finset String}
    (known : ∀ name, dict.contains name = true ↔ name ∈ vertices)
    (bindings : List ResolvedDependency) {resolution : Resolution} (graph : Graph vertices resolution)
    (consumers : ∀ binding ∈ bindings, binding.consumer.name ∈ vertices) :
    Graph vertices (bindings.foldl (place dict) resolution) ∧
      (bindings.foldl (place dict) resolution).bindings = resolution.bindings ++ bindings := by
  induction bindings generalizing resolution with
  | nil => exact ⟨graph, (List.append_nil _).symm⟩
  | cons binding bindings ih =>
    obtain ⟨first, added⟩ := graph_place known graph (consumers binding (by simp))
    obtain ⟨rest, all⟩ := ih first fun other member => consumers other (by simp [member])
    refine ⟨rest, ?_⟩
    rw [List.foldl_cons, all, added, List.append_assoc]
    rfl

/-! ### The loop over the graph -/

theorem release_released (pending : Pending) (dependent : String)
    (sorted : pending.ready.Pairwise (· ≤ ·)) (nodup : pending.ready.Nodup)
    (apart : dependent ∉ pending.ready) : Released [dependent] pending.count
      (pending.release dependent).count pending.ready (pending.release dependent).ready := by
  have kept : (pending.release dependent).incoming =
      pending.incoming.set dependent (pending.count dependent - 1) := by
    unfold Pending.release
    dsimp only
    split <;> rfl
  have counts : ∀ name, (pending.release dependent).count name =
      pending.count name - if name = dependent then 1 else 0 := by
    intro name
    unfold Pending.count
    rw [kept, Dict.get?_set]
    by_cases same : dependent = name
    · simp [same, Pending.count]
    · have other : name ≠ dependent := fun equal => same equal.symm
      simp [same, other]
  have last : (pending.release dependent).count dependent =
      ((pending.incoming.set dependent (pending.count dependent - 1)).get? dependent).getD 0 := by
    rw [Pending.count, kept]
  apply released_one counts sorted nodup apart
  · intro zero
    have joins : (pending.release dependent).ready = sortNames (pending.ready ++ [dependent]) := by
      unfold Pending.release
      rw [if_pos (last.symm.trans zero)]
    rw [joins]
    exact ⟨pairwise_sortedBy, sortedBy_perm⟩
  · intro more
    unfold Pending.release
    rw [if_neg fun zero => more (last.trans zero)]

/-- The loop counts the same names throughout. -/
theorem keys_release {pending : Pending} {dependent : String}
    (known : dependent ∈ pending.incoming.entries.map Prod.fst) :
    (pending.release dependent).incoming.entries.map Prod.fst =
      pending.incoming.entries.map Prod.fst := by
  have kept : (pending.release dependent).incoming =
      pending.incoming.set dependent (pending.count dependent - 1) := by
    unfold Pending.release
    dsimp only
    split <;> rfl
  rw [kept, Dict.keys_set_of_mem known]

theorem keys_foldl_release {dependents : List String} {pending : Pending}
    (known : ∀ dependent ∈ dependents, dependent ∈ pending.incoming.entries.map Prod.fst) :
    (dependents.foldl Pending.release pending).incoming.entries.map Prod.fst =
      pending.incoming.entries.map Prod.fst := by
  induction dependents generalizing pending with
  | nil => rfl
  | cons dependent dependents ih =>
    have kept := keys_release (known dependent (by simp))
    rw [List.foldl_cons, ih, kept]
    intro other member
    rw [kept]
    exact known other (by simp [member])

/-- What the loop returns: the greedy order, and counters of what has not been visited. -/
structure Visited (edge : String → String → Prop) [DecidableRel edge] (vertices done : Finset String)
    (before : Pending) (result : List String × Pending) : Prop where
  greedy : Greedy edge vertices done result.1
  counts : ∀ name, result.2.count name = unmet edge vertices (done ∪ result.1.toFinset) name
  keys : result.2.incoming.entries.map Prod.fst = before.incoming.entries.map Prod.fst

theorem visit_visited {vertices : Finset String} {resolution : Resolution}
    (graph : Graph vertices resolution)
    (members : ∀ binding ∈ resolution.bindings, binding.consumer.name ∈ vertices) {fuel : ℕ}
    {done : Finset String} {pending : Pending}
    (progress : KahnSort.Progress (Linked vertices resolution.bindings) vertices done pending.count
      pending.ready)
    (keys : ∀ name, name ∈ pending.incoming.entries.map Prod.fst ↔ name ∈ vertices)
    (enough : vertices.card ≤ fuel + done.card) :
    Visited (Linked vertices resolution.bindings) vertices done pending
      (visit resolution fuel pending) := by
  have sources : ∀ source target, Linked vertices resolution.bindings source target →
      source ∈ vertices := fun _ _ linked => linked.1
  have targets : ∀ source target, Linked vertices resolution.bindings source target →
      target ∈ vertices := by
    rintro source _ ⟨-, -, binding, member, -, rfl⟩
    exact members binding member
  induction fuel generalizing done pending with
  | zero =>
    refine ⟨.stop (progress.finished (by omega)), fun name => ?_, rfl⟩
    simpa [visit] using progress.counts name
  | succ fuel ih =>
    obtain ⟨incoming, ready⟩ := pending
    cases ready with
    | nil =>
      refine ⟨.stop progress.stuck, fun name => ?_, rfl⟩
      simpa [visit] using progress.counts name
    | cons current rest =>
      have successors : ∀ name, name ∈ (resolution.consumers current).sort (· ≤ ·) ↔
          Linked vertices resolution.bindings current name := by
        intro name
        rw [Finset.mem_sort]
        exact graph.edges current name
      have released := foldl_released Pending.count Pending.ready release_released
        (Finset.sort_nodup (resolution.consumers current) (· ≤ ·)) ⟨incoming, rest⟩
        (List.pairwise_cons.mp progress.sorted).2 (List.nodup_cons.mp progress.nodup).2
        fun name member => progress.apart ((successors name).mp member)
      have next := progress.step sources targets (fun _ linked => linked.2.1 rfl) successors released
      let pending : Pending := ⟨incoming, rest⟩
      have same : (((resolution.consumers current).sort (· ≤ ·)).foldl Pending.release
          pending).incoming.entries.map Prod.fst = incoming.entries.map Prod.fst :=
        keys_foldl_release fun name member =>
          (keys name).mpr (targets current name ((successors name).mp member))
      have visited := ih next (fun name => by rw [same]; exact keys name) (by
        rw [Finset.card_insert_of_notMem progress.least.1.left]
        omega)
      refine ⟨.take progress.least visited.greedy, fun name => ?_, visited.keys.trans same⟩
      have counted := visited.counts name
      simpa [visit, Finset.insert_union, Finset.union_insert] using counted

theorem namesWhere_eq {incoming : Dict String ℤ} {vertices : Finset String}
    (keys : ∀ name, name ∈ incoming.entries.map Prod.fst ↔ name ∈ vertices) (test : ℤ → Bool) :
    namesWhere test incoming =
      (vertices.filter fun name => test ((incoming.get? name).getD 0) = true).sort (· ≤ ·) := by
  have members : ∀ name, name ∈ namesWhere test incoming ↔
      name ∈ vertices ∧ test ((incoming.get? name).getD 0) = true := by
    intro name
    unfold namesWhere sortNames
    rw [mem_sortedBy, ← keys, List.mem_map, List.mem_map]
    constructor
    · rintro ⟨entry, member, rfl⟩
      obtain ⟨inside, passes⟩ := List.mem_filter.mp member
      have found : incoming.get? entry.1 = some entry.2 := Dict.get?_of_mem inside
      exact ⟨⟨entry, inside, rfl⟩, by simpa [found] using passes⟩
    · rintro ⟨⟨entry, inside, rfl⟩, passes⟩
      have found : incoming.get? entry.1 = some entry.2 := Dict.get?_of_mem inside
      exact ⟨entry, List.mem_filter.mpr ⟨inside, by simpa [found] using passes⟩, rfl⟩
  have nodup : (namesWhere test incoming).Nodup :=
    nodup_sortedBy (incoming.nodup.sublist (List.filter_sublist.map Prod.fst))
  have perm : (namesWhere test incoming).Perm
      ((vertices.filter fun name => test ((incoming.get? name).getD 0) = true).sort (· ≤ ·)) := by
    rw [List.perm_ext_iff_of_nodup nodup (Finset.sort_nodup _ _)]
    intro name
    rw [members, Finset.mem_sort, Finset.mem_filter]
  exact List.Perm.eq_of_pairwise (fun _ _ _ _ one two => le_antisymm one two) pairwise_sortedBy
    (Finset.pairwise_sort _ _) perm

/-- The names that are left over when the loop has nothing to take. -/
def leftOver (vertices : Finset String) (bindings : List ResolvedDependency)
    (ordered : List String) : List String :=
  sortedNames (vertices.filter fun name =>
    unmet (Linked vertices bindings) vertices ordered.toFinset name ≠ 0)

/-- The greedy order of the graph, or the names that are left over. -/
theorem orderCandidates_eq {vertices : Finset String} {resolution : Resolution}
    (graph : Graph vertices resolution)
    (members : ∀ binding ∈ resolution.bindings, binding.consumer.name ∈ vertices)
    (enough : vertices.card = candidates.length) {ordered : List String}
    (greedy : Greedy (Linked vertices resolution.bindings) vertices ∅ ordered) :
    orderCandidates candidates resolution =
      if ordered.length = vertices.card then .ok ordered
      else .error (dependencyCycle (leftOver vertices resolution.bindings ordered)) := by
  let pending : Pending := ⟨resolution.incoming, namesWhere (· == 0) resolution.incoming⟩
  have sources : ∀ source target, Linked vertices resolution.bindings source target →
      source ∈ vertices := fun _ _ linked => linked.1
  have initially : pending.ready = _ := namesWhere_eq graph.keys (· == 0)
  have progress : KahnSort.Progress (Linked vertices resolution.bindings) vertices ∅ pending.count
      pending.ready := by
    apply progress_start sources graph.counts
    · rw [initially]
      exact Finset.pairwise_sort _ _
    · rw [initially]
      exact Finset.sort_nodup _ _
    · intro name
      rw [initially, Finset.mem_sort, Finset.mem_filter, beq_iff_eq]
  have visited : Visited _ vertices ∅ pending (visit resolution candidates.length pending) :=
    visit_visited graph members progress graph.keys (by simp [enough])
  have unfolded : orderCandidates candidates resolution =
      if (visit resolution candidates.length pending).1.length = candidates.length then
        .ok (visit resolution candidates.length pending).1
      else .error (dependencyCycle (namesWhere (· != 0)
        (visit resolution candidates.length pending).2.incoming)) := ite_not ..
  rw [unfolded]
  generalize visit resolution candidates.length pending = result at visited
  obtain rfl := greedy.unique visited.greedy
  have left : namesWhere (· != 0) result.2.incoming =
      leftOver vertices resolution.bindings result.1 := by
    rw [namesWhere_eq (fun name => by rw [visited.keys]; exact graph.keys name) (· != 0), leftOver,
      sortedNames]
    congr 1
    apply Finset.filter_congr
    intro name _
    have counted := visited.counts name
    rw [Pending.count, Finset.empty_union] at counted
    simp [counted]
  rw [left, enough]

end DependencyResolver

end CongeriesCore
