import CongeriesCore.TopologicalOrder

/-! # Kahn's loop

A loop that takes the least ready vertex at each turn, and counts for every vertex the
predecessors that have not been taken, visits a graph in its greedy order. The counters and the
list of ready vertices are whatever a program keeps them in. -/

namespace KahnSort

open TopologicalOrder

variable {α : Type} [LinearOrder α] {edge : α → α → Prop} [DecidableRel edge]
  {vertices done : Finset α}

/-! ### Counting predecessors -/

/-- The predecessors of a vertex that are not done. -/
def unmet (edge : α → α → Prop) [DecidableRel edge] (vertices done : Finset α) (vertex : α) : ℕ :=
  ((vertices \ done).filter fun source => edge source vertex).card

theorem unmet_eq_zero (joins : ∀ source target, edge source target → source ∈ vertices)
    {vertex : α} : unmet edge vertices done vertex = 0 ↔ ∀ source, edge source vertex →
      source ∈ done := by
  unfold unmet
  rw [Finset.card_eq_zero, Finset.filter_eq_empty_iff]
  constructor
  · intro none source leads
    by_contra left
    exact none (Finset.mem_sdiff.mpr ⟨joins source vertex leads, left⟩) leads
  · intro met source member leads
    exact (Finset.mem_sdiff.mp member).2 (met source leads)

/-- A vertex that is done is one predecessor less for each of its successors. -/
theorem unmet_insert {current : α} (declared : current ∈ vertices) (left : current ∉ done)
    (vertex : α) : unmet edge vertices done vertex =
      unmet edge vertices (insert current done) vertex + if edge current vertex then 1 else 0 := by
  have rest : vertices \ done = insert current (vertices \ insert current done) := by
    rw [Finset.sdiff_insert, Finset.insert_erase (Finset.mem_sdiff.mpr ⟨declared, left⟩)]
  have apart : current ∉ (vertices \ insert current done).filter fun source => edge source vertex := by
    simp
  unfold unmet
  rw [rest, Finset.filter_insert]
  split
  · rw [Finset.card_insert_of_notMem apart]
  · rfl

theorem unmet_congr {other : α → α → Prop} [DecidableRel other]
    (same : ∀ source target, other source target ↔ edge source target) (vertex : α) :
    unmet other vertices done vertex = unmet edge vertices done vertex := by
  unfold unmet
  congr 1
  exact Finset.filter_congr fun source _ => same source vertex

/-- A new edge is one predecessor more for its target. -/
theorem unmet_add {larger : α → α → Prop} [DecidableRel larger] {source target : α}
    (declared : source ∈ vertices) (fresh : ¬ edge source target)
    (grows : ∀ first second, larger first second ↔
      edge first second ∨ (first = source ∧ second = target)) (vertex : α) :
    unmet larger vertices ∅ vertex =
      unmet edge vertices ∅ vertex + if vertex = target then 1 else 0 := by
  unfold unmet
  by_cases same : vertex = target
  · subst same
    have split : ((vertices \ ∅).filter fun first => larger first vertex) =
        insert source ((vertices \ ∅).filter fun first => edge first vertex) := by
      ext first
      simp only [Finset.sdiff_empty, Finset.mem_filter, Finset.mem_insert, grows]
      constructor
      · rintro ⟨member, leads | ⟨same, -⟩⟩
        · exact .inr ⟨member, leads⟩
        · exact .inl same
      · rintro (rfl | ⟨member, leads⟩)
        · exact ⟨declared, by simp⟩
        · exact ⟨member, .inl leads⟩
    rw [split, Finset.card_insert_of_notMem (by simp [fresh]), if_pos rfl]
  · rw [if_neg same, add_zero]
    congr 1
    apply Finset.filter_congr
    intro first _
    simp [grows, same]

/-! ### One turn -/

/-- The targets whose last predecessor is met join the ready vertices, in order. -/
structure Released (targets : List α) (before after : α → ℤ) (ready left : List α) : Prop where
  counts : ∀ vertex, after vertex = before vertex - if vertex ∈ targets then 1 else 0
  sorted : left.Pairwise (· ≤ ·)
  nodup : left.Nodup
  ready : ∀ vertex, vertex ∈ left ↔ vertex ∈ ready ∨ (vertex ∈ targets ∧ before vertex = 1)

omit [DecidableRel edge] in
theorem released_nil {counts : α → ℤ} {ready : List α} (sorted : ready.Pairwise (· ≤ ·))
    (nodup : ready.Nodup) : Released [] counts counts ready ready :=
  ⟨by simp, sorted, nodup, by simp⟩

/-- One target: it joins in its place if nothing is left to wait for. -/
theorem released_one {target : α} {before after : α → ℤ} {ready left : List α}
    (counts : ∀ vertex, after vertex = before vertex - if vertex = target then 1 else 0)
    (sorted : ready.Pairwise (· ≤ ·)) (nodup : ready.Nodup) (apart : target ∉ ready)
    (joined : after target = 0 → left.Pairwise (· ≤ ·) ∧ left.Perm (ready ++ [target]))
    (waits : after target ≠ 0 → left = ready) : Released [target] before after ready left := by
  have own := counts target
  rw [if_pos rfl] at own
  by_cases zero : after target = 0
  · obtain ⟨ordered, perm⟩ := joined zero
    have one : before target = 1 := by omega
    refine ⟨by simpa using counts, ordered, ?_, fun vertex => ?_⟩
    · rw [perm.nodup_iff, List.nodup_append]
      refine ⟨nodup, List.nodup_singleton target, fun vertex member other same => ?_⟩
      rw [List.mem_singleton] at same
      rintro rfl
      exact apart (same ▸ member)
    · rw [perm.mem_iff, List.mem_append, List.mem_singleton]
      constructor
      · rintro (member | rfl)
        · exact .inl member
        · exact .inr ⟨rfl, one⟩
      · rintro (member | ⟨same, -⟩)
        · exact .inl member
        · exact .inr same
  · obtain rfl := waits zero
    refine ⟨by simpa using counts, sorted, nodup, fun vertex => ?_⟩
    rw [List.mem_singleton]
    constructor
    · exact .inl
    · rintro (member | ⟨rfl, one⟩)
      · exact member
      · exact absurd (by omega) zero

theorem Released.cons {target : α} {targets : List α} {before middle after : α → ℤ}
    {ready between left : List α} (first : Released [target] before middle ready between)
    (fresh : target ∉ targets) (rest : Released targets middle after between left) :
    Released (target :: targets) before after ready left := by
  refine ⟨fun vertex => ?_, rest.sorted, rest.nodup, fun vertex => ?_⟩
  · rw [rest.counts, first.counts]
    by_cases same : vertex = target
    · subst same
      simp [fresh]
    · simp [same]
  · rw [rest.ready, first.ready, first.counts]
    by_cases same : vertex = target
    · subst same
      simp [fresh]
    · simp [same]

/-- Release after release, for any state that counters and ready vertices are read from. -/
theorem foldl_released {σ : Type} {release : σ → α → σ} (count : σ → α → ℤ) (ready : σ → List α)
    (one : ∀ state target, (ready state).Pairwise (· ≤ ·) → (ready state).Nodup →
      target ∉ ready state → Released [target] (count state) (count (release state target))
        (ready state) (ready (release state target)))
    {targets : List α} (distinct : targets.Nodup) (state : σ)
    (sorted : (ready state).Pairwise (· ≤ ·)) (nodup : (ready state).Nodup)
    (apart : ∀ target ∈ targets, target ∉ ready state) :
    Released targets (count state) (count (targets.foldl release state)) (ready state)
      (ready (targets.foldl release state)) := by
  induction targets generalizing state with
  | nil => exact released_nil sorted nodup
  | cons target targets ih =>
    obtain ⟨fresh, distinct⟩ := List.nodup_cons.mp distinct
    have first := one state target sorted nodup (apart target (by simp))
    have apart : ∀ other ∈ targets, other ∉ ready (release state target) := by
      intro other member joined
      rw [first.ready, List.mem_singleton] at joined
      rcases joined with joined | ⟨rfl, -⟩
      · exact apart other (by simp [member]) joined
      · exact fresh member
    exact first.cons fresh (ih distinct _ first.sorted first.nodup apart)

/-! ### Turn after turn -/

/-- The first of some sorted vertices is the least. -/
theorem isLeast_of_sorted {first : α} {rest : List α} (sorted : (first :: rest).Pairwise (· ≤ ·)) :
    IsLeast {vertex | vertex ∈ first :: rest} first := by
  refine ⟨by simp, fun other member => ?_⟩
  rcases List.mem_cons.mp member with rfl | later
  · exact le_refl other
  · exact (List.pairwise_cons.mp sorted).1 other later

/-- What the loop knows once the vertices of `done` are taken. -/
structure Progress (edge : α → α → Prop) [DecidableRel edge] (vertices done : Finset α)
    (count : α → ℤ) (ready : List α) : Prop where
  counts : ∀ vertex, count vertex = unmet edge vertices done vertex
  sorted : ready.Pairwise (· ≤ ·)
  nodup : ready.Nodup
  ready : ∀ vertex, vertex ∈ ready ↔ Ready edge vertices done vertex
  closed : ∀ source target, edge source target → target ∈ done → source ∈ done
  declared : done ⊆ vertices

/-- Before the first turn the vertices without predecessors are ready. -/
theorem progress_start (joins : ∀ source target, edge source target → source ∈ vertices)
    {count : α → ℤ} {ready : List α} (counts : ∀ vertex, count vertex = unmet edge vertices ∅ vertex)
    (sorted : ready.Pairwise (· ≤ ·)) (nodup : ready.Nodup)
    (zero : ∀ vertex, vertex ∈ ready ↔ vertex ∈ vertices ∧ count vertex = 0) :
    Progress edge vertices ∅ count ready where
  counts := counts
  sorted := sorted
  nodup := nodup
  ready vertex := by
    rw [zero, counts, Int.natCast_eq_zero, unmet_eq_zero joins]
    constructor
    · intro ⟨declared, met⟩
      exact ⟨declared, by simp, met⟩
    · intro ready
      exact ⟨ready.declared, ready.met⟩
  closed := by simp
  declared := by simp

theorem Progress.least {count : α → ℤ} {current : α} {rest : List α}
    (progress : Progress edge vertices done count (current :: rest)) :
    IsLeast {vertex | Ready edge vertices done vertex} current := by
  have same : {vertex | Ready edge vertices done vertex} = {vertex | vertex ∈ current :: rest} := by
    ext vertex
    exact (progress.ready vertex).symm
  rw [same]
  exact isLeast_of_sorted progress.sorted

/-- A successor of the next vertex is not ready yet. -/
theorem Progress.apart {count : α → ℤ} {current : α} {rest : List α}
    (progress : Progress edge vertices done count (current :: rest)) {vertex : α}
    (leads : edge current vertex) : vertex ∉ rest := by
  intro member
  have ready := (progress.ready vertex).mp (by simp [member])
  exact progress.least.1.left (ready.met current leads)

/-- When the next vertex is taken and its successors are released, the loop knows as much. -/
theorem Progress.step (joins : ∀ source target, edge source target → source ∈ vertices)
    (reaches : ∀ source target, edge source target → target ∈ vertices)
    (irreflexive : ∀ vertex, ¬ edge vertex vertex)
    {before after : α → ℤ} {current : α} {rest left targets : List α}
    (progress : Progress edge vertices done before (current :: rest))
    (successors : ∀ vertex, vertex ∈ targets ↔ edge current vertex)
    (released : Released targets before after rest left) :
    Progress edge vertices (insert current done) after left := by
  have own : Ready edge vertices done current := progress.least.1
  have fresh : current ∉ rest := (List.nodup_cons.mp progress.nodup).1
  have others : ∀ vertex, vertex ∈ rest ↔ vertex ≠ current ∧ Ready edge vertices done vertex := by
    intro vertex
    have member := progress.ready vertex
    rw [List.mem_cons] at member
    constructor
    · intro inside
      refine ⟨?_, member.mp (.inr inside)⟩
      rintro rfl
      exact fresh inside
    · intro ⟨different, ready⟩
      exact (member.mpr ready).resolve_left different
  refine ⟨fun vertex => ?_, released.sorted, released.nodup, fun vertex => ?_, ?_, ?_⟩
  · have counted := progress.counts vertex
    have split : unmet edge vertices done vertex = unmet edge vertices (insert current done) vertex +
        _ := unmet_insert own.declared own.left vertex
    rw [released.counts, counted, split]
    simp only [successors]
    split <;> simp
  · rw [released.ready, successors, others, progress.counts]
    have split : unmet edge vertices done vertex = unmet edge vertices (insert current done) vertex +
        _ := unmet_insert own.declared own.left vertex
    have met : unmet edge vertices (insert current done) vertex = 0 ↔ _ := unmet_eq_zero joins
    constructor
    · rintro (⟨different, ready⟩ | ⟨leads, one⟩)
      · refine ⟨ready.declared, by simp [different, ready.left], fun source edge => ?_⟩
        exact Finset.mem_insert_of_mem (ready.met source edge)
      · rw [if_pos leads] at split
        refine ⟨reaches current vertex leads, ?_, met.mp (by omega)⟩
        rw [Finset.mem_insert, not_or]
        refine ⟨?_, fun done => own.left (progress.closed current vertex leads done)⟩
        rintro rfl
        exact irreflexive _ leads
    · intro ready
      have left := ready.left
      rw [Finset.mem_insert, not_or] at left
      have none := met.mpr ready.met
      by_cases leads : edge current vertex
      · rw [if_pos leads] at split
        exact .inr ⟨leads, by omega⟩
      · rw [if_neg leads] at split
        exact .inl ⟨left.1, ready.declared, left.2, (unmet_eq_zero joins).mp (by omega)⟩
  · intro source target leads member
    rw [Finset.mem_insert] at member ⊢
    rcases member with rfl | member
    · exact .inr (own.met source leads)
    · exact .inr (progress.closed source target leads member)
  · intro vertex member
    rcases Finset.mem_insert.mp member with rfl | member
    · exact own.declared
    · exact progress.declared member

theorem Progress.stuck {count : α → ℤ} (progress : Progress edge vertices done count [])
    (vertex : α) : ¬ Ready edge vertices done vertex := by
  intro ready
  have member := (progress.ready vertex).mpr ready
  cases member

/-- Once every vertex is taken, none is ready. -/
theorem Progress.finished {count : α → ℤ} {ready : List α}
    (progress : Progress edge vertices done count ready) (all : vertices.card ≤ done.card)
    (vertex : α) : ¬ Ready edge vertices done vertex := by
  intro ready
  have full := Finset.eq_of_subset_of_card_le progress.declared all
  exact ready.left (full ▸ ready.declared)

end KahnSort
