import Mathlib.Data.Finset.Max
import Mathlib.Data.Fintype.Order
import Mathlib.Order.Bounds.Basic
import Mathlib.Tactic.Common

/-! # Greedy topological orders

The order in which a finite graph is visited when the least vertex whose predecessors are all
done is always taken next. On an acyclic graph it is a topological order of what is left, and the
least one. -/

namespace TopologicalOrder

variable {α : Type} [LinearOrder α] {edge : α → α → Prop} {vertices done : Finset α}

def Acyclic (edge : α → α → Prop) : Prop := ∀ vertex, ¬ Relation.TransGen edge vertex vertex

/-- A vertex that is left, with all its predecessors done. -/
structure Ready (edge : α → α → Prop) (vertices done : Finset α) (vertex : α) : Prop where
  declared : vertex ∈ vertices
  left : vertex ∉ done
  met : ∀ source, edge source vertex → source ∈ done

/-- Each vertex that is left once, after its predecessors. -/
structure IsTopological (edge : α → α → Prop) (vertices done : Finset α) (order : List α) :
    Prop where
  nodup : order.Nodup
  covers : ∀ vertex, vertex ∈ order ↔ vertex ∈ vertices ∧ vertex ∉ done
  respects : ∀ before vertex after, order = before ++ vertex :: after →
    ∀ source, edge source vertex → source ∈ done ∨ source ∈ before

/-- The least ready vertex again and again, until none is ready. -/
inductive Greedy (edge : α → α → Prop) (vertices : Finset α) : Finset α → List α → Prop
  | stop {done : Finset α} (stuck : ∀ vertex, ¬ Ready edge vertices done vertex) :
      Greedy edge vertices done []
  | take {done : Finset α} {vertex : α} {order : List α}
      (least : IsLeast {other | Ready edge vertices done other} vertex)
      (rest : Greedy edge vertices (insert vertex done) order) :
      Greedy edge vertices done (vertex :: order)

theorem Greedy.unique {first second : List α} (one : Greedy edge vertices done first)
    (two : Greedy edge vertices done second) : first = second := by
  induction one generalizing second with
  | stop stuck =>
    cases two with
    | stop _ => rfl
    | take least _ => exact absurd least.1 (stuck _)
  | take least _ ih =>
    cases two with
    | stop stuck => exact absurd least.1 (stuck _)
    | take other rest =>
      obtain rfl := least.unique other
      rw [ih rest]

theorem exists_greedy (edge : α → α → Prop) (vertices done : Finset α) :
    ∃ order, Greedy edge vertices done order := by
  classical
  induction left : (vertices \ done).card generalizing done with
  | zero =>
    refine ⟨[], .stop fun vertex ready => ?_⟩
    have all := Finset.sdiff_eq_empty_iff_subset.mp (Finset.card_eq_zero.mp left)
    exact ready.left (all ready.declared)
  | succ count ih =>
    by_cases some_ : (vertices.filter (Ready edge vertices done)).Nonempty
    · have least := Finset.isLeast_min' _ some_
      generalize (vertices.filter (Ready edge vertices done)).min' some_ = vertex at least
      have ready := (Finset.mem_filter.mp least.1).2
      have fewer : (vertices \ insert vertex done).card = count := by
        rw [Finset.sdiff_insert, Finset.card_erase_of_mem (Finset.mem_sdiff.mpr
          ⟨ready.declared, ready.left⟩), left]
        rfl
      obtain ⟨order, greedy⟩ := ih (insert vertex done) fewer
      exact ⟨vertex :: order, .take ⟨ready, fun other ready =>
        least.2 (Finset.mem_filter.mpr ⟨ready.declared, ready⟩)⟩ greedy⟩
    · refine ⟨[], .stop fun vertex ready => some_ ⟨vertex, ?_⟩⟩
      exact Finset.mem_filter.mpr ⟨ready.declared, ready⟩

/-! ### One vertex at a time -/

theorem isTopological_nil :
    IsTopological edge vertices done [] ↔ ∀ vertex ∈ vertices, vertex ∈ done := by
  constructor
  · intro order vertex declared
    by_contra left
    exact List.not_mem_nil ((order.covers vertex).mpr ⟨declared, left⟩)
  · intro finished
    refine ⟨List.nodup_nil, fun vertex => ?_, fun before vertex after split => ?_⟩
    · constructor
      · intro member
        cases member
      · intro left
        exact absurd (finished vertex left.1) left.2
    · simp at split

omit [LinearOrder α] in
theorem IsTopological.head {vertex : α} {order : List α}
    (topological : IsTopological edge vertices done (vertex :: order)) :
    Ready edge vertices done vertex := by
  obtain ⟨declared, left⟩ := (topological.covers vertex).mp (by simp)
  refine ⟨declared, left, fun source edge => ?_⟩
  have earlier := topological.respects [] vertex order rfl source edge
  simpa using earlier

theorem IsTopological.tail {vertex : α} {order : List α}
    (topological : IsTopological edge vertices done (vertex :: order)) :
    IsTopological edge vertices (insert vertex done) order := by
  obtain ⟨fresh, nodup⟩ := List.nodup_cons.mp topological.nodup
  refine ⟨nodup, fun other => ?_, fun before other after split source edge => ?_⟩
  · have covers := topological.covers other
    rw [List.mem_cons] at covers
    rw [Finset.mem_insert, not_or]
    constructor
    · intro member
      obtain ⟨declared, left⟩ := covers.mp (.inr member)
      exact ⟨declared, fun same => fresh (same ▸ member), left⟩
    · intro ⟨declared, different, left⟩
      exact (covers.mpr ⟨declared, left⟩).resolve_left different
  · have earlier := topological.respects (vertex :: before) other after (by rw [split]; rfl)
      source edge
    rw [List.mem_cons] at earlier
    rw [Finset.mem_insert]
    tauto

theorem IsTopological.cons {vertex : α} {order : List α} (ready : Ready edge vertices done vertex)
    (rest : IsTopological edge vertices (insert vertex done) order) :
    IsTopological edge vertices done (vertex :: order) := by
  refine ⟨?_, fun other => ?_, fun before other after split source edge => ?_⟩
  · rw [List.nodup_cons]
    refine ⟨fun member => ?_, rest.nodup⟩
    exact ((rest.covers vertex).mp member).2 (Finset.mem_insert_self _ _)
  · have covers := rest.covers other
    rw [Finset.mem_insert, not_or] at covers
    rw [List.mem_cons, covers]
    constructor
    · rintro (rfl | ⟨declared, -, left⟩)
      · exact ⟨ready.declared, ready.left⟩
      · exact ⟨declared, left⟩
    · intro ⟨declared, left⟩
      by_cases same : other = vertex
      · exact .inl same
      · exact .inr ⟨declared, same, left⟩
  · cases before with
    | nil =>
      obtain ⟨rfl, -⟩ := List.cons.inj split
      exact .inl (ready.met source edge)
    | cons first before =>
      obtain ⟨rfl, tail⟩ := List.cons.inj split
      have earlier := rest.respects before other after tail source edge
      rw [Finset.mem_insert] at earlier
      rw [List.mem_cons]
      tauto

theorem Greedy.visits {order : List α} (greedy : Greedy edge vertices done order) :
    order.Nodup ∧ ∀ vertex ∈ order, vertex ∈ vertices ∧ vertex ∉ done := by
  induction greedy with
  | stop _ => simp
  | @take done vertex order least _ ih =>
    obtain ⟨nodup, visited⟩ := ih
    refine ⟨List.nodup_cons.mpr ⟨fun member => ?_, nodup⟩, fun other member => ?_⟩
    · exact (visited vertex member).2 (Finset.mem_insert_self _ _)
    · rcases List.mem_cons.mp member with rfl | later
      · exact ⟨least.1.declared, least.1.left⟩
      · obtain ⟨declared, left⟩ := visited other later
        exact ⟨declared, fun inside => left (Finset.mem_insert_of_mem inside)⟩

/-- If nothing is left, the order is topological. -/
theorem Greedy.isTopological_of_covers {order : List α} (greedy : Greedy edge vertices done order)
    (covers : ∀ vertex ∈ vertices, vertex ∉ done → vertex ∈ order) :
    IsTopological edge vertices done order := by
  induction greedy with
  | stop _ =>
    refine isTopological_nil.mpr fun vertex declared => ?_
    by_contra left
    cases covers vertex declared left
  | @take done vertex order least _ ih =>
    refine (ih fun other declared left => ?_).cons least.1
    rw [Finset.mem_insert, not_or] at left
    have member := covers other declared left.2
    exact (List.mem_cons.mp member).resolve_left left.1

/-! ### Acyclic graphs -/

/-- Where edges join vertices and none is ready, none is left. -/
theorem Acyclic.finished (acyclic : Acyclic edge)
    (joins : ∀ source target, edge source target → source ∈ vertices)
    (stuck : ∀ vertex, ¬ Ready edge vertices done vertex) : ∀ vertex ∈ vertices, vertex ∈ done := by
  intro vertex declared
  by_contra left
  -- Among what is left, a vertex that no path of the rest leads to is ready.
  let remaining := {other // other ∈ vertices \ done}
  let leads : remaining → remaining → Prop := fun source target =>
    Relation.TransGen edge source.1 target.1
  have transitive : IsTrans remaining leads := ⟨fun _ _ _ first second => first.trans second⟩
  have irreflexive : Std.Irrefl leads := ⟨fun other => acyclic other.1⟩
  have wellFounded : WellFounded leads := Finite.wellFounded_of_trans_of_irrefl leads
  obtain ⟨least, -, minimal⟩ := wellFounded.has_min Set.univ
    ⟨⟨vertex, by simp [declared, left]⟩, trivial⟩
  have member := Finset.mem_sdiff.mp least.2
  refine stuck least.1 ⟨member.1, member.2, fun source edge => ?_⟩
  by_contra missing
  exact minimal ⟨source, Finset.mem_sdiff.mpr ⟨joins source _ edge, missing⟩⟩ trivial (.single edge)

theorem Greedy.isTopological {order : List α} (greedy : Greedy edge vertices done order)
    (acyclic : Acyclic edge) (joins : ∀ source target, edge source target → source ∈ vertices) :
    IsTopological edge vertices done order := by
  induction greedy with
  | stop stuck => exact isTopological_nil.mpr (acyclic.finished joins stuck)
  | take least _ ih => exact ih.cons least.1

omit [LinearOrder α] in
/-- What leads to a vertex stands before it. -/
theorem IsTopological.precedes {order : List α} (topological : IsTopological edge vertices ∅ order)
    {source vertex : α} (leads : Relation.TransGen edge source vertex) :
    ∀ before after, order = before ++ vertex :: after → source ∈ before := by
  induction leads with
  | single last =>
    intro before after split
    simpa using topological.respects before _ after split source last
  | @tail middle _ _ last ih =>
    intro before after split
    have member : middle ∈ before := by
      simpa using topological.respects before _ after split middle last
    obtain ⟨first, second, rfl⟩ := List.append_of_mem member
    have inside := ih first (second ++ _ :: after) (by rw [split, List.append_assoc]; rfl)
    simp [inside]

omit [LinearOrder α] in
theorem IsTopological.acyclic {order : List α} (topological : IsTopological edge vertices ∅ order)
    (joins : ∀ source target, edge source target → target ∈ vertices) : Acyclic edge := by
  intro vertex cycle
  obtain ⟨source, -, last⟩ := Relation.TransGen.tail'_iff.mp cycle
  have member := (topological.covers vertex).mpr ⟨joins source vertex last, by simp⟩
  obtain ⟨before, after, split⟩ := List.append_of_mem member
  have earlier := topological.precedes cycle before after split
  have nodup := topological.nodup
  rw [split, List.nodup_append] at nodup
  exact nodup.2.2 vertex earlier vertex (by simp) rfl

/-- Any other topological order of what is left is lexicographically larger. -/
theorem Greedy.least {order other : List α} (greedy : Greedy edge vertices done order)
    (topological : IsTopological edge vertices done other) :
    order = other ∨ List.Lex (· < ·) order other := by
  induction greedy generalizing other with
  | stop stuck =>
    cases other with
    | nil => exact .inl rfl
    | cons first others => exact .inr .nil
  | @take done vertex order least rest ih =>
    cases other with
    | nil => exact absurd (isTopological_nil.mp topological vertex least.1.declared) least.1.left
    | cons first others =>
      rcases (least.2 topological.head).lt_or_eq with smaller | rfl
      · exact .inr (.rel smaller)
      · rcases ih topological.tail with rfl | smaller
        · exact .inl rfl
        · exact .inr (.cons smaller)

/-- A greedy order reaches every vertex if and only if the graph is acyclic. -/
theorem Greedy.complete_iff {order : List α} (greedy : Greedy edge vertices ∅ order)
    (sources : ∀ source target, edge source target → source ∈ vertices)
    (targets : ∀ source target, edge source target → target ∈ vertices) :
    order.length = vertices.card ↔ Acyclic edge := by
  obtain ⟨nodup, visited⟩ := greedy.visits
  rw [← List.toFinset_card_of_nodup nodup]
  constructor
  · intro full
    have all : order.toFinset = vertices :=
      Finset.eq_of_subset_of_card_le (fun vertex member =>
        (visited vertex (List.mem_toFinset.mp member)).1) full.ge
    have topological := greedy.isTopological_of_covers fun vertex declared _ => by
      rw [← all, List.mem_toFinset] at declared
      exact declared
    exact topological.acyclic targets
  · intro acyclic
    have topological := greedy.isTopological acyclic sources
    congr 1
    ext vertex
    rw [List.mem_toFinset, topological.covers]
    simp

end TopologicalOrder
