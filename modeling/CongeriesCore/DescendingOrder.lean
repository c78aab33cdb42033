import Mathlib.Data.List.Sort

/-! # Lists in descending order of a key

A page of such a list and what comes after it, by the key of the last item of the page. -/

namespace DescendingOrder

variable {α : Type} {key : α → ℕ} {items others : List α}

/-- Each item has a smaller key than the items before it. -/
def Descending (key : α → ℕ) (items : List α) : Prop :=
  items.Pairwise fun first second => key second < key first

def sorted (key : α → ℕ) (items : List α) : List α :=
  items.mergeSort fun first second => key second ≤ key first

@[simp] theorem mem_sorted {item : α} : item ∈ sorted key items ↔ item ∈ items :=
  List.mem_mergeSort

theorem sorted_perm : (sorted key items).Perm items := List.mergeSort_perm _ _

@[simp] theorem length_sorted : (sorted key items).length = items.length :=
  List.length_mergeSort _

/-- Items with keys of their own sort into a descending list. -/
theorem descending_sorted (nodup : items.Nodup)
    (injective : ∀ first ∈ items, ∀ second ∈ items, key first = key second → first = second) :
    Descending key (sorted key items) := by
  have ordered : (sorted key items).Pairwise fun first second =>
      decide (key second ≤ key first) = true := by
    apply List.pairwise_mergeSort
    · intro first second third one two
      simp only [decide_eq_true_eq] at one two ⊢
      exact two.trans one
    · intro first second
      simp only [Bool.or_eq_true, decide_eq_true_eq]
      exact le_total _ _
  have distinct : (sorted key items).Nodup := sorted_perm.nodup_iff.mpr nodup
  apply (ordered.and distinct).imp_of_mem
  intro first second one two both
  obtain ⟨below, different⟩ := both
  have below : key second ≤ key first := by simpa using below
  have unequal : key second ≠ key first := by
    intro same
    exact different (injective first (mem_sorted.mp one) second (mem_sorted.mp two) same.symm)
  omega

theorem Descending.nodup (descending : Descending key items) : items.Nodup := by
  apply List.Pairwise.imp _ descending
  intro first second below same
  rw [same] at below
  exact Nat.lt_irrefl _ below

/-- Descending lists with the same items are equal. -/
theorem Descending.ext (first : Descending key items) (second : Descending key others)
    (same : ∀ item, item ∈ items ↔ item ∈ others) : items = others := by
  have perm : items.Perm others := (List.perm_ext_iff_of_nodup first.nodup second.nodup).mpr same
  apply List.Perm.eq_of_pairwise _ first second perm
  intro one two _ _ below above
  exact absurd below (Nat.lt_asymm above)

theorem Descending.drop (descending : Descending key items) (count : ℕ) :
    Descending key (items.drop count) := List.Pairwise.drop descending

/-- What comes after a page has smaller keys than its last item. -/
theorem Descending.mem_drop (descending : Descending key items) {count : ℕ} {last : α}
    (ends : (items.take count).getLast? = some last) (item : α) :
    item ∈ items.drop count ↔ item ∈ items ∧ key item < key last := by
  obtain ⟨earlier, page⟩ : ∃ earlier, items.take count = earlier ++ [last] := by
    exact List.getLast?_eq_some_iff.mp ends
  have split : items = earlier ++ [last] ++ items.drop count := by
    rw [← page, List.take_append_drop]
  have whole : Descending key (earlier ++ [last] ++ items.drop count) := split ▸ descending
  obtain ⟨begins, _, below⟩ := List.pairwise_append.mp whole
  obtain ⟨_, _, above⟩ := List.pairwise_append.mp begins
  constructor
  · intro later
    exact ⟨List.mem_of_mem_drop later, below last (by simp) item later⟩
  · intro inside
    obtain ⟨member, smaller⟩ := inside
    rw [split] at member
    rcases List.mem_append.mp member with first | later
    · rcases List.mem_append.mp first with before | same
      · have larger := above item before last (by simp)
        omega
      · rw [List.mem_singleton.mp same] at smaller
        exact absurd smaller (Nat.lt_irrefl _)
    · exact later

end DescendingOrder
