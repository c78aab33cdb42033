import Mathlib.Data.List.Sort

/-! # Sorting by a key

Lists in the order of a key. Where no two items share their key, the sorted list depends on the
items alone and not on the order in which they came. -/

namespace KeyedSort

variable {α β κ : Type} [LinearOrder κ] {key : α → κ} {items others : List α}

def sortedBy (key : α → κ) (items : List α) : List α :=
  items.mergeSort fun first second => decide (key first ≤ key second)

@[simp] theorem mem_sortedBy {item : α} : item ∈ sortedBy key items ↔ item ∈ items :=
  List.mem_mergeSort

theorem sortedBy_perm : (sortedBy key items).Perm items := List.mergeSort_perm _ _

theorem pairwise_sortedBy :
    (sortedBy key items).Pairwise fun first second => key first ≤ key second := by
  have ordered : (sortedBy key items).Pairwise fun first second =>
      decide (key first ≤ key second) = true := by
    apply List.pairwise_mergeSort
    · intro first second third one two
      simp only [decide_eq_true_eq] at one two ⊢
      exact one.trans two
    · intro first second
      simpa using le_total (key first) (key second)
  exact ordered.imp fun below => by simpa using below

theorem nodup_sortedBy (nodup : items.Nodup) : (sortedBy key items).Nodup :=
  sortedBy_perm.nodup_iff.mpr nodup

/-- Items with keys of their own sort the same way from any order. -/
theorem sortedBy_of_perm (perm : items.Perm others) (distinct : (items.map key).Nodup) :
    sortedBy key items = sortedBy key others := by
  have both : (sortedBy key items).Perm (sortedBy key others) :=
    sortedBy_perm.trans (perm.trans sortedBy_perm.symm)
  apply List.Perm.eq_of_pairwise _ pairwise_sortedBy pairwise_sortedBy both
  intro first second member other below above
  have keys := le_antisymm below above
  rw [mem_sortedBy] at member other
  exact List.inj_on_of_nodup_map distinct member (perm.mem_iff.mpr other) keys

/-- A map that keeps the keys commutes with sorting. -/
theorem map_sortedBy {f : α → β} {other : β → κ} (same : ∀ item ∈ items, other (f item) = key item) :
    (sortedBy key items).map f = sortedBy other (items.map f) := by
  apply List.map_mergeSort
  intro first one second two
  rw [same first one, same second two]

/-- Any comparison that agrees with the key on the items sorts them by the key. -/
theorem mergeSort_eq_sortedBy {before : α → α → Bool}
    (agrees : ∀ first ∈ items, ∀ second ∈ items,
      before first second = decide (key first ≤ key second)) :
    items.mergeSort before = sortedBy key items := by
  have mapped : (items.mergeSort before).map id =
      (items.map id).mergeSort fun first second => decide (key first ≤ key second) :=
    List.map_mergeSort agrees
  simpa [sortedBy] using mapped

end KeyedSort
