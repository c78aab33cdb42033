import Mathlib.Data.List.Nodup
import Mathlib.Tactic.Common

/-! # Insertion-ordered dictionaries

A dictionary keeps its entries in the order in which their keys were first set; setting
a key again keeps its place. No key occurs twice. -/

structure Dict (κ ν : Type) where
  entries : List (κ × ν)
  nodup : (entries.map Prod.fst).Nodup

namespace Dict

variable {κ ν : Type} [DecidableEq κ]

def lookup (key : κ) : List (κ × ν) → Option ν
  | [] => none
  | entry :: entries => if entry.1 = key then some entry.2 else lookup key entries

def insert (key : κ) (value : ν) : List (κ × ν) → List (κ × ν)
  | [] => [(key, value)]
  | entry :: entries =>
    if entry.1 = key then (key, value) :: entries else entry :: insert key value entries

theorem map_fst_insert (key : κ) (value : ν) (entries : List (κ × ν)) :
    (insert key value entries).map Prod.fst =
      if key ∈ entries.map Prod.fst then entries.map Prod.fst
      else entries.map Prod.fst ++ [key] := by
  induction entries with
  | nil => rfl
  | cons entry entries ih =>
    by_cases same : entry.1 = key
    · simp [insert, same]
    · have other : key ≠ entry.1 := fun equal => same equal.symm
      simp only [insert, same, if_false, List.map_cons, ih, List.mem_cons, other, false_or]
      split <;> simp

def empty : Dict κ ν := ⟨[], .nil⟩

def get? (dict : Dict κ ν) (key : κ) : Option ν := lookup key dict.entries

def contains (dict : Dict κ ν) (key : κ) : Bool := (dict.get? key).isSome

def values (dict : Dict κ ν) : List ν := dict.entries.map Prod.snd

def set (dict : Dict κ ν) (key : κ) (value : ν) : Dict κ ν where
  entries := insert key value dict.entries
  nodup := by
    rw [map_fst_insert]
    split
    · exact dict.nodup
    · rename_i absent
      rw [List.nodup_append]
      refine ⟨dict.nodup, by simp, fun first member second last => ?_⟩
      rw [List.mem_singleton] at last
      rintro rfl
      exact absent (last ▸ member)

def remove (key : κ) (entries : List (κ × ν)) : List (κ × ν) :=
  entries.filter fun entry => entry.1 ≠ key

def erase (dict : Dict κ ν) (key : κ) : Dict κ ν where
  entries := remove key dict.entries
  nodup := dict.nodup.sublist (List.filter_sublist.map Prod.fst)

@[simp] theorem get?_empty (key : κ) : (empty : Dict κ ν).get? key = none := rfl

theorem lookup_insert (key other : κ) (value : ν) (entries : List (κ × ν)) :
    lookup other (insert key value entries) =
      if key = other then some value else lookup other entries := by
  induction entries with
  | nil => rfl
  | cons entry entries ih =>
    by_cases same : entry.1 = key
    · by_cases hit : key = other
      · simp [insert, lookup, same, hit]
      · simp [insert, lookup, same, hit]
    · rw [insert, if_neg same, lookup, lookup, ih]
      by_cases hit : entry.1 = other
      · have miss : key ≠ other := fun equal => same (hit.trans equal.symm)
        simp [hit, miss]
      · simp [hit]

theorem get?_set (dict : Dict κ ν) (key other : κ) (value : ν) :
    (dict.set key value).get? other = if key = other then some value else dict.get? other :=
  lookup_insert key other value dict.entries

@[simp] theorem get?_set_self (dict : Dict κ ν) (key : κ) (value : ν) :
    (dict.set key value).get? key = some value := by
  rw [get?_set, if_pos rfl]

theorem get?_set_of_ne (dict : Dict κ ν) {key other : κ} (distinct : key ≠ other) (value : ν) :
    (dict.set key value).get? other = dict.get? other := by
  rw [get?_set, if_neg distinct]

theorem lookup_remove (key other : κ) (entries : List (κ × ν)) :
    lookup other (remove key entries) = if key = other then none else lookup other entries := by
  induction entries with
  | nil => simp [remove, lookup]
  | cons entry entries ih =>
    unfold remove at ih ⊢
    by_cases same : entry.1 = key
    · rw [List.filter_cons_of_neg (by simp [same]), ih, lookup, same]
      split <;> rfl
    · rw [List.filter_cons_of_pos (by simp [same]), lookup, lookup, ih]
      by_cases hit : entry.1 = other
      · have miss : key ≠ other := fun equal => same (hit.trans equal.symm)
        simp [hit, miss]
      · simp [hit]

theorem get?_erase (dict : Dict κ ν) (key other : κ) :
    (dict.erase key).get? other = if key = other then none else dict.get? other :=
  lookup_remove key other dict.entries

@[simp] theorem get?_erase_self (dict : Dict κ ν) (key : κ) : (dict.erase key).get? key = none := by
  rw [get?_erase, if_pos rfl]

theorem get?_erase_of_ne (dict : Dict κ ν) {key other : κ} (distinct : key ≠ other) :
    (dict.erase key).get? other = dict.get? other := by
  rw [get?_erase, if_neg distinct]

theorem contains_iff {dict : Dict κ ν} {key : κ} :
    dict.contains key = true ↔ ∃ value, dict.get? key = some value := by
  simp [contains, Option.isSome_iff_exists]

theorem get?_of_mem {dict : Dict κ ν} {key : κ} {value : ν} (member : (key, value) ∈ dict.entries) :
    dict.get? key = some value := by
  obtain ⟨entries, nodup⟩ := dict
  change lookup key entries = some value
  induction entries with
  | nil => cases member
  | cons entry entries ih =>
    rw [List.map_cons, List.nodup_cons] at nodup
    rcases List.mem_cons.mp member with rfl | later
    · simp [lookup]
    · have distinct : entry.1 ≠ key := by
        rintro rfl
        exact nodup.1 (List.mem_map.mpr ⟨_, later, rfl⟩)
      rw [lookup, if_neg distinct]
      exact ih nodup.2 later

theorem mem_of_get? {dict : Dict κ ν} {key : κ} {value : ν} (found : dict.get? key = some value) :
    (key, value) ∈ dict.entries := by
  obtain ⟨entries, nodup⟩ := dict
  change lookup key entries = some value at found
  induction entries with
  | nil => cases found
  | cons entry entries ih =>
    rw [List.map_cons, List.nodup_cons] at nodup
    rw [lookup] at found
    split at found
    · rename_i same
      cases found
      exact same ▸ List.mem_cons_self ..
    · exact List.mem_cons_of_mem _ (ih nodup.2 found)

theorem get?_eq_none {dict : Dict κ ν} {key : κ} (absent : key ∉ dict.entries.map Prod.fst) :
    dict.get? key = none := by
  cases found : dict.get? key with
  | none => rfl
  | some value => exact absurd (List.mem_map.mpr ⟨_, mem_of_get? found, rfl⟩) absent

theorem get?_foldl_erase (keys : List κ) (dict : Dict κ ν) (key : κ) :
    (keys.foldl erase dict).get? key = if key ∈ keys then none else dict.get? key := by
  induction keys generalizing dict with
  | nil => simp
  | cons first keys ih =>
    rw [List.foldl_cons, ih, get?_erase]
    by_cases later : key ∈ keys
    · simp [later]
    · by_cases hit : first = key
      · simp [hit]
      · have miss : key ≠ first := fun equal => hit equal.symm
        simp [later, hit, miss]

theorem keys_set_of_mem {dict : Dict κ ν} {key : κ} (present : key ∈ dict.entries.map Prod.fst)
    (value : ν) : (dict.set key value).entries.map Prod.fst = dict.entries.map Prod.fst := by
  change (insert key value dict.entries).map Prod.fst = _
  rw [map_fst_insert, if_pos present]

section SetAll

variable {ι : Type} (keyOf : ι → κ) (valueOf : ι → ν)

/-- Every item set under its own key. -/
def setAll (dict : Dict κ ν) (items : List ι) : Dict κ ν :=
  items.foldl (fun dict item => dict.set (keyOf item) (valueOf item)) dict

theorem get?_setAll_of_not_mem (dict : Dict κ ν) {items : List ι} {key : κ}
    (absent : key ∉ items.map keyOf) : (dict.setAll keyOf valueOf items).get? key = dict.get? key := by
  induction items generalizing dict with
  | nil => rfl
  | cons item items ih =>
    rw [List.map_cons, List.mem_cons, not_or] at absent
    change ((dict.set _ _).setAll keyOf valueOf items).get? key = _
    rw [ih _ absent.2, get?_set_of_ne dict (Ne.symm absent.1)]

theorem get?_setAll_of_mem (dict : Dict κ ν) {items : List ι} (nodup : (items.map keyOf).Nodup)
    {item : ι} (member : item ∈ items) :
    (dict.setAll keyOf valueOf items).get? (keyOf item) = some (valueOf item) := by
  induction items generalizing dict with
  | nil => cases member
  | cons first items ih =>
    rw [List.map_cons, List.nodup_cons] at nodup
    change ((dict.set _ _).setAll keyOf valueOf items).get? _ = _
    rcases List.mem_cons.mp member with rfl | later
    · rw [get?_setAll_of_not_mem keyOf valueOf _ nodup.1, get?_set_self]
    · exact ih _ nodup.2 later

theorem insert_of_not_mem {key : κ} {value : ν} {entries : List (κ × ν)}
    (absent : key ∉ entries.map Prod.fst) : insert key value entries = entries ++ [(key, value)] := by
  induction entries with
  | nil => rfl
  | cons entry entries ih =>
    rw [List.map_cons, List.mem_cons, not_or] at absent
    rw [insert, if_neg (Ne.symm absent.1), ih absent.2]
    rfl

/-- New keys are appended in the order of the items. -/
theorem entries_setAll {dict : Dict κ ν} {items : List ι} (nodup : (items.map keyOf).Nodup)
    (absent : ∀ item ∈ items, keyOf item ∉ dict.entries.map Prod.fst) :
    (dict.setAll keyOf valueOf items).entries =
      dict.entries ++ items.map fun item => (keyOf item, valueOf item) := by
  induction items generalizing dict with
  | nil => simp [setAll]
  | cons item items ih =>
    rw [List.map_cons, List.nodup_cons] at nodup
    have appended : (dict.set (keyOf item) (valueOf item)).entries =
        dict.entries ++ [(keyOf item, valueOf item)] := insert_of_not_mem (absent item (by simp))
    change ((dict.set _ _).setAll keyOf valueOf items).entries = _
    rw [ih nodup.2, appended, List.append_assoc]
    · rfl
    · intro other member
      rw [appended, List.map_append, List.mem_append, not_or]
      refine ⟨absent other (by simp [member]), ?_⟩
      rw [List.map_singleton, List.mem_singleton]
      intro same
      exact nodup.1 (List.mem_map.mpr ⟨other, member, same⟩)

end SetAll

end Dict
