import CongeriesCore.JsonDocument
import Mathlib.Data.List.Perm.Basic
import Mathlib.Data.String.Basic

/-! # What a canonical encoding tells

Decoded values have the same canonical encoding if and only if they are equal up to the order
of their objects' keys. -/

namespace CongeriesCore

namespace JsonValue

mutual

/-- No object in the value has a key twice, as in everything that `json.loads` returns. -/
def keyed : JsonValue → Bool
  | .arr items => keyedItems items
  | .obj fields => decide (fields.map Prod.fst).Nodup && keyedFields fields
  | .null | .bool _ | .int _ | .float _ | .str _ => true

def keyedItems : List JsonValue → Bool
  | [] => true
  | item :: items => item.keyed && keyedItems items

def keyedFields : JsonFields → Bool
  | [] => true
  | (_, value) :: fields => value.keyed && keyedFields fields

end

/-- The fields with their values encoded, in the order that they have. -/
def encodeFields (fields : JsonFields) : JsonFields :=
  fields.map fun field => (field.1, field.2.canonical)

theorem canonicalFields_eq_foldr (fields : JsonFields) :
    canonicalFields fields = (encodeFields fields).foldr insertField [] := by
  induction fields with
  | nil => rfl
  | cons field fields ih =>
    obtain ⟨key, value⟩ := field
    rw [canonicalFields, ih]
    rfl

/-- Fields with different keys may be placed in either order. -/
theorem insertField_comm {first second : String × JsonValue} (distinct : first.1 ≠ second.1)
    (fields : JsonFields) :
    insertField first (insertField second fields) =
      insertField second (insertField first fields) := by
  induction fields with
  | nil =>
    rcases lt_or_gt_of_ne distinct with before | after
    · simp [insertField, before, before.not_gt]
    · simp [insertField, after, after.not_gt]
  | cons other fields ih =>
    by_cases one : first.1 < other.1
    · by_cases two : second.1 < other.1
      · rcases lt_or_gt_of_ne distinct with before | after
        · simp [insertField, one, two, before, before.not_gt]
        · simp [insertField, one, two, after, after.not_gt]
      · have before : first.1 < second.1 := lt_of_lt_of_le one (not_lt.mp two)
        simp [insertField, one, two, before.not_gt]
    · by_cases two : second.1 < other.1
      · have after : second.1 < first.1 := lt_of_lt_of_le two (not_lt.mp one)
        simp [insertField, one, two, after.not_gt]
      · simp [insertField, one, two, ih]

/-- The order of the fields does not show in the encoding. -/
theorem canonicalFields_of_perm {first second : JsonFields}
    (nodup : (first.map Prod.fst).Nodup)
    (order : (encodeFields first).Perm (encodeFields second)) :
    canonicalFields first = canonicalFields second := by
  rw [canonicalFields_eq_foldr, canonicalFields_eq_foldr]
  have keys : ((encodeFields first).map Prod.fst).Nodup := by
    rw [encodeFields, List.map_map]
    exact nodup
  apply order.foldr_eq'
  intro one member two member' rest
  by_cases same : one = two
  · rw [same]
  · apply insertField_comm
    intro key
    exact same (List.inj_on_of_nodup_map keys member' member key).symm

mutual

/-- Values with one encoding differ at most in the order of keys. -/
theorem reordered_of_canonical : (first second : JsonValue) →
    first.canonical = second.canonical → Reordered first second
  | .arr items, second, same => by
    cases second with
    | arr others =>
      rw [canonical, canonical] at same
      exact .arr (reorderedItems_of_canonical items others (by injection same))
    | _ => simp [canonical] at same
  | .obj fields, second, same => by
    cases second with
    | obj others =>
      rw [canonical_obj, canonical_obj] at same
      have encoded : canonicalFields fields = canonicalFields others := by injection same
      have order : (encodeFields fields).Perm (encodeFields others) := by
        have one := canonicalFields_perm fields
        rw [encoded] at one
        exact one.symm.trans (canonicalFields_perm others)
      have pairs : List.Forall₂ (fun encoded field : String × JsonValue =>
          encoded = (field.1, field.2.canonical)) (encodeFields others) others := by
        rw [encodeFields, List.forall₂_map_left_iff, List.forall₂_same]
        intro _ _
        rfl
      obtain ⟨middle, matched, moved⟩ := List.perm_comp_forall₂ order pairs
      have spelled : encodeFields fields = encodeFields middle := by
        have mapped := List.forall₂_map_right_iff.mpr matched
        rwa [List.forall₂_eq_eq_eq] at mapped
      exact .obj (reorderedFields_of_canonical fields middle spelled) moved
    | _ => simp [canonical] at same
  | .null, second, same => by
    cases second with
    | null => exact .same _
    | _ => simp [canonical] at same
  | .bool value, second, same => by
    cases second with
    | bool other =>
      obtain rfl : value = other := by simpa using same
      exact .same _
    | _ => simp [canonical] at same
  | .int value, second, same => by
    cases second with
    | int other =>
      obtain rfl : value = other := by simpa using same
      exact .same _
    | _ => simp [canonical] at same
  | .float bits, second, same => by
    cases second with
    | float other =>
      obtain rfl : bits = other := by simpa [canonical] using same
      exact .same _
    | _ => simp [canonical] at same
  | .str value, second, same => by
    cases second with
    | str other =>
      obtain rfl : value = other := by simpa using same
      exact .same _
    | _ => simp [canonical] at same

theorem reorderedItems_of_canonical : (first second : List JsonValue) →
    canonicalItems first = canonicalItems second → ReorderedItems first second
  | [], second, same => by
    cases second with
    | nil => exact .nil
    | cons other others => simp [canonicalItems] at same
  | item :: items, second, same => by
    cases second with
    | nil => simp [canonicalItems] at same
    | cons other others =>
      rw [canonicalItems, canonicalItems, List.cons.injEq] at same
      exact .cons (reordered_of_canonical item other same.1)
        (reorderedItems_of_canonical items others same.2)

theorem reorderedFields_of_canonical : (first second : JsonFields) →
    encodeFields first = encodeFields second → ReorderedFields first second
  | [], second, same => by
    cases second with
    | nil => exact .nil
    | cons other others => simp [encodeFields] at same
  | (key, value) :: fields, second, same => by
    cases second with
    | nil => simp [encodeFields] at same
    | cons other others =>
      obtain ⟨key', value'⟩ := other
      simp only [encodeFields, List.map_cons, List.cons.injEq, Prod.mk.injEq] at same
      obtain ⟨⟨rfl, same⟩, rest⟩ := same
      exact .cons key (reordered_of_canonical value value' same)
        (reorderedFields_of_canonical fields others rest)

end

mutual

theorem canonical_of_reordered : {first second : JsonValue} → Reordered first second →
    first.keyed = true → first.canonical = second.canonical
  | _, _, .same _, _ => rfl
  | _, _, .arr items, keys => by
    rw [canonical, canonical, canonicalItems_of_reordered items (by simpa [keyed] using keys)]
  | _, _, .obj fields order, keys => by
    simp only [keyed, Bool.and_eq_true, decide_eq_true_eq] at keys
    rw [canonical_obj, canonical_obj]
    have encoded := encodeFields_of_reordered fields keys.2
    have moved : (encodeFields _).Perm (encodeFields _) := order.map _
    rw [← encoded] at moved
    rw [canonicalFields_of_perm keys.1 moved]

theorem canonicalItems_of_reordered : {first second : List JsonValue} →
    ReorderedItems first second → keyedItems first = true →
      canonicalItems first = canonicalItems second
  | _, _, .nil, _ => rfl
  | _, _, .cons item items, keys => by
    simp only [keyedItems, Bool.and_eq_true] at keys
    rw [canonicalItems, canonicalItems, canonical_of_reordered item keys.1,
      canonicalItems_of_reordered items keys.2]

theorem encodeFields_of_reordered : {first second : JsonFields} →
    ReorderedFields first second → keyedFields first = true →
      encodeFields first = encodeFields second
  | _, _, .nil, _ => rfl
  | _, _, .cons key field fields, keys => by
    simp only [keyedFields, Bool.and_eq_true] at keys
    have rest := encodeFields_of_reordered fields keys.2
    rw [encodeFields, encodeFields] at rest ⊢
    rw [List.map_cons, List.map_cons, canonical_of_reordered field keys.1, rest]

end

end JsonValue

end CongeriesCore
