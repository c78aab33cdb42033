import CongeriesCore.Dict
import CongeriesCore.RuntimeErrors

/-! # Stored JSON documents

A text column holds `json.dumps(…, sort_keys=True)` of a value. The text is modelled by the
document it spells: the value with every object's keys in order. Reading it back gives the
written value up to the order of keys. -/

namespace CongeriesCore

/-- The items of a decoded object. -/
abbrev JsonFields := List (String × JsonValue)

structure JsonText where
  document : JsonValue

/-- `_json_dump`. -/
def jsonDump (value : JsonValue) : JsonText := ⟨value.canonical⟩

namespace JsonValue

/-- `as_object`; the keys of a decoded object are strings. -/
def asObject (value : JsonValue) (fieldName : String) : Except Raised JsonFields :=
  match value with
  | .obj fields => .ok fields
  | _ => .error (.value (fieldName ++ " must be an object"))

/-- `as_int`. -/
def asInt (value : JsonValue) (fieldName : String) : Except Raised ℤ :=
  match value with
  | .int value => .ok value
  | _ => .error (.value (fieldName ++ " must be an integer"))

/-- `str(value)` of a string. The documents that are read hold strings wherever the source
converts; what `str` makes of another value is left out. -/
def asText : JsonValue → Except Raised String
  | .str value => .ok value
  | _ => .error (.other "not a string")

/-- `value is None`. -/
def isNone : JsonValue → Bool
  | .null => true
  | _ => false

/-- `bool(value)`. -/
def truthy : JsonValue → Bool
  | .null => false
  | .bool value => value
  | .int value => value != 0
  | .float bits => bits.toNat % 2 ^ 63 != 0
  | .str value => value != ""
  | .arr items => !items.isEmpty
  | .obj fields => !fields.isEmpty

end JsonValue

/-- What foreign code returns: JSON data, or what `as_json_value` finds wrong with it. -/
inductive Foreign
  | json (value : JsonValue)
  | invalid (problem : String)

/-- `as_json_value`. -/
def Foreign.asJsonValue (fieldName : String) : Foreign → Except Raised JsonValue
  | .json value => .ok value
  | .invalid problem => .error (.value (fieldName ++ " " ++ problem))

/-- `_json_object`. -/
def jsonObject (text : JsonText) : Except Raised JsonFields :=
  match text.document with
  | .obj fields => .ok fields
  | _ => .error (.value "stored JSON value must be an object")

namespace JsonFields

/-- `data[key]`. -/
def item (data : JsonFields) (key : String) : Except Raised JsonValue :=
  match Dict.lookup key data with
  | some value => .ok value
  | none => .error (.key key)

/-- `data.get(key)`. -/
def get (data : JsonFields) (key : String) : JsonValue := (Dict.lookup key data).getD .null

/-- `str(data[key])`. -/
def text (data : JsonFields) (key : String) : Except Raised String := do
  (← data.item key).asText

/-- `read(str(data[key])) if data.get(key) else None`. -/
def textIf {α : Type} (data : JsonFields) (key : String) (read : String → Except Raised α) :
    Except Raised (Option α) :=
  if (data.get key).truthy then do
    return some (← read (← data.text key))
  else .ok none

end JsonFields

/-! ## Equality up to the order of keys -/

mutual

/-- Python's `==` on decoded values, for which the order of an object's keys does not count. -/
inductive Reordered : JsonValue → JsonValue → Prop
  | same (value : JsonValue) : Reordered value value
  | arr {first second : List JsonValue} (items : ReorderedItems first second) :
      Reordered (.arr first) (.arr second)
  | obj {first middle second : JsonFields} (fields : ReorderedFields first middle)
      (order : middle.Perm second) : Reordered (.obj first) (.obj second)

inductive ReorderedItems : List JsonValue → List JsonValue → Prop
  | nil : ReorderedItems [] []
  | cons {first second : JsonValue} {rest rest' : List JsonValue} (item : Reordered first second)
      (items : ReorderedItems rest rest') : ReorderedItems (first :: rest) (second :: rest')

inductive ReorderedFields : JsonFields → JsonFields → Prop
  | nil : ReorderedFields [] []
  | cons (key : String) {first second : JsonValue} {rest rest' : JsonFields}
      (field : Reordered first second) (fields : ReorderedFields rest rest') :
      ReorderedFields ((key, first) :: rest) ((key, second) :: rest')

end

namespace JsonValue

theorem insertField_perm (field : String × JsonValue) (fields : JsonFields) :
    (insertField field fields).Perm (field :: fields) := by
  induction fields with
  | nil => exact .refl _
  | cons other fields ih =>
    unfold insertField
    split
    · exact .refl _
    · exact (ih.cons other).trans (.swap _ _ _)

theorem canonicalFields_perm (fields : JsonFields) :
    (canonicalFields fields).Perm (fields.map fun field => (field.1, field.2.canonical)) := by
  induction fields with
  | nil => exact .refl _
  | cons field fields ih =>
    obtain ⟨key, value⟩ := field
    exact (insertField_perm _ _).trans (ih.cons _)

mutual

/-- Sorting the keys of a value gives an equal value. -/
theorem reordered_canonical : (value : JsonValue) → Reordered value value.canonical
  | .arr items => .arr (reordered_canonicalItems items)
  | .obj fields => .obj (reordered_canonicalFields fields) (canonicalFields_perm fields).symm
  | .null => .same _
  | .bool _ => .same _
  | .int _ => .same _
  | .float _ => .same _
  | .str _ => .same _

theorem reordered_canonicalItems :
    (items : List JsonValue) → ReorderedItems items (canonicalItems items)
  | [] => .nil
  | item :: items => .cons (reordered_canonical item) (reordered_canonicalItems items)

theorem reordered_canonicalFields : (fields : JsonFields) →
    ReorderedFields fields (fields.map fun field => (field.1, field.2.canonical))
  | [] => .nil
  | (key, value) :: fields =>
    .cons key (reordered_canonical value) (reordered_canonicalFields fields)

end

theorem canonicalFields_keys (fields : JsonFields) :
    ((canonicalFields fields).map Prod.fst).Perm (fields.map Prod.fst) := by
  have keys := (canonicalFields_perm fields).map Prod.fst
  rwa [List.map_map] at keys

theorem lookup_insertField {key other : String} {value : JsonValue} {fields : JsonFields}
    (absent : key ∉ fields.map Prod.fst) :
    Dict.lookup other (insertField (key, value) fields) =
      if key = other then some value else Dict.lookup other fields := by
  induction fields with
  | nil => rfl
  | cons field fields ih =>
    rw [List.map_cons, List.mem_cons, not_or] at absent
    obtain ⟨distinct, rest⟩ := absent
    unfold insertField
    split
    · rfl
    · rw [Dict.lookup, Dict.lookup, ih rest]
      by_cases hit : field.1 = other
      · have miss : key ≠ other := fun equal => distinct (equal.trans hit.symm)
        simp [hit, miss]
      · simp [hit]

/-- Reading a key of the sorted object reads it of the object. -/
theorem lookup_canonicalFields {fields : JsonFields} (nodup : (fields.map Prod.fst).Nodup)
    (key : String) :
    Dict.lookup key (canonicalFields fields) = (Dict.lookup key fields).map canonical := by
  induction fields with
  | nil => rfl
  | cons field fields ih =>
    obtain ⟨first, value⟩ := field
    rw [List.map_cons, List.nodup_cons] at nodup
    have absent : first ∉ (canonicalFields fields).map Prod.fst := fun member =>
      nodup.1 ((canonicalFields_keys fields).mem_iff.mp member)
    rw [canonicalFields, lookup_insertField absent, Dict.lookup, ih nodup.2]
    split <;> rfl

@[simp] theorem canonical_obj (fields : JsonFields) :
    (JsonValue.obj fields).canonical = .obj (canonicalFields fields) := by
  rw [canonical]

@[simp] theorem canonical_str (value : String) : (JsonValue.str value).canonical = .str value := by
  rw [canonical]

@[simp] theorem canonical_int (value : ℤ) : (JsonValue.int value).canonical = .int value := by
  rw [canonical]

@[simp] theorem canonical_bool (value : Bool) :
    (JsonValue.bool value).canonical = .bool value := by
  rw [canonical]

@[simp] theorem canonical_null : JsonValue.null.canonical = .null := by
  rw [canonical]

@[simp] theorem canonicalItems_isEmpty (items : List JsonValue) :
    (canonicalItems items).isEmpty = items.isEmpty := by
  cases items with
  | nil => rfl
  | cons item items => simp [canonicalItems]

@[simp] theorem canonicalFields_isEmpty (fields : JsonFields) :
    (canonicalFields fields).isEmpty = fields.isEmpty := by
  have length := (canonicalFields_perm fields).length_eq
  rw [List.length_map] at length
  rw [Bool.eq_iff_iff, List.isEmpty_iff, List.isEmpty_iff, ← List.length_eq_zero_iff, length,
    List.length_eq_zero_iff]

@[simp] theorem truthy_canonical (value : JsonValue) : value.canonical.truthy = value.truthy := by
  cases value <;> simp [canonical, truthy]

@[simp] theorem isNone_canonical (value : JsonValue) : value.canonical.isNone = value.isNone := by
  cases value <;> simp [canonical, isNone]

@[simp] theorem asText_canonical (value : JsonValue) : value.canonical.asText = value.asText := by
  cases value <;> simp [canonical, asText]

end JsonValue

/-! ## Reading what was dumped -/

open JsonValue

@[simp] theorem jsonObject_jsonDump (fields : JsonFields) :
    jsonObject (jsonDump (.obj fields)) = .ok (canonicalFields fields) := by
  simp [jsonDump, jsonObject]

theorem ok_bind {α β : Type} (value : α) (rest : α → Except Raised β) :
    (Except.ok value >>= rest) = rest value := rfl

theorem read_jsonDump {α : Type} (fields : JsonFields) (read : JsonFields → Except Raised α) :
    (jsonObject (jsonDump (.obj fields)) >>= read) = read (canonicalFields fields) := by
  rw [jsonObject_jsonDump, ok_bind]

namespace JsonFields

variable {fields : JsonFields} (nodup : (fields.map Prod.fst).Nodup)

include nodup

theorem get_canonical (key : String) :
    get (canonicalFields fields) key = (get fields key).canonical := by
  rw [get, get, lookup_canonicalFields nodup]
  cases Dict.lookup key fields <;> simp

theorem item_canonical (key : String) :
    item (canonicalFields fields) key = (item fields key).map canonical := by
  rw [item, item, lookup_canonicalFields nodup]
  cases Dict.lookup key fields <;> rfl

theorem text_canonical (key : String) : text (canonicalFields fields) key = text fields key := by
  rw [text, text, item_canonical nodup]
  cases item fields key with
  | error error => rfl
  | ok value => exact asText_canonical value

theorem textIf_canonical {α : Type} (key : String) (read : String → Except Raised α) :
    textIf (canonicalFields fields) key read = textIf fields key read := by
  rw [textIf, textIf, get_canonical nodup, truthy_canonical, text_canonical nodup]

end JsonFields

end CongeriesCore
