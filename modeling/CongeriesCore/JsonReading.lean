import CongeriesCore.EventDocuments

/-! # Reading documents whose keys are in any order

A decoder reads a value if it gives the value back from every document that differs from the
encoded one in the order of keys only. Such a decoder reads what `to_data` builds and what is
decoded of its canonical encoding, so that values with one canonical encoding are equal. -/

namespace CongeriesCore

open JsonValue

/-! ## Reordered objects -/

theorem ReorderedItems.refl (items : List JsonValue) : ReorderedItems items items := by
  induction items with
  | nil => exact .nil
  | cons item items ih => exact .cons (.same item) ih

theorem ReorderedFields.refl (fields : JsonFields) : ReorderedFields fields fields := by
  induction fields with
  | nil => exact .nil
  | cons field fields ih => exact .cons field.1 (.same field.2) ih

theorem Reordered.obj_inv {fields : JsonFields} {value : JsonValue}
    (reordered : Reordered (.obj fields) value) :
    ∃ middle data : JsonFields, value = .obj data ∧ ReorderedFields fields middle ∧
      middle.Perm data := by
  cases reordered with
  | same => exact ⟨fields, fields, rfl, .refl fields, .refl _⟩
  | obj matched order => exact ⟨_, _, rfl, matched, order⟩

theorem Reordered.arr_inv {items : List JsonValue} {value : JsonValue}
    (reordered : Reordered (.arr items) value) :
    ∃ others, value = .arr others ∧ ReorderedItems items others := by
  cases reordered with
  | same => exact ⟨items, rfl, .refl items⟩
  | arr matched => exact ⟨_, rfl, matched⟩

theorem Reordered.str_inv {text : String} {value : JsonValue}
    (reordered : Reordered (.str text) value) : value = .str text := by
  cases reordered
  rfl

theorem Reordered.int_inv {number : ℤ} {value : JsonValue}
    (reordered : Reordered (.int number) value) : value = .int number := by
  cases reordered
  rfl

theorem Reordered.null_inv {value : JsonValue} (reordered : Reordered .null value) :
    value = .null := by
  cases reordered
  rfl

theorem ReorderedFields.keys {fields others : JsonFields} (matched : ReorderedFields fields others) :
    others.map Prod.fst = fields.map Prod.fst := by
  induction fields generalizing others with
  | nil =>
    cases matched
    rfl
  | cons field fields ih =>
    cases matched with
    | cons key value rest => rw [List.map_cons, List.map_cons, ih rest]

theorem ReorderedFields.lookup {fields others : JsonFields}
    (matched : ReorderedFields fields others) (key : String) :
    Option.Rel Reordered (Dict.lookup key fields) (Dict.lookup key others) := by
  induction fields generalizing others with
  | nil =>
    cases matched
    exact .none
  | cons field fields ih =>
    cases matched with
    | cons first value rest =>
      rw [Dict.lookup, Dict.lookup]
      split
      · exact .some value
      · exact ih rest

theorem lookup_of_perm {fields others : JsonFields} (nodup : (fields.map Prod.fst).Nodup)
    (order : fields.Perm others) (key : String) :
    Dict.lookup key fields = Dict.lookup key others := by
  have nodup' : (others.map Prod.fst).Nodup := (order.map Prod.fst).nodup_iff.mp nodup
  let dict : Dict String JsonValue := ⟨fields, nodup⟩
  let other : Dict String JsonValue := ⟨others, nodup'⟩
  change dict.get? key = other.get? key
  apply Option.ext
  intro value
  constructor
  · intro found
    exact Dict.get?_of_mem (order.mem_iff.mp (Dict.mem_of_get? found))
  · intro found
    exact Dict.get?_of_mem (order.mem_iff.mpr (Dict.mem_of_get? found))

theorem Reordered.lookup {fields data : JsonFields} (nodup : (fields.map Prod.fst).Nodup)
    (reordered : Reordered (.obj fields) (.obj data)) (key : String) :
    Option.Rel Reordered (Dict.lookup key fields) (Dict.lookup key data) := by
  obtain ⟨middle, _, same, matched, order⟩ := reordered.obj_inv
  obtain rfl := JsonValue.obj.inj same
  have unique : (middle.map Prod.fst).Nodup := by
    rw [matched.keys]
    exact nodup
  rw [← lookup_of_perm unique order key]
  exact matched.lookup key

/-! ## Readers -/

/-- `as_array`. -/
def JsonValue.asArray (value : JsonValue) (fieldName : String) : Except Raised (List JsonValue) :=
  match value with
  | .arr items => .ok items
  | _ => .error (.value (fieldName ++ " must be an array"))

namespace JsonFields

variable {α : Type}

/-- `as_int(data[key])`. -/
def int (data : JsonFields) (key fieldName : String) : Except Raised ℤ := do
  (← data.item key).asInt fieldName

/-- `str(data[key]) if data.get(key) is not None else None`. -/
def textUnlessNone (data : JsonFields) (key : String) : Except Raised (Option String) :=
  if (data.get key).isNone then .ok none else do return some (← (data.get key).asText)

/-- `read(as_object(data[key]))`. -/
def nested (data : JsonFields) (key fieldName : String) (read : JsonFields → Except Raised α) :
    Except Raised α := do
  read (← data.object key fieldName)

/-- `read(as_object(data.get(key)))`, unless that is `None`. -/
def nestedIf (data : JsonFields) (key fieldName : String) (read : JsonFields → Except Raised α) :
    Except Raised (Option α) := do
  (← data.objectIf key fieldName).mapM read

/-- `tuple(read(item) for item in as_array(data[key]))`. -/
def each (data : JsonFields) (key fieldName : String) (read : JsonValue → Except Raised α) :
    Except Raised (List α) := do
  (← (← data.item key).asArray fieldName).mapM read

/-- `set(data) == set(expected)`, or a `ValueError`. -/
def requireKeys (data : JsonFields) (expected : List String) (fieldName : String) :
    Except Raised Unit :=
  requireValue (expected.all (fun key => (Dict.lookup key data).isSome) &&
    data.all fun field => expected.contains field.1)
    (fieldName ++ " contains unknown or missing fields")

end JsonFields

/-- `read(as_object(item))`. -/
def JsonValue.readObject {α : Type} (fieldName : String) (read : JsonFields → Except Raised α)
    (value : JsonValue) : Except Raised α := do
  read (← value.asObject fieldName)

/-! ## Decoders -/

/-- What is encoded is an object, and the decoder reads it in whatever order its keys are. -/
structure Decodes {α : Type} (read : JsonFields → Except Raised α) (encode : α → JsonValue) :
    Prop where
  object : ∀ value, ∃ fields, encode value = .obj fields
  reads : ∀ (value : α) (data : JsonFields), Reordered (encode value) (.obj data) →
    read data = .ok value

namespace Decodes

variable {α : Type} {read : JsonFields → Except Raised α} {encode : α → JsonValue}

theorem readObject (decodes : Decodes read encode) (fieldName : String) {value : α}
    {encoded : JsonValue} (reordered : Reordered (encode value) encoded) :
    encoded.readObject fieldName read = .ok value := by
  obtain ⟨fields, object⟩ := decodes.object value
  have given := reordered
  rw [object] at given
  obtain ⟨_, data, rfl, -⟩ := given.obj_inv
  exact decodes.reads value data reordered

/-- The decoder reads what was encoded. -/
theorem encoded (decodes : Decodes read encode) (fieldName : String) (value : α) :
    (encode value).readObject fieldName read = .ok value :=
  decodes.readObject fieldName (.same _)

/-- Values that a decoder reads have different canonical encodings. -/
theorem eq_of_canonical (decodes : Decodes read encode) {first second : α}
    (same : (encode first).canonical = (encode second).canonical) : first = second := by
  have one := decodes.readObject "" (reordered_canonical (encode first))
  have two := decodes.readObject "" (reordered_canonical (encode second))
  rw [same, two] at one
  exact (Except.ok.inj one).symm

end Decodes

/-! ### Fields of a reordered object -/

namespace JsonFields

variable {α : Type} {fields data : JsonFields}

/-- An object with these fields, in any order. -/
structure Spells (data fields : JsonFields) : Prop where
  nodup : (fields.map Prod.fst).Nodup
  reordered : Reordered (.obj fields) (.obj data)

variable (spells : data.Spells fields) {key fieldName : String}

include spells

theorem Spells.lookup {value : JsonValue} (found : Dict.lookup key fields = some value) :
    ∃ other, Dict.lookup key data = some other ∧ Reordered value other := by
  have related := spells.reordered.lookup spells.nodup key
  rw [found] at related
  cases other : Dict.lookup key data with
  | none =>
    rw [other] at related
    cases related
  | some value' =>
    rw [other] at related
    cases related with
    | some same => exact ⟨value', rfl, same⟩

theorem Spells.item {value : JsonValue} (found : Dict.lookup key fields = some value) :
    ∃ other, data.item key = .ok other ∧ Reordered value other := by
  obtain ⟨other, there, same⟩ := spells.lookup found
  exact ⟨other, by rw [JsonFields.item, there], same⟩

theorem Spells.get {value : JsonValue} (found : Dict.lookup key fields = some value) :
    Reordered value (data.get key) := by
  obtain ⟨other, there, same⟩ := spells.lookup found
  rw [JsonFields.get, there]
  exact same

theorem Spells.text {text : String} (found : Dict.lookup key fields = some (.str text)) :
    data.text key = .ok text := by
  obtain ⟨other, there, same⟩ := spells.item found
  obtain rfl := same.str_inv
  rw [JsonFields.text, there]
  rfl

theorem Spells.id {kind : IdKind} {id : Identifier kind}
    (found : Dict.lookup key fields = some (.str id.value)) : data.id kind key = .ok id := by
  rw [JsonFields.id, spells.text found]
  exact id.make_self

theorem Spells.int {number : ℤ} (found : Dict.lookup key fields = some (.int number)) :
    data.int key fieldName = .ok number := by
  obtain ⟨other, there, same⟩ := spells.item found
  obtain rfl := same.int_inv
  rw [JsonFields.int, there]
  rfl

theorem Spells.textUnlessNone {text : Option String}
    (found : Dict.lookup key fields = some (.ofOption .str text)) :
    data.textUnlessNone key = .ok text := by
  have same := spells.get found
  rw [JsonFields.textUnlessNone]
  cases text with
  | none =>
    rw [ofOption] at same
    rw [same.null_inv]
    rfl
  | some text =>
    rw [ofOption] at same
    rw [same.str_inv]
    rfl

/-- An optional value is read back from the text it was written as. -/
theorem Spells.textIf {write : α → String} {read : String → Except Raised α} {value : Option α}
    (written : ∀ value, write value ≠ "" ∧ read (write value) = .ok value)
    (found : Dict.lookup key fields = some (.ofOption (fun value => .str (write value)) value)) :
    data.textIf key read = .ok value := by
  have same := spells.get found
  rw [JsonFields.textIf]
  cases value with
  | none =>
    rw [ofOption] at same
    rw [same.null_inv]
    rfl
  | some value =>
    rw [ofOption] at same
    obtain ⟨given, reads⟩ := written value
    rw [same.str_inv, spells.text found]
    simp [truthy, given, bind, Except.bind, reads, pure, Except.pure]

theorem Spells.idIf {kind : IdKind} {id : Option (Identifier kind)}
    (found : Dict.lookup key fields = some (.ofOption (fun id => .str id.value) id)) :
    data.idIf kind key = .ok id :=
  spells.textIf (fun id => ⟨id.value_ne_empty, id.make_self⟩) found

variable {read : JsonFields → Except Raised α} {encode : α → JsonValue}

theorem Spells.nested (decodes : Decodes read encode) {value : α}
    (found : Dict.lookup key fields = some (encode value)) :
    data.nested key fieldName read = .ok value := by
  obtain ⟨other, there, same⟩ := spells.item found
  rw [JsonFields.nested, JsonFields.object, there]
  exact decodes.readObject fieldName same

theorem Spells.nestedIf (decodes : Decodes read encode) {value : Option α}
    (found : Dict.lookup key fields = some (.ofOption encode value)) :
    data.nestedIf key fieldName read = .ok value := by
  have same := spells.get found
  rw [JsonFields.nestedIf, JsonFields.objectIf]
  cases value with
  | none =>
    rw [ofOption] at same
    rw [same.null_inv]
    rfl
  | some value =>
    rw [ofOption] at same
    obtain ⟨plain, object⟩ := decodes.object value
    have given := same
    rw [object] at given
    obtain ⟨_, inner, is, -⟩ := given.obj_inv
    rw [is] at same ⊢
    change (do return some (← read inner)) = _
    rw [decodes.reads value inner same]
    rfl

omit spells in
theorem mapM_reordered {read : JsonValue → Except Raised α} {write : α → JsonValue}
    {values : List α} {others : List JsonValue}
    (reads : ∀ value ∈ values, ∀ other, Reordered (write value) other → read other = .ok value)
    (matched : ReorderedItems (values.map write) others) : others.mapM read = .ok values := by
  induction values generalizing others with
  | nil =>
    cases matched
    rfl
  | cons value values ih =>
    cases matched with
    | cons same rest =>
      rw [List.mapM_cons, reads value (.head _) _ same,
        ih (fun later member => reads later (.tail _ member)) rest]
      rfl

/-- The items need only be read if they are of the list. -/
theorem Spells.eachMember {read : JsonValue → Except Raised α} {write : α → JsonValue}
    {values : List α} (found : Dict.lookup key fields = some (.arr (values.map write)))
    (reads : ∀ value ∈ values, ∀ other, Reordered (write value) other → read other = .ok value) :
    data.each key fieldName read = .ok values := by
  obtain ⟨other, there, same⟩ := spells.item found
  obtain ⟨others, rfl, matched⟩ := same.arr_inv
  rw [JsonFields.each, there]
  exact mapM_reordered reads matched

theorem Spells.each {read : JsonValue → Except Raised α} {write : α → JsonValue}
    (reads : ∀ value other, Reordered (write value) other → read other = .ok value)
    {values : List α} (found : Dict.lookup key fields = some (.arr (values.map write))) :
    data.each key fieldName read = .ok values :=
  spells.eachMember found fun value _ => reads value

theorem Spells.requireKeys :
    data.requireKeys (fields.map Prod.fst) fieldName = .ok () := by
  obtain ⟨middle, _, same, matched, order⟩ := spells.reordered.obj_inv
  obtain rfl := JsonValue.obj.inj same
  have keys : ∀ key, key ∈ data.map Prod.fst ↔ key ∈ fields.map Prod.fst := by
    intro key
    rw [← matched.keys]
    exact (order.map Prod.fst).mem_iff.symm
  rw [JsonFields.requireKeys, requireValue_eq_ok, Bool.and_eq_true, List.all_eq_true,
    List.all_eq_true]
  constructor
  · intro key member
    have related := spells.reordered.lookup spells.nodup key
    cases there : Dict.lookup key data with
    | some value => rfl
    | none =>
      rw [there] at related
      cases absent : Dict.lookup key fields with
      | some value =>
        rw [absent] at related
        cases related
      | none =>
        obtain ⟨field, listed, rfl⟩ := List.mem_map.mp member
        have present : Dict.lookup field.1 fields = some field.2 :=
          @Dict.get?_of_mem String JsonValue _ ⟨fields, spells.nodup⟩ _ _ listed
        rw [absent] at present
        cases present
  · intro field member
    rw [List.contains_iff_mem]
    exact (keys field.1).mp (List.mem_map.mpr ⟨field, member, rfl⟩)

end JsonFields

end CongeriesCore
