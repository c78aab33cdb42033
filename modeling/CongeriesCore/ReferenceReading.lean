import CongeriesCore.CheckpointDocuments
import CongeriesCore.ContentBlocks

/-! # Reading actions and schemas

`from_data` of the references whose fields go through `str`, and the readers of documents that
refuse what has another type. -/

namespace CongeriesCore

open JsonValue

/-! ## Strict readers -/

namespace JsonValue

/-- `_as_string`. -/
def asString (fieldName : String) (value : JsonValue) : Except Raised String :=
  match value with
  | .str text => .ok text
  | _ => .error (.value (fieldName ++ " must be a string"))

/-- `_as_bool`. -/
def asBool (fieldName : String) (value : JsonValue) : Except Raised Bool :=
  match value with
  | .bool value => .ok value
  | _ => .error (.value (fieldName ++ " must be a boolean"))

/-- `Kind(_as_string(value))`. -/
def asId (kind : IdKind) (fieldName : String) (value : JsonValue) :
    Except Raised (Identifier kind) := do
  Identifier.make kind (← value.asString fieldName)

theorem asString_reordered {fieldName text : String} {value : JsonValue}
    (reordered : Reordered (.str text) value) : value.asString fieldName = .ok text := by
  rw [reordered.str_inv]
  rfl

theorem asBool_reordered {fieldName : String} {flag : Bool} {value : JsonValue}
    (reordered : Reordered (.bool flag) value) : value.asBool fieldName = .ok flag := by
  cases reordered
  rfl

theorem asInt_reordered {fieldName : String} {number : ℤ} {value : JsonValue}
    (reordered : Reordered (.int number) value) : value.asInt fieldName = .ok number := by
  rw [reordered.int_inv]
  rfl

theorem asId_reordered {kind : IdKind} {fieldName : String} {id : Identifier kind}
    {value : JsonValue} (reordered : Reordered (.str id.value) value) :
    value.asId kind fieldName = .ok id := by
  rw [asId, asString_reordered reordered]
  exact id.make_self

end JsonValue

namespace JsonFields

variable {α : Type}

/-- `data.get(key, default)`. -/
def getOr (data : JsonFields) (key : String) (default : JsonValue) : JsonValue :=
  (Dict.lookup key data).getD default

/-- `read(data[key])`. -/
def required (data : JsonFields) (key : String) (read : JsonValue → Except Raised α) :
    Except Raised α := do
  read (← data.item key)

/-- `read(data[key]) if data[key] is not None else None`. -/
def unlessNone (data : JsonFields) (key : String) (read : JsonValue → Except Raised α) :
    Except Raised (Option α) := do
  let raw ← data.item key
  if raw.isNone then return none else return some (← read raw)

/-- `str(data[key])`. -/
def pythonText [PythonText] (data : JsonFields) (key : String) : Except Raised String :=
  do return (← data.item key).pythonText

variable {fields data : JsonFields} (spells : data.Spells fields) {key : String}

include spells

theorem Spells.required {read : JsonValue → Except Raised α} {value : α} {encoded : JsonValue}
    (found : Dict.lookup key fields = some encoded)
    (reads : ∀ other, Reordered encoded other → read other = .ok value) :
    data.required key read = .ok value := by
  obtain ⟨other, there, same⟩ := spells.item found
  rw [JsonFields.required, there]
  exact reads other same

theorem Spells.unlessNone {read : JsonValue → Except Raised α} {write : α → JsonValue}
    {value : Option α} (found : Dict.lookup key fields = some (.ofOption write value))
    (reads : ∀ value other, Reordered (write value) other →
      other.isNone = false ∧ read other = .ok value) :
    data.unlessNone key read = .ok value := by
  obtain ⟨other, there, same⟩ := spells.item found
  rw [JsonFields.unlessNone, there]
  cases value with
  | none =>
    rw [ofOption] at same
    rw [same.null_inv]
    rfl
  | some value =>
    obtain ⟨given, is⟩ := reads value other same
    change (if other.isNone then _ else do return some (← read other)) = _
    rw [given, is]
    rfl

theorem Spells.pythonText [PythonText] {text : String}
    (found : Dict.lookup key fields = some (.str text)) : data.pythonText key = .ok text := by
  obtain ⟨other, there, same⟩ := spells.item found
  rw [JsonFields.pythonText, there, same.str_inv]
  rfl

end JsonFields

/-- What is read as an object is not `None`. -/
theorem Decodes.given {α : Type} {read : JsonFields → Except Raised α} {encode : α → JsonValue}
    (decodes : Decodes read encode) (fieldName : String) (value : α) (other : JsonValue)
    (reordered : Reordered (encode value) other) :
    other.isNone = false ∧ other.readObject fieldName read = .ok value := by
  refine ⟨?_, decodes.readObject fieldName reordered⟩
  obtain ⟨fields, object⟩ := decodes.object value
  rw [object] at reordered
  obtain ⟨_, data, rfl, -⟩ := reordered.obj_inv
  rfl

theorem map_eq_self {α : Type} {update : α → α} {items : List α} :
    items.map update = items ↔ ∀ item ∈ items, update item = item := by
  have each := @List.map_inj_left _ _ items update id
  rwa [List.map_id] at each

/-- What is written item by item is read item by item. -/
theorem mapM_written {α β γ ε : Type} {write : α → β} {read : β → Except ε γ} {value : α → γ}
    {items : List α} (reads : ∀ item ∈ items, read (write item) = .ok (value item)) :
    (items.map write).mapM read = .ok (items.map value) := by
  induction items with
  | nil => rfl
  | cons item items ih =>
    rw [List.map_cons, List.mapM_cons, reads item (.head _),
      ih fun other member => reads other (.tail _ member)]
    rfl

/-! ## Actions and schemas -/

namespace ActionRef

def make (namespace_ name version : String) : Except Raised ActionRef :=
  if named : isName namespace_ = true then
    if named' : isName name = true then
      if trimmed : isTrimmed version = true then
        .ok ⟨namespace_, name, version, named, named', trimmed⟩
      else .error (.value "action version must be non-empty and trimmed")
    else .error (.value "action name is invalid")
  else .error (.value "action namespace is invalid")

def toFields (action : ActionRef) : JsonFields :=
  [("namespace", .str action.namespace_), ("name", .str action.name),
    ("version", .str action.version)]

def toData (action : ActionRef) : JsonValue := .obj action.toFields

def fromData [PythonText] (data : JsonFields) : Except Raised ActionRef := do
  let namespace_ ← data.pythonText "namespace"
  let name ← data.pythonText "name"
  let version ← data.pythonText "version"
  make namespace_ name version

theorem decodes [PythonText] : Decodes fromData toData where
  object _ := ⟨_, rfl⟩
  reads action data reordered := by
    have spells : data.Spells action.toFields := ⟨by simp [toFields], reordered⟩
    have namespaceText : JsonFields.pythonText data "namespace" = .ok action.namespace_ :=
      spells.pythonText rfl
    have nameText : JsonFields.pythonText data "name" = .ok action.name := spells.pythonText rfl
    have versionText : JsonFields.pythonText data "version" = .ok action.version :=
      spells.pythonText rfl
    rw [fromData, namespaceText, nameText, versionText]
    change make _ _ _ = _
    rw [make, dif_pos action.named.1, dif_pos action.named.2.1, dif_pos action.named.2.2]

end ActionRef

namespace SchemaRef

def make (namespace_ name version : String) : Except Raised SchemaRef :=
  if named : isName namespace_ = true then
    if named' : isName name = true then
      if trimmed : isTrimmed version = true then
        .ok ⟨namespace_, name, version, named, named', trimmed⟩
      else .error (.value "schema version must be non-empty and trimmed")
    else .error (.value "schema name is invalid")
  else .error (.value "schema namespace is invalid")

def fromData [PythonText] (data : JsonFields) : Except Raised SchemaRef := do
  let namespace_ ← data.pythonText "namespace"
  let name ← data.pythonText "name"
  let version ← data.pythonText "version"
  make namespace_ name version

theorem decodes [PythonText] : Decodes fromData toData where
  object _ := ⟨_, rfl⟩
  reads schema data reordered := by
    have spells : data.Spells _ := ⟨by simp, reordered⟩
    have namespaceText : JsonFields.pythonText data "namespace" = .ok schema.namespace_ :=
      spells.pythonText rfl
    have nameText : JsonFields.pythonText data "name" = .ok schema.name := spells.pythonText rfl
    have versionText : JsonFields.pythonText data "version" = .ok schema.version :=
      spells.pythonText rfl
    rw [fromData, namespaceText, nameText, versionText]
    change make _ _ _ = _
    rw [make, dif_pos schema.named.1, dif_pos schema.named.2.1, dif_pos schema.named.2.2]

end SchemaRef

end CongeriesCore
