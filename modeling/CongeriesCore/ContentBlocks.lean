import CongeriesCore.JsonDocument
import CongeriesCore.ModelContracts

/-! # Content blocks of a node's input

The input of an AgentNode is one JSON block, or a block for each element where every element of a
list reads as a block. -/

namespace CongeriesCore

/-- What `str` makes of a value that is not a string. -/
class PythonText where
  text : JsonValue → String

/-- `str(value)`. -/
def JsonValue.pythonText [PythonText] : JsonValue → String
  | .str text => text
  | value => PythonText.text value

def ContentKind.value : ContentKind → String
  | .text => "text"
  | .json => "json"
  | .reference => "reference"

/-- `ContentKind(value)`. -/
def ContentKind.ofValue (value : String) : Except Raised ContentKind :=
  match value with
  | "text" => .ok .text
  | "json" => .ok .json
  | "reference" => .ok .reference
  | _ => .error (.value "not a valid ContentKind")

theorem ContentKind.ofValue_ok {value : String} {kind : ContentKind}
    (read : ofValue value = .ok kind) : kind.value = value := by
  unfold ofValue at read
  split at read
  all_goals cases read <;> rfl

def JsonValue.isText : JsonValue → Bool
  | .str _ => true
  | _ => false

theorem JsonValue.isText_iff {value : JsonValue} :
    value.isText = true ↔ ∃ text, value = .str text := by
  cases value with
  | str text => simp [isText]
  | _ => simp [isText]

namespace ContentBlock

/-- The constructor call: raises what `__post_init__` raises. -/
def make (kind : ContentKind) (value : JsonValue) (name mediaType : Option String) :
    Except Raised ContentBlock :=
  if typed : kind = .json ∨ value.isText = true then
    if named : ∀ text ∈ name, isTrimmed text = true then
      if media : ∀ text ∈ mediaType, isTrimmed text = true then
        .ok ⟨kind, value, name, mediaType, typed.imp id JsonValue.isText_iff.mp, named, media⟩
      else .error (.value "content media_type must be non-empty and trimmed")
    else .error (.value "content name must be non-empty and trimmed")
  else .error (.value (kind.value ++ " content requires a string value"))

/-- `ContentBlock.json`. -/
def json (value : JsonValue) : ContentBlock where
  kind := .json
  value := value
  name := none
  mediaType := some "application/json"
  valid := by
    refine ⟨.inl rfl, fun text none => ?_, fun text media => ?_⟩
    · cases none
    · cases media
      decide

def fields (block : ContentBlock) : JsonFields :=
  [("kind", .str block.kind.value), ("value", block.value), ("name", .ofOption .str block.name),
    ("media_type", .ofOption .str block.mediaType)]

def toData (block : ContentBlock) : JsonValue := .obj block.fields

section

variable [PythonText]

/-- `str(data[key]) if data.get(key) is not None else None`. -/
def optionalText (data : JsonFields) (key : String) : Option String :=
  if (data.get key).isNone then none else some (data.get key).pythonText

/-- `ContentBlock.from_data`: other keys are not looked at. -/
def fromData (data : JsonFields) : Except Raised ContentBlock := do
  let kind ← ContentKind.ofValue (← data.item "kind").pythonText
  make kind (data.get "value") (optionalText data "name") (optionalText data "media_type")

/-- `ContentBlock.from_data(as_object(item, …))` for each of the items. -/
def fromItems : List JsonValue → Except Raised (List ContentBlock)
  | [] => .ok []
  | item :: items => do
    let block ← fromData (← item.asObject "AgentNode input block")
    return block :: (← fromItems items)

end

end ContentBlock

/-- `WorkflowRuntime._content_input`; what reading a list raises is a `KeyError`, a `TypeError` or a
`ValueError`. -/
def contentInput [PythonText] : JsonValue → List ContentBlock
  | .arr items =>
    match ContentBlock.fromItems items with
    | .ok (block :: blocks) => block :: blocks
    | _ => [ContentBlock.json (.arr items)]
  | value => [ContentBlock.json value]

/-! ## What the blocks carry -/

/-- The block has every key of the element with its value, and null under its other keys. -/
def CarriesElement (item : JsonValue) (block : ContentBlock) : Prop :=
  ∃ data, item = .obj data ∧
    (∀ key value, Dict.lookup key data = some value → Dict.lookup key block.fields = some value) ∧
    ∀ key value, Dict.lookup key block.fields = some value → Dict.lookup key data = none →
      value = .null

/-- One JSON block that is the value, or a block for each element that has all of it. -/
def CarriesInput (value : JsonValue) (blocks : List ContentBlock) : Prop :=
  (∃ block, blocks = [block] ∧ block.kind = .json ∧ block.value = value) ∨
    ∃ items, value = .arr items ∧ List.Forall₂ CarriesElement items blocks

/-- Nothing but the fields of a block, and a text or nothing where a block has a text. -/
def SpelledAsBlock (data : JsonFields) : Prop :=
  ∀ key value, Dict.lookup key data = some value →
    key = "value" ∨ (key = "kind" ∧ value.isText = true) ∨
      ((key = "name" ∨ key = "media_type") ∧ (value.isText = true ∨ value = .null))

namespace ContentBlock

variable {data : JsonFields} {block : ContentBlock}

theorem lookup_fields (key : String) : Dict.lookup key block.fields =
    if "kind" = key then some (.str block.kind.value)
    else if "value" = key then some block.value
    else if "name" = key then some (.ofOption .str block.name)
    else if "media_type" = key then some (.ofOption .str block.mediaType)
    else none := rfl

theorem make_ok {kind : ContentKind} {value : JsonValue} {name mediaType : Option String}
    (made : make kind value name mediaType = .ok block) :
    block.kind = kind ∧ block.value = value ∧ block.name = name ∧ block.mediaType = mediaType := by
  unfold make at made
  split at made
  · split at made
    · split at made
      · cases made
        exact ⟨rfl, rfl, rfl, rfl⟩
      · cases made
    · cases made
  · cases made

variable [PythonText]

/-- A text field is written as it was read if it was a text, or was left out. -/
theorem optionalText_written {key : String} {value : JsonValue}
    (found : Dict.lookup key data = some value) :
    JsonValue.ofOption .str (optionalText data key) = value ↔
      value.isText = true ∨ value = .null := by
  have got : data.get key = value := by rw [JsonFields.get, found]; rfl
  rw [optionalText, got]
  cases value with
  | null => simp [JsonValue.isNone, JsonValue.ofOption]
  | str text => simp [JsonValue.isNone, JsonValue.ofOption, JsonValue.isText, JsonValue.pythonText]
  | _ => simp [JsonValue.isNone, JsonValue.ofOption, JsonValue.isText]

theorem optionalText_absent {key : String} (absent : Dict.lookup key data = none) :
    JsonValue.ofOption .str (optionalText data key) = .null := by
  have got : data.get key = .null := by rw [JsonFields.get, absent]; rfl
  rw [optionalText, got]
  rfl

theorem fromData_ok (read : fromData data = .ok block) :
    (∃ value, Dict.lookup "kind" data = some value ∧ block.kind.value = value.pythonText) ∧
      block.value = data.get "value" ∧ block.name = optionalText data "name" ∧
      block.mediaType = optionalText data "media_type" := by
  obtain ⟨value, item, read⟩ := bind_ok read
  obtain ⟨kind, known, made⟩ := bind_ok read
  obtain ⟨sameKind, sameValue, sameName, sameMedia⟩ := make_ok made
  refine ⟨⟨value, ?_, ?_⟩, sameValue, sameName, sameMedia⟩
  · unfold JsonFields.item at item
    split at item
    · rename_i found
      rw [found, Except.ok.inj item]
    · cases item
  · rw [sameKind]
    exact ContentKind.ofValue_ok known

/-- A block carries the element that it was read from if and only if the element is spelled as a
block. -/
theorem carriesElement_iff (read : fromData data = .ok block) :
    CarriesElement (.obj data) block ↔ SpelledAsBlock data := by
  obtain ⟨⟨kind, hasKind, sameKind⟩, sameValue, sameName, sameMedia⟩ := fromData_ok read
  constructor
  · rintro ⟨_, same, kept, -⟩ key value found
    cases same
    have held := kept key value found
    rw [lookup_fields] at held
    split at held
    · rename_i isKind
      obtain rfl := Option.some.inj held
      exact .inr (.inl ⟨isKind.symm, rfl⟩)
    split at held
    · rename_i isValue
      exact .inl isValue.symm
    split at held
    · rename_i isName
      subst isName
      rw [sameName] at held
      exact .inr (.inr ⟨.inl rfl, (optionalText_written found).mp (Option.some.inj held)⟩)
    split at held
    · rename_i isMedia
      subst isMedia
      rw [sameMedia] at held
      exact .inr (.inr ⟨.inr rfl, (optionalText_written found).mp (Option.some.inj held)⟩)
    · cases held
  · intro spelled
    refine ⟨data, rfl, fun key value found => ?_, fun key value held absent => ?_⟩
    · rw [lookup_fields]
      rcases spelled key value found with rfl | ⟨rfl, text⟩ | ⟨rfl | rfl, text⟩
      · simp [sameValue, JsonFields.get, found]
      · obtain rfl := Option.some.inj (hasKind.symm.trans found)
        obtain ⟨text, rfl⟩ := JsonValue.isText_iff.mp text
        simp [sameKind, JsonValue.pythonText]
      · simp [sameName, (optionalText_written found).mpr text]
      · simp [sameMedia, (optionalText_written found).mpr text]
    · rw [lookup_fields] at held
      split at held
      · rename_i isKind
        rw [← isKind, hasKind] at absent
        cases absent
      split at held
      · rename_i isValue
        rw [← Option.some.inj held, sameValue, JsonFields.get, isValue, absent]
        rfl
      split at held
      · rename_i isName
        rw [← Option.some.inj held, sameName, isName, optionalText_absent absent]
      split at held
      · rename_i isMedia
        rw [← Option.some.inj held, sameMedia, isMedia, optionalText_absent absent]
      · cases held

theorem fromItems_ok {items : List JsonValue} {blocks : List ContentBlock}
    (read : fromItems items = .ok blocks) : List.Forall₂
      (fun item block => ∃ data, item = .obj data ∧ fromData data = .ok block) items blocks := by
  induction items generalizing blocks with
  | nil =>
    cases read
    exact .nil
  | cons item items ih =>
    obtain ⟨data, object, read⟩ := bind_ok read
    obtain ⟨block, first, read⟩ := bind_ok read
    obtain ⟨rest, others, done⟩ := bind_ok read
    obtain rfl := Except.ok.inj done
    refine .cons ⟨data, ?_, first⟩ (ih others)
    unfold JsonValue.asObject at object
    split at object
    · rw [Except.ok.inj object]
    · cases object

/-- The blocks of a list carry its elements if and only if each of these is spelled as a block. -/
theorem carriesElements_iff {items : List JsonValue} {blocks : List ContentBlock}
    (each : List.Forall₂ (fun item block => ∃ data, item = .obj data ∧ fromData data = .ok block)
      items blocks) :
    List.Forall₂ CarriesElement items blocks ↔ ∀ data, .obj data ∈ items → SpelledAsBlock data := by
  induction each with
  | nil => exact ⟨fun _ _ member => absurd member List.not_mem_nil, fun _ => .nil⟩
  | cons first rest ih =>
    obtain ⟨own, rfl, read⟩ := first
    rw [List.forall₂_cons, carriesElement_iff read, ih]
    constructor
    · rintro ⟨spelled, others⟩ data member
      rcases List.mem_cons.mp member with same | member
      · obtain rfl := JsonValue.obj.inj same
        exact spelled
      · exact others data member
    · intro spelled
      exact ⟨spelled own (.head _), fun data member => spelled data (.tail _ member)⟩

omit [PythonText] in
/-- No object is the only element of a list that is one of its values. -/
theorem lookup_ne_nested {key : String} :
    Dict.lookup key data ≠ some (.arr [.obj data]) := by
  intro found
  have member : ∀ fields : JsonFields, Dict.lookup key fields = some (.arr [.obj data]) →
      ∃ other, (other, .arr [.obj data]) ∈ fields := by
    intro fields held
    induction fields with
    | nil => cases held
    | cons field fields ih =>
      obtain ⟨first, value⟩ := field
      rw [Dict.lookup] at held
      split at held
      · obtain rfl := Option.some.inj held
        exact ⟨first, .head _⟩
      · obtain ⟨other, inside⟩ := ih held
        exact ⟨other, .tail _ inside⟩
  obtain ⟨other, inside⟩ := member data found
  have smaller := List.sizeOf_lt_of_mem inside
  simp only [Prod.mk.sizeOf_spec, JsonValue.arr.sizeOf_spec, List.cons.sizeOf_spec,
    JsonValue.obj.sizeOf_spec] at smaller
  omega

theorem block_ne_nested {items : List JsonValue}
    (each : List.Forall₂ (fun item block => ∃ data, item = .obj data ∧ fromData data = .ok block)
      items [block]) : block.value ≠ .arr items := by
  cases each with
  | cons first rest =>
    cases rest
    obtain ⟨data, rfl, one⟩ := first
    intro nested
    rw [(fromData_ok one).2.1, JsonFields.get] at nested
    cases found : Dict.lookup "value" data with
    | none =>
      rw [found] at nested
      cases nested
    | some value =>
      rw [found] at nested
      obtain rfl : value = _ := nested
      exact lookup_ne_nested found

end ContentBlock

/-- Where every element of a list reads as a block, every element is spelled as one. -/
def SpelledInput [PythonText] (value : JsonValue) : Prop :=
  ∀ items, value = .arr items → (∃ blocks, ContentBlock.fromItems items = .ok blocks) →
    ∀ data, .obj data ∈ items → SpelledAsBlock data

/-- The blocks carry a value if and only if no element of a list of blocks has anything beside the
fields of a block. -/
theorem contentInput_carries_iff [PythonText] (value : JsonValue) :
    CarriesInput value (contentInput value) ↔ SpelledInput value := by
  have whole : CarriesInput value [ContentBlock.json value] := .inl ⟨_, rfl, rfl, rfl⟩
  cases value with
  | arr items =>
    cases read : ContentBlock.fromItems items with
    | error error =>
      have single : contentInput (.arr items) = [ContentBlock.json (.arr items)] := by
        rw [contentInput, read]
      rw [single]
      refine ⟨fun _ others same ok => ?_, fun _ => whole⟩
      obtain rfl := JsonValue.arr.inj same
      obtain ⟨blocks, ok⟩ := ok
      rw [read] at ok
      cases ok
    | ok blocks =>
      have each := ContentBlock.fromItems_ok read
      cases blocks with
      | nil =>
        have single : contentInput (.arr items) = [ContentBlock.json (.arr items)] := by
          rw [contentInput, read]
        rw [single]
        refine ⟨fun _ others same _ data member => ?_, fun _ => whole⟩
        obtain rfl := JsonValue.arr.inj same
        cases each
        cases member
      | cons block blocks =>
        have several : contentInput (.arr items) = block :: blocks := by
          rw [contentInput, read]
        rw [several]
        constructor
        · rintro (⟨only, same, -, nested⟩ | ⟨others, same, carried⟩)
          · obtain ⟨rfl, rfl⟩ := List.cons.inj same
            exact absurd nested (ContentBlock.block_ne_nested each)
          · obtain rfl := JsonValue.arr.inj same
            intro others same _ data member
            obtain rfl := JsonValue.arr.inj same
            exact (ContentBlock.carriesElements_iff each).mp carried data member
        · intro spelled
          exact .inr ⟨items, rfl, (ContentBlock.carriesElements_iff each).mpr
            (spelled items rfl ⟨_, read⟩)⟩
  | _ =>
    refine ⟨fun _ others same => ?_, fun _ => whole⟩
    cases same

namespace ContentBlocks

/-- The texts of booleans; no other conversion is made below. -/
@[reducible] def booleanText : PythonText where
  text value :=
    match value with
    | .bool true => "True"
    | .bool false => "False"
    | _ => "None"

/-- One element of a list, which looks like a text block and has a score. -/
def scoredInput : JsonValue :=
  .arr [.obj [("kind", .str "text"), ("value", .str "draft"), ("score", .int 7)]]

end ContentBlocks

open ContentBlocks in
/-- The score does not reach the agent. -/
theorem contentInput_drops_score :
    ¬ CarriesInput scoredInput (@contentInput booleanText scoredInput) := by
  obtain ⟨text, read, isText, unscored⟩ : ∃ block, @contentInput booleanText scoredInput = [block] ∧
      block.kind = .text ∧ Dict.lookup "score" block.fields = none := ⟨_, rfl, rfl, rfl⟩
  rw [read]
  rintro (⟨block, same, isJson, -⟩ | ⟨items, same, carried⟩)
  · obtain rfl := (List.cons.inj same).1
    rw [isText] at isJson
    cases isJson
  · obtain rfl := JsonValue.arr.inj same
    cases carried with
    | cons first rest =>
      obtain ⟨data, same, kept, -⟩ := first
      obtain rfl := JsonValue.obj.inj same
      have score := kept "score" (.int 7) rfl
      rw [unscored] at score
      cases score

end CongeriesCore
