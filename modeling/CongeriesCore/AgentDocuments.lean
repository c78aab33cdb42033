import CongeriesCore.BindingDocuments

/-! # Agent documents

How a specification is written and read. The first version writes a capability as the resource it
names; the second version writes all of it. -/

namespace CongeriesCore

open JsonValue

/-! ## Capability references -/

/-- `set(data) != set(expected)` raises. -/
def requireKeySet (data : JsonFields) (expected : List String) (message : String) :
    Except Raised Unit :=
  requireValue (expected.all (fun key => (Dict.lookup key data).isSome) &&
    data.all fun field => expected.contains field.1) message

theorem JsonFields.Spells.requireKeySet {fields data : JsonFields} (spells : data.Spells fields)
    (message : String) : requireKeySet data (fields.map Prod.fst) message = .ok () := by
  have keys : JsonFields.requireKeys data (fields.map Prod.fst) "" = .ok () := spells.requireKeys
  rw [JsonFields.requireKeys, requireValue_eq_ok] at keys
  rw [CongeriesCore.requireKeySet, requireValue_eq_ok]
  exact keys

namespace CapabilityRef

def toData (ref : CapabilityRef) : JsonValue :=
  .obj [("namespace", .str ref.namespace_), ("kind", .str ref.kind), ("id", .str ref.id.value),
    ("owning_extension", .str ref.owningExtension), ("contract_version", .str ref.contractVersion)]

/-- `_string`. -/
def string (data : JsonFields) (fieldName : String) : Except Raised String := do
  match ← data.item fieldName with
  | .str text => .ok text
  | _ => .error (.value ("capability reference " ++ fieldName ++ " must be a string"))

def fromData (data : JsonFields) : Except Raised CapabilityRef := do
  requireKeySet data ["namespace", "kind", "id", "owning_extension", "contract_version"]
    "capability reference fields are invalid"
  let namespace_ ← string data "namespace"
  let kind ← string data "kind"
  let id ← Identifier.make .resource (← string data "id")
  let owningExtension ← string data "owning_extension"
  let contractVersion ← string data "contract_version"
  make namespace_ kind id owningExtension contractVersion

theorem make_self (ref : CapabilityRef) :
    make ref.namespace_ ref.kind ref.id ref.owningExtension ref.contractVersion = .ok ref := by
  rw [make, dif_pos ref.valid.1, dif_pos ref.valid.2.1, dif_pos ref.valid.2.2.1,
    dif_pos ref.valid.2.2.2]

theorem string_spelled {fields data : JsonFields} (spells : data.Spells fields) {key text : String}
    (found : Dict.lookup key fields = some (.str text)) : string data key = .ok text := by
  obtain ⟨other, there, same⟩ := spells.item found
  rw [string, there, same.str_inv]
  rfl

theorem decodes : Decodes fromData toData where
  object _ := ⟨_, rfl⟩
  reads ref data reordered := by
    have spells : data.Spells _ := ⟨by simp, reordered⟩
    have keys : requireKeySet data
        ["namespace", "kind", "id", "owning_extension", "contract_version"]
        "capability reference fields are invalid" = .ok () := spells.requireKeySet _
    have namespaceText : string data "namespace" = .ok ref.namespace_ := string_spelled spells rfl
    have kindText : string data "kind" = .ok ref.kind := string_spelled spells rfl
    have idText : string data "id" = .ok ref.id.value := string_spelled spells rfl
    have owner : string data "owning_extension" = .ok ref.owningExtension :=
      string_spelled spells rfl
    have version : string data "contract_version" = .ok ref.contractVersion :=
      string_spelled spells rfl
    simp only [fromData, keys, namespaceText, kindText, idText, owner, version, ok_bind,
      Identifier.make_self]
    exact ref.make_self

theorem make_ok {namespace_ kind owningExtension contractVersion : String} {id : ResourceId}
    {ref : CapabilityRef}
    (made : make namespace_ kind id owningExtension contractVersion = .ok ref) :
    ref.namespace_ = namespace_ ∧ ref.kind = kind ∧ ref.id = id ∧
      ref.owningExtension = owningExtension ∧ ref.contractVersion = contractVersion := by
  unfold make at made
  split at made
  · split at made
    · split at made
      · split at made
        · cases made
          exact ⟨rfl, rfl, rfl, rfl, rfl⟩
        · cases made
      · cases made
    · cases made
  · cases made

/-- What is made of a resource has its names, its owner and the version given. -/
theorem fromResource_ok {resource : ResourceRef} {contractVersion : String} {ref : CapabilityRef}
    (made : fromResource resource contractVersion = .ok ref) :
    ref.namespace_ = resource.namespace_ ∧ ref.kind = resource.kind ∧ ref.id = resource.id ∧
      some ref.owningExtension = resource.owningExtension ∧
        ref.contractVersion = contractVersion := by
  unfold fromResource at made
  cases owned : resource.owningExtension with
  | none =>
    rw [owned] at made
    cases made
  | some owner =>
    rw [owned] at made
    obtain ⟨names, kinds, ids, owners, versions⟩ := make_ok made
    exact ⟨names, kinds, ids, congrArg some owners, versions⟩

theorem fromResource_resource (ref : CapabilityRef) :
    fromResource ref.resource ref.contractVersion = .ok ref :=
  ref.make_self

end CapabilityRef

/-! ## Specifications -/

namespace AgentReference

def toData : AgentReference → JsonValue
  | .capability ref => ref.toData
  | .resource ref => ref.toData

/-- `_reference_data`. -/
def written (contractVersion : String) (ref : AgentReference) : Except Raised JsonValue :=
  if contractVersion == "1" then
    match ref with
    | .capability ref => .ok ref.resource.toData
    | .resource ref => .ok ref.toData
  else
    match ref with
    | .capability ref => .ok ref.toData
    | .resource _ => .error (.assertion "AgentSpec v2 contains an unversioned reference")

/-- `parse_ref(as_object(item))`. -/
def read (contractVersion fieldName : String) (item : JsonValue) : Except Raised AgentReference :=
  if contractVersion == "2" then
    do return .capability (← item.readObject fieldName CapabilityRef.fromData)
  else
    do return .resource (← item.readObject fieldName ResourceRef.fromData)

/-- What is written of the reference. -/
def carried (contractVersion : String) : AgentReference → AgentReference
  | .capability ref =>
    if contractVersion == "1" then .resource ref.resource else .capability ref
  | .resource ref => .resource ref

end AgentReference

namespace AgentSpec

def toFields (spec : AgentSpec) : Except Raised JsonFields := do
  let skillRefs ← spec.skillRefs.mapM (AgentReference.written spec.contractVersion)
  let toolRefs ← spec.toolRefs.mapM (AgentReference.written spec.contractVersion)
  let data : JsonFields :=
    [("agent_id", .str spec.agentId.value), ("definition_id", .str spec.definitionId.value),
      ("instructions", .arr (spec.instructions.map ContentBlock.toData)),
      ("skill_refs", .arr skillRefs), ("tool_refs", .arr toolRefs),
      ("context_binding", spec.contextBinding.toData),
      ("policy_ref", .ofOption ResourceRef.toData spec.policyRef),
      ("model_binding", spec.modelBinding.toData)]
  return if spec.contractVersion == "2" then ("contract_version", .str "2") :: data else data

def expectedKeys (contractVersion : String) : List String :=
  (if contractVersion == "2" then ["contract_version"] else []) ++
    ["agent_id", "definition_id", "instructions", "skill_refs", "tool_refs", "context_binding",
      "policy_ref", "model_binding"]

def fromData [PythonText] (data : JsonFields) : Except Raised AgentSpec := do
  let contractVersion := (data.getOr "contract_version" (.str "1")).pythonText
  requireKeySet data (expectedKeys contractVersion) "AgentSpec fields are invalid"
  let agentId ← data.pythonId .agent "agent_id"
  let definitionId ← data.pythonId .definition "definition_id"
  let instructions ← data.each "instructions" "Agent instructions"
    (JsonValue.readObject "Agent instruction" ContentBlock.fromData)
  let skillRefs ← data.each "skill_refs" "Skill references"
    (AgentReference.read contractVersion "Skill reference")
  let toolRefs ← data.each "tool_refs" "Tool references"
    (AgentReference.read contractVersion "Tool reference")
  let contextBinding ← data.nested "context_binding" "Context binding" ContextBinding.fromData
  let policyRef ← data.nestedIf "policy_ref" "Policy reference" ResourceRef.fromData
  let modelBinding ← data.nested "model_binding" "Model binding" ModelBinding.fromData
  make ⟨agentId, definitionId, instructions, contextBinding, modelBinding, skillRefs, toolRefs,
    policyRef, contractVersion⟩

/-- What is read of the written specification. -/
def recoded [PythonText] (spec : AgentSpec) : Except Raised AgentSpec := do
  fromData (← spec.toFields)

end AgentSpec

/-! ## What is read of a written specification -/

theorem ContentBlock.make_self (block : ContentBlock) :
    make block.kind block.value block.name block.mediaType = .ok block := by
  have typed : block.kind = .json ∨ block.value.isText = true :=
    block.valid.1.imp id isText_iff.mpr
  rw [make, dif_pos typed, dif_pos block.valid.2.1, dif_pos block.valid.2.2]

theorem ContentBlock.optionalText_fields [PythonText] {fields : JsonFields} {key : String}
    {text : Option String} (found : Dict.lookup key fields = some (.ofOption .str text)) :
    optionalText fields key = text := by
  rw [optionalText, JsonFields.get, found]
  cases text <;> rfl

theorem ContentBlock.fromData_fields [PythonText] (block : ContentBlock) :
    fromData block.fields = .ok block := by
  have kind : JsonFields.item block.fields "kind" = .ok (.str block.kind.value) := rfl
  have value : JsonFields.get block.fields "value" = block.value := rfl
  have name : optionalText block.fields "name" = block.name := optionalText_fields rfl
  have media : optionalText block.fields "media_type" = block.mediaType := optionalText_fields rfl
  simp only [fromData, kind, value, name, media, ok_bind, JsonValue.pythonText,
    ContentKind.ofValue_value]
  exact block.make_self

namespace AgentReference

theorem written_eq {contractVersion : String} {ref : AgentReference}
    (versioned : contractVersion = "1" ∨ ref.isCapability = true) :
    written contractVersion ref = .ok (ref.carried contractVersion).toData := by
  cases ref with
  | capability ref =>
    unfold written carried
    split <;> rfl
  | resource ref =>
    rcases versioned with rfl | never
    · rfl
    · cases never

theorem read_toData {contractVersion fieldName : String} {ref : AgentReference}
    (supported : contractVersion = "1" ∨ contractVersion = "2" ∧ ref.isCapability = true) :
    read contractVersion fieldName (ref.carried contractVersion).toData =
      .ok (ref.carried contractVersion) := by
  rcases supported with rfl | ⟨rfl, versioned⟩
  · have reads (resource : ResourceRef) :
        resource.toData.readObject fieldName ResourceRef.fromData = .ok resource :=
      ResourceRef.decodes.encoded fieldName resource
    cases ref with
    | capability ref =>
      change (do return resource (← ref.resource.toData.readObject fieldName _)) = _
      rw [reads]
      rfl
    | resource ref =>
      change (do return resource (← ref.toData.readObject fieldName _)) = _
      rw [reads]
      rfl
  · cases ref with
    | capability ref =>
      change (do return capability (← ref.toData.readObject fieldName _)) = _
      rw [CapabilityRef.decodes.encoded fieldName ref]
      rfl
    | resource ref => cases versioned

theorem carried_eq_iff {contractVersion : String} {ref : AgentReference} :
    ref.carried contractVersion = ref ↔ (contractVersion = "1" → ref.isCapability = false) := by
  cases ref with
  | capability ref =>
    by_cases first : contractVersion = "1"
    · simp [carried, first, isCapability]
    · simp [carried, first]
  | resource ref => simp [carried, isCapability]

end AgentReference

namespace AgentSpec

def references (spec : AgentSpec) : List AgentReference := spec.skillRefs ++ spec.toolRefs

theorem make_self (spec : AgentSpec) : make spec.toAgentSpecFields = .ok spec := by
  unfold make
  split
  · rfl
  · rename_i refused
    rw [spec.checked] at refused
    cases refused

theorem make_ok {fields : AgentSpecFields} {spec : AgentSpec} (made : make fields = .ok spec) :
    spec.toAgentSpecFields = fields := by
  unfold make at made
  split at made
  · cases made
    rfl
  · cases made

/-- The checks that a specification has passed. -/
theorem check_ok {fields : AgentSpecFields} : fields.check = .ok () ↔
    (fields.contractVersion = "1" ∨ fields.contractVersion = "2") ∧ fields.instructions ≠ [] ∧
      (fields.skillRefs.map AgentReference.key).Nodup ∧
      (fields.toolRefs.map AgentReference.key).Nodup ∧
      (∀ ref ∈ fields.skillRefs, ref.kind = "skill") ∧
      (∀ ref ∈ fields.toolRefs, ref.kind = "tool") ∧
      (fields.contractVersion = "2" →
        ∀ ref ∈ fields.skillRefs ++ fields.toolRefs, ref.isCapability = true) := by
  constructor
  · intro checked
    obtain ⟨_, version, checked⟩ := bind_ok checked
    obtain ⟨_, given, checked⟩ := bind_ok checked
    obtain ⟨_, skills, checked⟩ := bind_ok checked
    obtain ⟨_, tools, checked⟩ := bind_ok checked
    obtain ⟨_, skillKind, checked⟩ := bind_ok checked
    obtain ⟨_, toolKind, versioned⟩ := bind_ok checked
    rw [requireValue_eq_ok] at version given skills tools skillKind toolKind versioned
    refine ⟨by simpa using version, by simpa using given, of_decide_eq_true skills,
      of_decide_eq_true tools, by simpa using skillKind, by simpa using toolKind, ?_⟩
    intro second ref member
    simp only [second, beq_self_eq_true, Bool.true_and, Bool.not_eq_true', List.any_eq_false] at versioned
    exact eq_true_of_ne_false (versioned ref member)
  · rintro ⟨version, given, skills, tools, skillKind, toolKind, versioned⟩
    have checks (condition : Bool) (message : String) (holds : condition = true) :
        requireValue condition message = .ok () := requireValue_eq_ok.mpr holds
    unfold AgentSpecFields.check
    rw [checks _ _ (by simpa using version), checks _ _ (by simpa using given),
      checks _ _ (decide_eq_true skills), checks _ _ (decide_eq_true tools),
      checks _ _ (by simpa using skillKind), checks _ _ (by simpa using toolKind)]
    apply checks
    by_cases second : fields.contractVersion = "2"
    · simp only [second, beq_self_eq_true, Bool.true_and, Bool.not_eq_true', List.any_eq_false]
      intro ref member
      exact ne_false_of_eq_true (versioned second ref member)
    · simp [second]

variable (spec : AgentSpec)

/-- The fields with what is written of the references. -/
def carriedFields : AgentSpecFields :=
  { spec.toAgentSpecFields with
    skillRefs := spec.skillRefs.map (AgentReference.carried spec.contractVersion)
    toolRefs := spec.toolRefs.map (AgentReference.carried spec.contractVersion) }

theorem supported {ref : AgentReference} (member : ref ∈ spec.references) :
    spec.contractVersion = "1" ∨ spec.contractVersion = "2" ∧ ref.isCapability = true := by
  obtain ⟨version, -, -, -, -, -, versioned⟩ := check_ok.mp spec.checked
  rcases version with first | second
  · exact .inl first
  · exact .inr ⟨second, versioned second ref member⟩

theorem written_references {refs : List AgentReference} (some_ : ∀ ref ∈ refs, ref ∈ spec.references) :
    refs.mapM (AgentReference.written spec.contractVersion) =
      .ok (refs.map fun ref => (ref.carried spec.contractVersion).toData) := by
  have each := @mapM_written _ _ _ _ id (AgentReference.written spec.contractVersion)
    (fun ref => (ref.carried spec.contractVersion).toData) refs fun ref member =>
      AgentReference.written_eq ((spec.supported (some_ ref member)).imp id And.right)
  rwa [List.map_id] at each

/-- The fields that both versions have. -/
def bodyFields : JsonFields :=
  [("agent_id", .str spec.agentId.value), ("definition_id", .str spec.definitionId.value),
    ("instructions", .arr (spec.instructions.map ContentBlock.toData)),
    ("skill_refs", .arr (spec.skillRefs.map fun ref =>
      (ref.carried spec.contractVersion).toData)),
    ("tool_refs", .arr (spec.toolRefs.map fun ref =>
      (ref.carried spec.contractVersion).toData)),
    ("context_binding", spec.contextBinding.toData),
    ("policy_ref", .ofOption ResourceRef.toData spec.policyRef),
    ("model_binding", spec.modelBinding.toData)]

def document : JsonFields :=
  if spec.contractVersion == "2" then ("contract_version", .str "2") :: spec.bodyFields
  else spec.bodyFields

theorem toFields_eq : spec.toFields = .ok spec.document := by
  have skills : spec.skillRefs.mapM (AgentReference.written spec.contractVersion) = _ :=
    spec.written_references fun _ => List.mem_append_left _
  have tools : spec.toolRefs.mapM (AgentReference.written spec.contractVersion) = _ :=
    spec.written_references fun _ => List.mem_append_right _
  rw [toFields, skills, tools]
  rfl

theorem lookup_document {key : String} (other : "contract_version" ≠ key) :
    Dict.lookup key spec.document = Dict.lookup key spec.bodyFields := by
  unfold document
  split
  · rw [Dict.lookup, if_neg other]
  · rfl

theorem document_keys : spec.document.map Prod.fst = expectedKeys spec.contractVersion := by
  unfold document expectedKeys
  split <;> rfl

/-- What is read of the document has the references as they were written. -/
theorem recoded_eq [PythonText] : spec.recoded = make spec.carriedFields := by
  have body {key : String} {value : JsonValue} (other : "contract_version" ≠ key)
      (found : Dict.lookup key spec.bodyFields = some value) :
      Dict.lookup key spec.document = some value := by
    rw [spec.lookup_document other, found]
  have nodup : (spec.document.map Prod.fst).Nodup := by
    rw [document_keys, expectedKeys]
    split <;> decide
  have spells : JsonFields.Spells spec.document spec.document := ⟨nodup, .same _⟩
  have version : (JsonFields.getOr spec.document "contract_version" (.str "1")).pythonText =
      spec.contractVersion := by
    unfold document
    rcases (check_ok.mp spec.checked).1 with first | second
    · rw [first]
      rfl
    · rw [second]
      rfl
  have keys : requireKeySet spec.document (expectedKeys spec.contractVersion)
      "AgentSpec fields are invalid" = .ok () := by
    rw [← document_keys]
    exact spells.requireKeySet _
  have agent : JsonFields.pythonId .agent spec.document "agent_id" = .ok spec.agentId :=
    spells.pythonId (body (by decide) rfl)
  have definition : JsonFields.pythonId .definition spec.document "definition_id" =
      .ok spec.definitionId := spells.pythonId (body (by decide) rfl)
  have each {α β : Type} {read : JsonValue → Except Raised β} {write : α → JsonValue}
      {value : α → β} {items : List α} {key fieldName : String} (other : "contract_version" ≠ key)
      (found : Dict.lookup key spec.bodyFields = some (.arr (items.map write)))
      (reads : ∀ item ∈ items, read (write item) = .ok (value item)) :
      JsonFields.each spec.document key fieldName read = .ok (items.map value) := by
    rw [JsonFields.each, JsonFields.item, body other found]
    exact mapM_written reads
  have instructions : JsonFields.each spec.document "instructions" "Agent instructions"
      (JsonValue.readObject "Agent instruction" ContentBlock.fromData) = .ok spec.instructions := by
    rw [@each _ _ _ ContentBlock.toData id spec.instructions _ _ (by decide) rfl fun block _ =>
      block.fromData_fields, List.map_id]
  have skills : JsonFields.each spec.document "skill_refs" "Skill references"
      (AgentReference.read spec.contractVersion "Skill reference") =
        .ok (spec.skillRefs.map (AgentReference.carried spec.contractVersion)) :=
    each (by decide) rfl fun ref member =>
      AgentReference.read_toData (spec.supported (List.mem_append_left _ member))
  have tools : JsonFields.each spec.document "tool_refs" "Tool references"
      (AgentReference.read spec.contractVersion "Tool reference") =
        .ok (spec.toolRefs.map (AgentReference.carried spec.contractVersion)) :=
    each (by decide) rfl fun ref member =>
      AgentReference.read_toData (spec.supported (List.mem_append_right _ member))
  have context : JsonFields.nested spec.document "context_binding" "Context binding"
      ContextBinding.fromData = .ok spec.contextBinding :=
    spells.nested ContextBinding.decodes (body (by decide) rfl)
  have policy : JsonFields.nestedIf spec.document "policy_ref" "Policy reference"
      ResourceRef.fromData = .ok spec.policyRef :=
    spells.nestedIf ResourceRef.decodes (body (by decide) rfl)
  have model : JsonFields.nested spec.document "model_binding" "Model binding"
      ModelBinding.fromData = .ok spec.modelBinding :=
    spells.nested ModelBinding.decodes (body (by decide) rfl)
  rw [recoded, toFields_eq]
  simp only [ok_bind, fromData, version, keys, agent, definition, instructions, skills, tools,
    context, policy, model]
  rfl

/-- A specification is read back as it was unless the first version wrote a capability. -/
theorem recoded_eq_iff [PythonText] : spec.recoded = .ok spec ↔
    (spec.contractVersion = "1" → ∀ ref ∈ spec.references, ref.isCapability = false) := by
  have same : spec.recoded = .ok spec ↔ ∀ ref ∈ spec.references,
      ref.carried spec.contractVersion = ref := by
    rw [recoded_eq]
    constructor
    · intro made
      have fields := make_ok made
      have skills := congrArg AgentSpecFields.skillRefs fields
      have tools := congrArg AgentSpecFields.toolRefs fields
      intro ref member
      rcases List.mem_append.mp member with skill | tool
      · exact map_eq_self.mp skills.symm ref skill
      · exact map_eq_self.mp tools.symm ref tool
    · intro each
      have skills : spec.skillRefs.map (AgentReference.carried spec.contractVersion) =
          spec.skillRefs :=
        map_eq_self.mpr fun ref member => each ref (List.mem_append_left _ member)
      have tools : spec.toolRefs.map (AgentReference.carried spec.contractVersion) =
          spec.toolRefs :=
        map_eq_self.mpr fun ref member => each ref (List.mem_append_right _ member)
      rw [carriedFields, skills, tools]
      exact spec.make_self
  rw [same]
  constructor
  · intro each first ref member
    exact AgentReference.carried_eq_iff.mp (each ref member) first
  · intro plain ref member
    exact AgentReference.carried_eq_iff.mpr fun first => plain first ref member

end AgentSpec

end CongeriesCore
