import CongeriesCore.AgentModel
import CongeriesCore.ReferenceReading

/-! # Documents of bindings

How the context binding and the model binding of an Agent are written and read. -/

namespace CongeriesCore

open JsonValue

/-! ## Fields -/

namespace JsonFields

variable {α : Type}

/-- `bool(data[key])`. -/
def truth (data : JsonFields) (key : String) : Except Raised Bool :=
  do return (← data.item key).truthy

/-- `as_int(data.get(key)) if data.get(key) is not None else None`. -/
def intUnlessNone (data : JsonFields) (key : String) : Except Raised (Option ℤ) :=
  if (data.get key).isNone then .ok none else do return some (← (data.get key).asInt key)

/-- `Kind(str(data[key]))`. -/
def pythonId [PythonText] (kind : IdKind) (data : JsonFields) (key : String) :
    Except Raised (Identifier kind) := do
  Identifier.make kind (← data.pythonText key)

variable {fields data : JsonFields} (spells : data.Spells fields) {key : String}

include spells

theorem Spells.truth {flag : Bool} (found : Dict.lookup key fields = some (.bool flag)) :
    data.truth key = .ok flag := by
  obtain ⟨other, there, same⟩ := spells.item found
  rw [JsonFields.truth, there]
  cases same
  rfl

theorem Spells.intUnlessNone {number : Option ℤ}
    (found : Dict.lookup key fields = some (.ofOption .int number)) :
    data.intUnlessNone key = .ok number := by
  have same := spells.get found
  rw [JsonFields.intUnlessNone]
  cases number with
  | none =>
    rw [ofOption] at same
    rw [same.null_inv]
    rfl
  | some number =>
    rw [ofOption] at same
    rw [same.int_inv]
    rfl

theorem Spells.pythonId [PythonText] {kind : IdKind} {id : Identifier kind}
    (found : Dict.lookup key fields = some (.str id.value)) :
    data.pythonId kind key = .ok id := by
  rw [JsonFields.pythonId, spells.pythonText found]
  exact id.make_self

end JsonFields

/-- `Kind(str(item))`. -/
def JsonValue.pythonId [PythonText] (kind : IdKind) (item : JsonValue) :
    Except Raised (Identifier kind) :=
  Identifier.make kind item.pythonText

theorem JsonValue.pythonId_reordered [PythonText] {kind : IdKind} (id : Identifier kind)
    (other : JsonValue) (reordered : Reordered (.str id.value) other) :
    other.pythonId kind = .ok id := by
  rw [reordered.str_inv]
  exact id.make_self

/-- A limit as its constructor takes it: not below 1. -/
def positiveLimit (message : String) (limit : Option ℤ) : Except Raised (Option ℕ) := do
  requireValue (limit.all (1 ≤ ·)) message
  return limit.map Int.toNat

theorem positiveLimit_natCast {message : String} {limit : Option ℕ}
    (positive : limit.all (1 ≤ ·) = true) :
    positiveLimit message (limit.map Nat.cast) = .ok limit := by
  have checked : requireValue ((limit.map (Nat.cast : ℕ → ℤ)).all (1 ≤ ·)) message = .ok () := by
    rw [requireValue_eq_ok]
    cases limit with
    | none => rfl
    | some limit =>
      have least := of_decide_eq_true positive
      exact decide_eq_true (by omega)
  have back : (limit.map (Nat.cast : ℕ → ℤ)).map Int.toNat = limit := by
    cases limit <;> simp
  rw [positiveLimit, checked, back]
  rfl

/-! ## Context bindings -/

namespace ContextKey

theorem both_named {namespace_ name : String} (first : isName namespace_ = true)
    (second : isName name = true) : isName namespace_ = true ∧ isName name = true :=
  ⟨first, second⟩

def make (namespace_ name : String) : Except Raised ContextKey :=
  if first : isName namespace_ = true then
    if second : isName name = true then .ok ⟨namespace_, name, both_named first second⟩
    else .error (.value "context key name is invalid")
  else .error (.value "context key namespace is invalid")

def toData (key : ContextKey) : JsonValue :=
  .obj [("namespace", .str key.namespace_), ("name", .str key.name)]

def fromData [PythonText] (data : JsonFields) : Except Raised ContextKey := do
  let namespace_ ← data.pythonText "namespace"
  let name ← data.pythonText "name"
  make namespace_ name

theorem decodes [PythonText] : Decodes fromData toData where
  object _ := ⟨_, rfl⟩
  reads key data reordered := by
    have spells : data.Spells _ := ⟨by simp, reordered⟩
    have namespaceText : JsonFields.pythonText data "namespace" = .ok key.namespace_ :=
      spells.pythonText rfl
    have nameText : JsonFields.pythonText data "name" = .ok key.name := spells.pythonText rfl
    rw [fromData, namespaceText, nameText]
    change make _ _ = _
    rw [make, dif_pos key.named.1, dif_pos key.named.2]

end ContextKey

namespace ContextRequirement

def toData (requirement : ContextRequirement) : JsonValue :=
  .obj [("key", requirement.key.toData), ("schema", requirement.schema.toData)]

def fromData [PythonText] (data : JsonFields) : Except Raised ContextRequirement := do
  let key ← data.nested "key" "context key" ContextKey.fromData
  let schema ← data.nested "schema" "context schema" SchemaRef.fromData
  return ⟨key, schema⟩

theorem decodes [PythonText] : Decodes fromData toData where
  object _ := ⟨_, rfl⟩
  reads requirement data reordered := by
    have spells : data.Spells _ := ⟨by simp, reordered⟩
    have key : JsonFields.nested data "key" "context key" ContextKey.fromData =
        .ok requirement.key := spells.nested ContextKey.decodes rfl
    have schema : JsonFields.nested data "schema" "context schema" SchemaRef.fromData =
        .ok requirement.schema := spells.nested SchemaRef.decodes rfl
    rw [fromData, key, schema]
    rfl

end ContextRequirement

namespace ContextBudget

def toData (budget : ContextBudget) : JsonValue :=
  .obj [("max_bytes", .ofOption .int (budget.maxBytes.map Nat.cast)),
    ("max_tokens", .ofOption .int (budget.maxTokens.map Nat.cast))]

def fromData (data : JsonFields) : Except Raised ContextBudget := do
  let rawBytes ← data.intUnlessNone "max_bytes"
  let rawTokens ← data.intUnlessNone "max_tokens"
  let maxBytes ← positiveLimit "context max_bytes must be positive" rawBytes
  let maxTokens ← positiveLimit "context max_tokens must be positive" rawTokens
  make maxBytes maxTokens

theorem decodes : Decodes fromData toData where
  object _ := ⟨_, rfl⟩
  reads budget data reordered := by
    have spells : data.Spells _ := ⟨by simp, reordered⟩
    have bytes : JsonFields.intUnlessNone data "max_bytes" =
        .ok (budget.maxBytes.map Nat.cast) := spells.intUnlessNone rfl
    have tokens : JsonFields.intUnlessNone data "max_tokens" =
        .ok (budget.maxTokens.map Nat.cast) := spells.intUnlessNone rfl
    simp only [fromData, bytes, tokens, ok_bind, positiveLimit_natCast budget.positive.1,
      positiveLimit_natCast budget.positive.2]
    rw [make, dif_pos budget.positive.1, dif_pos budget.positive.2]

end ContextBudget

/-- `ContextMergeStrategy(value)`. -/
def ContextMergeStrategy.ofValue (value : String) : Except Raised ContextMergeStrategy :=
  match value with
  | "single" => .ok .single
  | "first_success" => .ok .firstSuccess
  | "merge" => .ok .merge
  | "all" => .ok .all
  | _ => .error (.value "not a valid ContextMergeStrategy")

def ContextCompletenessPolicy.value : ContextCompletenessPolicy → String
  | .requireComplete => "require_complete"
  | .allowPartial => "allow_partial"

/-- `ContextCompletenessPolicy(value)`. -/
def ContextCompletenessPolicy.ofValue (value : String) : Except Raised ContextCompletenessPolicy :=
  match value with
  | "require_complete" => .ok .requireComplete
  | "allow_partial" => .ok .allowPartial
  | _ => .error (.value "not a valid ContextCompletenessPolicy")

@[simp] theorem ContextMergeStrategy.ofValue_value (strategy : ContextMergeStrategy) :
    ofValue strategy.value = .ok strategy := by
  cases strategy <;> rfl

@[simp] theorem ContextCompletenessPolicy.ofValue_value (policy : ContextCompletenessPolicy) :
    ofValue policy.value = .ok policy := by
  cases policy <;> rfl

namespace ContextBinding

def make (providerIds : List ProviderId) (requirements : List ContextRequirement)
    (mergeStrategy : ContextMergeStrategy) (completenessPolicy : ContextCompletenessPolicy)
    (budget : ContextBudget) : Except Raised ContextBinding :=
  if provided : providerIds ≠ [] ∧ providerIds.Nodup then
    if required : requirements ≠ [] ∧ (requirements.map (·.key)).Nodup then
      .ok ⟨providerIds, requirements, mergeStrategy, completenessPolicy, budget, provided, required⟩
    else .error (.value "context binding requirements must be non-empty and unique")
  else .error (.value "context provider references must be non-empty and unique")

def toData (binding : ContextBinding) : JsonValue :=
  .obj [("provider_ids", .arr (binding.providerIds.map fun item => .str item.value)),
    ("requirements", .arr (binding.requirements.map ContextRequirement.toData)),
    ("merge_strategy", .str binding.mergeStrategy.value),
    ("completeness_policy", .str binding.completenessPolicy.value),
    ("budget", binding.budget.toData)]

def fromData [PythonText] (data : JsonFields) : Except Raised ContextBinding := do
  let providerIds ← data.each "provider_ids" "context provider ids" (JsonValue.pythonId .provider)
  let requirements ← data.each "requirements" "context requirements"
    (JsonValue.readObject "context requirement" ContextRequirement.fromData)
  let mergeStrategy ← ContextMergeStrategy.ofValue (← data.pythonText "merge_strategy")
  let completenessPolicy ← ContextCompletenessPolicy.ofValue (← data.pythonText "completeness_policy")
  let budget ← data.nested "budget" "context budget" ContextBudget.fromData
  make providerIds requirements mergeStrategy completenessPolicy budget

theorem decodes [PythonText] : Decodes fromData toData where
  object _ := ⟨_, rfl⟩
  reads binding data reordered := by
    have spells : data.Spells _ := ⟨by simp, reordered⟩
    have providers : JsonFields.each data "provider_ids" "context provider ids"
        (JsonValue.pythonId .provider) = .ok binding.providerIds :=
      spells.each JsonValue.pythonId_reordered rfl
    have requirements : JsonFields.each data "requirements" "context requirements"
        (JsonValue.readObject "context requirement" ContextRequirement.fromData) =
          .ok binding.requirements :=
      spells.each (fun _ _ => ContextRequirement.decodes.readObject _) rfl
    have strategy : JsonFields.pythonText data "merge_strategy" =
        .ok binding.mergeStrategy.value := spells.pythonText rfl
    have policy : JsonFields.pythonText data "completeness_policy" =
        .ok binding.completenessPolicy.value := spells.pythonText rfl
    have budget : JsonFields.nested data "budget" "context budget" ContextBudget.fromData =
        .ok binding.budget := spells.nested ContextBudget.decodes rfl
    simp only [fromData, providers, requirements, strategy, policy, budget, ok_bind,
      ContextMergeStrategy.ofValue_value, ContextCompletenessPolicy.ofValue_value]
    rw [make, dif_pos binding.unique.1, dif_pos binding.unique.2]

end ContextBinding

/-! ## Model bindings -/

namespace ModelSelector

def toData (selector : ModelSelector) : JsonValue :=
  .obj [("provider_id", .str selector.providerId.value), ("model_id", .str selector.modelId.value)]

def fromData [PythonText] (data : JsonFields) : Except Raised ModelSelector := do
  let providerId ← data.pythonId .provider "provider_id"
  let modelId ← data.pythonId .model "model_id"
  return ⟨providerId, modelId⟩

theorem decodes [PythonText] : Decodes fromData toData where
  object _ := ⟨_, rfl⟩
  reads selector data reordered := by
    have spells : data.Spells _ := ⟨by simp, reordered⟩
    have provider : JsonFields.pythonId .provider data "provider_id" = .ok selector.providerId :=
      spells.pythonId rfl
    have model : JsonFields.pythonId .model data "model_id" = .ok selector.modelId :=
      spells.pythonId rfl
    rw [fromData, provider, model]
    rfl

end ModelSelector

namespace ModelBudget

def toData (budget : ModelBudget) : JsonValue :=
  .obj [("max_input_units", .ofOption .int (budget.maxInputUnits.map Nat.cast)),
    ("max_output_units", .ofOption .int (budget.maxOutputUnits.map Nat.cast))]

def fromData (data : JsonFields) : Except Raised ModelBudget := do
  let rawInput ← data.intUnlessNone "max_input_units"
  let rawOutput ← data.intUnlessNone "max_output_units"
  let maxInputUnits ← positiveLimit "model max_input_units must be positive" rawInput
  let maxOutputUnits ← positiveLimit "model max_output_units must be positive" rawOutput
  make maxInputUnits maxOutputUnits

theorem decodes : Decodes fromData toData where
  object _ := ⟨_, rfl⟩
  reads budget data reordered := by
    have spells : data.Spells _ := ⟨by simp, reordered⟩
    have input : JsonFields.intUnlessNone data "max_input_units" =
        .ok (budget.maxInputUnits.map Nat.cast) := spells.intUnlessNone rfl
    have output : JsonFields.intUnlessNone data "max_output_units" =
        .ok (budget.maxOutputUnits.map Nat.cast) := spells.intUnlessNone rfl
    simp only [fromData, input, output, ok_bind, positiveLimit_natCast budget.positive.1,
      positiveLimit_natCast budget.positive.2]
    rw [make, dif_pos budget.positive.1, dif_pos budget.positive.2]

end ModelBudget

namespace ModelRequestPolicy

def toData (policy : ModelRequestPolicy) : JsonValue :=
  .obj [("allow_partial", .bool policy.allowPartial),
    ("allow_tool_requests", .bool policy.allowToolRequests)]

def fromData (data : JsonFields) : Except Raised ModelRequestPolicy := do
  let allowPartial ← data.truth "allow_partial"
  let allowToolRequests ← data.truth "allow_tool_requests"
  return ⟨allowPartial, allowToolRequests⟩

theorem decodes : Decodes fromData toData where
  object _ := ⟨_, rfl⟩
  reads policy data reordered := by
    have spells : data.Spells _ := ⟨by simp, reordered⟩
    have partly : JsonFields.truth data "allow_partial" = .ok policy.allowPartial :=
      spells.truth rfl
    have tools : JsonFields.truth data "allow_tool_requests" = .ok policy.allowToolRequests :=
      spells.truth rfl
    rw [fromData, partly, tools]
    rfl

end ModelRequestPolicy

/-- The kinds in the order of their values. -/
def sortedKinds (kinds : Finset ContentKind) : List ContentKind :=
  [.json, .reference, .text].filter (· ∈ kinds)

theorem toFinset_sortedKinds (kinds : Finset ContentKind) : (sortedKinds kinds).toFinset = kinds := by
  ext kind
  cases kind <;> simp [sortedKinds]

/-- `ContentKind(str(item))`. -/
def ContentKind.fromItem [PythonText] (item : JsonValue) : Except Raised ContentKind :=
  ofValue item.pythonText

theorem ContentKind.ofValue_value (kind : ContentKind) : ofValue kind.value = .ok kind := by
  cases kind <;> rfl

theorem ContentKind.fromItem_reordered [PythonText] (kind : ContentKind) (other : JsonValue)
    (reordered : Reordered (.str kind.value) other) : fromItem other = .ok kind := by
  rw [reordered.str_inv]
  exact kind.ofValue_value

namespace ModelCapabilityRequirements

def kindsToData (kinds : Finset ContentKind) : JsonValue :=
  .arr ((sortedKinds kinds).map fun kind => .str kind.value)

def toData (required : ModelCapabilityRequirements) : JsonValue :=
  .obj [("streaming", .bool required.streaming),
    ("structured_output", .bool required.structuredOutput),
    ("tool_calls", .bool required.toolCalls),
    ("input_kinds", kindsToData required.inputKinds),
    ("output_kinds", kindsToData required.outputKinds)]

def fromData [PythonText] (data : JsonFields) : Except Raised ModelCapabilityRequirements := do
  let streaming ← data.truth "streaming"
  let structuredOutput ← data.truth "structured_output"
  let toolCalls ← data.truth "tool_calls"
  let inputKinds ← data.each "input_kinds" "model input kinds" ContentKind.fromItem
  let outputKinds ← data.each "output_kinds" "model output kinds" ContentKind.fromItem
  return ⟨streaming, structuredOutput, toolCalls, inputKinds.toFinset, outputKinds.toFinset⟩

theorem decodes [PythonText] : Decodes fromData toData where
  object _ := ⟨_, rfl⟩
  reads required data reordered := by
    have spells : data.Spells _ := ⟨by simp, reordered⟩
    have streaming : JsonFields.truth data "streaming" = .ok required.streaming := spells.truth rfl
    have structured : JsonFields.truth data "structured_output" = .ok required.structuredOutput :=
      spells.truth rfl
    have tools : JsonFields.truth data "tool_calls" = .ok required.toolCalls := spells.truth rfl
    have input : JsonFields.each data "input_kinds" "model input kinds" ContentKind.fromItem =
        .ok (sortedKinds required.inputKinds) := spells.each ContentKind.fromItem_reordered rfl
    have output : JsonFields.each data "output_kinds" "model output kinds" ContentKind.fromItem =
        .ok (sortedKinds required.outputKinds) := spells.each ContentKind.fromItem_reordered rfl
    simp only [fromData, streaming, structured, tools, input, output, ok_bind,
      toFinset_sortedKinds]
    rfl

end ModelCapabilityRequirements

namespace ModelBinding

def make (ref : ModelBindingRef) (selector : ModelSelector) (required : ModelCapabilityRequirements)
    (defaultPolicy : ModelRequestPolicy) (defaultBudget : ModelBudget)
    (fallbacks : List ModelSelector) : Except Raised ModelBinding :=
  if unique : (selector :: fallbacks).Nodup then
    .ok ⟨ref, selector, required, defaultPolicy, defaultBudget, fallbacks, unique⟩
  else .error (.value "model binding selectors must be unique")

def toData (binding : ModelBinding) : JsonValue :=
  .obj [("ref", .str binding.ref.value), ("selector", binding.selector.toData),
    ("required", binding.required.toData), ("default_policy", binding.defaultPolicy.toData),
    ("default_budget", binding.defaultBudget.toData),
    ("fallbacks", .arr (binding.fallbacks.map ModelSelector.toData))]

def fromData [PythonText] (data : JsonFields) : Except Raised ModelBinding := do
  let ref ← data.pythonId .modelBinding "ref"
  let selector ← data.nested "selector" "model selector" ModelSelector.fromData
  let required ← data.nested "required" "model requirements" ModelCapabilityRequirements.fromData
  let defaultPolicy ← data.nested "default_policy" "model policy" ModelRequestPolicy.fromData
  let defaultBudget ← data.nested "default_budget" "model budget" ModelBudget.fromData
  let fallbacks ← data.each "fallbacks" "fallback model selectors"
    (JsonValue.readObject "fallback model selector" ModelSelector.fromData)
  make ref selector required defaultPolicy defaultBudget fallbacks

theorem decodes [PythonText] : Decodes fromData toData where
  object _ := ⟨_, rfl⟩
  reads binding data reordered := by
    have spells : data.Spells _ := ⟨by simp, reordered⟩
    have ref : JsonFields.pythonId .modelBinding data "ref" = .ok binding.ref :=
      spells.pythonId rfl
    have selector : JsonFields.nested data "selector" "model selector" ModelSelector.fromData =
        .ok binding.selector := spells.nested ModelSelector.decodes rfl
    have required : JsonFields.nested data "required" "model requirements"
        ModelCapabilityRequirements.fromData = .ok binding.required :=
      spells.nested ModelCapabilityRequirements.decodes rfl
    have policy : JsonFields.nested data "default_policy" "model policy"
        ModelRequestPolicy.fromData = .ok binding.defaultPolicy :=
      spells.nested ModelRequestPolicy.decodes rfl
    have budget : JsonFields.nested data "default_budget" "model budget" ModelBudget.fromData =
        .ok binding.defaultBudget := spells.nested ModelBudget.decodes rfl
    have fallbacks : JsonFields.each data "fallbacks" "fallback model selectors"
        (JsonValue.readObject "fallback model selector" ModelSelector.fromData) =
          .ok binding.fallbacks :=
      spells.each (fun _ _ => ModelSelector.decodes.readObject _) rfl
    simp only [fromData, ref, selector, required, policy, budget, fallbacks, ok_bind]
    rw [make, dif_pos binding.unique]

end ModelBinding

end CongeriesCore
