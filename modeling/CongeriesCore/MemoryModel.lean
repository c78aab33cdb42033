import CongeriesCore.CanonicalJson
import CongeriesCore.ContentBlocks
import CongeriesCore.GrantConstraints
import CongeriesCore.JsonEncoding

/-! # Memory contracts

What a memory provider is asked for and what it answers, and how a grant narrows a query or an
item. -/

namespace CongeriesCore

/-! ### Values -/

/-- `_require_unique_names`. -/
def areUniqueNames (values : List String) : Bool := values.all isTrimmed && decide values.Nodup

theorem areUniqueNames_filter {values : List String} (keep : String → Bool)
    (unique : areUniqueNames values = true) : areUniqueNames (values.filter keep) = true := by
  simp only [areUniqueNames, Bool.and_eq_true, decide_eq_true_eq, List.all_eq_true] at unique ⊢
  exact ⟨fun name listed => unique.1 name (List.mem_filter.mp listed).1, unique.2.filter keep⟩

/-- A key with a dot, but not at an end. -/
def isNamespacedKey (key : String) : Bool :=
  key.toList.contains '.' && key.toList.head? != some '.' && key.toList.getLast? != some '.'

/-- What `_freeze_mapping` makes of a mapping. -/
structure FrozenMapping where
  fields : JsonFields
  namespaced : (fields.map Prod.fst).all isNamespacedKey = true
  keyed : (JsonValue.obj fields).keyed = true

namespace FrozenMapping

def empty : FrozenMapping := ⟨[], rfl, by simp [JsonValue.keyed, JsonValue.keyedFields]⟩

def keys (mapping : FrozenMapping) : List String := mapping.fields.map Prod.fst

theorem keyedFields_filter {fields : JsonFields} (keep : String × JsonValue → Bool)
    (keyed : JsonValue.keyedFields fields = true) :
    JsonValue.keyedFields (fields.filter keep) = true := by
  induction fields with
  | nil => exact keyed
  | cons field fields ih =>
    simp only [JsonValue.keyedFields, Bool.and_eq_true] at keyed
    rw [List.filter_cons]
    split
    · simp only [JsonValue.keyedFields, Bool.and_eq_true]
      exact ⟨keyed.1, ih keyed.2⟩
    · exact ih keyed.2

/-- The entries under some of the keys. -/
def restrict (mapping : FrozenMapping) (keep : String → Bool) : FrozenMapping where
  fields := mapping.fields.filter fun field => keep field.1
  namespaced := by
    have namespaced := mapping.namespaced
    simp only [List.all_eq_true] at namespaced ⊢
    intro key listed
    exact namespaced key ((List.filter_sublist.map Prod.fst).subset listed)
  keyed := by
    have keyed := mapping.keyed
    simp only [JsonValue.keyed, Bool.and_eq_true, decide_eq_true_eq] at keyed ⊢
    exact ⟨keyed.1.sublist (List.filter_sublist.map Prod.fst), keyedFields_filter _ keyed.2⟩

end FrozenMapping

inductive MemoryOperation
  | retrieve
  | remember
  | forget
  | consolidate
  deriving DecidableEq, Repr

def MemoryOperation.value : MemoryOperation → String
  | .retrieve => "retrieve"
  | .remember => "remember"
  | .forget => "forget"
  | .consolidate => "consolidate"

inductive MemoryCompleteness
  | complete
  | partial_
  deriving DecidableEq, Repr

def MemoryCompleteness.value : MemoryCompleteness → String
  | .complete => "complete"
  | .partial_ => "partial"

structure MemoryWarning where
  code : String
  message : String
  trimmed : isTrimmed code = true ∧ isTrimmed message = true
  deriving Repr

/-- What a warning is compared by. -/
theorem MemoryWarning.fields_injective : Function.Injective fun value : MemoryWarning =>
    (value.code, value.message) := by
  intro first second same
  cases first
  cases second
  simpa using same

instance : DecidableEq MemoryWarning := MemoryWarning.fields_injective.decidableEq

structure MemoryCursor where
  providerId : ProviderId
  contractVersion : String
  value : String
  queryFingerprint : Sha256Digest
  trimmed : isTrimmed contractVersion = true ∧ isTrimmed value = true
  deriving Repr

/-- What a cursor is compared by. -/
theorem MemoryCursor.fields_injective : Function.Injective fun value : MemoryCursor =>
    (value.providerId, value.contractVersion, value.value, value.queryFingerprint) := by
  intro first second same
  cases first
  cases second
  simpa using same

instance : DecidableEq MemoryCursor := MemoryCursor.fields_injective.decidableEq

structure MemoryQuery where
  scope : ScopeRef
  content : ContentBlock
  schema : SchemaRef
  filters : FrozenMapping
  limit : ℕ
  cursor : Option MemoryCursor
  projection : List String
  valid : 1 ≤ limit ∧ areUniqueNames projection = true ∧ content.value.keyed = true

/-- `_fingerprint_data`. -/
def MemoryQuery.fingerprintData (query : MemoryQuery) : JsonValue :=
  .obj [("scope", query.scope.toData), ("content", query.content.toData),
    ("schema", query.schema.toData), ("filters", .obj query.filters.fields),
    ("limit", .int query.limit), ("projection", .arr (query.projection.map .str))]

def MemoryQuery.queryFingerprint [Sha256] (query : MemoryQuery) : Sha256Digest :=
  query.fingerprintData.sha256

structure MemoryRef where
  providerId : ProviderId
  memoryId : MemoryId
  scope : ScopeRef
  version : ℕ
  positive : 1 ≤ version
  deriving Repr

/-- What a reference is compared by. -/
theorem MemoryRef.fields_injective : Function.Injective fun value : MemoryRef =>
    (value.providerId, value.memoryId, value.scope, value.version) := by
  intro first second same
  cases first
  cases second
  simpa using same

instance : DecidableEq MemoryRef := MemoryRef.fields_injective.decidableEq

structure MemoryRecord where
  ref : MemoryRef
  content : ContentBlock
  schema : SchemaRef
  metadata : FrozenMapping
  provenance : List String
  unique : areUniqueNames provenance = true

structure MemoryPage where
  providerId : ProviderId
  contractVersion : String
  records : List MemoryRecord
  nextCursor : Option MemoryCursor
  completeness : MemoryCompleteness
  warnings : List MemoryWarning
  provenance : List String
  valid : isTrimmed contractVersion = true ∧ (records.map (·.ref.memoryId)).Nodup ∧
    areUniqueNames provenance = true

/-- `content_bytes`. -/
def ContentBlock.bytes [PythonFloat] (content : ContentBlock) : ℕ := content.toData.byteCount

structure MemoryItem [PythonFloat] where
  scope : ScopeRef
  content : ContentBlock
  schema : SchemaRef
  idempotencyKey : IdempotencyKey
  metadata : FrozenMapping
  provenance : List String
  retention : Option ResourceRef
  maxBytes : Option ℕ
  valid : areUniqueNames provenance = true ∧ maxBytes.all (1 ≤ ·) = true ∧
    maxBytes.all (content.bytes ≤ ·) = true

/-- The sets are lists. -/
structure MemoryCapabilities where
  providerId : ProviderId
  contractVersion : String
  operations : List MemoryOperation
  querySchemas : List SchemaRef
  itemSchemas : List SchemaRef
  recordSchemas : List SchemaRef
  contentKinds : List ContentKind
  maximumResultLimit : ℕ
  projections : List String
  versioned : Bool
  consolidationPolicies : List ResourceRef
  maximumItemBytes : Option ℕ
  valid : isTrimmed contractVersion = true ∧ 1 ≤ maximumResultLimit ∧
    maximumItemBytes.all (1 ≤ ·) = true ∧ areUniqueNames projections = true ∧
    (consolidationPolicies.map (·.key)).Nodup ∧
    (.consolidate ∈ operations ∨ consolidationPolicies = [])

/-! ### Grants -/

/-- Not `constraints.get("schema", schema.to_data()) != schema.to_data()`. -/
def leavesSchema (constraints : List (String × JsonValue)) (schema : SchemaRef) : Bool :=
  match Dict.lookup "schema" constraints with
  | none => true
  | some given => given.equals schema.toData

/-- `_require_exact_keys`. -/
def requireExactKeys (raw : Option JsonValue) (requested : List String) (name : String) :
    Except Raised Unit :=
  match raw with
  | none | some .null => .ok ()
  | some (.arr items) =>
    match textItems items with
    | none => .error (AuthorizedDispatcher.invalidGrant
        ("memory " ++ name ++ " key constraint is invalid") (by simp))
    | some names => ensure (names.all requested.contains && requested.all names.contains)
        (AuthorizedDispatcher.invalidGrant ("memory grant changes " ++ name ++ " keys") (by simp))
  | some _ => .error (AuthorizedDispatcher.invalidGrant
      ("memory " ++ name ++ " key constraint is invalid") (by simp))

/-- `replace(query, projection=…, limit=…)`, with the names that the grant leaves. -/
def MemoryQuery.narrowed (query : MemoryQuery) (names : Option (List String)) (limit : ℕ) :
    Except Raised MemoryQuery :=
  if positive : 1 ≤ limit then
    .ok { query with
      projection := query.projection.filter fun name => names.all (·.contains name)
      limit
      valid := ⟨positive, areUniqueNames_filter _ query.valid.2.1, query.valid.2.2⟩ }
  else .error (.value "memory query limit must be positive")

/-- `_constrain_query`. -/
def constrainMemoryQuery (query : MemoryQuery) (constraints : List (String × JsonValue)) :
    Except Raised MemoryQuery := do
  ensure (!unknownConstraint constraints ["schema", "filter_keys", "projection", "limit"])
    (AuthorizedDispatcher.invalidGrant "memory retrieve grant contains unknown constraints")
  ensure (leavesSchema constraints query.schema)
    (AuthorizedDispatcher.invalidGrant "memory retrieve grant changes the query schema")
  requireExactKeys (Dict.lookup "filter_keys" constraints) query.filters.keys "filter"
  let names ← narrowNames query.projection (Dict.lookup "projection" constraints)
    (AuthorizedDispatcher.invalidGrant "memory projection constraint is invalid")
    (AuthorizedDispatcher.invalidGrant "memory retrieve grant broadens projection")
  match ← narrowLimit "memory" "limit" (some query.limit) (Dict.lookup "limit" constraints) with
  | none => .error (.assertion "required memory limit cannot be None")
  | some limit => query.narrowed names limit

variable [PythonFloat]

/-- `replace(item, metadata=…, max_bytes=…)`, with the keys that the grant leaves. -/
def MemoryItem.narrowed (item : MemoryItem) (names : Option (List String)) (maxBytes : Option ℕ) :
    Except Raised MemoryItem :=
  if positive : maxBytes.all (1 ≤ ·) = true then
    if fits : maxBytes.all (item.content.bytes ≤ ·) = true then
      .ok { item with
        metadata := item.metadata.restrict fun key => names.all (·.contains key)
        maxBytes
        valid := ⟨item.valid.1, positive, fits⟩ }
    else .error (.value "memory item content exceeds max_bytes")
  else .error (.value "memory item max_bytes must be positive")

/-- `_constrain_item`. -/
def constrainMemoryItem (item : MemoryItem) (capabilities : MemoryCapabilities)
    (constraints : List (String × JsonValue)) : Except Raised MemoryItem := do
  ensure (!unknownConstraint constraints ["schema", "metadata_keys", "max_bytes"])
    (AuthorizedDispatcher.invalidGrant "memory remember grant contains unknown constraints")
  ensure (leavesSchema constraints item.schema)
    (AuthorizedDispatcher.invalidGrant "memory remember grant changes the item schema")
  let names ← narrowNames item.metadata.keys (Dict.lookup "metadata_keys" constraints)
    (AuthorizedDispatcher.invalidGrant "memory metadata key constraint is invalid")
    (AuthorizedDispatcher.invalidGrant "memory remember grant broadens metadata keys")
  let maxBytes ← narrowLimit "memory" "max_bytes" (item.maxBytes <|> capabilities.maximumItemBytes)
    (Dict.lookup "max_bytes" constraints)
  ensure (maxBytes.all (item.content.bytes ≤ ·))
    (AuthorizedDispatcher.invalidGrant "memory remember grant is smaller than item content")
  item.narrowed names maxBytes

end CongeriesCore
