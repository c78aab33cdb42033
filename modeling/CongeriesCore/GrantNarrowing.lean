import CongeriesCore.ContextCompleteness
import CongeriesCore.MemoryModel
import CongeriesCore.ModelGateway

/-! # Grants only narrow a request

A gateway reads the constraints of a grant part by part. Each part of the request says which values
leave it as it is or narrow it; a grant with any other value, or with another name, is refused. -/

namespace CongeriesCore

open GatewayDispatch

namespace GrantNarrowing

/-! ## Constraints -/

variable {α : Type}

def Refused (step : Except Raised α) : Prop := ∃ error, step = .error error ∧ InvalidGrant error

/-- What a constraint is about. -/
inductive Part
  /-- a text that a grant may only repeat -/
  | text (own : String)
  /-- a schema that a grant may only repeat -/
  | schema (own : SchemaRef)
  /-- names of which a grant may leave some -/
  | someOf (names : List String)
  /-- names that a grant may only repeat, in any order -/
  | allOf (names : List String)
  /-- a limit, where there is one, that a grant may lower -/
  | limit (most : Option ℕ)

/-- The constraint is a list of these names. -/
def Lists (value : JsonValue) (names : List String) : Prop := value = .arr (names.map .str)

/-- The value is well formed, and does not expand the part. -/
def Part.Allows : Part → JsonValue → Prop
  | .text own, value => value = .null ∨ value = .str own
  | .schema own, value => value.equals own.toData = true
  | .someOf requested, value =>
    value = .null ∨ ∃ names, Lists value names ∧ ∀ name ∈ names, name ∈ requested
  | .allOf requested, value =>
    value = .null ∨ ∃ names, Lists value names ∧ ∀ name, name ∈ names ↔ name ∈ requested
  | .limit requested, value =>
    value = .null ∨ ∃ units : ℕ, value = .int units ∧ 1 ≤ units ∧ ∀ most ∈ requested, units ≤ most

/-- The items that are left are among those requested and, where the grant lists names, among those
that it names. No other is lost. -/
structure ItemsLeft (label : α → String) (given : Option JsonValue) (asked left : List α) : Prop where
  requested : left.Sublist asked
  granted : ∀ value ∈ given, ∀ names, Lists value names → ∀ item ∈ left, label item ∈ names
  kept : ∀ item ∈ asked,
    (∀ value ∈ given, ∀ names, Lists value names → label item ∈ names) → item ∈ left

/-- The limit that is left is at most the requested one and at most the one of the grant. It is the
requested one where the grant has none. -/
structure LimitLeft (given : Option JsonValue) (asked left : Option ℕ) : Prop where
  requested : ∀ most ∈ asked, ∃ units ∈ left, units ≤ most
  granted : ∀ most : ℤ, given = some (.int most) → ∃ units ∈ left, (units : ℤ) ≤ most
  kept : given = none ∨ given = some .null → left = asked

/-- Every constraint is about a part of the request, and does not expand it. -/
structure Accepted (parts : List (String × Part)) (constraints : List (String × JsonValue)) : Prop where
  known : ∀ item ∈ constraints, item.1 ∈ parts.map Prod.fst
  allowed : ∀ part ∈ parts, ∀ value, Dict.lookup part.1 constraints = some value →
    part.2.Allows value

/-- A step that refuses a grant, or narrows the request as it says. -/
structure OnlyNarrows (parts : List (String × Part)) (constraints : List (String × JsonValue))
    (step : Except Raised α) (narrows : α → Prop) : Prop where
  ends : Refused step ∨ ∃ effective, step = .ok effective ∧ narrows effective
  unknown : ∀ item ∈ constraints, item.1 ∉ parts.map Prod.fst → Refused step
  expanding : ∀ part ∈ parts, ∀ value, Dict.lookup part.1 constraints = some value →
    ¬part.2.Allows value → Refused step

theorem OnlyNarrows.of_accepted {parts : List (String × Part)}
    {constraints : List (String × JsonValue)} {step : Except Raised α} {narrows : α → Prop}
    (refuses : Within InvalidGrant step)
    (accepts : ∀ effective, step = .ok effective → Accepted parts constraints ∧ narrows effective) :
    OnlyNarrows parts constraints step narrows := by
  cases step with
  | ok effective =>
    obtain ⟨accepted, narrowed⟩ := accepts effective rfl
    refine ⟨.inr ⟨effective, rfl, narrowed⟩, ?_, ?_⟩
    · intro item member unknown
      exact absurd (accepted.known item member) unknown
    · intro part member value given expanding
      exact absurd (accepted.allowed part member value given) expanding
  | error error =>
    have refused : Refused (.error error : Except Raised α) := ⟨error, rfl, refuses error rfl⟩
    exact ⟨.inl refused, fun _ _ _ => refused, fun _ _ _ _ _ => refused⟩

theorem OnlyNarrows.narrows_of_ok {parts : List (String × Part)}
    {constraints : List (String × JsonValue)} {step : Except Raised α} {narrows : α → Prop}
    (only : OnlyNarrows parts constraints step narrows) {effective : α}
    (passed : step = .ok effective) : narrows effective := by
  rcases only.ends with ⟨error, refused, -⟩ | ⟨other, same, narrowed⟩
  · rw [passed] at refused
    cases refused
  · obtain rfl := Except.ok.inj (passed.symm.trans same)
    exact narrowed

/-! ### Names -/

section Names

variable {requested : List String} {given : Option JsonValue} {malformed broader : Raised}

theorem textItems_some {items : List JsonValue} {names : List String}
    (texts : textItems items = some names) : items = names.map .str := by
  induction items generalizing names with
  | nil =>
    cases texts
    rfl
  | cons item items ih =>
    cases item with
    | str text =>
      obtain ⟨rest, read, rfl⟩ := Option.map_eq_some_iff.mp texts
      rw [ih read]
      rfl
    | _ => cases texts

theorem Lists.unique {value : JsonValue} {names others : List String} (lists : Lists value names)
    (lists' : Lists value others) : names = others := by
  have same : names.map JsonValue.str = others.map .str := JsonValue.arr.inj (lists.symm.trans lists')
  exact List.map_injective_iff.mpr (fun _ _ => JsonValue.str.inj) same

theorem narrowNames_allows {names : Option (List String)}
    (narrowed : narrowNames requested given malformed broader = .ok names) :
    (∀ value, given = some value → (Part.someOf requested).Allows value) ∧
      ∀ name, names.all (·.contains name) = true ↔
        ∀ value ∈ given, ∀ others, Lists value others → name ∈ others := by
  unfold narrowNames at narrowed
  split at narrowed
  · cases narrowed
    exact ⟨nofun, fun name => by simp⟩
  · cases narrowed
    refine ⟨?_, ?_⟩
    · intro value null
      exact .inl (Option.some.inj null).symm
    · intro name
      simp [Lists]
  · rename_i items
    split at narrowed
    · cases narrowed
    · rename_i listed texts
      split at narrowed
      · rename_i within
        cases narrowed
        have lists : Lists (.arr items) listed := by rw [Lists, textItems_some texts]
        refine ⟨?_, ?_⟩
        · intro value same
          obtain rfl := Option.some.inj same
          refine .inr ⟨listed, lists, ?_⟩
          intro name member
          exact List.contains_iff_mem.mp (List.all_eq_true.mp within name member)
        · intro name
          simp only [Option.all_some, List.contains_iff_mem]
          constructor
          · intro member value same others lists'
            obtain rfl : JsonValue.arr items = value := Option.some.inj same
            rw [← lists.unique lists']
            exact member
          · intro all
            exact all _ rfl listed lists
      · cases narrowed
  · cases narrowed

/-- What is left under the names of a grant. -/
theorem itemsLeft_of_narrowed {label : α → String} {items : List α} {names : Option (List String)}
    (narrowed : narrowNames requested given malformed broader = .ok names) :
    ItemsLeft label given items
      (items.filter fun item => names.all (·.contains (label item))) := by
  have granted := (narrowNames_allows narrowed).2
  refine ⟨List.filter_sublist, ?_, ?_⟩
  · intro value same others lists item left
    exact (granted (label item)).mp (List.mem_filter.mp left).2 value same others lists
  · intro item member all
    exact List.mem_filter.mpr ⟨member, (granted (label item)).mpr all⟩

theorem narrowNames_within {raises : Raised → Prop} (malforms : raises malformed)
    (broadens : raises broader) : Within raises (narrowNames requested given malformed broader) := by
  unfold narrowNames
  split
  · exact within_ok
  · exact within_ok
  · split
    · exact within_error malforms
    · split
      · exact within_ok
      · exact within_error broadens
  · exact within_error malforms

theorem requireExactKeys_allows {name : String}
    (checked : requireExactKeys given requested name = .ok ()) (value : JsonValue)
    (same : given = some value) : (Part.allOf requested).Allows value := by
  subst same
  unfold requireExactKeys at checked
  split at checked
  · rename_i none
    cases none
  · rename_i null
    exact .inl (Option.some.inj null)
  · rename_i items listed
    obtain rfl := Option.some.inj listed
    split at checked
    · cases checked
    · rename_i names texts
      have both := ensure_eq_ok.mp checked
      simp only [Bool.and_eq_true, List.all_eq_true, List.contains_iff_mem] at both
      refine .inr ⟨names, by rw [Lists, textItems_some texts], ?_⟩
      intro name
      exact ⟨both.1 name, both.2 name⟩
  · cases checked

theorem requireExactKeys_within {name : String} :
    Within InvalidGrant (requireExactKeys given requested name) := by
  unfold requireExactKeys
  split
  · exact within_ok
  · exact within_ok
  · split
    · exact within_error (invalidGrant _ _)
    · exact within_invalid
  · exact within_error (invalidGrant _ _)

end Names

/-! ### Limits -/

section Limits

variable {kind name : String} {requested limit : Option ℕ} {given : Option JsonValue}

theorem narrowLimit_allows (narrowed : narrowLimit kind name requested given = .ok limit) :
    (∀ value, given = some value → (Part.limit requested).Allows value) ∧
      LimitLeft given requested limit := by
  unfold narrowLimit at narrowed
  split at narrowed
  · cases narrowed
    refine ⟨nofun, fun most own => ⟨most, own, le_refl most⟩, nofun, fun _ => rfl⟩
  · cases narrowed
    refine ⟨?_, fun most own => ⟨most, own, le_refl most⟩, nofun, fun _ => rfl⟩
    intro value null
    exact .inl (Option.some.inj null).symm
  · rename_i granted
    split at narrowed
    · cases narrowed
    · rename_i fits
      cases narrowed
      have positive : 1 ≤ granted := by
        by_contra small
        exact fits (.inl (by omega))
      have below : ∀ most ∈ requested, granted.toNat ≤ most := by
        intro most own
        obtain rfl : requested = some most := own
        have reached : ¬((most : ℤ) < granted) := by
          intro above
          exact fits (.inr (by simpa using above))
        omega
      refine ⟨?_, ?_, ?_, ?_⟩
      · intro value same
        obtain rfl := Option.some.inj same
        refine .inr ⟨granted.toNat, ?_, by omega, below⟩
        rw [Int.toNat_of_nonneg (by omega)]
      · intro most own
        exact ⟨_, rfl, below most own⟩
      · intro most same
        cases same
        exact ⟨_, rfl, by omega⟩
      · intro bare
        rcases bare with bare | bare
        · cases bare
        · cases bare
  · cases narrowed

theorem narrowLimit_within : Within InvalidGrant (narrowLimit kind name requested given) := by
  unfold narrowLimit
  split
  · exact within_ok
  · exact within_ok
  · split
    · exact within_error (invalidGrant _ _)
    · exact within_ok
  · exact within_error (invalidGrant _ _)

end Limits

/-! ## The steps -/

/-! ### Context -/

def contextParts (request : ContextRequest) : List (String × Part) :=
  [("keys", .someOf (request.requirements.map (·.key.wireName))),
    ("max_bytes", .limit request.budget.maxBytes), ("max_tokens", .limit request.budget.maxTokens)]

/-- What a context provider is asked for, under the runtime context of the authorized call. -/
structure NarrowedContext (request : ContextRequest) (call : AuthorizedCall)
    (effective : ContextRequest) : Prop where
  keys : ItemsLeft (·.key.wireName) (Dict.lookup "keys" call.grant.constraints)
    request.requirements effective.requirements
  maxBytes : LimitLeft (Dict.lookup "max_bytes" call.grant.constraints) request.budget.maxBytes
    effective.budget.maxBytes
  maxTokens : LimitLeft (Dict.lookup "max_tokens" call.grant.constraints) request.budget.maxTokens
    effective.budget.maxTokens
  others : effective = { request with
    context := call.context
    requirements := effective.requirements
    budget := effective.budget
    unique := effective.unique }

theorem contextBudget_make {maxBytes maxTokens : Option ℕ}
    (positive : maxBytes.all (1 ≤ ·) = true ∧ maxTokens.all (1 ≤ ·) = true) :
    ContextBudget.make maxBytes maxTokens = .ok ⟨maxBytes, maxTokens, positive⟩ := by
  rw [ContextBudget.make, dif_pos positive.1, dif_pos positive.2]

theorem restricted_eq {request restricted : ContextRequest} {kept : ContextRequirement → Bool}
    (some_ : request.restricted kept = some restricted) :
    ∃ unique, restricted =
      { request with requirements := request.requirements.filter kept, unique := unique } := by
  unfold ContextRequest.restricted at some_
  split at some_
  · exact ⟨_, (Option.some.inj some_).symm⟩
  · cases some_

theorem context_onlyNarrows (request : ContextRequest) (call : AuthorizedCall) :
    OnlyNarrows (contextParts request) call.grant.constraints (constrainContextRequest request call)
      (NarrowedContext request call) := by
  apply OnlyNarrows.of_accepted
  · apply within_bind within_invalid
    intro _ _
    apply within_bind (narrowNames_within (invalidGrant _ _) (invalidGrant _ _))
    intro names _
    cases request.restricted fun item => names.all (·.contains item.key.wireName) with
    | none => exact within_error (invalidGrant _ _)
    | some restricted =>
      apply within_bind narrowLimit_within
      intro maxBytes bytes
      apply within_bind narrowLimit_within
      intro maxTokens tokens
      rw [contextBudget_make ⟨narrowLimit_all bytes request.budget.positive.1,
        narrowLimit_all tokens request.budget.positive.2⟩]
      exact within_ok
  · intro effective step
    obtain ⟨_, known, step⟩ := bind_ok step
    obtain ⟨names, narrowed, step⟩ := bind_ok step
    cases kept : request.restricted fun item => names.all (·.contains item.key.wireName) with
    | none =>
      rw [kept] at step
      cases step
    | some restricted =>
      rw [kept] at step
      obtain ⟨maxBytes, bytes, step⟩ := bind_ok step
      obtain ⟨maxTokens, tokens, step⟩ := bind_ok step
      rw [contextBudget_make ⟨narrowLimit_all bytes request.budget.positive.1,
        narrowLimit_all tokens request.budget.positive.2⟩] at step
      cases step
      have items := @itemsLeft_of_narrowed ContextRequirement _ _ _ _ (·.key.wireName)
        request.requirements names narrowed
      obtain ⟨some_, rfl⟩ := restricted_eq kept
      refine ⟨⟨unknownConstraint_iff.mp (ensure_eq_ok.mp known), ?_⟩, items,
        (narrowLimit_allows bytes).2, (narrowLimit_allows tokens).2, rfl⟩
      intro part listed
      simp only [contextParts, List.mem_cons, List.not_mem_nil, or_false] at listed
      rcases listed with rfl | rfl | rfl
      · exact (narrowNames_allows narrowed).1
      · exact (narrowLimit_allows bytes).1
      · exact (narrowLimit_allows tokens).1

/-! ### Model -/

def modelParts (request : ModelRequest) : List (String × Part) :=
  [("model", .text request.selector.modelId.value),
    ("tools", .someOf (request.tools.map resourceName)),
    ("max_input_units", .limit request.budget.maxInputUnits),
    ("max_output_units", .limit request.budget.maxOutputUnits)]

structure NarrowedModel (request : ModelRequest) (constraints : List (String × JsonValue))
    (effective : ModelRequest) : Prop where
  tools : ItemsLeft resourceName (Dict.lookup "tools" constraints) request.tools effective.tools
  maxInputUnits : LimitLeft (Dict.lookup "max_input_units" constraints)
    request.budget.maxInputUnits effective.budget.maxInputUnits
  maxOutputUnits : LimitLeft (Dict.lookup "max_output_units" constraints)
    request.budget.maxOutputUnits effective.budget.maxOutputUnits
  others : effective = { request with
    tools := effective.tools
    budget := effective.budget
    valid := ⟨request.valid.1, effective.valid.2⟩ }

theorem modelBudget_make {maxInputUnits maxOutputUnits : Option ℕ}
    (positive : maxInputUnits.all (1 ≤ ·) = true ∧ maxOutputUnits.all (1 ≤ ·) = true) :
    ModelBudget.make maxInputUnits maxOutputUnits = .ok ⟨maxInputUnits, maxOutputUnits, positive⟩ := by
  rw [ModelBudget.make, dif_pos positive.1, dif_pos positive.2]

theorem model_onlyNarrows (request : ModelRequest) (constraints : List (String × JsonValue)) :
    OnlyNarrows (modelParts request) constraints (constrainModelRequest request constraints)
      (NarrowedModel request constraints) := by
  apply OnlyNarrows.of_accepted
  · apply within_bind within_invalid
    intro _ _
    apply within_bind within_invalid
    intro _ _
    apply within_bind (narrowNames_within (invalidGrant _ _) (invalidGrant _ _))
    intro names _
    apply within_bind narrowLimit_within
    intro maxInputUnits input
    apply within_bind narrowLimit_within
    intro maxOutputUnits output
    rw [modelBudget_make ⟨narrowLimit_all input request.budget.positive.1,
      narrowLimit_all output request.budget.positive.2⟩]
    exact within_ok
  · intro effective step
    obtain ⟨_, known, step⟩ := bind_ok step
    obtain ⟨_, model, step⟩ := bind_ok step
    obtain ⟨names, narrowed, step⟩ := bind_ok step
    obtain ⟨maxInputUnits, input, step⟩ := bind_ok step
    obtain ⟨maxOutputUnits, output, step⟩ := bind_ok step
    rw [modelBudget_make ⟨narrowLimit_all input request.budget.positive.1,
      narrowLimit_all output request.budget.positive.2⟩] at step
    cases step
    refine ⟨⟨unknownConstraint_iff.mp (ensure_eq_ok.mp known), ?_⟩,
      itemsLeft_of_narrowed narrowed, (narrowLimit_allows input).2, (narrowLimit_allows output).2, rfl⟩
    intro part listed
    simp only [modelParts, List.mem_cons, List.not_mem_nil, or_false] at listed
    rcases listed with rfl | rfl | rfl | rfl
    · intro value given
      have same := ensure_eq_ok.mp model
      rw [given] at same
      cases value with
      | null => exact .inl rfl
      | _ => exact .inr (JsonValue.equals_str_iff.mp same)
    · exact (narrowNames_allows narrowed).1
    · exact (narrowLimit_allows input).1
    · exact (narrowLimit_allows output).1

/-! ### Memory -/

theorem leavesSchema_allows {constraints : List (String × JsonValue)} {schema : SchemaRef}
    (leaves : leavesSchema constraints schema = true) (value : JsonValue)
    (given : Dict.lookup "schema" constraints = some value) : (Part.schema schema).Allows value := by
  unfold leavesSchema at leaves
  rw [given] at leaves
  exact leaves

def queryParts (query : MemoryQuery) : List (String × Part) :=
  [("schema", .schema query.schema), ("filter_keys", .allOf query.filters.keys),
    ("projection", .someOf query.projection), ("limit", .limit (some query.limit))]

structure NarrowedQuery (query : MemoryQuery) (constraints : List (String × JsonValue))
    (effective : MemoryQuery) : Prop where
  projection : ItemsLeft id (Dict.lookup "projection" constraints) query.projection
    effective.projection
  limit : LimitLeft (Dict.lookup "limit" constraints) (some query.limit) (some effective.limit)
  others : effective = { query with
    projection := effective.projection
    limit := effective.limit
    valid := ⟨effective.valid.1, effective.valid.2.1, query.valid.2.2⟩ }

theorem query_onlyNarrows (query : MemoryQuery) (constraints : List (String × JsonValue)) :
    OnlyNarrows (queryParts query) constraints (constrainMemoryQuery query constraints)
      (NarrowedQuery query constraints) := by
  have kept : ∀ (names : Option (List String)) (limit : Option ℕ), limit.all (1 ≤ ·) = true →
      (∃ units ∈ limit, units ≤ query.limit) →
      ∃ units, limit = some units ∧ ∃ positive, query.narrowed names units = .ok { query with
        projection := query.projection.filter fun name => names.all (·.contains name)
        limit := units
        valid := ⟨positive, areUniqueNames_filter _ query.valid.2.1, query.valid.2.2⟩ } := by
    intro names limit positive below
    obtain ⟨units, rfl, -⟩ := below
    have least : 1 ≤ units := by simpa using positive
    exact ⟨units, rfl, least, dif_pos least⟩
  have requested : (some query.limit).all (1 ≤ ·) = true := by simpa using query.valid.1
  apply OnlyNarrows.of_accepted
  · apply within_bind within_invalid
    intro _ _
    apply within_bind within_invalid
    intro _ _
    apply within_bind requireExactKeys_within
    intro _ _
    apply within_bind (narrowNames_within (invalidGrant _ _) (invalidGrant _ _))
    intro names _
    apply within_bind narrowLimit_within
    intro limit limited
    obtain ⟨units, rfl, _, narrowed⟩ := kept names limit (narrowLimit_all limited requested)
      ((narrowLimit_allows limited).2.requested query.limit rfl)
    dsimp only
    rw [narrowed]
    exact within_ok
  · intro effective step
    obtain ⟨_, known, step⟩ := bind_ok step
    obtain ⟨_, schema, step⟩ := bind_ok step
    obtain ⟨_, filters, step⟩ := bind_ok step
    obtain ⟨names, listed, step⟩ := bind_ok step
    obtain ⟨limit, limited, step⟩ := bind_ok step
    obtain ⟨units, rfl, _, narrowed⟩ := kept names limit (narrowLimit_all limited requested)
      ((narrowLimit_allows limited).2.requested query.limit rfl)
    dsimp only at step
    rw [narrowed] at step
    cases step
    refine ⟨⟨unknownConstraint_iff.mp (ensure_eq_ok.mp known), ?_⟩,
      itemsLeft_of_narrowed listed, (narrowLimit_allows limited).2, rfl⟩
    intro part own
    simp only [queryParts, List.mem_cons, List.not_mem_nil, or_false] at own
    rcases own with rfl | rfl | rfl | rfl
    · exact leavesSchema_allows (ensure_eq_ok.mp schema)
    · exact requireExactKeys_allows filters
    · exact (narrowNames_allows listed).1
    · exact (narrowLimit_allows limited).1

section Item

variable [PythonFloat]

def itemParts (item : MemoryItem) (capabilities : MemoryCapabilities) : List (String × Part) :=
  [("schema", .schema item.schema), ("metadata_keys", .someOf item.metadata.keys),
    ("max_bytes", .limit (item.maxBytes <|> capabilities.maximumItemBytes))]

structure NarrowedItem (item : MemoryItem) (capabilities : MemoryCapabilities)
    (constraints : List (String × JsonValue)) (effective : MemoryItem) : Prop where
  metadata : ItemsLeft Prod.fst (Dict.lookup "metadata_keys" constraints) item.metadata.fields
    effective.metadata.fields
  maxBytes : LimitLeft (Dict.lookup "max_bytes" constraints)
    (item.maxBytes <|> capabilities.maximumItemBytes) effective.maxBytes
  others : ∃ valid, effective = { item with
    metadata := effective.metadata
    maxBytes := effective.maxBytes
    valid }

theorem item_onlyNarrows (item : MemoryItem) (capabilities : MemoryCapabilities)
    (constraints : List (String × JsonValue)) :
    OnlyNarrows (itemParts item capabilities) constraints
      (constrainMemoryItem item capabilities constraints)
      (NarrowedItem item capabilities constraints) := by
  have requested : (item.maxBytes <|> capabilities.maximumItemBytes).all (1 ≤ ·) = true := by
    cases own : item.maxBytes with
    | none => exact capabilities.valid.2.2.1
    | some units =>
      have positive := item.valid.2.1
      rw [own] at positive
      exact positive
  apply OnlyNarrows.of_accepted
  · apply within_bind within_invalid
    intro _ _
    apply within_bind within_invalid
    intro _ _
    apply within_bind (narrowNames_within (invalidGrant _ _) (invalidGrant _ _))
    intro names _
    apply within_bind narrowLimit_within
    intro maxBytes limited
    apply within_bind within_invalid
    intro _ fits
    rw [MemoryItem.narrowed, dif_pos (narrowLimit_all limited requested),
      dif_pos (ensure_eq_ok.mp fits)]
    exact within_ok
  · intro effective step
    obtain ⟨_, known, step⟩ := bind_ok step
    obtain ⟨_, schema, step⟩ := bind_ok step
    obtain ⟨names, listed, step⟩ := bind_ok step
    obtain ⟨maxBytes, limited, step⟩ := bind_ok step
    obtain ⟨_, fits, step⟩ := bind_ok step
    rw [MemoryItem.narrowed, dif_pos (narrowLimit_all limited requested),
      dif_pos (ensure_eq_ok.mp fits)] at step
    cases step
    refine ⟨⟨unknownConstraint_iff.mp (ensure_eq_ok.mp known), ?_⟩,
      itemsLeft_of_narrowed listed, (narrowLimit_allows limited).2, _, rfl⟩
    intro part own
    simp only [itemParts, List.mem_cons, List.not_mem_nil, or_false] at own
    rcases own with rfl | rfl | rfl
    · exact leavesSchema_allows (ensure_eq_ok.mp schema)
    · exact (narrowNames_allows listed).1
    · exact (narrowLimit_allows limited).1

end Item

end GrantNarrowing

open GrantNarrowing

namespace SampleParameters

/-- The sample scope, below an organization. -/
def nestedScope : ScopeRef :=
  ⟨sampleScope.key, [⟨"core", "organization", "organization-1"⟩], by decide, by decide⟩

def nestedAccess : AccessRequest :=
  contextAccess sampleContext goalProvider contextProvideAction
    (contextConstraints sampleContextRequest)

/-- The grant of the nested scope, which has the key of the one that is asked for. -/
def nestedGrant : Grant where
  principal := nestedAccess.principal
  action := nestedAccess.action
  resource := nestedAccess.resource
  sourceScope := sampleScope
  effectiveScope := nestedScope
  constraints := []
  issuedAt := sampleTime
  expiresAt := none
  policyVersion := "1"
  auditCorrelation := "audit-1"
  valid := unexpiring

def nestedCall : AuthorizedCall :=
  ⟨nestedAccess, nestedGrant, { sampleContext with scope := nestedScope }⟩

end SampleParameters

end CongeriesCore
