import CongeriesCore.ContextResolver
import CongeriesCore.UndisturbedCalls

/-! # The first complete context

Providers are asked in turn until one says that its answer is complete, which it is of the part of
the request that it supports. The context is complete where that part is the whole. -/

namespace CongeriesCore

open AsyncProgram AsyncProgram.Program GatewayDispatch

theorem ContextRequest.restricted_some {request restricted : ContextRequest}
    {kept : ContextRequirement → Bool} (given : request.restricted kept = some restricted) :
    restricted.requirements = request.requirements.filter kept ∧
      restricted.context = request.context ∧ restricted.budget = request.budget := by
  unfold ContextRequest.restricted at given
  split at given
  · cases given
    exact ⟨rfl, rfl, rfl⟩
  · cases given

theorem ContextRequest.restricted_all {request : ContextRequest} {kept : ContextRequirement → Bool}
    (all : ∀ item ∈ request.requirements, kept item = true) :
    request.restricted kept = some request := by
  have same : request.requirements.filter kept = request.requirements := List.filter_eq_self.mpr all
  unfold ContextRequest.restricted
  split
  · congr 1
    obtain ⟨definitionId, context, requirements, policy, budget, unique⟩ := request
    congr 1
  · rename_i none
    exact absurd (same.symm ▸ request.unique.1) none

theorem ContextBudget.make_own (budget : ContextBudget) :
    ContextBudget.make budget.maxBytes budget.maxTokens = .ok budget := by
  unfold ContextBudget.make
  rw [dif_pos budget.positive.1, dif_pos budget.positive.2]

/-- A limit that a grant repeats is kept. -/
theorem narrowLimit_repeated {kind name : String} {requested : Option ℕ} {given : Option JsonValue}
    (positive : requested.all (1 ≤ ·) = true)
    (repeated : given = none ∨ given = some (.ofOption (fun limit => .int limit) requested)) :
    narrowLimit kind name requested given = .ok requested := by
  rcases repeated with rfl | rfl
  · rfl
  · exact narrowLimit_some positive fun most own => ⟨most, own, le_refl most⟩

/-- A grant that repeats the constraints of a request leaves the request as it is. -/
theorem constrainContextRequest_repeated {request : ContextRequest} {call : AuthorizedCall}
    (repeated : ∀ item ∈ call.grant.constraints, item ∈ contextConstraints request) :
    constrainContextRequest request call = .ok { request with context := call.context } := by
  have distinct : ((contextConstraints request).map Prod.fst).Nodup := by
    simp [contextConstraints]
  have known : unknownConstraint call.grant.constraints ["keys", "max_bytes", "max_tokens"] =
      false := by
    have listed := (@unknownConstraint_iff call.grant.constraints
      ["keys", "max_bytes", "max_tokens"]).mpr ?_
    · simpa using listed
    · intro item member
      have own := List.mem_map_of_mem (f := Prod.fst) (repeated item member)
      simpa [contextConstraints] using own
  have names : ∃ names, narrowNames (request.requirements.map (·.key.wireName))
      (Dict.lookup "keys" call.grant.constraints)
      (AuthorizedDispatcher.invalidGrant "context key constraint is invalid")
      (AuthorizedDispatcher.invalidGrant "context grant broadens requested keys") = .ok names ∧
        ∀ item ∈ request.requirements, names.all (·.contains item.key.wireName) = true := by
    rcases @lookup_repeated _ _ "keys" repeated distinct with absent | own
    · rw [absent]
      exact ⟨none, rfl, fun _ _ => rfl⟩
    · have listed : Dict.lookup "keys" (contextConstraints request) =
          some (.arr ((request.requirements.map (·.key.wireName)).map .str)) := by
        simp [contextConstraints, Dict.lookup]
      rw [own, listed]
      refine ⟨some (request.requirements.map (·.key.wireName)), narrowNames_some fun _ all => all, ?_⟩
      intro item member
      simp only [Option.all_some, List.contains_iff_mem]
      exact List.mem_map.mpr ⟨item, member, rfl⟩
  have bytes := @narrowLimit_repeated "context" "max_bytes" _ _
    request.budget.positive.1 (@lookup_repeated _ _ "max_bytes" repeated distinct)
  have tokens := @narrowLimit_repeated "context" "max_tokens" _ _
    request.budget.positive.2 (@lookup_repeated _ _ "max_tokens" repeated distinct)
  obtain ⟨names, narrowed, all⟩ := names
  unfold constrainContextRequest
  dsimp only
  rw [known, narrowed, Bool.not_false, ensure_ok rfl]
  dsimp only [bind, Except.bind]
  rw [ContextRequest.restricted_all all]
  dsimp only
  rw [bytes, tokens]
  dsimp only [bind, Except.bind]
  rw [ContextBudget.make_own]
  rfl

/-! ## Results that are valid -/

theorem checkContextEntries_ok {schemas : SchemaRegistry} {request : ContextRequest}
    {entries : List ContextEntry} {seen : List ContextKey}
    (checked : checkContextEntries schemas request entries seen = .ok ()) :
    (entries.map (·.key)).Nodup ∧ (∀ entry ∈ entries, entry.key ∉ seen) ∧
      ∀ entry ∈ entries, ⟨entry.key, entry.schema⟩ ∈ request.requirements := by
  induction entries generalizing seen with
  | nil => simp
  | cons entry entries ih =>
    obtain ⟨_, expected, checked⟩ := bind_ok checked
    obtain ⟨_, _, checked⟩ := bind_ok checked
    have expected := ensure_eq_ok.mp expected
    simp only [Bool.and_eq_true, Bool.not_eq_true', List.contains_eq_mem, decide_eq_true_eq,
      decide_eq_false_iff_not] at expected
    obtain ⟨distinct, unseen, required⟩ := ih checked
    refine ⟨?_, ?_, ?_⟩
    · rw [List.map_cons, List.nodup_cons]
      refine ⟨?_, distinct⟩
      intro again
      obtain ⟨other, member, same⟩ := List.mem_map.mp again
      exact unseen other member (by simp [same])
    · intro other member
      rcases List.mem_cons.mp member with rfl | member
      · exact expected.2
      · intro before
        exact unseen other member (List.mem_cons_of_mem _ before)
    · intro other member
      rcases List.mem_cons.mp member with rfl | member
      · exact expected.1
      · exact required other member

/-- The keys of the requirements that a result answers. -/
def ContextResult.keys (result : ContextResult) : List ContextKey := result.entries.map (·.key)

/-- The result answers all of a request. -/
def ContextResult.Covers (result : ContextResult) (request : ContextRequest) : Prop :=
  ∀ item ∈ request.requirements, item.key ∈ result.keys

section Valid

variable {schemas : SchemaRegistry} {providerId : ProviderId} {request : ContextRequest}
  {result : ContextResult} (valid : validateContextResult schemas providerId request result = .ok ())

include valid

theorem keys_nodup : result.keys.Nodup := by
  obtain ⟨_, _, valid⟩ := bind_ok valid
  obtain ⟨_, checked, _⟩ := bind_ok valid
  exact (checkContextEntries_ok checked).1

theorem keys_required : ∀ key ∈ result.keys, key ∈ request.requirements.map (·.key) := by
  obtain ⟨_, _, valid⟩ := bind_ok valid
  obtain ⟨_, checked, _⟩ := bind_ok valid
  intro key member
  obtain ⟨entry, listed, rfl⟩ := List.mem_map.mp member
  exact List.mem_map.mpr ⟨_, (checkContextEntries_ok checked).2.2 entry listed, rfl⟩

/-- A valid result is complete if and only if it answers all that its provider was asked for. -/
theorem complete_iff_covers : result.completeness = .complete ↔ result.Covers request := by
  obtain ⟨_, _, valid⟩ := bind_ok valid
  obtain ⟨_, _, stated⟩ := bind_ok valid
  have stated := ensure_eq_ok.mp stated
  unfold missingAsStated at stated
  simp only [Bool.and_eq_true, List.all_eq_true, List.contains_iff_mem] at stated
  rw [result.valid.2]
  constructor
  · intro none item member
    by_contra absent
    have missing : item.key ∈ result.missingKeys := by
      apply stated.1
      refine List.mem_filter.mpr ⟨List.mem_map.mpr ⟨item, member, rfl⟩, ?_⟩
      simpa [ContextResult.keys] using absent
    rw [none] at missing
    cases missing
  · intro covers
    apply List.eq_nil_iff_forall_not_mem.mpr
    intro key listed
    obtain ⟨required, absent⟩ := List.mem_filter.mp (stated.2 key listed)
    obtain ⟨item, member, rfl⟩ := List.mem_map.mp required
    have present := covers item member
    simp only [Bool.not_eq_true', List.contains_eq_mem, decide_eq_false_iff_not] at absent
    exact absent present

end Valid

/-! ## The combination of one result -/

theorem ContextEntry.merged_alone (entry : ContextEntry) : entry.merged [] entry.value = entry := by
  unfold ContextEntry.merged
  obtain ⟨key, schema, value, provenance, freshAt, expiresAt, valid⟩ := entry
  congr 1
  simp

/-- The entry of a result for a key. -/
def ContextResult.find (result : ContextResult) (key : ContextKey) : Option ContextEntry :=
  result.entries.find? fun entry => entry.key == key

theorem filter_eq_toList_find {entries : List ContextEntry} {key : ContextKey}
    (distinct : (entries.map (·.key)).Nodup) :
    entries.filter (fun entry => entry.key == key) =
      (entries.find? fun entry => entry.key == key).toList := by
  induction entries with
  | nil => rfl
  | cons entry entries ih =>
    rw [List.map_cons, List.nodup_cons] at distinct
    cases same : entry.key == key with
    | true =>
      simp only [List.filter_cons, List.find?_cons, same, if_true]
      have none : entries.filter (fun entry => entry.key == key) = [] := by
        apply List.filter_eq_nil_iff.mpr
        intro other member again
        apply distinct.1
        rw [beq_iff_eq.mp same, ← beq_iff_eq.mp again]
        exact List.mem_map.mpr ⟨other, member, rfl⟩
      rw [none]
      rfl
    | false =>
      simp only [List.filter_cons, List.find?_cons, same]
      exact ih distinct.2

/-- What one result gives for the requirements, in their order. -/
def ContextResult.ordered (result : ContextResult) (requirements : List ContextRequirement) :
    List ContextEntry :=
  requirements.flatMap fun requirement => (result.find requirement.key).toList

theorem combineContextEntries_alone {merges : ContextMergeRegistry} {result : ContextResult}
    (distinct : result.keys.Nodup) (requirements : List ContextRequirement) :
    combineContextEntries merges .firstSuccess result.entries requirements =
      .ok (result.ordered requirements) := by
  induction requirements with
  | nil => rfl
  | cons requirement requirements ih =>
    unfold combineContextEntries
    rw [filter_eq_toList_find distinct, ih]
    unfold ContextResult.ordered ContextResult.find
    rw [List.flatMap_cons]
    cases result.entries.find? fun entry => entry.key == requirement.key with
    | none => rfl
    | some entry =>
      have merged : mergeContextEntries merges .firstSuccess requirement.schema [entry] =
          .ok [entry] := by
        have alone : merges.merge requirement.schema [entry.value] = .ok entry.value := rfl
        have some : ContextMergeStrategy.firstSuccess ≠ .all := by decide
        unfold mergeContextEntries
        dsimp only
        rw [if_neg some]
        change (do
          let value ← merges.merge requirement.schema [entry.value]
          return [entry.merged [] value]) = _
        rw [alone]
        change Except.ok [entry.merged [] entry.value] = _
        rw [entry.merged_alone]
      change (do
        let entries ← mergeContextEntries merges .firstSuccess requirement.schema [entry]
        let rest ← Except.ok _
        return entries ++ rest) = _
      rw [merged]
      rfl

/-- What one result takes up of the budget. -/
def ContextResult.taken [PythonFloat] (result : ContextResult) (request : ContextRequest) :
    ContextUsage :=
  ⟨(JsonValue.arr ((result.ordered request.requirements).map (·.value))).byteCount,
    result.usage.tokenCount⟩

/-- The outcome is a context that has every required key. -/
def CompleteContext (request : ContextRequest) (outcome : Except Raised ResolvedContext) : Prop :=
  ∃ resolved, outcome = .ok resolved ∧
    ∀ item ∈ request.requirements, item.key ∈ resolved.entries.map (·.key)

/-- One result makes a complete context if and only if it answers all of the request, within its
budget. -/
theorem combineContext_complete [PythonFloat] {merges : ContextMergeRegistry}
    {request : ContextRequest} {result : ContextResult} (distinct : result.keys.Nodup) :
    CompleteContext request (combineContext merges request .firstSuccess [result]) ↔
      result.Covers request ∧
        enforceContextBudget request.budget (result.taken request) = .ok () := by
  have given : [result].flatMap (·.entries) = result.entries := by simp
  have tokens : totalTokens [result] = result.usage.tokenCount := by
    cases counted : result.usage.tokenCount with
    | none => simp [totalTokens, counted]
    | some count => simp [totalTokens, counted]
  have covers : (∀ item ∈ request.requirements,
      item.key ∈ (result.ordered request.requirements).map (·.key)) ↔ result.Covers request := by
    constructor
    · intro all item member
      obtain ⟨entry, listed, same⟩ := List.mem_map.mp (all item member)
      obtain ⟨requirement, _, found⟩ := List.mem_flatMap.mp listed
      have member := List.mem_of_find?_eq_some (Option.mem_toList.mp found)
      exact List.mem_map.mpr ⟨entry, member, same⟩
    · intro all item member
      obtain ⟨entry, listed, same⟩ := List.mem_map.mp (all item member)
      cases found : result.find item.key with
      | none =>
        have other := List.find?_eq_none.mp found entry listed
        exact absurd (beq_iff_eq.mpr same) other
      | some first =>
        have matched := List.find?_some found
        refine List.mem_map.mpr ⟨first, ?_, beq_iff_eq.mp matched⟩
        exact List.mem_flatMap.mpr ⟨item, member, Option.mem_toList.mpr found⟩
  unfold combineContext
  rw [given, combineContextEntries_alone distinct, tokens]
  change CompleteContext request (do
    enforceContextBudget request.budget (result.taken request)
    _) ↔ _
  cases enforced : enforceContextBudget request.budget (result.taken request) with
  | error error =>
    constructor
    · intro complete
      obtain ⟨resolved, impossible, -⟩ := complete
      cases impossible
    · intro impossible
      cases impossible.2
  | ok _ =>
    have selected : [result].map (·.providerId) ≠ [] := by simp
    dsimp only [bind, Except.bind]
    rw [dif_pos selected, ← covers]
    constructor
    · intro complete
      obtain ⟨resolved, same, all⟩ := complete
      cases same
      exact ⟨all, rfl⟩
    · intro complete
      exact ⟨_, rfl, complete.1⟩

/-! ## The choice among results -/

/-- The provider says that its answer is complete. -/
def completes (reply : ProviderId → Except Raised ContextResult) (providerId : ProviderId) : Bool :=
  match reply providerId with
  | .ok result => result.completeness == .complete
  | .error _ => false

/-- What the providers answer until one is complete. -/
def collected (reply : ProviderId → Except Raised ContextResult) :
    List (ProviderId × ContextRequest) → List ContextResult → List ContextResult
  | [], results => results
  | group :: groups, results =>
    match reply group.1 with
    | .error _ => collected reply groups results
    | .ok result =>
      if result.completeness = .complete then results ++ [result]
      else collected reply groups (results ++ [result])

/-- What an exception of a provider is raised as. -/
def normalizedError : Raised → Raised
  | .core detail => .core detail
  | error => if error.isException then .core (contextProviderFailure error) else error

/-- A provider answers validly what it is asked for, or fails so that it is passed over. -/
structure Conforms (schemas : SchemaRegistry) (reply : ProviderId → Except Raised ContextResult)
    (group : ProviderId × ContextRequest) : Prop where
  answers : ∀ result, reply group.1 = .ok result →
    validateContextResult schemas group.1 group.2 result = .ok ()
  fails : ∀ error, reply group.1 = .error error →
    ContextResolver.passedOver .firstSuccess (normalizedError error) = true

section Choice

variable {schemas : SchemaRegistry} {reply : ProviderId → Except Raised ContextResult}
  {request : ContextRequest} {groups : List (ProviderId × ContextRequest)}

/-- What is collected ends with the first complete answer, if there is one. -/
theorem collected_spec (groups : List (ProviderId × ContextRequest)) (results : List ContextResult) :
    ∃ partials, (∀ result ∈ partials, ∃ group ∈ groups, reply group.1 = .ok result ∧
        result.completeness ≠ .complete) ∧
      ((groups.find? (fun group => completes reply group.1) = none ∧
          collected reply groups results = results ++ partials) ∨
        ∃ group result, groups.find? (fun group => completes reply group.1) = some group ∧
          reply group.1 = .ok result ∧ result.completeness = .complete ∧
          collected reply groups results = results ++ partials ++ [result]) := by
  induction groups generalizing results with
  | nil => exact ⟨[], by simp, .inl ⟨rfl, by simp [collected]⟩⟩
  | cons group groups ih =>
    cases answered : reply group.1 with
    | error error =>
      have no : completes reply group.1 = false := by simp [completes, answered]
      obtain ⟨partials, from_, ends⟩ := ih results
      refine ⟨partials, ?_, ?_⟩
      · intro result member
        obtain ⟨source, listed, rest⟩ := from_ result member
        exact ⟨source, List.mem_cons_of_mem _ listed, rest⟩
      · simp only [List.find?_cons, no, collected, answered]
        exact ends
    | ok result =>
      by_cases complete : result.completeness = .complete
      · have yes : completes reply group.1 = true := by simp [completes, answered, complete]
        refine ⟨[], by simp, .inr ⟨group, result, ?_, answered, complete, ?_⟩⟩
        · simp only [List.find?_cons, yes]
        · simp [collected, answered, complete]
      · have no : completes reply group.1 = false := by simp [completes, answered, complete]
        obtain ⟨partials, from_, ends⟩ := ih (results ++ [result])
        refine ⟨result :: partials, ?_, ?_⟩
        · intro other member
          rcases List.mem_cons.mp member with rfl | member
          · exact ⟨group, List.mem_cons_self .., answered, complete⟩
          · obtain ⟨source, listed, rest⟩ := from_ other member
            exact ⟨source, List.mem_cons_of_mem _ listed, rest⟩
        · simp only [List.find?_cons, no, collected, answered, if_neg complete]
          simpa using ends

/-- A valid answer to a part of a request is as long as the request if and only if it covers it. -/
theorem covers_iff_length {providerId : ProviderId} {part_ : ContextRequest} {result : ContextResult}
    {kept : ContextRequirement → Bool} (restricts : request.restricted kept = some part_)
    (valid : validateContextResult schemas providerId part_ result = .ok ()) :
    result.entries.length ≤ request.requirements.length ∧
      (result.Covers request ↔ request.requirements.length ≤ result.entries.length) := by
  have within : result.keys ⊆ request.requirements.map (·.key) := by
    intro key member
    obtain ⟨item, listed, rfl⟩ := List.mem_map.mp (keys_required valid key member)
    rw [(ContextRequest.restricted_some restricts).1] at listed
    exact List.mem_map.mpr ⟨item, (List.mem_filter.mp listed).1, rfl⟩
  have fewer := (List.subperm_of_subset (keys_nodup valid) within)
  have lengths : result.keys.length = result.entries.length := by simp [ContextResult.keys]
  have most := fewer.length_le
  rw [List.length_map, lengths] at most
  refine ⟨most, ?_, ?_⟩
  · intro covers
    have all : request.requirements.map (·.key) ⊆ result.keys := by
      intro key member
      obtain ⟨item, listed, rfl⟩ := List.mem_map.mp member
      exact covers item listed
    have more := (List.subperm_of_subset request.unique.2 all).length_le
    rw [List.length_map, lengths] at more
    exact more
  · intro long
    have same := fewer.perm_of_length_le (by rw [List.length_map, lengths]; exact long)
    intro item member
    exact same.mem_iff.mpr (List.mem_map.mpr ⟨item, member, rfl⟩)

/-- An answer that covers a request is complete, and its provider was asked for all of it. -/
theorem covers_iff {providerId : ProviderId} {part_ : ContextRequest} {result : ContextResult}
    {kept : ContextRequirement → Bool} (restricts : request.restricted kept = some part_)
    (valid : validateContextResult schemas providerId part_ result = .ok ()) :
    result.Covers request ↔ result.completeness = .complete ∧
      ∀ item ∈ request.requirements, kept item = true := by
  have parts := (ContextRequest.restricted_some restricts).1
  rw [complete_iff_covers valid]
  constructor
  · intro covers
    constructor
    · intro item listed
      rw [parts] at listed
      exact covers item (List.mem_filter.mp listed).1
    · intro item member
      obtain ⟨other, listed, same⟩ := List.mem_map.mp (keys_required valid _ (covers item member))
      rw [parts] at listed
      obtain ⟨listed, keeps⟩ := List.mem_filter.mp listed
      have equal := List.inj_on_of_nodup_map request.unique.2 listed member same
      rw [← equal]
      exact keeps
  · intro whole item member
    apply whole.1 item
    rw [parts]
    exact List.mem_filter.mpr ⟨member, whole.2 item member⟩

theorem not_completeContext_error {error : Raised} :
    ¬CompleteContext request (.error error) := by
  intro complete
  obtain ⟨resolved, impossible, -⟩ := complete
  cases impossible

/-- The context that is chosen is complete if and only if the first answer that is complete is one
to all of the request, and fits. -/
theorem chosen_complete [PythonFloat] {merges : ContextMergeRegistry}
    {kept : ProviderId → ContextRequirement → Bool}
    (restricts : ∀ group ∈ groups, request.restricted (kept group.1) = some group.2)
    (conforms : ∀ group ∈ groups, Conforms schemas reply group) :
    CompleteContext request (do
      let results ← ContextResolver.chosen .firstSuccess (collected reply groups [])
      combineContext merges request .firstSuccess results) ↔
    ∃ group result, groups.find? (fun group => completes reply group.1) = some group ∧
      reply group.1 = .ok result ∧ (∀ item ∈ request.requirements, kept group.1 item = true) ∧
      enforceContextBudget request.budget (result.taken request) = .ok () := by
  obtain ⟨partials, from_, ends⟩ := @collected_spec reply groups []
  -- what is collected before the first complete answer covers nothing
  have uncovering : ∀ result ∈ partials, ¬result.Covers request := by
    intro result member covers
    obtain ⟨group, listed, answered, incomplete⟩ := from_ result member
    have valid := (conforms group listed).answers result answered
    exact incomplete ((covers_iff (restricts group listed) valid).mp covers).1
  have distinct : ∀ group ∈ groups, ∀ result, reply group.1 = .ok result → result.keys.Nodup := by
    intro group listed result answered
    exact keys_nodup ((conforms group listed).answers result answered)
  have picked : ∀ result ∈ collected reply groups [], ∃ group ∈ groups,
      reply group.1 = .ok result := by
    intro result member
    rcases ends with ⟨-, same⟩ | ⟨group, last, found, answered, -, same⟩
    · rw [same] at member
      obtain ⟨group, listed, answered, -⟩ := from_ result (by simpa using member)
      exact ⟨group, listed, answered⟩
    · rw [same] at member
      rcases List.mem_append.mp member with early | final
      · obtain ⟨group, listed, answered, -⟩ := from_ result (by simpa using early)
        exact ⟨group, listed, answered⟩
      · obtain rfl := List.mem_singleton.mp final
        exact ⟨group, List.mem_of_find?_eq_some found, answered⟩
  unfold ContextResolver.chosen
  cases most : (collected reply groups []).argmax fun result => result.entries.length with
  | none =>
    have empty := List.argmax_eq_none.mp most
    constructor
    · intro complete
      exact absurd complete not_completeContext_error
    · intro holds
      obtain ⟨group, result, found, -⟩ := holds
      rcases ends with ⟨none, -⟩ | ⟨_, _, _, _, _, same⟩
      · rw [none] at found
        cases found
      · rw [empty] at same
        simp at same
  | some chosen =>
    have member := List.argmax_mem most
    obtain ⟨source, listed, answered⟩ := picked chosen member
    change CompleteContext request (combineContext merges request .firstSuccess [chosen]) ↔ _
    rw [combineContext_complete (distinct source listed chosen answered)]
    rcases ends with ⟨none, same⟩ | ⟨group, last, found, replied, complete, same⟩
    · rw [same] at member
      constructor
      · intro holds
        exact absurd holds.1 (uncovering chosen (by simpa using member))
      · intro holds
        obtain ⟨group, result, found, -⟩ := holds
        rw [none] at found
        cases found
    · have inside := List.mem_of_find?_eq_some found
      have valid := (conforms group inside).answers last replied
      have parts := covers_iff (restricts group inside) valid
      have only : chosen.Covers request → chosen = last := by
        intro covers
        rw [same] at member
        rcases List.mem_append.mp member with early | final
        · exact absurd covers (uncovering chosen (by simpa using early))
        · exact List.mem_singleton.mp final
      constructor
      · intro holds
        obtain rfl := only holds.1
        exact ⟨group, chosen, found, replied, (parts.mp holds.1).2, holds.2⟩
      · intro holds
        obtain ⟨other, result, found', replied', whole, fits⟩ := holds
        rw [found] at found'
        cases found'
        rw [replied] at replied'
        cases replied'
        have covers := parts.mpr ⟨complete, whole⟩
        have long := ((covers_iff_length (restricts group inside) valid).2).mp covers
        have listedLast : last ∈ collected reply groups [] := by
          rw [same]
          simp
        have longest := List.le_of_mem_argmax listedLast most
        have chosenLong : request.requirements.length ≤ chosen.entries.length := long.trans longest
        have chosenValid := (conforms source listed).answers chosen answered
        have covering := ((covers_iff_length (restricts source listed) chosenValid).2).mpr chosenLong
        rw [only covering]
        exact ⟨covers, fits⟩

end Choice

namespace ContextResolver

end ContextResolver

end CongeriesCore
