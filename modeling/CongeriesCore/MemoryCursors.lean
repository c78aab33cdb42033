import CongeriesCore.EncodedReferences
import CongeriesCore.GatewayTraces
import CongeriesCore.GrantNarrowing
import CongeriesCore.MemoryGateway

/-! # Cursors of a memory page

The cursor of a page is bound to the query that the provider was asked, which is the one that the
grant left. The provider is asked for another page only with a query that searches the same. -/

namespace CongeriesCore

open AsyncProgram AsyncProgram.Program GatewayDispatch

/-! ## What a fingerprint tells -/

/-- The same block, up to the order of the keys in its value. -/
structure ContentBlock.Same (first second : ContentBlock) : Prop where
  kind : first.kind = second.kind
  value : Reordered first.value second.value
  name : first.name = second.name
  mediaType : first.mediaType = second.mediaType

/-- Queries that differ in nothing but their cursors, and the order of keys. -/
structure MemoryQuery.SameSearch (first second : MemoryQuery) : Prop where
  scope : first.scope = second.scope
  content : first.content.Same second.content
  schema : first.schema = second.schema
  filters : Reordered (.obj first.filters.fields) (.obj second.filters.fields)
  limit : first.limit = second.limit
  projection : first.projection = second.projection

theorem canonicalItems_strings (names : List String) :
    JsonValue.canonicalItems (names.map .str) = names.map .str := by
  induction names with
  | nil => rfl
  | cons name names ih => simp [JsonValue.canonicalItems, JsonValue.canonical, ih]

theorem ofOption_str_injective {first second : Option String}
    (same : (JsonValue.ofOption JsonValue.str first).canonical =
      (JsonValue.ofOption JsonValue.str second).canonical) : first = second := by
  cases first with
  | none =>
    cases second with
    | none => rfl
    | some other => simp [JsonValue.ofOption] at same
  | some text =>
    cases second with
    | none => simp [JsonValue.ofOption] at same
    | some other => simpa [JsonValue.ofOption, JsonValue.canonical] using same

theorem ContentKind.value_injective {first second : ContentKind}
    (same : first.value = second.value) : first = second := by
  cases first <;> cases second <;> first | rfl | exact absurd same (by decide)

theorem ContentBlock.same_of_canonical {first second : ContentBlock}
    (same : first.toData.canonical = second.toData.canonical) : first.Same second := by
  have looked := lookup_of_canonical (by simp [fields]) (by simp [fields]) same
  have kinds : first.kind.value = second.kind.value := by
    simpa [fields, Dict.lookup, JsonValue.canonical] using looked "kind"
  have values : first.value.canonical = second.value.canonical := by
    simpa [fields, Dict.lookup] using looked "value"
  have names := looked "name"
  have media := looked "media_type"
  simp only [fields, Dict.lookup] at names media
  exact ⟨ContentKind.value_injective kinds, JsonValue.reordered_of_canonical _ _ values,
    ofOption_str_injective (Option.some.inj names), ofOption_str_injective (Option.some.inj media)⟩

namespace MemoryQuery

variable {first second : MemoryQuery}

theorem sameSearch_of_canonical
    (same : first.fingerprintData.canonical = second.fingerprintData.canonical) :
    first.SameSearch second := by
  have looked := lookup_of_canonical (by simp) (by simp) same
  have scopes : first.scope.toData.canonical = second.scope.toData.canonical := by
    simpa [Dict.lookup] using looked "scope"
  have contents : first.content.toData.canonical = second.content.toData.canonical := by
    simpa [Dict.lookup] using looked "content"
  have schemas : first.schema.toData.canonical = second.schema.toData.canonical := by
    simpa [Dict.lookup] using looked "schema"
  have filters : (JsonValue.obj first.filters.fields).canonical =
      (JsonValue.obj second.filters.fields).canonical := by
    simpa only [Dict.lookup, if_true, if_false, String.reduceEq, Option.map_some,
      Option.some.injEq] using looked "filters"
  have limits : first.limit = second.limit := by
    simpa [Dict.lookup, JsonValue.canonical] using looked "limit"
  have projections : first.projection = second.projection := by
    have items : first.projection.map JsonValue.str = second.projection.map .str := by
      simpa [Dict.lookup, JsonValue.canonical, canonicalItems_strings] using looked "projection"
    exact List.map_injective_iff.mpr (fun _ _ => JsonValue.str.inj) items
  exact ⟨ScopeRef.eq_of_canonical scopes, ContentBlock.same_of_canonical contents,
    SchemaRef.eq_of_canonical schemas, JsonValue.reordered_of_canonical _ _ filters, limits,
    projections⟩

theorem SameSearch.canonical (same : first.SameSearch second) :
    first.fingerprintData.canonical = second.fingerprintData.canonical := by
  have values := JsonValue.canonical_of_reordered same.content.value first.valid.2.2
  have filters := JsonValue.canonical_of_reordered same.filters first.filters.keyed
  have contents : first.content.toData.canonical = second.content.toData.canonical := by
    rw [ContentBlock.toData, ContentBlock.toData, JsonValue.canonical_obj, JsonValue.canonical_obj]
    simp only [ContentBlock.fields, JsonValue.canonicalFields, values, same.content.kind,
      same.content.name, same.content.mediaType]
  rw [fingerprintData, fingerprintData, JsonValue.canonical_obj, JsonValue.canonical_obj]
  simp only [JsonValue.canonicalFields, contents, filters, same.scope, same.schema, same.limit,
    same.projection]

/-- A fingerprint is of the search, not of how it is spelled. -/
theorem SameSearch.fingerprint [Sha256] (same : first.SameSearch second) :
    first.queryFingerprint = second.queryFingerprint := by
  rw [queryFingerprint, queryFingerprint, JsonValue.sha256, JsonValue.sha256, same.canonical]

end MemoryQuery

/-! ## The way to the provider -/

namespace MemoryCursors

open MemoryGateway

abbrev MemoryEvent := Event (gatewayInterface memoryInterface) Raised

abbrev MemoryTrace := GatewayTrace memoryInterface

/-- A page is not asked for. -/
def Aside : GatewayOp memoryInterface → Prop
  | .call (.retrieve _ _ _) => False
  | _ => True

theorem aside_of_own (op : GatewayOp memoryInterface) (own : op.own) : Aside op := by
  cases op with
  | call op => exact absurd own id
  | _ => trivial

theorem aside_of_quiet (op : GatewayOp memoryInterface) (quiet : op.quiet) : Aside op :=
  aside_of_own op (GatewayOp.own_of_quiet quiet)

section Runs

variable [Sha256] {gateway : MemoryGateway} {providerId : ProviderId}
  {query effective : MemoryQuery} {context : RuntimeCallContext} {page : MemoryPage}
  {capabilities : MemoryCapabilities} {trace after : MemoryTrace}

/-- The provider is asked with what a grant has left of the query, and the cursor has passed every
check. -/
structure Asked (providerId : ProviderId) (query effective : MemoryQuery) (trace : MemoryTrace) :
    Prop where
  granted : ∃ access decision grant, (⟨.authorize access, .ok decision⟩ : MemoryEvent) ∈ trace ∧
    decision.grant = some grant ∧ constrainMemoryQuery query grant.constraints = .ok effective
  provider : prevalidateCursor providerId query = .ok ()
  version : ∃ capabilities context,
    (⟨.call (.capabilities providerId context), .ok (.typed capabilities)⟩ : MemoryEvent) ∈ trace ∧
      checkCursorVersion query capabilities = .ok ()
  drift : checkCursorDrift effective = .ok ()

theorem Asked.later (asked : Asked providerId query effective trace) (subset : trace ⊆ after) :
    Asked providerId query effective after := by
  obtain ⟨⟨access, decision, grant, authorized, given, narrowed⟩, provider,
    ⟨capabilities, context, answered, version⟩, drift⟩ := asked
  exact ⟨⟨access, decision, grant, subset authorized, given, narrowed⟩, provider,
    ⟨capabilities, context, subset answered, version⟩, drift⟩

/-- What a page is that has been accepted. -/
structure Paged (providerId : ProviderId) (effective : MemoryQuery)
    (capabilities : MemoryCapabilities) (page : MemoryPage) : Prop where
  identity : page.providerId = providerId ∧ page.contractVersion = capabilities.contractVersion
  bounded : page.records.length ≤ effective.limit
  records : ∀ record ∈ page.records, record.ref.providerId = providerId ∧
    record.ref.scope.key = effective.scope.key
  cursor : ∀ cursor ∈ page.nextCursor, cursor.providerId = providerId ∧
    cursor.contractVersion = page.contractVersion ∧
    cursor.queryFingerprint = effective.queryFingerprint

omit [Sha256] in
theorem validateRecords_ok {records : List MemoryRecord}
    (valid : gateway.validateRecords providerId effective capabilities records = .ok ()) :
    ∀ record ∈ records, record.ref.providerId = providerId ∧
      record.ref.scope.key = effective.scope.key := by
  induction records with
  | nil => simp
  | cons record records ih =>
    obtain ⟨_, own, valid⟩ := bind_ok valid
    obtain ⟨_, _, valid⟩ := bind_ok valid
    have own := ensure_eq_ok.mp own
    simp only [Bool.and_eq_true, beq_iff_eq] at own
    intro other member
    rcases List.mem_cons.mp member with rfl | member
    · exact own.1.1
    · exact ih valid other member

theorem validatePage_ok
    (valid : gateway.validatePage providerId effective capabilities page = .ok ()) :
    Paged providerId effective capabilities page := by
  obtain ⟨_, identity, valid⟩ := bind_ok valid
  obtain ⟨_, records, cursor⟩ := bind_ok valid
  have identity := ensure_eq_ok.mp identity
  have cursor := ensure_eq_ok.mp cursor
  simp only [Bool.and_eq_true, beq_iff_eq, decide_eq_true_eq] at identity
  refine ⟨identity.1, identity.2, validateRecords_ok records, ?_⟩
  intro next given
  rw [Option.mem_def.mp given] at cursor
  simp only [Option.all_some, Bool.and_eq_true, beq_iff_eq] at cursor
  exact ⟨cursor.1.1, cursor.1.2.trans identity.1.2.symm, cursor.2⟩

/-- A page that is returned has been asked for, and accepted. -/
def Retrieved (providerId : ProviderId) (query : MemoryQuery) (outcome : Except Raised MemoryPage)
    (trace : MemoryTrace) : Prop :=
  ∀ page, outcome = .ok page → ∃ effective capabilities context,
    (⟨.call (.retrieve providerId effective context), .ok (.typed page)⟩ : MemoryEvent) ∈ trace ∧
      Asked providerId query effective trace ∧ Paged providerId effective capabilities page

theorem Retrieved.raised (error : Raised) : Retrieved providerId query (.error error) trace := by
  intro page impossible
  cases impossible

theorem Retrieved.later (retrieved : Retrieved providerId query (.ok page) trace)
    (subset : trace ⊆ after) : Retrieved providerId query (.ok page) after := by
  intro other same
  obtain ⟨effective, capabilities, context, answered, asked, paged⟩ := retrieved other same
  exact ⟨effective, capabilities, context, subset answered, asked.later subset, paged⟩

/-- What has to hold when the provider is asked for a page. -/
def need (providerId : ProviderId) (query : MemoryQuery) :
    (op : GatewayOp memoryInterface) → MemoryTrace → Prop
  | .call (.retrieve asked effective _), trace =>
    asked = providerId ∧ Asked providerId query effective trace
  | _, _ => True

theorem need_of_aside (op : GatewayOp memoryInterface) (trace : MemoryTrace) (aside : Aside op) :
    need providerId query op trace := by
  cases op with
  | call op =>
    cases op with
    | retrieve asked effective context => exact absurd aside id
    | _ => trivial
  | _ => trivial

variable {permits : (op : GatewayOp memoryInterface) → Except Raised op.Answer → Prop}

omit [Sha256] in
theorem subset_of_grown {allowed : GatewayOp memoryInterface → Prop}
    (grown : Grown allowed trace after) : trace ⊆ after := fun _ member => grown.subset member

/-- One call of the provider, with what surrounds it. -/
theorem guards_provider {op : MemoryOp}
    (needed : ∀ after, trace ⊆ after → need providerId query (.call op) after) :
    Guards permits (need providerId query) (normalized (context.awaitProvider (memoryOp op)))
      (fun outcome after => trace ⊆ after ∧ ∀ value, outcome = .ok value →
        (⟨.call op, .ok value⟩ : MemoryEvent) ∈ after) trace := by
  have active : ∀ start : MemoryTrace, ∀ (op : GatewayOp memoryInterface) after, op.quiet →
      Grown GatewayOp.quiet start after → need providerId query op after :=
    fun _ op after quiet _ => need_of_aside op after (aside_of_quiet op quiet)
  have awaited : Guards permits (need providerId query) (context.awaitProvider (memoryOp op))
      (fun outcome after => trace ⊆ after ∧ ∀ value, outcome = .ok value →
        (⟨.call op, .ok value⟩ : MemoryEvent) ∈ after) trace := by
    apply (only_active (fun _ quiet => quiet) context).safe_bind (active trace)
    · intro _ entered grown
      have early := subset_of_grown grown
      apply safe_perform_bind (needed entered early)
      · intro value _
        have later : trace ⊆ entered ++ [(⟨.call op, .ok value⟩ : MemoryEvent)] :=
          List.subset_append_of_subset_left _ early
        apply (only_active (fun _ quiet => quiet) context).safe_bind (active _)
        · intro _ left grown
          refine ⟨fun event member => grown.subset (later member), ?_⟩
          intro result same
          obtain rfl := Except.ok.inj same
          exact grown.subset (by simp)
        · intro error left grown
          exact ⟨fun event member => grown.subset (later member), nofun⟩
      · intro error _
        exact ⟨List.subset_append_of_subset_left _ early, nofun⟩
    · intro error left grown
      exact ⟨subset_of_grown grown, nofun⟩
  apply awaited.catching
  · intro value after reached
    exact reached
  · intro error after reached
    cases error with
    | core detail => exact ⟨reached.1, nofun⟩
    | _ =>
      dsimp only
      split
      · exact ⟨reached.1, nofun⟩
      · exact ⟨reached.1, nofun⟩

/-- A dispatch to an operation that goes on from every grant. -/
theorem guards_dispatched {α : Type} {access : AccessRequest}
    {operation : AuthorizedCall → MemoryProgram α} {post : Except Raised α → MemoryTrace → Prop}
    (refused : ∀ error after, post (.error error) after)
    (operates : ∀ call after, trace ⊆ after →
      (∃ decision, decision.grant = some call.grant ∧
        (⟨.authorize access, .ok decision⟩ : MemoryEvent) ∈ after) →
      Guards permits (need providerId query) (operation call) post after) :
    Guards permits (need providerId query)
      (gateway.authorization.dispatcher.dispatch access operation) post trace := by
  apply guards_dispatch
  · intro op after quiet
    exact need_of_aside op after (aside_of_quiet op quiet)
  · intro after _
    trivial
  · intro error after _
    exact refused error after
  · intro call after _ granting
    exact operates call after (subset_of_grown granting.grown) granting.mem

/-- What discovering a provider tells. -/
def Discovered (providerId : ProviderId) (trace : MemoryTrace)
    (outcome : Except Raised MemoryCapabilities) (after : MemoryTrace) : Prop :=
  ∀ capabilities, outcome = .ok capabilities → trace ⊆ after ∧ ∃ context,
    (⟨.call (.capabilities providerId context), .ok (.typed capabilities)⟩ : MemoryEvent) ∈ after

theorem guards_discover (scope : ScopeRef) : Guards permits (need providerId query)
    (gateway.discover providerId context scope) (Discovered providerId trace) trace := by
  have refused : ∀ error after, Discovered providerId trace (.error error) after := by
    intro error after capabilities impossible
    cases impossible
  apply safe_ofExcept_bind
  · intro _ _
    apply safe_ofExcept_bind
    · intro _ _
      have answered : Guards permits (need providerId query)
          (gateway.authorization.dispatcher.dispatch
            (memoryAccess providerId context scope memoryCapabilitiesAction []) fun call => do
              ofExcept (ensure call.grant.constraints.isEmpty (AuthorizedDispatcher.invalidGrant
                "memory capability grant contains unknown constraints"))
              normalized (call.context.awaitProvider
                (memoryOp (.capabilities providerId call.context))))
          (fun outcome after => ∀ raw, outcome = .ok raw → trace ⊆ after ∧ ∃ context,
            (⟨.call (.capabilities providerId context), .ok raw⟩ : MemoryEvent) ∈ after) trace := by
        apply guards_dispatched
        · intro error after raw impossible
          cases impossible
        · intro call after subset _
          apply safe_ofExcept_bind
          · intro _ _
            have answered := @guards_provider _ providerId query call.context after permits
              (.capabilities providerId call.context) fun _ _ => trivial
            apply answered.mono
            intro outcome final reached raw same
            exact ⟨fun event member => reached.1 (subset member), _, reached.2 raw same⟩
          · intro error _ raw impossible
            cases impossible
      apply answered.bind
      · intro raw after reached
        obtain ⟨subset, called, asked⟩ := reached raw rfl
        cases raw with
        | malformed => exact refused _ after
        | typed capabilities =>
          apply safe_ofExcept_bind
          · intro _ _ other same
            obtain rfl := Except.ok.inj same
            exact ⟨subset, called, asked⟩
          · intro error _
            exact refused error after
      · intro error after _
        exact refused error after
    · intro error _
      exact refused error trace
  · intro error _
    exact refused error trace

/-- What an operation leaves: the page that the provider answered, and for which query. -/
def Operated (providerId : ProviderId) (query : MemoryQuery)
    (outcome : Except Raised (MemoryQuery × Returned MemoryPage)) (after : MemoryTrace) : Prop :=
  ∀ effective raw, outcome = .ok (effective, raw) → Asked providerId query effective after ∧
    ∃ context, (⟨.call (.retrieve providerId effective context), .ok raw⟩ : MemoryEvent) ∈ after

theorem guards_operation {access : AccessRequest} {call : AuthorizedCall}
    (provider : prevalidateCursor providerId query = .ok ())
    (version : ∃ capabilities context,
      (⟨.call (.capabilities providerId context), .ok (.typed capabilities)⟩ : MemoryEvent) ∈ trace ∧
        checkCursorVersion query capabilities = .ok ())
    (granted : ∃ decision, decision.grant = some call.grant ∧
      (⟨.authorize access, .ok decision⟩ : MemoryEvent) ∈ trace) :
    Guards permits (need providerId query) (gateway.retrieveOperation providerId query call)
      (Operated providerId query) trace := by
  have refused : ∀ error after, Operated providerId query (.error error) after := by
    intro error after effective raw impossible
    cases impossible
  apply safe_ofExcept_bind
  · intro effective narrowed
    apply safe_ofExcept_bind
    · intro _ drift
      obtain ⟨decision, given, authorized⟩ := granted
      have asked : Asked providerId query effective trace :=
        ⟨⟨access, decision, call.grant, authorized, given, narrowed⟩, provider, version, drift⟩
      apply safe_ofExcept_bind
      · intro _ _
        have answered := @guards_provider _ providerId query call.context trace permits
          (.retrieve providerId effective call.context) fun after subset => ⟨rfl, asked.later subset⟩
        apply answered.bind
        · intro raw after reached other value same
          obtain ⟨rfl, rfl⟩ := Prod.mk.inj (Except.ok.inj same)
          exact ⟨asked.later reached.1, call.context, reached.2 raw rfl⟩
        · intro error after _
          exact refused error after
      · intro error _
        exact refused error trace
    · intro error _
      exact refused error trace
  · intro error _
    exact refused error trace

omit [Sha256] in
theorem checkCursorVersion_of_valid (valid : gateway.validateQuery query capabilities = .ok ()) :
    checkCursorVersion query capabilities = .ok () := by
  obtain ⟨_, _, valid⟩ := bind_ok valid
  obtain ⟨_, _, valid⟩ := bind_ok valid
  obtain ⟨_, _, valid⟩ := bind_ok valid
  obtain ⟨_, _, valid⟩ := bind_ok valid
  obtain ⟨_, _, valid⟩ := bind_ok valid
  obtain ⟨_, version, _⟩ := bind_ok valid
  exact version

omit [Sha256] in
theorem only_emit (eventType : String) (context : RuntimeCallContext)
    (payload : List (String × JsonValue)) : (emit eventType context payload).Only Aside := by
  have emits : (memoryOp (.emit eventType context payload) : MemoryProgram Unit).Only Aside :=
    only_perform.mpr trivial
  apply emits.catching
  intro error
  apply only_ite
  · intro _
    trivial
  · intro _
    trivial

omit [Sha256] in
theorem only_clock : (RuntimeControl.now : MemoryProgram DateTime).Only Aside :=
  only_now aside_of_quiet

theorem aside_needs (start : MemoryTrace) (op : GatewayOp memoryInterface) (after : MemoryTrace)
    (aside : Aside op) (_ : Grown Aside start after) : need providerId query op after :=
  need_of_aside op after aside

theorem guards_retrievePage (provider : prevalidateCursor providerId query = .ok ()) :
    Guards permits (need providerId query) (gateway.retrievePage providerId query context)
      (Retrieved providerId query) trace := by
  apply (guards_discover query.scope).bind
  · intro capabilities discovered reached
    obtain ⟨-, called, answered⟩ := reached capabilities rfl
    apply safe_ofExcept_bind
    · intro _ valid
      apply safe_ofExcept_bind
      · intro _ _
        have operated : Guards permits (need providerId query)
            (gateway.authorization.dispatcher.dispatch (memoryAccess providerId context query.scope
              memoryRetrieveAction (retrieveConstraints query))
              (gateway.retrieveOperation providerId query))
            (Operated providerId query) discovered := by
          apply guards_dispatched
          · intro error after effective raw impossible
            cases impossible
          · intro call after subset granted
            exact guards_operation provider
              ⟨capabilities, called, subset answered, checkCursorVersion_of_valid valid⟩ granted
        apply operated.bind
        · intro pair after reached
          obtain ⟨effective, raw⟩ := pair
          obtain ⟨asked, context, answered⟩ := reached effective raw rfl
          cases raw with
          | malformed => exact Retrieved.raised _
          | typed page =>
            apply safe_ofExcept_bind
            · intro _ accepted
              have retrieved : Retrieved providerId query (.ok page) after := by
                intro other same
                obtain rfl := Except.ok.inj same
                exact ⟨effective, capabilities, context, answered, asked, validatePage_ok accepted⟩
              apply Only.safe_bind (only_clock.bind fun _ => only_emit _ _ _) (aside_needs after)
              · intro _ final grown
                exact retrieved.later (subset_of_grown grown)
              · intro error final _
                exact Retrieved.raised error
            · intro error _
              exact Retrieved.raised error
        · intro error after _
          exact Retrieved.raised error
      · intro error _
        exact Retrieved.raised error
    · intro error _
      exact Retrieved.raised error
  · intro error after _
    exact Retrieved.raised error

theorem guards_retrieve : Guards permits (need providerId query)
    (gateway.retrieve providerId query context) (Retrieved providerId query) trace := by
  apply safe_ofExcept_bind
  · intro _ _
    apply safe_ofExcept_bind
    · intro _ provider
      apply only_clock.safe_bind (aside_needs trace)
      · intro _ read _
        apply (only_emit _ _ _).safe_bind (aside_needs read)
        · intro _ emitted _
          apply (guards_retrievePage provider).catching
          · intro page after reached
            exact reached
          · intro error after _
            cases error with
            | core detail =>
              apply Only.safe_bind (only_clock.bind fun _ => only_emit _ _ _) (aside_needs after)
              · intro _ final _
                exact Retrieved.raised _
              · intro error final _
                exact Retrieved.raised error
            | _ => exact Retrieved.raised _
        · intro error after _
          exact Retrieved.raised error
      · intro error after _
        exact Retrieved.raised error
    · intro error _
      exact Retrieved.raised error
  · intro error _
    exact Retrieved.raised error

end Runs

end MemoryCursors

/-! ## Cursors are bound -/

/-- The query with the cursor of a page. -/
def MemoryQuery.following (query : MemoryQuery) (cursor : MemoryCursor) : MemoryQuery :=
  { query with cursor := some cursor }

/-- SHA-256 does not collide on what grants may leave of these queries. -/
def TellsApart [Sha256] (query other : MemoryQuery) : Prop :=
  ∀ constraints constraints' first second, constrainMemoryQuery query constraints = .ok first →
    constrainMemoryQuery other constraints' = .ok second →
    first.queryFingerprint = second.queryFingerprint →
    first.fingerprintData.canonical = second.fingerprintData.canonical

namespace MemoryCursors

open GrantNarrowing

section Bound

variable [Sha256] {providerId : ProviderId} {query effective : MemoryQuery}
  {capabilities : MemoryCapabilities} {page : MemoryPage} {cursor : MemoryCursor}
  {constraints : List (String × JsonValue)}

omit [Sha256] in
/-- A grant leaves the same of a query whatever its cursor is. -/
theorem constrain_following (narrowed : constrainMemoryQuery query constraints = .ok effective) :
    constrainMemoryQuery (query.following cursor) constraints =
      .ok (effective.following cursor) := by
  obtain ⟨_, known, narrowed⟩ := bind_ok narrowed
  obtain ⟨_, schema, narrowed⟩ := bind_ok narrowed
  obtain ⟨_, filters, narrowed⟩ := bind_ok narrowed
  obtain ⟨names, listed, narrowed⟩ := bind_ok narrowed
  obtain ⟨limit, limited, narrowed⟩ := bind_ok narrowed
  cases limit with
  | none => cases narrowed
  | some units =>
    dsimp only at narrowed
    unfold MemoryQuery.narrowed at narrowed
    split at narrowed
    · rename_i positive
      cases narrowed
      unfold constrainMemoryQuery
      dsimp only [MemoryQuery.following]
      rw [known, schema, filters, listed, limited]
      exact dif_pos positive
    · cases narrowed

omit [Sha256] in
theorem narrowed_fields (narrowed : constrainMemoryQuery query constraints = .ok effective) :
    NarrowedQuery query constraints effective :=
  (query_onlyNarrows query constraints).narrows_of_ok narrowed

omit [Sha256] in
theorem cursor_of_narrowed (narrowed : constrainMemoryQuery query constraints = .ok effective) :
    effective.cursor = query.cursor := by
  rw [(narrowed_fields narrowed).others]

omit [Sha256] in
/-- What is left of a query under the same limit and projection searches the same. -/
theorem sameSearch_of_narrowed {other next : MemoryQuery} {constraints' : List (String × JsonValue)}
    (narrowed : constrainMemoryQuery query constraints = .ok effective)
    (narrowed' : constrainMemoryQuery other constraints' = .ok next) (same : query.SameSearch other)
    (limit : next.limit = effective.limit) (projection : next.projection = effective.projection) :
    effective.SameSearch next := by
  have first := (narrowed_fields narrowed).others
  have second := (narrowed_fields narrowed').others
  refine ⟨?_, ?_, ?_, ?_, limit.symm, projection.symm⟩
  · rw [first, second]
    exact same.scope
  · rw [first, second]
    exact same.content
  · rw [first, second]
    exact same.schema
  · rw [first, second]
    exact same.filters

/-- A cursor that has passed the check of the effective query has its fingerprint. -/
theorem checkCursorDrift_iff (own : effective.cursor = some cursor) :
    checkCursorDrift effective = .ok () ↔ cursor.queryFingerprint = effective.queryFingerprint := by
  rw [checkCursorDrift, ensure_eq_ok, own]
  simp

omit [Sha256] in
theorem prevalidateCursor_iff (own : query.cursor = some cursor) :
    prevalidateCursor providerId query = .ok () ↔ cursor.providerId = providerId := by
  rw [prevalidateCursor, ensure_eq_ok, own]
  simp

omit [Sha256] in
theorem checkCursorVersion_iff (own : query.cursor = some cursor) :
    checkCursorVersion query capabilities = .ok () ↔
      cursor.contractVersion = capabilities.contractVersion := by
  rw [checkCursorVersion, ensure_eq_ok, own]
  simp

/-- Where the fingerprints of two narrowings agree, they search the same. -/
theorem sameSearch_of_apart {other next : MemoryQuery} {constraints' : List (String × JsonValue)}
    (apart : TellsApart query other)
    (narrowed : constrainMemoryQuery query constraints = .ok effective)
    (narrowed' : constrainMemoryQuery other constraints' = .ok next)
    (same : effective.queryFingerprint = next.queryFingerprint) : effective.SameSearch next :=
  MemoryQuery.sameSearch_of_canonical (apart _ _ _ _ narrowed narrowed' same)

/-- A changed query is refused when its operation starts. -/
theorem operation_refuses {other next : MemoryQuery} {gateway : MemoryGateway} {call : AuthorizedCall}
    (apart : TellsApart query other) (narrowed : constrainMemoryQuery query constraints = .ok effective)
    (presented : other.cursor = some cursor)
    (fingerprint : cursor.queryFingerprint = effective.queryFingerprint)
    (narrowed' : constrainMemoryQuery other call.grant.constraints = .ok next)
    (changed : ¬effective.SameSearch next) :
    gateway.retrieveOperation providerId other call = .raise memoryCursorQueryDrift := by
  have own : next.cursor = some cursor := (cursor_of_narrowed narrowed').trans presented
  have drifts : checkCursorDrift next = .error memoryCursorQueryDrift := by
    have differs : next.cursor.all (fun cursor => cursor.queryFingerprint == next.queryFingerprint) =
        false := by
      rw [own, Option.all_some, beq_eq_false_iff_ne]
      intro same
      exact changed (sameSearch_of_apart apart narrowed narrowed' (fingerprint.symm.trans same))
    rw [checkCursorDrift, differs]
    rfl
  unfold MemoryGateway.retrieveOperation
  rw [narrowed']
  change (Program.ofExcept (checkCursorDrift next) >>= _) = _
  rw [drifts]
  rfl

end Bound

end MemoryCursors

open MemoryCursors

/-- A page that is returned has been accepted for the query that the grant left: its records are at
most so many, of that scope and provider. Its cursor passes every check with the same query under
the same narrowing. With any other query, or under another narrowing, it is refused: the provider
is not asked for a page, and none is returned. -/
theorem memory_cursor_bound [Sha256] {gateway : MemoryGateway} {providerId : ProviderId}
    {query : MemoryQuery} {context : RuntimeCallContext} {page : MemoryPage}
    {permits : (op : GatewayOp memoryInterface) → Except Raised op.Answer → Prop}
    {trace : MemoryTrace} (steps : Steps (recording permits) MemoryPage
      (gateway.retrieve providerId query context, []) (.ret page, trace)) :
    ∃ effective called, (⟨.call (.retrieve providerId effective called), .ok (.typed page)⟩ :
        MemoryEvent) ∈ trace ∧
      (∃ access decision grant, (⟨.authorize access, .ok decision⟩ : MemoryEvent) ∈ trace ∧
        decision.grant = some grant ∧ constrainMemoryQuery query grant.constraints = .ok effective) ∧
      page.records.length ≤ effective.limit ∧
      (∀ record ∈ page.records, record.ref.providerId = providerId ∧
        record.ref.scope.key = effective.scope.key) ∧
      ∀ cursor ∈ page.nextCursor,
        (∀ constraints, constrainMemoryQuery query constraints = .ok effective →
          constrainMemoryQuery (query.following cursor) constraints =
            .ok (effective.following cursor)) ∧
        (∀ other constraints next, query.SameSearch other → other.cursor = some cursor →
          constrainMemoryQuery other constraints = .ok next → next.limit = effective.limit →
          next.projection = effective.projection →
            prevalidateCursor providerId other = .ok () ∧ checkCursorDrift next = .ok () ∧
            ∀ capabilities : MemoryCapabilities,
              capabilities.contractVersion = page.contractVersion →
                checkCursorVersion other capabilities = .ok ()) ∧
        ∀ (later : MemoryGateway) (presented : ProviderId) (other : MemoryQuery)
          (context' : RuntimeCallContext)
          (permits' : (op : GatewayOp memoryInterface) → Except Raised op.Answer → Prop)
          (program : MemoryProgram MemoryPage) (after : MemoryTrace),
          other.cursor = some cursor → TellsApart query other →
          Steps (recording permits') MemoryPage (later.retrieve presented other context', [])
            (program, after) →
            (∀ asked next called outcome,
              (⟨.call (.retrieve asked next called), outcome⟩ : MemoryEvent) ∈ after →
                asked = providerId ∧ effective.SameSearch next ∧
                ∃ constraints, constrainMemoryQuery other constraints = .ok next) ∧
            (∀ page', program = .ret page' → ∃ next called,
              (⟨.call (.retrieve providerId next called), .ok (.typed page')⟩ : MemoryEvent) ∈ after ∧
                effective.SameSearch next) ∧
            ∀ call next, constrainMemoryQuery other call.grant.constraints = .ok next →
              ¬effective.SameSearch next →
                later.retrieveOperation presented other call = .raise memoryCursorQueryDrift := by
  have retrieved : Retrieved providerId query (.ok page) trace := (guards_retrieve.traced steps).1
  obtain ⟨effective, capabilities, called, answered, asked, paged⟩ := retrieved page rfl
  obtain ⟨access, decision, grant, authorized, given, narrowed⟩ := asked.granted
  refine ⟨effective, called, answered, ⟨access, decision, grant, authorized, given, narrowed⟩,
    paged.bounded, paged.records, ?_⟩
  intro cursor next
  obtain ⟨provider, version, fingerprint⟩ := paged.cursor cursor next
  refine ⟨fun constraints left => constrain_following left, ?_, ?_⟩
  · intro other constraints next same presented narrowed' limit projection
    have searches := sameSearch_of_narrowed narrowed narrowed' same limit projection
    have own : next.cursor = some cursor := (cursor_of_narrowed narrowed').trans presented
    refine ⟨(prevalidateCursor_iff presented).mpr provider,
      (checkCursorDrift_iff own).mpr (fingerprint.trans searches.fingerprint), ?_⟩
    intro later stated
    exact (checkCursorVersion_iff presented).mpr (version.trans stated.symm)
  · intro later presented other context' permits' program after own apart steps'
    have searches : ∀ asked' next, MemoryCursors.Asked presented other next asked' →
        presented = providerId ∧ effective.SameSearch next ∧
          ∃ constraints, constrainMemoryQuery other constraints = .ok next := by
      intro asked' next passed
      obtain ⟨-, -, grant', -, -, narrowed'⟩ := passed.granted
      have own' : next.cursor = some cursor := (cursor_of_narrowed narrowed').trans own
      have drift := (checkCursorDrift_iff own').mp passed.drift
      have named := (prevalidateCursor_iff own).mp passed.provider
      exact ⟨named.symm.trans provider,
        sameSearch_of_apart apart narrowed narrowed' (fingerprint.symm.trans drift),
        grant'.constraints, narrowed'⟩
    obtain ⟨ends, added, grown, needs⟩ := guards_retrieve.traced steps'
    refine ⟨?_, ?_, ?_⟩
    · intro asked' next called' outcome member
      rw [grown, List.nil_append] at member
      obtain ⟨before, rest, split⟩ := List.append_of_mem member
      obtain ⟨rfl, passed⟩ := (needs before _ rest split).1
      exact searches _ next passed
    · intro page' returned
      subst returned
      obtain ⟨next, -, called', answered', passed, -⟩ := ends page' rfl
      obtain ⟨rfl, same, -⟩ := searches _ next passed
      exact ⟨next, called', answered', same⟩
    · intro call next narrowed' changed
      exact operation_refuses apart narrowed own fingerprint narrowed' changed

/-! ## A sample -/

namespace SampleParameters

def zeroDigest : Sha256Digest := ⟨String.ofList (List.replicate 64 '0'), by decide⟩

def oneDigest : Sha256Digest := ⟨String.ofList (List.replicate 64 '1'), by decide⟩

/-- A digest that tells queries for one record from others. -/
@[reducible] def limitSha256 : Sha256 where
  json value :=
    match value with
    | .obj fields => if (Dict.lookup "limit" fields).any (·.equals (.int 1)) then oneDigest
      else zeroDigest
    | _ => zeroDigest
  text _ := zeroDigest

def memoryProvider : ProviderId := ⟨"memory-provider", by decide⟩

def memorySchema : SchemaRef := ⟨"core", "memory", "1", by decide⟩

def memoryContent : ContentBlock :=
  ⟨.text, .str "notes", none, none, .inr ⟨"notes", rfl⟩, nofun, nofun⟩

def memoryQuery (limit : ℕ) (positive : 1 ≤ limit) : MemoryQuery :=
  ⟨sampleScope, memoryContent, memorySchema, .empty, limit, none, [], positive, rfl, rfl⟩

def memoryCursor : MemoryCursor := ⟨memoryProvider, "1", "next", oneDigest, by decide⟩

def memoryPage : MemoryPage :=
  ⟨memoryProvider, "1", [], some memoryCursor, .complete, [], [], by decide, by simp, rfl⟩

def memoryCaps : MemoryCapabilities where
  providerId := memoryProvider
  contractVersion := "1"
  operations := [.retrieve]
  querySchemas := [memorySchema]
  itemSchemas := []
  recordSchemas := [memorySchema]
  contentKinds := [.text]
  maximumResultLimit := 10
  projections := []
  versioned := true
  consolidationPolicies := []
  maximumItemBytes := none
  valid := by simp [areUniqueNames]; decide

def sampleMemoryGateway : MemoryGateway where
  providers := [memoryProvider]
  schemas := ⟨⟨[(memorySchema, fun _ => .ok ())], by decide⟩⟩
  authorization := ⟨[memoryCapabilitiesAction, memoryRetrieveAction], true⟩

/-- Every request is granted without constraints, and the provider has one page. -/
def memoryAnswers : (op : GatewayOp memoryInterface) → Except Raised op.Answer
  | .cancelled _ => .ok false
  | .now => .ok sampleTime
  | .authorize request => .ok (allowingUnder request [])
  | .authorizationDenied _ _ => .ok ()
  | .crossScopeGranted _ _ => .ok ()
  | .handleAuditFailure _ _ => .ok ()
  | .call (.emit _ _ _) => .ok ()
  | .call (.capabilities _ _) => .ok (.typed memoryCaps)
  | .call (.retrieve _ _ _) => .ok (.typed memoryPage)

def memoryRun : MemoryProgram MemoryPage × MemoryTrace :=
  answering memoryAnswers 60 (@MemoryGateway.retrieve limitSha256 sampleMemoryGateway memoryProvider
    (memoryQuery 1 Nat.one_pos) sampleContext)

/-- The cursor that a program has returned. -/
def returnedCursor : MemoryProgram MemoryPage → Option MemoryCursor
  | .ret page => page.nextCursor
  | _ => none

/-- Grants leave nothing of a sample query but its limit. -/
theorem narrowed_memoryQuery {limit : ℕ} {positive : 1 ≤ limit} {cursor : Option MemoryCursor}
    {constraints : List (String × JsonValue)} {effective : MemoryQuery}
    (narrowed : constrainMemoryQuery { memoryQuery limit positive with cursor := cursor } constraints =
      .ok effective) :
    effective.limit ≤ limit ∧
      ∃ least, effective = { memoryQuery effective.limit least with cursor := cursor } := by
  have fields := MemoryCursors.narrowed_fields narrowed
  have none : effective.projection = [] := List.sublist_nil.mp fields.projection.requested
  have others := fields.others
  obtain ⟨units, same, below⟩ := fields.limit.requested limit rfl
  obtain rfl := Option.some.inj same
  refine ⟨below, effective.valid.1, ?_⟩
  rw [others]
  simp only [none]
  rfl

/-- The sample digest is the one of a query for one record. -/
theorem fingerprint_memoryQuery (limit : ℕ) (positive : 1 ≤ limit) (cursor : Option MemoryCursor) :
    @MemoryQuery.queryFingerprint limitSha256 { memoryQuery limit positive with cursor := cursor } =
      if limit = 1 then oneDigest else zeroDigest := by
  change limitSha256.json (JsonValue.canonical (.obj _)) = _
  rw [JsonValue.canonical_obj]
  change (if (Dict.lookup "limit" (JsonValue.canonicalFields _)).any (·.equals (.int 1)) then
    oneDigest else zeroDigest) = _
  rw [JsonValue.lookup_canonicalFields (by simp)]
  simp [Dict.lookup, JsonValue.equals, memoryQuery]

/-- The query for two records, with the cursor of the page of one. -/
def changedQuery : MemoryQuery := (memoryQuery 2 Nat.two_pos).following memoryCursor

theorem memoryQuery_apart :
    @TellsApart limitSha256 (memoryQuery 1 (by decide)) changedQuery := by
  intro constraints constraints' first second narrowed narrowed' same
  obtain ⟨below, _, one⟩ := @narrowed_memoryQuery 1 (by decide) none constraints first narrowed
  obtain ⟨-, _, other⟩ :=
    @narrowed_memoryQuery 2 (by decide) (some memoryCursor) constraints' second narrowed'
  have least := first.valid.1
  have single : first.limit = 1 := by omega
  rw [one, other, fingerprint_memoryQuery, fingerprint_memoryQuery, if_pos single] at same
  have single' : second.limit = 1 := by
    by_contra more
    rw [if_neg more] at same
    exact absurd same (by decide)
  rw [one, other]
  simp only [single, single']
  rfl

end SampleParameters

open SampleParameters in
/-- The cursor of the sample page is refused with a query for another number of records. -/
theorem memory_cursor_bound_sample : ∃ page, memoryRun.1 = .ret page ∧
    page.nextCursor = some memoryCursor ∧
    (∃ effective called, (⟨.call (.retrieve memoryProvider effective called), .ok (.typed page)⟩ :
      MemoryEvent) ∈ memoryRun.2 ∧ page.records.length ≤ effective.limit) ∧
    @MemoryGateway.retrieveOperation limitSha256 sampleMemoryGateway memoryProvider changedQuery
      nestedCall = .raise memoryCursorQueryDrift := by
  have found : returnedCursor memoryRun.1 = some memoryCursor := by decide +kernel
  have steps : Steps (recording fun _ _ => True) MemoryPage
      (@MemoryGateway.retrieve limitSha256 sampleMemoryGateway memoryProvider
        (memoryQuery 1 (by decide)) sampleContext, []) memoryRun := answering_steps _ 60 _
  generalize memoryRun = reached at *
  obtain ⟨program, trace⟩ := reached
  cases program with
  | ret page =>
    have next : page.nextCursor = some memoryCursor := found
    obtain ⟨effective, called, answered, ⟨_, _, grant, -, -, narrowed⟩, bounded, -, cursors⟩ :=
      @memory_cursor_bound limitSha256 _ _ _ _ _ _ _ steps
    have refused := (cursors memoryCursor next).2.2 sampleMemoryGateway memoryProvider changedQuery
      sampleContext (fun _ _ => True) _ _ rfl memoryQuery_apart .refl
    refine ⟨page, rfl, next, ⟨effective, called, answered, bounded⟩, ?_⟩
    apply refused.2.2 nestedCall changedQuery
    · rfl
    · intro same
      have below := (@narrowed_memoryQuery 1 (by decide) none _ effective narrowed).1
      have more : effective.limit = 2 := same.limit
      omega
  | raise error => cases found
  | await op resume => cases found

end CongeriesCore
