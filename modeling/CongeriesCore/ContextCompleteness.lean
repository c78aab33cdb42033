import CongeriesCore.AsyncGrowth
import CongeriesCore.ContextFirstSuccess

/-! # Contexts that are complete

Where nothing disturbs a resolution of the first success, its context is complete if and only if the
first answer that is complete is one to the whole request. An answer to a part of it comes first
where its provider is bound first. -/

namespace CongeriesCore

open AsyncProgram AsyncProgram.Program GatewayDispatch

namespace ContextResolver

/-- What the providers have to say of themselves and of what they are asked for. -/
def contextReplies (caps : ProviderId → Except Raised ContextCapabilities)
    (reply : ProviderId → Except Raised ContextResult) :
    (op : ContextOp) → Except Raised op.Answer → Prop
  | .emit _ _ _, outcome => ∀ error, outcome = .error error → error.isException = true
  | .capabilities providerId _, outcome => outcome = (caps providerId).map .typed
  | .provide providerId _, outcome => outcome = (reply providerId).map .typed

/-- The provider is registered, and says what it supports. -/
def Found (resolver : ContextResolver) (caps : ProviderId → Except Raised ContextCapabilities)
    (providerId : ProviderId) (capabilities : ContextCapabilities) : Prop :=
  resolver.providers.contains providerId = true ∧ caps providerId = .ok capabilities

def supportedBy (caps : ProviderId → Except Raised ContextCapabilities) (request : ContextRequest)
    (providerId : ProviderId) (item : ContextRequirement) : Bool :=
  match caps providerId with
  | .ok capabilities => capabilities.supports item request
  | .error _ => false

/-- The part of a request that each of the providers is asked for. -/
def partsOf (caps : ProviderId → Except Raised ContextCapabilities) (request : ContextRequest)
    (providerIds : List ProviderId) : List (ProviderId × ContextRequest) :=
  providerIds.filterMap fun providerId =>
    (request.restricted (supportedBy caps request providerId)).map (providerId, ·)

/-- A request that is resolved by the first success, undisturbed and by providers that conform. -/
structure Resolvable (resolver : ContextResolver) (request : ContextRequest)
    (binding : ContextBinding) (latest : DateTime)
    (caps : ProviderId → Except Raised ContextCapabilities)
    (reply : ProviderId → Except Raised ContextResult) : Prop where
  requested : request.requirements = binding.requirements
  strategy : binding.mergeStrategy = .firstSuccess
  policy : request.completenessPolicy = .requireComplete
  governed : resolver.authorization.governed = true
  registered : contextCapabilitiesAction ∈ resolver.authorization.actions ∧
    contextProvideAction ∈ resolver.authorization.actions
  early : ∀ deadline ∈ request.context.deadline, latest < deadline.at_
  identified : ∀ providerId capabilities, caps providerId = .ok capabilities →
    capabilities.providerId = providerId
  conforms : ∀ group ∈ partsOf caps request binding.providerIds,
    Conforms resolver.schemas reply group

section Undisturbed

variable {resolver : ContextResolver} {request : ContextRequest} {binding : ContextBinding}
  {latest : DateTime} {caps : ProviderId → Except Raised ContextCapabilities}
  {reply : ProviderId → Except Raised ContextResult} {providerId : ProviderId}
  {context : RuntimeCallContext}

/-- A part of a resolution that nothing disturbs. -/
abbrev Resolves {α : Type} (latest : DateTime) (caps : ProviderId → Except Raised ContextCapabilities)
    (reply : ProviderId → Except Raised ContextResult) (program : ContextProgram α)
    (post : Except Raised α → Prop) : Prop :=
  Undisturbed latest (contextReplies caps reply) program post

def normalizedOutcome {α : Type} : Except Raised α → Except Raised α
  | .ok value => .ok value
  | .error error => .error (normalizedError error)

theorem passes_emit (eventType : String) (payload : List (String × JsonValue)) :
    Passes latest (contextReplies caps reply) (emit eventType context payload) := by
  have emits : Resolves latest caps reply (contextOp (.emit eventType context payload))
      (fun outcome => ∀ error, outcome = .error error → error.isException = true) :=
    yields_perform fun _ answered => answered
  apply emits.catching
  · intro value _
    exact ⟨value, rfl⟩
  · intro error ordinary
    rw [if_pos (ordinary error rfl)]
    exact ⟨(), rfl⟩

theorem resolves_normalized {α : Type} {program : ContextProgram α} {outcome : Except Raised α}
    (ends : Resolves latest caps reply program (· = outcome)) :
    Resolves latest caps reply (normalized program) (· = normalizedOutcome outcome) := by
  apply ends.catching
  · intro value same
    subst same
    rfl
  · intro error same
    subst same
    cases error with
    | core detail => rfl
    | value | assertion | key | other | cancelledError =>
      dsimp only [normalizedOutcome, normalizedError]
      split
      · rfl
      · rfl

/-- A provider that is asked in a dispatch. -/
theorem resolves_asked {α : Type} {asked : ContextRequest} {action : ActionRef}
    {operation : ContextRequest → ContextProgram α} {outcome : Except Raised α}
    (governed : resolver.authorization.governed = true)
    (registered : action ∈ resolver.authorization.actions)
    (early : ∀ deadline ∈ asked.context.deadline, latest < deadline.at_)
    (ends : ∀ constrained : ContextRequest, Resolves latest caps reply (operation constrained)
      (· = outcome)) :
    Resolves latest caps reply
      (resolver.authorization.dispatcher.dispatch
        (contextAccess asked.context providerId action (contextConstraints asked)) fun call => do
          let constrained ← ofExcept (constrainContextRequest asked call)
          normalized (constrained.context.awaitProvider (operation constrained)))
      (· = normalizedOutcome outcome) := by
  apply undisturbed_dispatch governed
  · simpa [contextAccess] using registered
  · exact early
  · intro call granted unnarrowing
    rw [constrainContextRequest_repeated unnarrowing.repeated]
    apply resolves_normalized
    apply undisturbed_awaitProvider
    · intro deadline own
      rw [show ({ asked with context := call.context } : ContextRequest).context = call.context from rfl,
        granted.inContext] at own
      exact early deadline own
    · exact ends _

/-- What a discovery comes to. -/
def Discovered (resolver : ContextResolver) (caps : ProviderId → Except Raised ContextCapabilities)
    (providerId : ProviderId) : Except Raised ContextCapabilities → Prop
  | .ok capabilities => resolver.Found caps providerId capabilities
  | .error _ => ∀ capabilities, ¬resolver.Found caps providerId capabilities

theorem resolves_discover (resolvable : Resolvable resolver request binding latest caps reply)
    (providerId : ProviderId) :
    Resolves latest caps reply (resolver.discover request providerId)
      (resolver.Discovered caps providerId) := by
  unfold discover checkProvider
  cases known : resolver.providers.contains providerId with
  | false =>
    intro capabilities found
    rw [found.1] at known
    cases known
  | true =>
    have asked : Resolves latest caps reply
        (resolver.authorization.dispatcher.dispatch
          (contextAccess request.context providerId contextCapabilitiesAction
            (contextConstraints request)) fun call => do
          let constrained ← ofExcept (constrainContextRequest request call)
          normalized (constrained.context.awaitProvider
            (contextOp (.capabilities providerId constrained.context))))
        (· = normalizedOutcome ((caps providerId).map .typed)) := by
      apply resolves_asked resolvable.governed resolvable.registered.1 resolvable.early
      intro constrained
      exact yields_perform fun _ answered => answered
    apply asked.bind
    · intro raw same
      cases given : caps providerId with
      | error error =>
        rw [given] at same
        cases same
      | ok capabilities =>
        rw [given] at same
        cases same
        have identified := resolvable.identified providerId capabilities given
        dsimp only
        rw [ensure_ok (by simpa using identified)]
        exact ⟨known, given⟩
    · intro error same
      cases given : caps providerId with
      | error error =>
        intro capabilities found
        have known := found.2
        rw [given] at known
        cases known
      | ok capabilities =>
        rw [given] at same
        cases same

theorem resolves_loadCapabilities (resolvable : Resolvable resolver request binding latest caps reply)
    (providerIds : List ProviderId) :
    Resolves latest caps reply (resolver.loadCapabilities request providerIds) (fun outcome =>
      match outcome with
      | .ok capabilities => capabilities.map Prod.fst = providerIds ∧
          ∀ item ∈ capabilities, resolver.Found caps item.1 item.2
      | .error _ => ∃ providerId ∈ providerIds, ∀ capabilities,
          ¬resolver.Found caps providerId capabilities) := by
  induction providerIds with
  | nil =>
    refine ⟨rfl, ?_⟩
    intro item member
    cases member
  | cons providerId providerIds ih =>
    apply (resolves_discover resolvable providerId).bind
    · intro capabilities found
      apply ih.bind
      · intro rest loaded
        refine ⟨by simp [loaded.1], ?_⟩
        intro item member
        rcases List.mem_cons.mp member with rfl | member
        · exact found
        · exact loaded.2 item member
      · intro error lost
        obtain ⟨other, member, absent⟩ := lost
        exact ⟨other, List.mem_cons_of_mem _ member, absent⟩
    · intro error absent
      exact ⟨providerId, List.mem_cons_self .., absent⟩

/-- The groups of what has been loaded. -/
theorem groups_of_found {capabilities : List (ProviderId × ContextCapabilities)}
    (found : ∀ item ∈ capabilities, resolver.Found caps item.1 item.2) :
    groups request capabilities = partsOf caps request (capabilities.map Prod.fst) := by
  unfold groups partsOf
  rw [List.filterMap_map]
  apply List.filterMap_congr
  intro item member
  have known := (found item member).2
  have same : supportedBy caps request item.1 = fun requirement =>
      item.2.supports requirement request := by
    funext requirement
    simp [supportedBy, known]
  simp [same]

theorem resolves_invoke (resolvable : Resolvable resolver request binding latest caps reply)
    {group : ProviderId × ContextRequest} (known : resolver.providers.contains group.1 = true)
    (early : ∀ deadline ∈ group.2.context.deadline, latest < deadline.at_)
    (conforms : Conforms resolver.schemas reply group) :
    Resolves latest caps reply (resolver.invoke group.1 group.2)
      (· = normalizedOutcome (reply group.1)) := by
  unfold invoke checkProvider
  rw [ensure_ok known]
  apply Passes.bind (passes_emit _ _)
  intro _
  have asked : Resolves latest caps reply
      (resolver.authorization.dispatcher.dispatch
        (contextAccess group.2.context group.1 contextProvideAction
          (contextConstraints group.2)) fun call => do
        let constrained ← ofExcept (constrainContextRequest group.2 call)
        normalized (constrained.context.awaitProvider (contextOp (.provide group.1 constrained))))
      (· = normalizedOutcome ((reply group.1).map .typed)) := by
    apply resolves_asked resolvable.governed resolvable.registered.2 early
    intro constrained
    exact yields_perform fun _ answered => answered
  apply asked.bind
  · intro raw same
    cases given : reply group.1 with
    | error error =>
      rw [given] at same
      cases same
    | ok result =>
      rw [given] at same
      cases same
      dsimp only
      rw [conforms.answers result given]
      rfl
  · intro error same
    cases given : reply group.1 with
    | error raised =>
      rw [given] at same
      cases same
      rfl
    | ok result =>
      rw [given] at same
      cases same

theorem resolves_invokeGroups (resolvable : Resolvable resolver request binding latest caps reply)
    {groups : List (ProviderId × ContextRequest)}
    (known : ∀ group ∈ groups, resolver.providers.contains group.1 = true)
    (early : ∀ group ∈ groups, ∀ deadline ∈ group.2.context.deadline, latest < deadline.at_)
    (conforms : ∀ group ∈ groups, Conforms resolver.schemas reply group)
    (results : List ContextResult) :
    Resolves latest caps reply (resolver.invokeGroups .firstSuccess .requireComplete groups results)
      (· = .ok (collected reply groups results)) := by
  induction groups generalizing results with
  | nil => rfl
  | cons group groups ih =>
    have here := resolves_invoke resolvable (known group (List.mem_cons_self ..))
      (early group (List.mem_cons_self ..)) (conforms group (List.mem_cons_self ..))
    have later := ih (fun other member => known other (List.mem_cons_of_mem _ member))
      (fun other member => early other (List.mem_cons_of_mem _ member))
      (fun other member => conforms other (List.mem_cons_of_mem _ member))
    unfold invokeGroups
    have answered : Resolves latest caps reply (do
        let result ← resolver.invoke group.1 group.2
        return some result) (· = (normalizedOutcome (reply group.1)).map some) := by
      apply here.bind
      · intro result same
        rw [← same]
        rfl
      · intro error same
        rw [← same]
        rfl
    have caught : Resolves latest caps reply
        (Program.catching (do
          let result ← resolver.invoke group.1 group.2
          return some result) fun error =>
            if passedOver .firstSuccess error then return none else .raise error)
        (· = .ok (reply group.1).toOption) := by
      apply answered.catching
      · intro result same
        cases given : reply group.1 with
        | error error =>
          rw [given] at same
          cases same
        | ok other =>
          rw [given] at same
          cases same
          rfl
      · intro error same
        cases given : reply group.1 with
        | ok result =>
          rw [given] at same
          cases same
        | error raised =>
          rw [given] at same
          cases same
          rw [if_pos ((conforms group (List.mem_cons_self ..)).fails raised given)]
          rfl
    apply caught.bind
    · intro answer same
      cases same
      cases given : reply group.1 with
      | error error =>
        have next : collected reply (group :: groups) results = collected reply groups results := by
          simp [collected, given]
        rw [next]
        exact later results
      | ok result =>
        by_cases complete : result.completeness = .complete
        · have accepts : accepted .firstSuccess .requireComplete result = true := by
            simp [accepted, complete]
          have last : collected reply (group :: groups) results = results ++ [result] := by
            simp [collected, given, complete]
          change Resolves latest caps reply
            (if accepted .firstSuccess .requireComplete result = true then _ else _) _
          rw [if_pos accepts, last]
          rfl
        · have goes : ¬accepted .firstSuccess .requireComplete result = true := by
            simp [accepted, complete]
          have next : collected reply (group :: groups) results =
              collected reply groups (results ++ [result]) := by
            simp [collected, given, complete]
          change Resolves latest caps reply
            (if accepted .firstSuccess .requireComplete result = true then _ else _) _
          rw [if_neg goes, next]
          exact later (results ++ [result])
    · intro error impossible
      cases impossible

/-! ## The resolution -/

/-- The first answer that is complete is one to the whole request, and fits into its budget. -/
def FirstCompletes [PythonFloat] (resolver : ContextResolver) (request : ContextRequest)
    (caps : ProviderId → Except Raised ContextCapabilities)
    (reply : ProviderId → Except Raised ContextResult) (providerIds : List ProviderId) : Prop :=
  (∀ providerId ∈ providerIds, ∃ capabilities, resolver.Found caps providerId capabilities) ∧
    ∃ first result, providerIds.find? (fun providerId =>
        request.requirements.any (supportedBy caps request providerId) &&
          completes reply providerId) = some first ∧
      reply first = .ok result ∧
      (∀ item ∈ request.requirements, supportedBy caps request first item = true) ∧
      enforceContextBudget request.budget (result.taken request) = .ok ()

theorem restricted_isSome (kept : ContextRequirement → Bool) :
    (request.restricted kept).isSome = request.requirements.any kept := by
  unfold ContextRequest.restricted
  split
  · rename_i kept_
    obtain ⟨item, member⟩ := List.exists_mem_of_ne_nil _ kept_
    obtain ⟨member, keeps⟩ := List.mem_filter.mp member
    exact (List.any_eq_true.mpr ⟨item, member, keeps⟩).symm
  · rename_i none
    have none := not_not.mp none
    symm
    apply Bool.eq_false_iff.mpr
    intro kept_
    obtain ⟨item, member, keeps⟩ := List.any_eq_true.mp kept_
    have listed := List.mem_filter.mpr ⟨member, keeps⟩
    rw [none] at listed
    cases listed

/-- The first group whose provider completes is the part of the first such provider. -/
theorem find_partsOf {providerIds : List ProviderId} {group : ProviderId × ContextRequest} :
    (partsOf caps request providerIds).find? (fun group => completes reply group.1) = some group ↔
      providerIds.find? (fun providerId =>
        request.requirements.any (supportedBy caps request providerId) &&
          completes reply providerId) = some group.1 ∧
      request.restricted (supportedBy caps request group.1) = some group.2 := by
  have same : (fun providerId => ((request.restricted (supportedBy caps request providerId)).map
      (providerId, ·)).any fun group : ProviderId × ContextRequest => completes reply group.1) =
      fun providerId => request.requirements.any (supportedBy caps request providerId) &&
        completes reply providerId := by
    funext providerId
    rw [← restricted_isSome]
    cases request.restricted (supportedBy caps request providerId) with
    | none => rfl
    | some part_ => simp
  unfold partsOf
  rw [List.find?_filterMap, same]
  constructor
  · intro found
    obtain ⟨providerId, first, mapped⟩ := Option.bind_eq_some_iff.mp found
    obtain ⟨part_, restricts, rfl⟩ := Option.map_eq_some_iff.mp mapped
    exact ⟨first, restricts⟩
  · intro found
    obtain ⟨first, restricts⟩ := found
    rw [first]
    change (request.restricted (supportedBy caps request group.1)).map (group.1, ·) = some group
    rw [restricts]
    rfl

theorem mem_partsOf {providerIds : List ProviderId} {group : ProviderId × ContextRequest}
    (member : group ∈ partsOf caps request providerIds) : group.1 ∈ providerIds ∧
      request.restricted (supportedBy caps request group.1) = some group.2 := by
  obtain ⟨providerId, listed, mapped⟩ := List.mem_filterMap.mp member
  obtain ⟨part_, restricts, rfl⟩ := Option.map_eq_some_iff.mp mapped
  exact ⟨listed, restricts⟩

variable [PythonFloat]

theorem resolves_resolveBound (resolvable : Resolvable resolver request binding latest caps reply) :
    Resolves latest caps reply (resolver.resolveBound request binding) (fun outcome =>
      CompleteContext request outcome ↔
        resolver.FirstCompletes request caps reply binding.providerIds) := by
  unfold resolveBound
  apply (resolves_loadCapabilities resolvable binding.providerIds).bind
  · intro capabilities loaded
    obtain ⟨listed, found⟩ := loaded
    have all : ∀ providerId ∈ binding.providerIds, ∃ capabilities,
        resolver.Found caps providerId capabilities := by
      intro providerId member
      rw [← listed] at member
      obtain ⟨item, inside, rfl⟩ := List.mem_map.mp member
      exact ⟨item.2, found item inside⟩
    have parts : groups request capabilities = partsOf caps request binding.providerIds := by
      rw [groups_of_found found, listed]
    have restricts : ∀ group ∈ partsOf caps request binding.providerIds,
        request.restricted (supportedBy caps request group.1) = some group.2 :=
      fun group member => (mem_partsOf member).2
    have chosen := @chosen_complete resolver.schemas reply request
      (partsOf caps request binding.providerIds) _ resolver.merges
      (supportedBy caps request) restricts resolvable.conforms
    have condition : (∃ group result, (partsOf caps request binding.providerIds).find?
          (fun group => completes reply group.1) = some group ∧ reply group.1 = .ok result ∧
          (∀ item ∈ request.requirements, supportedBy caps request group.1 item = true) ∧
          enforceContextBudget request.budget (result.taken request) = .ok ()) ↔
        resolver.FirstCompletes request caps reply binding.providerIds := by
      constructor
      · intro holds
        obtain ⟨group, result, first, replied, whole, fits⟩ := holds
        exact ⟨all, group.1, result, (find_partsOf.mp first).1, replied, whole, fits⟩
      · intro holds
        obtain ⟨-, first, result, leads, replied, whole, fits⟩ := holds
        have asked := List.find?_some leads
        simp only [Bool.and_eq_true, ← restricted_isSome] at asked
        obtain ⟨part_, restricted⟩ := Option.isSome_iff_exists.mp asked.1
        exact ⟨(first, part_), result, find_partsOf.mpr ⟨leads, restricted⟩, replied, whole, fits⟩
    rw [condition] at chosen
    unfold select
    rw [resolvable.strategy, resolvable.policy, parts]
    have several : (ContextMergeStrategy.firstSuccess != .single ||
        request.requirements.all fun requirement => (capabilities.filter fun provider =>
          provider.2.supports requirement request).length ≤ 1) = true := rfl
    rw [ensure_ok several]
    cases empty : (partsOf caps request binding.providerIds).isEmpty with
    | true =>
      rw [List.isEmpty_iff.mp empty] at chosen
      exact chosen
    | false =>
      have known : ∀ group ∈ partsOf caps request binding.providerIds,
          resolver.providers.contains group.1 = true := by
        intro group member
        obtain ⟨capabilities, found⟩ := all group.1 (mem_partsOf member).1
        exact found.1
      have early : ∀ group ∈ partsOf caps request binding.providerIds,
          ∀ deadline ∈ group.2.context.deadline, latest < deadline.at_ := by
        intro group member
        rw [(ContextRequest.restricted_some (mem_partsOf member).2).2.1]
        exact resolvable.early
      apply (resolves_invokeGroups resolvable known early resolvable.conforms []).bind
      · intro results same
        cases same
        cases picked : ContextResolver.chosen .firstSuccess
            (collected reply (partsOf caps request binding.providerIds) []) with
        | error error =>
          rw [picked] at chosen
          exact chosen
        | ok results =>
          rw [picked] at chosen
          exact yields_ofExcept chosen
      · intro error impossible
        cases impossible
  · intro error lost
    obtain ⟨providerId, member, absent⟩ := lost
    constructor
    · intro complete
      exact absurd complete not_completeContext_error
    · intro first
      obtain ⟨capabilities, found⟩ := first.1 providerId member
      exact absurd found (absent capabilities)

theorem resolves_resolve (resolvable : Resolvable resolver request binding latest caps reply) :
    Resolves latest caps reply (resolver.resolve request binding) (fun outcome =>
      CompleteContext request outcome ↔
        resolver.FirstCompletes request caps reply binding.providerIds) := by
  unfold resolve
  rw [ensure_ok (by simp [resolvable.requested])]
  apply Passes.bind passes_now
  intro _
  apply Passes.bind (passes_emit _ _)
  intro _
  have tries : Resolves latest caps reply (do
      let resolved ← resolver.resolveBound request binding
      let _ ← RuntimeControl.now
      emit contextResolutionCompleted request.context
        [("provider_count", .int resolved.selectedProviders.length),
          ("entry_count", .int resolved.entries.length),
          ("completeness", .str resolved.completeness.value),
          ("byte_count", .int resolved.usage.byteCount), ("outcome", .str "completed")]
      return resolved) (fun outcome => CompleteContext request outcome ↔
        resolver.FirstCompletes request caps reply binding.providerIds) := by
    apply (resolves_resolveBound resolvable).bind
    · intro resolved reached
      apply Passes.bind passes_now
      intro _
      apply Passes.bind (passes_emit _ _)
      intro _
      exact reached
    · intro error reached
      exact reached
  apply tries.catching
  · intro resolved reached
    exact reached
  · intro error reached
    cases error with
    | core detail =>
      apply Passes.bind passes_now
      intro _
      apply Passes.bind (passes_emit _ _)
      intro _
      exact reached
    | value | assertion | key | other | cancelledError => exact reached

end Undisturbed

end ContextResolver

open ContextResolver

namespace SampleParameters

def sampleRequirement (name : String) (named : isName name = true := by decide) :
    ContextRequirement :=
  ⟨⟨"core", name, by decide, named⟩, ContextMergeRegistry.sampleSchema⟩

def sampleRequirements : List ContextRequirement := [sampleRequirement "goal", sampleRequirement "notes"]

def sampleContextRequest : ContextRequest :=
  ⟨⟨"definition-1", definition_checked⟩, sampleContext, sampleRequirements, .requireComplete,
    ⟨none, none, by decide⟩, by decide⟩

/-- A provider of the goal alone, and one of the notes too. -/
def goalProvider : ProviderId := ⟨"goal-provider", by decide⟩
def wholeProvider : ProviderId := ⟨"whole-provider", by decide⟩

def sampleSupported (providerId : ProviderId) : List ContextRequirement :=
  if providerId = goalProvider then [sampleRequirement "goal"] else sampleRequirements

def sampleCaps (providerId : ProviderId) : Except Raised ContextCapabilities :=
  .ok ⟨providerId, "1", sampleSupported providerId, false, ⟨none, none, by decide⟩, []⟩

def sampleContextEntry (requirement : ContextRequirement) : ContextEntry :=
  ⟨requirement.key, requirement.schema, .null, ["source-1"], none, none, by
    refine ⟨by decide, by decide, ?_⟩
    intro fresh impossible
    cases impossible⟩

/-- Each of them answers what it is asked for. -/
def sampleReply (providerId : ProviderId) : Except Raised ContextResult :=
  .ok ⟨providerId, "1", (sampleSupported providerId).map sampleContextEntry, .complete, [], [],
    ⟨0, none⟩, by decide⟩

def sampleContextBinding (providerIds : List ProviderId)
    (unique : providerIds ≠ [] ∧ providerIds.Nodup) : ContextBinding :=
  ⟨providerIds, sampleRequirements, .firstSuccess, .requireComplete, ⟨none, none, by decide⟩,
    unique, by decide⟩

def sampleContextResolver : ContextResolver where
  providers := [goalProvider, wholeProvider]
  schemas := ⟨⟨[(ContextMergeRegistry.sampleSchema, fun _ => .ok ())], by decide⟩⟩
  merges := ⟨.empty⟩
  authorization := ⟨[contextCapabilitiesAction, contextProvideAction], true⟩

def sampleContextAnswers : (op : GatewayOp contextInterface) → Except Raised op.Answer
  | .cancelled _ => .ok false
  | .now => .ok sampleTime
  | .authorize request => .ok (allowing request)
  | .authorizationDenied _ _ => .ok ()
  | .crossScopeGranted _ _ => .ok ()
  | .handleAuditFailure _ _ => .ok ()
  | .call (.emit _ _ _) => .ok ()
  | .call (.capabilities providerId _) => (sampleCaps providerId).map .typed
  | .call (.provide providerId _) => (sampleReply providerId).map .typed

theorem allowing_unnarrowing (request : AccessRequest) : ∃ grant,
    (allowing request).grant = some grant ∧ Unnarrowing sampleTime request grant := by
  refine ⟨_, rfl, ?_, ?_, ?_⟩
  · unfold AuthorizedDispatcher.validateGrant Grant.crossScope
    by_cases same : request.context.scope.key = request.scope.key
    · have inside : request.scope.isEqualOrDescendantOf request.context.scope = true := by
        simp [ScopeRef.isEqualOrDescendantOf, ScopeRef.chain, same]
      simp [same, ScopeRef.requireNarrowerThan, inside]
    · simp [same]
      rfl
  · intro expiry impossible
    cases impossible
  · intro item member
    exact member

theorem sampleContextAnswers_permitted (op : GatewayOp contextInterface) :
    undisturbedAnswers sampleTime (contextReplies sampleCaps sampleReply) op
      (sampleContextAnswers op) := by
  cases op with
  | now => exact ⟨sampleTime, rfl, DateTime.le_refl _⟩
  | authorize request =>
    obtain ⟨grant, given, unnarrowing⟩ := allowing_unnarrowing request
    exact ⟨allowing request, grant, rfl, given, unnarrowing⟩
  | call op =>
    cases op with
    | emit eventType context payload =>
      intro error impossible
      cases impossible
    | _ => rfl
  | _ => rfl

/-- The answers of the providers to what they are asked for are valid. -/
def sampleConforms (providerIds : List ProviderId) : Bool :=
  (partsOf sampleCaps sampleContextRequest providerIds).all fun group =>
    match sampleReply group.1 with
    | .ok result => (validateContextResult sampleContextResolver.schemas group.1 group.2 result).toBool
    | .error _ => false

theorem sampleResolvable (providerIds : List ProviderId)
    (unique : providerIds ≠ [] ∧ providerIds.Nodup) (conforms : sampleConforms providerIds = true) :
    Resolvable sampleContextResolver sampleContextRequest (sampleContextBinding providerIds unique)
      sampleTime sampleCaps sampleReply := by
  refine ⟨rfl, rfl, rfl, rfl, by decide, ?_, ?_, ?_⟩
  · intro deadline impossible
    cases impossible
  · intro providerId capabilities given
    cases given
    rfl
  · intro group member
    have valid := List.all_eq_true.mp conforms group member
    constructor
    · intro result given
      rw [given] at valid
      cases checked : validateContextResult sampleContextResolver.schemas group.1 group.2 result with
      | ok _ => rfl
      | error error =>
        dsimp only at valid
        rw [checked] at valid
        cases valid
    · intro error impossible
      cases impossible

def sampleResolution (providerIds : List ProviderId)
    (unique : providerIds ≠ [] ∧ providerIds.Nodup) : ContextProgram ResolvedContext ×
      List (Event (gatewayInterface contextInterface) Raised) :=
  answering sampleContextAnswers 60
    (@resolve samplePythonFloat sampleContextResolver sampleContextRequest
      (sampleContextBinding providerIds unique))

theorem sampleResolution_steps (providerIds : List ProviderId)
    (unique : providerIds ≠ [] ∧ providerIds.Nodup) :
    Steps (recording (undisturbedAnswers sampleTime (contextReplies sampleCaps sampleReply)))
      ResolvedContext (@resolve samplePythonFloat sampleContextResolver sampleContextRequest
        (sampleContextBinding providerIds unique), []) (sampleResolution providerIds unique) :=
  answering_permitted sampleContextAnswers_permitted 60 _

end SampleParameters

open SampleParameters

/-- A resolution of the sample request by these providers. -/
abbrev SampleResolution (providerIds : List ProviderId)
    (unique : providerIds ≠ [] ∧ providerIds.Nodup) (outcome : Except Raised ResolvedContext)
    (trace : List (Event (gatewayInterface contextInterface) Raised)) : Prop :=
  Steps (recording (undisturbedAnswers sampleTime (contextReplies sampleCaps sampleReply)))
    ResolvedContext (@resolve samplePythonFloat sampleContextResolver sampleContextRequest
      (sampleContextBinding providerIds unique), []) (.ofExcept outcome, trace)

end CongeriesCore
