import CongeriesCore.ContextMerge
import CongeriesCore.GatewayDispatch
import CongeriesCore.JsonEncoding
import Mathlib.Data.List.MinMax

/-! # The context resolver

How the bound providers are discovered, selected and asked, and how their results are combined. -/

namespace CongeriesCore

open AsyncProgram AsyncProgram.Program

def contextCapabilitiesAction : ActionRef := ⟨"core", "context.capabilities", "1", by decide⟩
def contextProvideAction : ActionRef := ⟨"core", "context.provide", "1", by decide⟩

def contextResolutionStarted : String := "core.context.resolution_started"
def contextProviderSelected : String := "core.context.provider_selected"
def contextResolutionCompleted : String := "core.context.resolution_completed"
def contextResolutionFailed : String := "core.context.resolution_failed"

inductive ContextOp
  | emit (eventType : String) (context : RuntimeCallContext) (payload : List (String × JsonValue))
  | capabilities (providerId : ProviderId) (context : RuntimeCallContext)
  | provide (providerId : ProviderId) (request : ContextRequest)

abbrev ContextOp.Answer : ContextOp → Type
  | .emit _ _ _ => Unit
  | .capabilities _ _ => Returned ContextCapabilities
  | .provide _ _ => Returned ContextResult

abbrev contextInterface : Interface := ⟨ContextOp, ContextOp.Answer⟩

abbrev ContextProgram := GatewayProgram contextInterface

abbrev contextOp (op : ContextOp) : ContextProgram op.Answer := @providerOp contextInterface op

/-! ### Requests -/

/-- The constraints of a request, which a grant may narrow. -/
def contextConstraints (request : ContextRequest) : List (String × JsonValue) :=
  [("keys", .arr (request.requirements.map fun item => .str item.key.wireName)),
    ("max_bytes", .ofOption (fun limit => .int limit) request.budget.maxBytes),
    ("max_tokens", .ofOption (fun limit => .int limit) request.budget.maxTokens)]

/-- `_access_request`. -/
def contextAccess (context : RuntimeCallContext) (providerId : ProviderId) (action : ActionRef)
    (constraints : List (String × JsonValue)) : AccessRequest where
  principal := .core .run ⟨context.runId.value, context.runId_checked⟩
  action := action
  resource := ⟨"core", "context_provider", ⟨providerId.value, providerId.checked⟩, none, by decide,
    by decide, nofun⟩
  scope := context.scope
  context := context
  constraints := constraints

/-- `replace(request, requirements=…)`, where some are kept. -/
def ContextRequest.restricted (request : ContextRequest) (kept : ContextRequirement → Bool) :
    Option ContextRequest :=
  if some_ : request.requirements.filter kept ≠ [] then
    some { request with
      requirements := request.requirements.filter kept
      unique := ⟨some_, List.Nodup.sublist (List.filter_sublist.map _) request.unique.2⟩ }
  else none

/-- `_constrain_request`. -/
def constrainContextRequest (request : ContextRequest) (call : AuthorizedCall) :
    Except Raised ContextRequest := do
  let constraints := call.grant.constraints
  ensure (!unknownConstraint constraints ["keys", "max_bytes", "max_tokens"])
    (AuthorizedDispatcher.invalidGrant "context grant contains unknown constraints")
  let names ← narrowNames (request.requirements.map (·.key.wireName))
    (Dict.lookup "keys" constraints)
    (AuthorizedDispatcher.invalidGrant "context key constraint is invalid")
    (AuthorizedDispatcher.invalidGrant "context grant broadens requested keys")
  match request.restricted fun item => names.all (·.contains item.key.wireName) with
  | none =>
    .error (AuthorizedDispatcher.invalidGrant "context grant permits no requested keys")
  | some restricted =>
    let maxBytes ← narrowLimit "context" "max_bytes" request.budget.maxBytes
      (Dict.lookup "max_bytes" constraints)
    let maxTokens ← narrowLimit "context" "max_tokens" request.budget.maxTokens
      (Dict.lookup "max_tokens" constraints)
    let budget ← ContextBudget.make maxBytes maxTokens
    return { restricted with context := call.context, budget := budget }

/-- `_provider_failure`. -/
def contextProviderFailure (error : Raised) : ErrorDetail :=
  ⟨.unavailable, "context_provider_failure", "context provider failed", true, some error.typeName,
    [], by decide⟩

/-- `_unavailable`. -/
def contextUnavailable : Raised :=
  retryableError .unavailable "compatible_context_provider_unavailable"
    "no compatible context provider is available"

/-! ### Results -/

/-- `_enforce_budget`. -/
def enforceContextBudget (budget : ContextBudget) (usage : ContextUsage) : Except Raised Unit := do
  ensure (budget.maxBytes.all (usage.byteCount ≤ ·)) (coreError .invalidRequest
    "context_byte_budget_exceeded" "resolved context exceeds its byte budget")
  match budget.maxTokens with
  | none => return ()
  | some limit =>
    match usage.tokenCount with
    | none => .error (coreError .unsupportedCapability "context_token_usage_unavailable"
        "token budget requires provider token usage reporting")
    | some count => ensure (count ≤ limit) (coreError .invalidRequest
        "context_token_budget_exceeded" "resolved context exceeds its token budget")

/-- The loop over the entries of a result, with the keys that have been seen. -/
def checkContextEntries (schemas : SchemaRegistry) (request : ContextRequest) :
    List ContextEntry → List ContextKey → Except Raised Unit
  | [], _ => .ok ()
  | entry :: entries, seen => do
    ensure (request.requirements.contains ⟨entry.key, entry.schema⟩ && !seen.contains entry.key)
      (coreError .protocolFailure "invalid_context_result"
        "context provider returned an unexpected or duplicate entry")
    schemas.validate entry.schema entry.value
    checkContextEntries schemas request entries (entry.key :: seen)

/-- `set(actual_missing) == set(result.missing_keys)`. -/
def missingAsStated (request : ContextRequest) (result : ContextResult) : Bool :=
  let missing := (request.requirements.map (·.key)).filter fun key =>
    !(result.entries.map (·.key)).contains key
  missing.all result.missingKeys.contains && result.missingKeys.all missing.contains

/-- `_validate_provider_result`. -/
def validateContextResult (schemas : SchemaRegistry) (providerId : ProviderId)
    (request : ContextRequest) (result : ContextResult) : Except Raised Unit := do
  ensure (result.providerId == providerId) (coreError .protocolFailure
    "context_provider_identity_mismatch" "context provider returned a mismatched identity")
  checkContextEntries schemas request result.entries []
  ensure (missingAsStated request result) (coreError .protocolFailure
    "invalid_context_completeness"
    "context provider completeness does not match returned entries")

/-- `replace(candidates[0], value=…, provenance=…)`. -/
def ContextEntry.merged (entry : ContextEntry) (others : List ContextEntry) (value : JsonValue) :
    ContextEntry :=
  { entry with
    value := value
    provenance := (entry :: others).flatMap (·.provenance)
    valid := by
      refine ⟨?_, ?_, entry.valid.2.2⟩
      · simp [entry.valid.1]
      · intro reference listed
        obtain ⟨source, _, listed⟩ := List.mem_flatMap.mp listed
        exact source.valid.2.1 reference listed }

/-- What is left of several entries for one key. -/
def mergeContextEntries (merges : ContextMergeRegistry) (strategy : ContextMergeStrategy)
    (schema : SchemaRef) : List ContextEntry → Except Raised (List ContextEntry)
  | [] => .ok []
  | entry :: others =>
    if strategy = .all then .ok (entry :: others)
    else do
      let value ← merges.merge schema ((entry :: others).map (·.value))
      return [entry.merged others value]

/-- The loop of `_combine` over the requirements. -/
def combineContextEntries (merges : ContextMergeRegistry) (strategy : ContextMergeStrategy)
    (given : List ContextEntry) : List ContextRequirement → Except Raised (List ContextEntry)
  | [] => .ok []
  | requirement :: requirements => do
    let entries ← mergeContextEntries merges strategy requirement.schema
      (given.filter (·.key == requirement.key))
    let rest ← combineContextEntries merges strategy given requirements
    return entries ++ rest

/-- The tokens of all the results, if each says how many they are. -/
def totalTokens : List ContextResult → Option ℕ
  | [] => some 0
  | result :: results => do
    let count ← result.usage.tokenCount
    let rest ← totalTokens results
    return count + rest

/-- `_combine`. -/
def combineContext [PythonFloat] (merges : ContextMergeRegistry) (request : ContextRequest)
    (strategy : ContextMergeStrategy) (results : List ContextResult) :
    Except Raised ResolvedContext := do
  let entries ← combineContextEntries merges strategy (results.flatMap (·.entries))
    request.requirements
  let missing := (request.requirements.map (·.key)).filter fun key =>
    !(entries.map (·.key)).contains key
  let usage : ContextUsage :=
    ⟨(JsonValue.arr (entries.map (·.value))).byteCount, totalTokens results⟩
  enforceContextBudget request.budget usage
  if selected : results.map (·.providerId) ≠ [] then
    return {
      entries
      completeness := if missing = [] then .complete else .partial_
      missingKeys := missing
      warnings := results.flatMap (·.warnings)
      selectedProviders := results.map (·.providerId)
      usage
      valid := ⟨selected, by split <;> simp_all⟩ }
  else .error (.value "resolved context requires at least one provider")

/-! ### The resolver -/

structure ContextResolver where
  providers : List ProviderId
  schemas : SchemaRegistry
  merges : ContextMergeRegistry
  authorization : GatewayAuthorization

namespace ContextResolver

/-- `ContextProviderRegistry.get`. -/
def checkProvider (resolver : ContextResolver) (providerId : ProviderId) : Except Raised Unit :=
  ensure (resolver.providers.contains providerId)
    (retryableError .unavailable "context_provider_not_registered"
      "context provider is not registered")

/-- `_emit`. -/
def emit (eventType : String) (context : RuntimeCallContext) (payload : List (String × JsonValue)) :
    ContextProgram Unit :=
  suppressException (contextOp (.emit eventType context payload))

/-- `except CoreError: raise` before `except Exception`. -/
def normalized {α : Type} (program : ContextProgram α) : ContextProgram α :=
  program.catching fun error =>
    match error with
    | .core detail => .raise (.core detail)
    | error =>
      if error.isException then .raise (.core (contextProviderFailure error)) else .raise error

/-- A turn of `_load_capabilities`. -/
def discover (resolver : ContextResolver) (request : ContextRequest) (providerId : ProviderId) :
    ContextProgram ContextCapabilities := do
  ofExcept (resolver.checkProvider providerId)
  let access := contextAccess request.context providerId contextCapabilitiesAction
    (contextConstraints request)
  let raw ← resolver.authorization.dispatcher.dispatch access fun call => do
    let constrained ← ofExcept (constrainContextRequest request call)
    normalized (constrained.context.awaitProvider
      (contextOp (.capabilities providerId constrained.context)))
  match raw with
  | .malformed => .raise (coreError .protocolFailure "invalid_context_capabilities"
      "context provider returned invalid capabilities")
  | .typed capabilities => do
    ofExcept (ensure (capabilities.providerId == providerId) (coreError .protocolFailure
      "context_provider_identity_mismatch" "context provider returned a mismatched identity"))
    return capabilities

/-- `_load_capabilities`. -/
def loadCapabilities (resolver : ContextResolver) (request : ContextRequest) :
    List ProviderId → ContextProgram (List (ProviderId × ContextCapabilities))
  | [] => return []
  | providerId :: providerIds => do
    let capabilities ← resolver.discover request providerId
    let rest ← resolver.loadCapabilities request providerIds
    return (providerId, capabilities) :: rest

/-- Each provider that supports some of the requirements, with the part of the request that it is
asked for. The `assignments` of a provider are those that it supports too. -/
def groups (request : ContextRequest) (capabilities : List (ProviderId × ContextCapabilities)) :
    List (ProviderId × ContextRequest) :=
  capabilities.filterMap fun provider =>
    (request.restricted fun item => provider.2.supports item request).map (provider.1, ·)

/-- `_select`. -/
def select (request : ContextRequest) (strategy : ContextMergeStrategy)
    (capabilities : List (ProviderId × ContextCapabilities)) :
    Except Raised (List (ProviderId × ContextRequest)) := do
  ensure (strategy != .single || request.requirements.all fun requirement =>
      (capabilities.filter fun provider => provider.2.supports requirement request).length ≤ 1)
    (coreError .conflict "context_single_provider_conflict"
      "single resolution matched more than one provider for a key")
  ensure (!(groups request capabilities).isEmpty) contextUnavailable
  return groups request capabilities

/-- `_invoke`, with the part of the request that the provider is asked for. -/
def invoke (resolver : ContextResolver) (providerId : ProviderId)
    (providerRequest : ContextRequest) : ContextProgram ContextResult := do
  ofExcept (resolver.checkProvider providerId)
  let access := contextAccess providerRequest.context providerId contextProvideAction
    (contextConstraints providerRequest)
  emit contextProviderSelected providerRequest.context
    [("provider_id", .str providerId.value), ("key_count", .int providerRequest.requirements.length)]
  let raw ← resolver.authorization.dispatcher.dispatch access fun call => do
    let constrained ← ofExcept (constrainContextRequest providerRequest call)
    normalized (constrained.context.awaitProvider (contextOp (.provide providerId constrained)))
  match raw with
  | .malformed => .raise (coreError .protocolFailure "invalid_context_result"
      "context provider returned an invalid result")
  | .typed result => do
    ofExcept (validateContextResult resolver.schemas providerId providerRequest result)
    return result

/-- A provider that fails so is passed over. -/
def passedOver (strategy : ContextMergeStrategy) : Raised → Bool
  | .core detail => strategy == .firstSuccess &&
      (detail.category == .unavailable || detail.category == .unsupportedCapability)
  | _ => false

/-- The loop ends with such a result. -/
def accepted (strategy : ContextMergeStrategy) (policy : ContextCompletenessPolicy)
    (result : ContextResult) : Bool :=
  strategy == .firstSuccess && (result.completeness == .complete || policy == .allowPartial)

/-- The loop of `_invoke_groups`, after these results. -/
def invokeGroups (resolver : ContextResolver) (strategy : ContextMergeStrategy)
    (policy : ContextCompletenessPolicy) :
    List (ProviderId × ContextRequest) → List ContextResult → ContextProgram (List ContextResult)
  | [], results => return results
  | (providerId, providerRequest) :: rest, results => do
    let answered : ContextProgram (Option ContextResult) := do
      let result ← resolver.invoke providerId providerRequest
      return some result
    match ← answered.catching fun error =>
        if passedOver strategy error then return none else .raise error with
    | none => resolver.invokeGroups strategy policy rest results
    | some result =>
      if accepted strategy policy result then return results ++ [result]
      else resolver.invokeGroups strategy policy rest (results ++ [result])

/-- The end of `_invoke_groups`; the sort is stable. -/
def chosen (strategy : ContextMergeStrategy) (results : List ContextResult) :
    Except Raised (List ContextResult) :=
  match results.argmax fun result => result.entries.length with
  | none => .error contextUnavailable
  | some result => if strategy = .firstSuccess then .ok [result] else .ok results

/-- The `try` of `resolve`, without the event at its end. -/
def resolveBound [PythonFloat] (resolver : ContextResolver) (request : ContextRequest)
    (binding : ContextBinding) : ContextProgram ResolvedContext := do
  let capabilities ← resolver.loadCapabilities request binding.providerIds
  let groups ← ofExcept (select request binding.mergeStrategy capabilities)
  let results ← resolver.invokeGroups binding.mergeStrategy request.completenessPolicy groups []
  let results ← ofExcept (chosen binding.mergeStrategy results)
  ofExcept (combineContext resolver.merges request binding.mergeStrategy results)

/-- `resolve`; the clock is read for the latency, which is left out of the payloads. -/
def resolve [PythonFloat] (resolver : ContextResolver) (request : ContextRequest)
    (binding : ContextBinding) : ContextProgram ResolvedContext := do
  ofExcept (ensure (request.requirements == binding.requirements) (coreError .invalidRequest
    "context_binding_mismatch" "context request does not match its binding"))
  let _ ← RuntimeControl.now
  emit contextResolutionStarted request.context
    [("key_count", .int request.requirements.length),
      ("strategy", .str binding.mergeStrategy.value)]
  let resolving : ContextProgram ResolvedContext := do
    let resolved ← resolver.resolveBound request binding
    let _ ← RuntimeControl.now
    emit contextResolutionCompleted request.context
      [("provider_count", .int resolved.selectedProviders.length),
        ("entry_count", .int resolved.entries.length),
        ("completeness", .str resolved.completeness.value),
        ("byte_count", .int resolved.usage.byteCount), ("outcome", .str "completed")]
    return resolved
  resolving.catching fun error =>
    match error with
    | .core detail => do
      let _ ← RuntimeControl.now
      emit contextResolutionFailed request.context
        [("error_code", .str detail.code), ("category", .str detail.category.value),
          ("outcome", .str "failed")]
      .raise (.core detail)
    | error => .raise error

end ContextResolver

end CongeriesCore
