import CongeriesCore.PolicyAuthorization
import CongeriesCore.RuntimeSchema

/-! # Context contracts

What a context provider is asked for and what it answers. -/

namespace CongeriesCore

structure ContextKey where
  namespace_ : String
  name : String
  named : isName namespace_ = true ∧ isName name = true
  deriving Repr

/-- What a key is compared by. -/
theorem ContextKey.fields_injective : Function.Injective fun value : ContextKey =>
    (value.namespace_, value.name) := by
  intro first second same
  cases first
  cases second
  simpa using same

instance : DecidableEq ContextKey := ContextKey.fields_injective.decidableEq

def ContextKey.wireName (key : ContextKey) : String := key.namespace_ ++ ":" ++ key.name

inductive ContextCompleteness
  | complete
  | partial_
  deriving DecidableEq, Repr

inductive ContextCompletenessPolicy
  | requireComplete
  | allowPartial
  deriving DecidableEq, Repr

inductive ContextMergeStrategy
  | single
  | firstSuccess
  | merge
  | all
  deriving DecidableEq, Repr

def ContextMergeStrategy.value : ContextMergeStrategy → String
  | .single => "single"
  | .firstSuccess => "first_success"
  | .merge => "merge"
  | .all => "all"

def ContextCompleteness.value : ContextCompleteness → String
  | .complete => "complete"
  | .partial_ => "partial"

structure ContextBudget where
  maxBytes : Option ℕ
  maxTokens : Option ℕ
  positive : maxBytes.all (1 ≤ ·) = true ∧ maxTokens.all (1 ≤ ·) = true
  deriving DecidableEq, Repr

/-- The constructor call: raises what `__post_init__` raises. -/
def ContextBudget.make (maxBytes maxTokens : Option ℕ) : Except Raised ContextBudget :=
  if bytes : maxBytes.all (1 ≤ ·) = true then
    if tokens : maxTokens.all (1 ≤ ·) = true then .ok ⟨maxBytes, maxTokens, bytes, tokens⟩
    else .error (.value "context max_tokens must be positive")
  else .error (.value "context max_bytes must be positive")

structure ContextUsage where
  byteCount : ℕ
  tokenCount : Option ℕ
  deriving DecidableEq, Repr

structure ContextRequirement where
  key : ContextKey
  schema : SchemaRef
  deriving DecidableEq, Repr

structure ContextEntry where
  key : ContextKey
  schema : SchemaRef
  value : JsonValue
  provenance : List String
  freshAt : Option DateTime
  expiresAt : Option DateTime
  valid : provenance ≠ [] ∧ (∀ reference ∈ provenance, isTrimmed reference = true) ∧
    ∀ fresh ∈ freshAt, ∀ expiry ∈ expiresAt, fresh < expiry

structure ContextWarning where
  code : String
  message : String
  key : Option ContextKey
  required : code ≠ "" ∧ message ≠ ""

structure ContextRequest where
  definitionId : DefinitionId
  context : RuntimeCallContext
  requirements : List ContextRequirement
  completenessPolicy : ContextCompletenessPolicy
  budget : ContextBudget
  unique : requirements ≠ [] ∧ (requirements.map (·.key)).Nodup

structure ContextResult where
  providerId : ProviderId
  contractVersion : String
  entries : List ContextEntry
  completeness : ContextCompleteness
  missingKeys : List ContextKey
  warnings : List ContextWarning
  usage : ContextUsage
  valid : contractVersion ≠ "" ∧ (completeness = .complete ↔ missingKeys = [])

structure ResolvedContext where
  entries : List ContextEntry
  completeness : ContextCompleteness
  missingKeys : List ContextKey
  warnings : List ContextWarning
  selectedProviders : List ProviderId
  usage : ContextUsage
  valid : selectedProviders ≠ [] ∧ (completeness = .complete ↔ missingKeys = [])

structure ContextScopePattern where
  namespace_ : String
  kind : String

def ContextScopePattern.matches_ (pattern : ContextScopePattern) (context : RuntimeCallContext) :
    Bool :=
  context.scope.key.namespace_ == pattern.namespace_ && context.scope.key.kind == pattern.kind

structure ContextCapabilities where
  providerId : ProviderId
  contractVersion : String
  supported : List ContextRequirement
  supportsPartial : Bool
  maximumBudget : ContextBudget
  scopePatterns : List ContextScopePattern

/-- Whether a requested limit stays within a declared one, where both are given. -/
def withinLimit (requested maximum : Option ℕ) : Bool :=
  match requested, maximum with
  | some requested, some maximum => requested ≤ maximum
  | _, _ => true

def ContextCapabilities.supports (capabilities : ContextCapabilities)
    (requirement : ContextRequirement) (request : ContextRequest) : Bool :=
  capabilities.supported.contains requirement &&
    (capabilities.scopePatterns.isEmpty ||
      capabilities.scopePatterns.any (·.matches_ request.context)) &&
    withinLimit request.budget.maxBytes capabilities.maximumBudget.maxBytes &&
    withinLimit request.budget.maxTokens capabilities.maximumBudget.maxTokens

structure ContextBinding where
  providerIds : List ProviderId
  requirements : List ContextRequirement
  mergeStrategy : ContextMergeStrategy
  completenessPolicy : ContextCompletenessPolicy
  budget : ContextBudget
  unique : (providerIds ≠ [] ∧ providerIds.Nodup) ∧
    requirements ≠ [] ∧ (requirements.map (·.key)).Nodup

end CongeriesCore
