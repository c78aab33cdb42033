import CongeriesCore.LeasedCapability
import CongeriesCore.ModelContracts
import Mathlib.Data.Finset.Basic

/-! # Agent specifications

What an Agent is made of: its instructions, its bindings and the skills and tools it refers to. The
first contract version refers to resources, the second to versioned capabilities. -/

namespace CongeriesCore

/-! ## Model bindings -/

structure ModelCapabilityRequirements where
  streaming : Bool
  structuredOutput : Bool
  toolCalls : Bool
  inputKinds : Finset ContentKind
  outputKinds : Finset ContentKind
  deriving DecidableEq

structure ModelBinding where
  ref : ModelBindingRef
  selector : ModelSelector
  required : ModelCapabilityRequirements
  defaultPolicy : ModelRequestPolicy
  defaultBudget : ModelBudget
  fallbacks : List ModelSelector
  unique : (selector :: fallbacks).Nodup

/-! ## Specifications -/

/-- `CapabilityRef | ResourceRef`. -/
inductive AgentReference
  | capability (ref : CapabilityRef)
  | resource (ref : ResourceRef)
  deriving DecidableEq, Repr

def CapabilityRef.key (ref : CapabilityRef) : String × String × String :=
  (ref.kind, ref.id.value, ref.contractVersion)

namespace AgentReference

def key : AgentReference → String × String × String
  | .capability ref => ref.key
  | .resource ref => ref.key

def kind : AgentReference → String
  | .capability ref => ref.kind
  | .resource ref => ref.kind

def isCapability : AgentReference → Bool
  | .capability _ => true
  | .resource _ => false

end AgentReference

structure AgentSpecFields where
  agentId : AgentId
  definitionId : DefinitionId
  instructions : List ContentBlock
  contextBinding : ContextBinding
  modelBinding : ModelBinding
  skillRefs : List AgentReference
  toolRefs : List AgentReference
  policyRef : Option ResourceRef
  contractVersion : String

/-- `__post_init__`. -/
def AgentSpecFields.check (fields : AgentSpecFields) : Except Raised Unit := do
  requireValue (fields.contractVersion == "1" || fields.contractVersion == "2")
    "AgentSpec contract version is unsupported"
  requireValue (!fields.instructions.isEmpty) "AgentSpec instructions must not be empty"
  requireValue (decide (fields.skillRefs.map AgentReference.key).Nodup)
    "AgentSpec skill references must be unique"
  requireValue (decide (fields.toolRefs.map AgentReference.key).Nodup)
    "AgentSpec tool references must be unique"
  requireValue (fields.skillRefs.all fun item => item.kind == "skill")
    "AgentSpec skill reference kind must be skill"
  requireValue (fields.toolRefs.all fun item => item.kind == "tool")
    "AgentSpec tool reference kind must be tool"
  requireValue (!(fields.contractVersion == "2" &&
      (fields.skillRefs ++ fields.toolRefs).any fun item => !item.isCapability))
    "AgentSpec v2 requires versioned capability references"

structure AgentSpec extends AgentSpecFields where
  checked : toAgentSpecFields.check = .ok ()

def AgentSpec.make (fields : AgentSpecFields) : Except Raised AgentSpec :=
  match checked : fields.check with
  | .ok () => .ok ⟨fields, checked⟩
  | .error error => .error error

/-! ## Upgrading -/

namespace CapabilityRef

/-- The constructor call: the resource is checked first. -/
def make (namespace_ kind : String) (id : ResourceId) (owningExtension contractVersion : String) :
    Except Raised CapabilityRef :=
  if namespaced : isName namespace_ = true then
    if kinded : isName kind = true then
      if owned : isName owningExtension = true then
        if trimmed : isTrimmed contractVersion = true then
          .ok ⟨namespace_, kind, id, owningExtension, contractVersion, namespaced, kinded, owned,
            trimmed⟩
        else .error (.value "capability contract version must be non-empty and trimmed")
      else .error (.value "owning extension is invalid")
    else .error (.value "resource kind is invalid")
  else .error (.value "resource namespace is invalid")

def fromResource (resource : ResourceRef) (contractVersion : String) : Except Raised CapabilityRef :=
  match resource.owningExtension with
  | none => .error (.value "versioned capability reference requires an owning extension")
  | some owner => make resource.namespace_ resource.kind resource.id owner contractVersion

end CapabilityRef

namespace AgentSpec

/-- `upgrade`: a resource is taken for version 1 of the capability. -/
def upgradeReference : AgentReference → Except Raised AgentReference
  | .capability ref => .ok (.capability ref)
  | .resource ref => do return .capability (← CapabilityRef.fromResource ref "1")

def upgradeV2 (spec : AgentSpec) : Except Raised AgentSpec := do
  let skillRefs ← spec.skillRefs.mapM upgradeReference
  let toolRefs ← spec.toolRefs.mapM upgradeReference
  make { spec.toAgentSpecFields with skillRefs, toolRefs, contractVersion := "2" }

end AgentSpec

end CongeriesCore
