import CongeriesCore.GrantConstraints
import CongeriesCore.JsonEncoding
import CongeriesCore.LeasedCapability

/-! # Skill resources

What a Skill declares that it can load, and the gateway that loads one of these resources. The
title and the summary of a Skill are left out. -/

namespace CongeriesCore

open AsyncProgram AsyncProgram.Program

def skillResourceReadAction : ActionRef := ⟨"core", "skill.resource.read", "1", by decide⟩

def skillResourceLoadStarted : String := "core.skill.resource_load_started"
def skillResourceLoadCompleted : String := "core.skill.resource_load_completed"
def skillResourceLoadFailed : String := "core.skill.resource_load_failed"

inductive SkillResourceKind
  | instruction
  | example_
  | script
  | reference
  deriving DecidableEq, Repr

/-- `_require_resource_path`; `.` alone is a path of no parts, which is normalized. -/
def isResourcePath (path : String) : Bool :=
  isTrimmed path && !path.toList.contains '\\' &&
    (path == "." ||
      ((path.toList.splitOn '/').all fun part => !([[], ['.'], ['.', '.']].contains part)))

structure SkillResourceDescriptor where
  resourceId : ResourceId
  kind : SkillResourceKind
  path : String
  mediaType : String
  maxBytes : ℕ
  action : ActionRef
  valid : isResourcePath path = true ∧ isTrimmed mediaType = true ∧ 1 ≤ maxBytes
  deriving DecidableEq, Repr

structure SkillDescriptor where
  ref : CapabilityRef
  resources : List SkillResourceDescriptor
  valid : ref.namespace_ = "core" ∧ ref.kind = "skill" ∧
    ref.contractVersion = skillContractVersion
  unique : (resources.map (·.resourceId)).Nodup ∧ (resources.map (·.path)).Nodup
  deriving DecidableEq, Repr

/-- `SkillDescriptor.resource`. -/
def SkillDescriptor.resource (skill : SkillDescriptor) (resourceId : ResourceId) :
    Option SkillResourceDescriptor :=
  skill.resources.find? fun resource => resource.resourceId == resourceId

structure SkillResource where
  skill : CapabilityRef
  descriptor : SkillResourceDescriptor
  content : ContentBlock
  valid : (skill.namespace_ = "core" ∧ skill.kind = "skill" ∧
    skill.contractVersion = skillContractVersion) ∧ content.mediaType = some descriptor.mediaType

/-- `byte_count`: a text and a reference are strings. -/
def SkillResource.byteCount [PythonFloat] (resource : SkillResource) : ℕ :=
  match resource.content.kind, resource.content.value with
  | .json, value => value.byteCount
  | _, .str text => text.utf8ByteSize
  | _, value => value.byteCount

/-- What a `SkillImplementation` does; its descriptor is what its gateway knows of it. -/
inductive SkillOp
  | loadResource (descriptor : SkillResourceDescriptor) (context : RuntimeCallContext)

abbrev SkillOp.Answer : SkillOp → Type
  | .loadResource _ _ => Returned ContentBlock

abbrev skillInterface : Interface := ⟨SkillOp, SkillOp.Answer⟩

abbrev SkillProgram := GatewayProgram (leasedInterface skillInterface SkillDescriptor)

abbrev skillOp (op : LeasedOp skillInterface SkillDescriptor) : SkillProgram op.Answer :=
  LeasedCapability.leasedOp op

/-! ### The registry -/

namespace SkillRegistry

/-- The actions of the resources are declared and registered. -/
def checkActions (actions : List ActionRef) (declaration : CapabilityDeclaration) :
    List SkillResourceDescriptor → Except Raised Unit
  | [] => .ok ()
  | resource :: resources => do
    ensure (declaration.permissions.any fun item => item.action == resource.action)
      (coreError .denied "skill_permission_undeclared"
        "Skill resource Action is not declared by its Plugin capability")
    ensure (actions.contains resource.action) (coreError .denied "skill_action_not_registered"
      "Skill resource Action is not registered")
    checkActions actions declaration resources

/-- The part of `resolve` after the registry has been asked. -/
def checkSkill (actions : List ActionRef) (ref : CapabilityRef)
    (published : PublishedCapability SkillDescriptor) : Except Raised SkillDescriptor := do
  ensure (published.registration.owner.name == ref.owningExtension) (coreError .conflict
    "skill_owner_mismatch" "Skill reference does not identify its owning Plugin")
  match published.implementation with
  | none => .error (coreError .protocolFailure "invalid_skill_implementation"
      "Plugin Skill implementation does not satisfy the Skill v1 contract")
  | some descriptor =>
    ensure (descriptor.ref == ref) (coreError .protocolFailure "skill_descriptor_mismatch"
      "Skill descriptor identity does not match its registration")
    checkActions actions published.registration.declaration descriptor.resources
    return descriptor

/-- `SkillRegistry.resolve`; only the descriptor of what it resolves is used. -/
def resolve (actions : List ActionRef) (ref : CapabilityRef) : SkillProgram SkillDescriptor := do
  ofExcept (ensure (ref.namespace_ == "core" && ref.kind == CapabilityType.skill.value)
    (coreError .invalidRequest "invalid_skill_reference"
      "Skill reference namespace or kind is invalid"))
  ofExcept (ensure (ref.contractVersion == skillContractVersion) (coreError .versionMismatch
    "skill_contract_version_mismatch" "Skill contract version is unsupported"))
  let published ← skillOp (.getCapability ref.registrationKey)
  ofExcept (checkSkill actions ref published)

end SkillRegistry

/-! ### The gateway -/

/-- `actions` is what the Skill registry knows. -/
structure SkillResourceGateway where
  actions : List ActionRef
  authorization : GatewayAuthorization

namespace SkillResourceGateway

def protocolFailure (message : String) (given : message ≠ "" := by decide) : Raised :=
  coreError .protocolFailure "skill_protocol_failure" message ⟨by decide, given⟩

def budgetExceeded (message : String) (given : message ≠ "" := by decide) : Raised :=
  coreError .invalidRequest "skill_resource_budget_exceeded" message ⟨by decide, given⟩

/-- The part of `_validate_grant` about `max_bytes`. -/
def narrowMaxBytes (requestedMax : ℕ) : Option JsonValue → Except Raised ℕ
  | none | some .null => .ok requestedMax
  | some (.int rawMax) =>
    if rawMax < 1 ∨ (requestedMax : ℤ) < rawMax then
      .error (AuthorizedDispatcher.invalidGrant "Skill resource grant broadens max_bytes")
    else .ok rawMax.toNat
  | some _ =>
    .error (AuthorizedDispatcher.invalidGrant "Skill resource max_bytes grant is invalid")

/-- `_validate_grant`. -/
def validateGrant (descriptor : SkillResourceDescriptor) (requestedMax : ℕ)
    (constraints : List (String × JsonValue)) : Except Raised ℕ := do
  ensure (!unknownConstraint constraints ["resource_id", "path", "media_type", "max_bytes"])
    (AuthorizedDispatcher.invalidGrant "Skill resource grant contains unknown constraints")
  ensure (leavesText constraints "resource_id" descriptor.resourceId.value)
    (AuthorizedDispatcher.invalidGrant "Skill resource grant changes resource_id")
  ensure (leavesText constraints "path" descriptor.path)
    (AuthorizedDispatcher.invalidGrant "Skill resource grant changes path")
  ensure (leavesText constraints "media_type" descriptor.mediaType)
    (AuthorizedDispatcher.invalidGrant "Skill resource grant changes media_type")
  narrowMaxBytes requestedMax (Dict.lookup "max_bytes" constraints)

/-- `_payload`, without the latency. -/
def payload (request : SkillResourceRequest) (byteCount : ℕ) : List (String × JsonValue) :=
  [("skill_id", .str request.skill.id.value), ("resource_id", .str request.resourceId.value),
    ("byte_count", .int byteCount)]

/-- `_emit_failure`; the clock is read for the latency. -/
def emitFailure (request : SkillResourceRequest) (context : RuntimeCallContext)
    (error : ErrorDetail) : SkillProgram Unit := do
  let _ ← RuntimeControl.now
  LeasedCapability.emit skillResourceLoadFailed context (payload request 0 ++
    [("category", .str error.category.value), ("error_code", .str error.code)])

/-- `except Exception` around the loader. -/
def loaderFailure (error : Raised) : Raised :=
  retryableError .unavailable "skill_resource_loader_failure" "Skill resource loader failed"
    (some error.typeName)

/-- The loader, with the exceptions that it raises normalized. -/
def loadContent (descriptor : SkillResourceDescriptor) (context : RuntimeCallContext) :
    SkillProgram (Returned ContentBlock) :=
  (skillOp (.act (.loadResource descriptor context))).catching fun error =>
    match error with
    | .core detail => .raise (.core detail)
    | error => if error.isException then .raise (loaderFailure error) else .raise error

/-- What is checked of a loaded content; a value without a media type has none to compare. -/
def checkContent [PythonFloat] (request : SkillResourceRequest)
    (descriptor : SkillResourceDescriptor) (effectiveMax : ℕ) :
    Returned ContentBlock → Except Raised SkillResource
  | .malformed => .error (.other "AttributeError")
  | .typed content =>
    if declared : content.mediaType = some descriptor.mediaType then do
      let resource : SkillResource := ⟨request.skill, descriptor, content, request.valid.1, declared⟩
      ensure (resource.byteCount ≤ effectiveMax)
        (budgetExceeded "Loaded Skill resource exceeds the effective byte budget")
      return resource
    else .error (protocolFailure "Skill resource media type does not match descriptor")

/-- The resource that is authorized is bound to the registration by a validator of its own. -/
def invocation (request : SkillResourceRequest) (descriptor : SkillResourceDescriptor)
    (resource : ResourceRef) (context : RuntimeCallContext) : Invocation where
  pluginId := request.skill.owningExtension
  capabilityKey := request.skill.registrationKey
  action := descriptor.action
  resource := resource
  context := context
  principal := .core .run ⟨context.runId.value, context.runId_checked⟩
  constraints := [("resource_id", .str descriptor.resourceId.value), ("path", .str descriptor.path),
    ("media_type", .str descriptor.mediaType), ("max_bytes", .int request.maxBytes)]
  resourceValidator := some fun registration authorized =>
    registration.declaration.key == request.skill.registrationKey && authorized == resource

/-- The declared resource that is asked for, with a budget that is not above the declared one. -/
def declared (request : SkillResourceRequest) (skill : SkillDescriptor) :
    Except Raised SkillResourceDescriptor :=
  match skill.resource request.resourceId with
  | none => .error (coreError .invalidRequest "skill_resource_undeclared"
      "Skill resource is not declared")
  | some descriptor => do
    ensure (request.maxBytes ≤ descriptor.maxBytes)
      (budgetExceeded "Skill resource request exceeds its declared byte budget")
    return descriptor

variable [PythonFloat]

/-- `operation` of `load`. -/
def operation (request : SkillResourceRequest) (descriptor : SkillResourceDescriptor)
    (published : PublishedCapability SkillDescriptor) (call : AuthorizedCall) :
    SkillProgram SkillResource := do
  let effectiveMax ← ofExcept (validateGrant descriptor request.maxBytes call.grant.constraints)
  match published.implementation with
  | none => .raise (protocolFailure "Skill implementation is invalid")
  | some _ =>
    let content ← loadContent descriptor call.context
    ofExcept (checkContent request descriptor effectiveMax content)

/-- The `try` of `load`. -/
def loadResource (gateway : SkillResourceGateway) (request : SkillResourceRequest)
    (descriptor : SkillResourceDescriptor) (resource : ResourceRef) (context : RuntimeCallContext) :
    SkillProgram SkillResource := do
  let loaded ← LeasedCapability.invoke gateway.authorization
    (invocation request descriptor resource context) (operation request descriptor)
  let _ ← RuntimeControl.now
  LeasedCapability.emit skillResourceLoadCompleted context (payload request loaded.byteCount)
  return loaded

/-- `SkillResourceGateway.load`. -/
def load (gateway : SkillResourceGateway) (request : SkillResourceRequest)
    (context : RuntimeCallContext) : SkillProgram SkillResource := do
  ofExcept (ensure context.idempotencyKey.isSome
    (missingInvocationIdentity "Skill resource loading requires an invocation identity"))
  let skill ← SkillRegistry.resolve gateway.actions request.skill
  let descriptor ← ofExcept (declared request skill)
  let _ ← RuntimeControl.now
  LeasedCapability.emit skillResourceLoadStarted context (payload request 0)
  let resource ← ofExcept (skillResource request)
  (gateway.loadResource request descriptor resource context).catching fun error =>
    match error with
    | .core detail => do
      emitFailure request context detail
      .raise (.core detail)
    | error => .raise error

end SkillResourceGateway

end CongeriesCore
