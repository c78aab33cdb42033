import CongeriesCore.RuntimeContext

/-! # Scope authorization

Requests, grants and decisions, and the dispatcher through which every protected
capability is invoked. The registry, the policy, the audit publisher and the audit
failure handler are what a dispatcher is built from. -/

namespace CongeriesCore

open AsyncProgram

inductive CorePrincipalKind
  | run
  | agent
  | workflowNode
  | plugin
  | coreService
  deriving DecidableEq, Repr

def CorePrincipalKind.value : CorePrincipalKind → String
  | .run => "run"
  | .agent => "agent"
  | .workflowNode => "workflow_node"
  | .plugin => "plugin"
  | .coreService => "core_service"

structure RuntimePrincipal where
  namespace_ : String
  kind : String
  id : PrincipalId
  named : isName namespace_ = true ∧ isName kind = true
  deriving DecidableEq, Repr

def RuntimePrincipal.core (kind : CorePrincipalKind) (id : PrincipalId) : RuntimePrincipal :=
  ⟨"core", kind.value, id, by cases kind <;> decide⟩

def RuntimePrincipal.toData (principal : RuntimePrincipal) : JsonValue :=
  .obj [("namespace", .str principal.namespace_), ("kind", .str principal.kind),
    ("id", .str principal.id.value)]

structure ActionRef where
  namespace_ : String
  name : String
  version : String
  named : isName namespace_ = true ∧ isName name = true ∧ isTrimmed version = true
  deriving DecidableEq, Repr

structure ResourceRef where
  namespace_ : String
  kind : String
  id : ResourceId
  owningExtension : Option String
  named : isName namespace_ = true ∧ isName kind = true ∧
    ∀ extension ∈ owningExtension, isName extension = true
  deriving DecidableEq, Repr

def ResourceRef.key (resource : ResourceRef) : String × String × String :=
  (resource.namespace_, resource.kind, resource.id.value)

def ResourceRef.toData (resource : ResourceRef) : JsonValue :=
  .obj [("namespace", .str resource.namespace_), ("kind", .str resource.kind),
    ("id", .str resource.id.value), ("owning_extension", .ofOption .str resource.owningExtension)]

structure AccessRequest where
  principal : RuntimePrincipal
  action : ActionRef
  resource : ResourceRef
  scope : ScopeRef
  context : RuntimeCallContext
  constraints : List (String × JsonValue)

inductive PolicyEffect
  | allow
  | deny
  | indeterminate
  deriving DecidableEq, Repr

structure Grant where
  principal : RuntimePrincipal
  action : ActionRef
  resource : ResourceRef
  sourceScope : ScopeRef
  effectiveScope : ScopeRef
  constraints : List (String × JsonValue)
  issuedAt : DateTime
  expiresAt : Option DateTime
  policyVersion : String
  auditCorrelation : String
  valid : (∀ expiry ∈ expiresAt, issuedAt < expiry) ∧ policyVersion ≠ "" ∧ auditCorrelation ≠ ""

def Grant.crossScope (grant : Grant) : Bool := grant.sourceScope.key != grant.effectiveScope.key

structure PolicyDecision where
  effect : PolicyEffect
  grant : Option Grant
  reasonCode : Option String
  valid : (effect = .allow ↔ grant.isSome) ∧
    (effect ≠ .allow → ∃ reason, reasonCode = some reason ∧ reason ≠ "")

def PolicyDecision.deny (reasonCode : String) (given : reasonCode ≠ "" := by decide) :
    PolicyDecision :=
  ⟨.deny, none, some reasonCode, by simp, fun _ => ⟨_, rfl, given⟩⟩

def PolicyDecision.indeterminate (reasonCode : String) (given : reasonCode ≠ "" := by decide) :
    PolicyDecision :=
  ⟨.indeterminate, none, some reasonCode, by simp, fun _ => ⟨_, rfl, given⟩⟩

/-- `core_error(DENIED, reason_code or fallback, message)`. -/
def deniedBecause (reasonCode : Option String) (fallback message : String)
    (given : fallback ≠ "" ∧ message ≠ "" := by decide) : Raised :=
  match reasonCode with
  | none => coreError .denied fallback message given
  | some reason =>
    if present : reason = "" then coreError .denied fallback message given
    else coreError .denied reason message ⟨present, given.2⟩

/-- The collaborators of an `AuthorizedDispatcher`. -/
structure AuthorizedDispatcher (I : Interface) where
  actions : List ActionRef
  policy : Option (AccessRequest → Program I Raised PolicyDecision)
  authorizationDenied : AccessRequest → PolicyDecision → Program I Raised Unit
  crossScopeGranted : AccessRequest → Grant → Program I Raised Unit
  handleAuditFailure : RunId → ErrorDetail → Program I Raised Unit

structure AuthorizedCall where
  request : AccessRequest
  grant : Grant
  context : RuntimeCallContext

/-- `try: audit except CoreError: handle(run_id); raise`. -/
def auditOrHandle {I : Interface} (audit : Program I Raised Unit)
    (handle : RunId → ErrorDetail → Program I Raised Unit) (runId : RunId) :
    Program I Raised Unit :=
  audit.catching fun
    | .core detail => do
      handle runId detail
      .raise (.core detail)
    | error => .raise error

namespace AuthorizedDispatcher

variable {I : Interface} [RuntimeControl I]

def invalidGrant (message : String) (given : message ≠ "" := by decide) : Raised :=
  coreError .denied "invalid_grant" message ⟨by decide, given⟩

def validateGrant (request : AccessRequest) (grant : Grant) : Except Raised Unit := do
  if grant.principal ≠ request.principal then
    throw (invalidGrant "grant principal does not match request")
  if grant.action ≠ request.action then
    throw (invalidGrant "grant action does not match request")
  if grant.resource ≠ request.resource then
    throw (invalidGrant "grant resource does not match request")
  if grant.sourceScope.key ≠ request.context.scope.key then
    throw (invalidGrant "grant source Scope does not match call context")
  if grant.effectiveScope.key ≠ request.scope.key then
    throw (invalidGrant "grant effective Scope does not match request")
  if !grant.crossScope then
    grant.effectiveScope.requireNarrowerThan request.context.scope

def deny {α : Type} (dispatcher : AuthorizedDispatcher I) (request : AccessRequest)
    (decision : PolicyDecision) : Program I Raised α := do
  auditOrHandle (dispatcher.authorizationDenied request decision)
    dispatcher.handleAuditFailure request.context.runId
  .raise (deniedBecause decision.reasonCode "authorization_denied" "authorization denied")

/-- The decision on a request; a decision without effect `ALLOW` has been denied. -/
def decide (dispatcher : AuthorizedDispatcher I) (request : AccessRequest) :
    Program I Raised PolicyDecision :=
  if ¬ dispatcher.actions.any fun action => action == request.action then
    dispatcher.deny request (.deny "unknown_action")
  else match dispatcher.policy with
    | none => dispatcher.deny request (.indeterminate "policy_missing")
    | some authorize => do
      let decision ← authorize request
      if decision.effect ≠ .allow then dispatcher.deny request decision else pure decision

def expired (grant : Grant) : Program I Raised Bool :=
  match grant.expiresAt with
  | none => pure false
  | some expiry => do return expiry ≤ (← RuntimeControl.now)

theorem only_expired {allowed : I.Op → Prop}
    (now : (RuntimeControl.now : Program I Raised DateTime).Only allowed) (grant : Grant) :
    (expired grant : Program I Raised Bool).Only allowed := by
  unfold expired
  split
  · trivial
  · exact now.bind fun _ => trivial

def denyExpired (dispatcher : AuthorizedDispatcher I) (request : AccessRequest) (grant : Grant) :
    Program I Raised Unit := do
  if ← expired grant then dispatcher.deny request (.deny "grant_expired") else pure ()

def auditCrossScope (dispatcher : AuthorizedDispatcher I) (request : AccessRequest)
    (grant : Grant) : Program I Raised Unit :=
  if grant.crossScope then
    auditOrHandle (dispatcher.crossScopeGranted request grant) dispatcher.handleAuditFailure
      request.context.runId
  else pure ()

def dispatch {α : Type} (dispatcher : AuthorizedDispatcher I) (request : AccessRequest)
    (operation : AuthorizedCall → Program I Raised α) : Program I Raised α := do
  request.context.checkActive
  let decision ← dispatcher.decide request
  match decision.grant with
  | none => .raise (.assertion "ALLOW decision must have a grant")
  | some grant =>
    Program.ofExcept (validateGrant request grant)
    dispatcher.denyExpired request grant
    dispatcher.auditCrossScope request grant
    operation ⟨request, grant, { request.context with scope := grant.effectiveScope }⟩

end AuthorizedDispatcher

end CongeriesCore
