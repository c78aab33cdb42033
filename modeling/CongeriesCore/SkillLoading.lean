import CongeriesCore.SkillGateway

/-! # What a load of a Skill resource does

Whatever the registry, the policy, the lifecycle and the loader answer: the loader is called at
most once, with the declared descriptor, for a granted call and under a lease, and a content that
is returned fits the budget that the grant leaves. -/

namespace CongeriesCore

open AsyncProgram AsyncProgram.Program GatewayDispatch LeasedCapability

abbrev SkillEvent := Event (gatewayInterface (leasedInterface skillInterface SkillDescriptor)) Raised

abbrev SkillTrace := LeasedTrace skillInterface SkillDescriptor

namespace SkillResourceGateway

def constraintNames : List String := ["resource_id", "path", "media_type", "max_bytes"]

/-- The constraints leave the resource as it is declared, and this budget of the requested one. -/
structure Narrows (descriptor : SkillResourceDescriptor) (requestedMax : ℕ)
    (constraints : List (String × JsonValue)) (limit : ℕ) : Prop where
  known : ∀ item ∈ constraints, item.1 ∈ constraintNames
  resourceId : ∀ given, Dict.lookup "resource_id" constraints = some given →
    given = .str descriptor.resourceId.value
  path : ∀ given, Dict.lookup "path" constraints = some given → given = .str descriptor.path
  mediaType : ∀ given, Dict.lookup "media_type" constraints = some given →
    given = .str descriptor.mediaType
  maxBytes : ((Dict.lookup "max_bytes" constraints = none ∨
      Dict.lookup "max_bytes" constraints = some .null) ∧ limit = requestedMax) ∨
    (Dict.lookup "max_bytes" constraints = some (.int limit) ∧ 1 ≤ limit ∧ limit ≤ requestedMax)

theorem Narrows.le {descriptor : SkillResourceDescriptor} {requestedMax limit : ℕ}
    {constraints : List (String × JsonValue)}
    (narrows : Narrows descriptor requestedMax constraints limit) : limit ≤ requestedMax := by
  rcases narrows.maxBytes with ⟨-, same⟩ | ⟨-, -, within⟩
  · exact same.le
  · exact within

theorem narrowMaxBytes_iff {requestedMax limit : ℕ} {rawMax : Option JsonValue} :
    narrowMaxBytes requestedMax rawMax = .ok limit ↔
      ((rawMax = none ∨ rawMax = some .null) ∧ limit = requestedMax) ∨
        (rawMax = some (.int limit) ∧ 1 ≤ limit ∧ limit ≤ requestedMax) := by
  unfold narrowMaxBytes
  split
  · simp [eq_comm]
  · simp [eq_comm]
  · rename_i granted
    constructor
    · intro narrowed
      split at narrowed
      · cases narrowed
      · cases narrowed
        refine .inr ⟨?_, by omega, by omega⟩
        congr
        omega
    · intro given
      rcases given with ⟨missing | null, -⟩ | ⟨same, least, within⟩
      · cases missing
      · cases null
      · cases same
        rw [if_neg (by omega)]
        simp
  · rename_i other notNull notInt
    constructor
    · intro impossible
      cases impossible
    · intro given
      rcases given with ⟨missing | null, -⟩ | ⟨same, -, -⟩
      · cases missing
      · exact absurd (Option.some.inj null) notNull
      · exact absurd (Option.some.inj same) (notInt limit)

/-- A grant is accepted if and only if it narrows. -/
theorem validateGrant_iff {descriptor : SkillResourceDescriptor} {requestedMax limit : ℕ}
    {constraints : List (String × JsonValue)} :
    validateGrant descriptor requestedMax constraints = .ok limit ↔
      Narrows descriptor requestedMax constraints limit := by
  constructor
  · intro validated
    obtain ⟨_, allowed, validated⟩ := bind_ok validated
    obtain ⟨_, sameId, validated⟩ := bind_ok validated
    obtain ⟨_, samePath, validated⟩ := bind_ok validated
    obtain ⟨_, sameType, validated⟩ := bind_ok validated
    exact ⟨unknownConstraint_iff.mp (ensure_eq_ok.mp allowed), leavesText_iff.mp (ensure_eq_ok.mp sameId),
      leavesText_iff.mp (ensure_eq_ok.mp samePath), leavesText_iff.mp (ensure_eq_ok.mp sameType),
      narrowMaxBytes_iff.mp validated⟩
  · intro narrows
    have allowed := unknownConstraint_iff.mpr narrows.known
    unfold constraintNames at allowed
    unfold validateGrant
    rw [ensure_ok allowed, ensure_ok (leavesText_iff.mpr narrows.resourceId),
      ensure_ok (leavesText_iff.mpr narrows.path), ensure_ok (leavesText_iff.mpr narrows.mediaType)]
    exact narrowMaxBytes_iff.mpr narrows.maxBytes

theorem validateGrant_invalid {descriptor : SkillResourceDescriptor} {requestedMax : ℕ}
    {constraints : List (String × JsonValue)} :
    Within InvalidGrant (validateGrant descriptor requestedMax constraints) := by
  apply within_bind within_invalid
  intro _ _
  apply within_bind within_invalid
  intro _ _
  apply within_bind within_invalid
  intro _ _
  apply within_bind within_invalid
  intro _ _
  unfold narrowMaxBytes
  split
  · exact within_ok
  · exact within_ok
  · split
    · exact within_error (invalidGrant _ _)
    · exact within_ok
  · exact within_error (invalidGrant _ _)

/-! ## Runs -/

/-- The loader is called. -/
def isLoad : SkillEvent → Bool := isAct fun _ => true

theorem isLoad_of_idle (event : SkillEvent) (idle : LeasedCapability.Idle event.1) :
    isLoad event = false := isAct_of_idle event idle

/-- The Skill that the registry has given declares the resource that is asked for. -/
def Declared (request : SkillResourceRequest) (descriptor : SkillResourceDescriptor)
    (trace : SkillTrace) : Prop :=
  ∃ published skill,
    (⟨.call (.getCapability request.skill.registrationKey), .ok published⟩ : SkillEvent) ∈ trace ∧
      published.implementation = some skill ∧ skill.ref = request.skill ∧
      skill.resource request.resourceId = some descriptor ∧
      request.maxBytes ≤ descriptor.maxBytes

/-- The policy has granted the read of this resource, and leaves this budget. -/
def Authorized (request : SkillResourceRequest) (descriptor : SkillResourceDescriptor)
    (limit : ℕ) (trace : SkillTrace) : Prop :=
  ∃ access decision grant, (⟨.authorize access, .ok decision⟩ : SkillEvent) ∈ trace ∧
    access.action = descriptor.action ∧ skillResource request = .ok access.resource ∧
    decision.grant = some grant ∧ Narrows descriptor request.maxBytes grant.constraints limit

/-- A lease of the Skill has been acquired, and none has been released. -/
def Held (request : SkillResourceRequest) (trace : SkillTrace) : Prop :=
  (∃ runId identity lease, (⟨.call (.acquire request.skill.registrationKey runId identity),
    .ok lease⟩ : SkillEvent) ∈ trace) ∧ trace.countP isRelease = 0

/-- What has happened when the loader is called with a descriptor. -/
structure LoadAllowed (request : SkillResourceRequest) (descriptor : SkillResourceDescriptor)
    (trace : SkillTrace) : Prop where
  declared : Declared request descriptor trace
  authorized : ∃ limit, Authorized request descriptor limit trace
  held : Held request trace
  first : trace.countP isLoad = 0

/-- A resource that is returned is the declared one, with what the loader has returned for it, and
within the budget that is left. -/
structure LoadBounded [PythonFloat] (request : SkillResourceRequest) (resource : SkillResource)
    (trace : SkillTrace) : Prop where
  declared : Declared request resource.descriptor trace
  loaded : ∃ context, (⟨.call (.act (.loadResource resource.descriptor context)),
    .ok (.typed resource.content)⟩ : SkillEvent) ∈ trace
  mediaType : resource.content.mediaType = some resource.descriptor.mediaType
  bounded : ∃ limit, Authorized request resource.descriptor limit trace ∧
    resource.byteCount ≤ limit ∧ limit ≤ request.maxBytes

/-- What has to hold of the trace at an operation. -/
def LoadNeeds (request : SkillResourceRequest) : (op : GatewayOp
    (leasedInterface skillInterface SkillDescriptor)) → SkillTrace → Prop
  | .call (.act (.loadResource descriptor _)), trace => LoadAllowed request descriptor trace
  | .authorize _, trace => trace.countP isAuthorize = 0
  | _, _ => True

theorem loadNeeds_free {request : SkillResourceRequest}
    (op : GatewayOp (leasedInterface skillInterface SkillDescriptor)) (after : SkillTrace)
    (idle : LeasedCapability.Idle op) (other : ∀ access, op ≠ .authorize access) :
    LoadNeeds request op after := by
  cases op with
  | call op =>
    cases op with
    | act op => exact absurd idle id
    | _ => trivial
  | authorize access => exact absurd rfl (other access)
  | _ => trivial

section Steps

variable {request : SkillResourceRequest} {descriptor : SkillResourceDescriptor} {limit : ℕ}
  {trace after : SkillTrace} {allowed : GatewayOp (leasedInterface skillInterface SkillDescriptor) → Prop}

theorem Declared.later (declared : Declared request descriptor trace)
    (grown : Grown allowed trace after) : Declared request descriptor after := by
  obtain ⟨published, skill, found, rest⟩ := declared
  exact ⟨published, skill, grown.subset found, rest⟩

theorem Authorized.later (authorized : Authorized request descriptor limit trace)
    (grown : Grown allowed trace after) : Authorized request descriptor limit after := by
  obtain ⟨access, decision, grant, asked, rest⟩ := authorized
  exact ⟨access, decision, grant, grown.subset asked, rest⟩

variable [PythonFloat]

theorem LoadBounded.later {resource : SkillResource} (bounded : LoadBounded request resource trace)
    (grown : Grown allowed trace after) : LoadBounded request resource after := by
  obtain ⟨declared, ⟨context, loaded⟩, mediaType, limit, authorized, fits⟩ := bounded
  exact ⟨declared.later grown, ⟨context, grown.subset loaded⟩, mediaType, limit,
    authorized.later grown, fits⟩

/-- What a load has to have established where it ends. -/
def Bounds (request : SkillResourceRequest) (outcome : Except Raised SkillResource)
    (trace : SkillTrace) : Prop :=
  ∀ resource, outcome = .ok resource → LoadBounded request resource trace

theorem bounds_error {error : Raised} : Bounds request (.error error) trace := by
  intro resource impossible
  cases impossible

variable {permits : (op : GatewayOp (leasedInterface skillInterface SkillDescriptor)) →
  Except Raised op.Answer → Prop} {context : RuntimeCallContext}

/-- A part of a load, from the events `trace`. -/
abbrev Loads {α : Type} (permits : (op : GatewayOp (leasedInterface skillInterface SkillDescriptor)) →
    Except Raised op.Answer → Prop) (request : SkillResourceRequest) (program : SkillProgram α)
    (post : Except Raised α → SkillTrace → Prop) (trace : SkillTrace) : Prop :=
  Guards permits (LoadNeeds request) program post trace

omit [PythonFloat] in
theorem loads_loadContent (allowed : LoadAllowed request descriptor trace) :
    Loads permits request (loadContent descriptor context) (fun outcome after =>
      ∀ content, outcome = .ok content → after = trace ++
        [(⟨.call (.act (.loadResource descriptor context)), .ok content⟩ : SkillEvent)]) trace := by
  have needed : LoadNeeds request (.call (.act (.loadResource descriptor context))) trace := allowed
  have called : Loads permits request (skillOp (.act (.loadResource descriptor context)))
      (fun outcome after => after = trace ++
        [(⟨.call (.act (.loadResource descriptor context)), outcome⟩ : SkillEvent)]) trace :=
    safe_perform_traced needed fun outcome _ => rfl
  apply called.catching
  · intro content after grown other same
    cases same
    exact grown
  · intro error after grown
    have raising : ∀ raised : Raised, Loads permits request (.raise raised) (fun outcome after =>
        ∀ content, outcome = .ok content → after = trace ++
          [(⟨.call (.act (.loadResource descriptor context)), .ok content⟩ : SkillEvent)]) after := by
      intro raised content impossible
      cases impossible
    cases error with
    | core detail => exact raising _
    | value | assertion | key | other | cancelledError =>
      dsimp only
      split
      · exact raising _
      · exact raising _

theorem checkContent_ok {effectiveMax : ℕ} {content : Returned ContentBlock}
    {resource : SkillResource}
    (checked : checkContent request descriptor effectiveMax content = .ok resource) :
    resource.descriptor = descriptor ∧ content = .typed resource.content ∧
      resource.byteCount ≤ effectiveMax := by
  cases content with
  | malformed => cases checked
  | typed content =>
    unfold checkContent at checked
    dsimp only at checked
    split at checked
    · obtain ⟨_, fits, returned⟩ := bind_ok checked
      have fits := of_decide_eq_true (ensure_eq_ok.mp fits)
      cases returned
      exact ⟨rfl, rfl, fits⟩
    · cases checked

/-- The operation of a load, which starts under a lease and with the call that was granted. -/
theorem loads_operation {resource : ResourceRef} {call : AuthorizedCall}
    {published : PublishedCapability SkillDescriptor} {start : SkillTrace}
    (declared : Declared request descriptor trace) (named : skillResource request = .ok resource)
    (unloaded : trace.countP isLoad = 0) (unreleased : trace.countP isRelease = 0)
    (leasing : Leasing (invocation request descriptor resource context) published call.grant
      trace start) :
    Loads permits request (operation request descriptor published call) (Bounds request) start := by
  have none : start.countP isLoad = 0 := by
    rw [leasing.grown.countP_eq fun event opening => isLoad_of_idle event opening.idle, unloaded]
  have kept : start.countP isRelease = 0 := by
    rw [leasing.grown.countP_eq isRelease_of_opening, unreleased]
  have held : Held request start := by
    obtain ⟨runId, identity, lease, acquired⟩ := leasing.held
    exact ⟨⟨runId, identity, lease, acquired⟩, kept⟩
  obtain ⟨decision, granted, asked⟩ := leasing.granted
  apply safe_ofExcept_bind
  · intro effectiveMax validated
    have narrows := validateGrant_iff.mp validated
    have authorized : Authorized request descriptor effectiveMax start :=
      ⟨_, decision, call.grant, asked, rfl, named, granted, narrows⟩
    have allowed : LoadAllowed request descriptor start :=
      ⟨declared.later leasing.grown, ⟨effectiveMax, authorized⟩, held, none⟩
    cases published.implementation with
    | none => exact bounds_error
    | some skill =>
      apply Safe.bind (loads_loadContent allowed)
      · intro content after reached
        have grown := reached content rfl
        have later : Grown (fun _ => True) start after := by
          rw [grown]
          exact @Grown.event (gatewayInterface (leasedInterface skillInterface SkillDescriptor))
            Raised _ _ (.call (.act (.loadResource descriptor call.context))) trivial _
        apply safe_ofExcept
        intro loaded checked
        obtain ⟨same, typed, fits⟩ := checkContent_ok checked
        subst same
        refine ⟨allowed.declared.later later, ⟨call.context, ?_⟩, loaded.valid.2, effectiveMax,
          authorized.later later, fits, narrows.le⟩
        rw [grown, typed]
        simp
      · intro error after _
        exact bounds_error
  · intro error _
    exact bounds_error

omit [PythonFloat] in
theorem loadNeeds_aside (op : GatewayOp (leasedInterface skillInterface SkillDescriptor))
    (after : SkillTrace) (aside : Aside op) (_ : Grown Aside trace after) :
    LoadNeeds request op after := by
  apply loadNeeds_free op after aside.idle
  intro access same
  subst same
  exact aside

/-- The `try` of a load. -/
theorem loads_loadResource {gateway : SkillResourceGateway} {resource : ResourceRef}
    (declared : Declared request descriptor trace) (named : skillResource request = .ok resource)
    (unloaded : trace.countP isLoad = 0) (unreleased : trace.countP isRelease = 0)
    (unasked : trace.countP isAuthorize = 0) :
    Loads permits request (gateway.loadResource request descriptor resource context)
      (Bounds request) trace := by
  have invoked : Loads permits request
      (invoke gateway.authorization (invocation request descriptor resource context)
        (operation request descriptor)) (Bounds request) trace := by
    apply guards_invoke loadNeeds_free
    · intro after same
      exact same.trans unasked
    · intro error after _
      exact bounds_error
    · intro published permission call start _ _ leasing
      exact loads_operation declared named unloaded unreleased leasing
    · intro value final after reached closed loaded same
      exact (reached loaded same).later closed
    · intro outcome final error after _ _
      exact bounds_error
  apply Safe.bind invoked
  · intro loaded final reached
    apply only_clock.safe_bind loadNeeds_aside
    · intro _ read grown
      apply (only_emit _ _ _).safe_bind loadNeeds_aside
      · intro _ emitted grown' returned same
        cases same
        exact (reached loaded rfl).later (grown.trans grown')
      · intro error after _
        exact bounds_error
    · intro error after _
      exact bounds_error
  · intro error after _
    exact bounds_error

omit [PythonFloat] in
theorem loads_emitFailure {error : ErrorDetail} : Loads permits request
    (emitFailure request context error) (fun _ _ => True) trace := by
  have only : (emitFailure request context error).Only Aside :=
    only_clock.bind fun _ => only_emit _ _ _
  exact (only.safe_grown loadNeeds_aside).mono fun _ _ _ => trivial

omit [PythonFloat] in
theorem declared_of_checked {actions : List ActionRef}
    {published : PublishedCapability SkillDescriptor} {skill : SkillDescriptor}
    (found : (⟨.call (.getCapability request.skill.registrationKey), .ok published⟩ : SkillEvent) ∈ trace)
    (checked : SkillRegistry.checkSkill actions request.skill published = .ok skill)
    (listed : declared request skill = .ok descriptor) : Declared request descriptor trace := by
  obtain ⟨_, _, checked⟩ := bind_ok checked
  cases given : published.implementation with
  | none =>
    rw [given] at checked
    cases checked
  | some implementation =>
    rw [given] at checked
    obtain ⟨_, same, checked⟩ := bind_ok checked
    obtain ⟨_, _, returned⟩ := bind_ok checked
    cases returned
    unfold declared at listed
    cases resource : skill.resource request.resourceId with
    | none =>
      rw [resource] at listed
      cases listed
    | some own =>
      rw [resource] at listed
      obtain ⟨_, within, returned⟩ := bind_ok listed
      cases returned
      have within := of_decide_eq_true (ensure_eq_ok.mp within)
      exact ⟨published, skill, found, given, by simpa using same, resource, within⟩

/-- What resolving a Skill leaves: the answer of the registry, which has been checked. -/
def Resolved (actions : List ActionRef) (request : SkillResourceRequest)
    (outcome : Except Raised SkillDescriptor) (after : SkillTrace) : Prop :=
  ∀ skill, outcome = .ok skill → ∃ published,
    after = [(⟨.call (.getCapability request.skill.registrationKey), .ok published⟩ : SkillEvent)] ∧
      SkillRegistry.checkSkill actions request.skill published = .ok skill

omit [PythonFloat] in
theorem loads_resolve (actions : List ActionRef) :
    Loads permits request (SkillRegistry.resolve actions request.skill)
      (Resolved actions request) [] := by
  have refused : ∀ (error : Raised) after, Resolved actions request (.error error) after := by
    intro error after skill impossible
    cases impossible
  have needed : LoadNeeds request (.call (.getCapability request.skill.registrationKey)) [] :=
    trivial
  apply safe_ofExcept_bind
  · intro _ _
    apply safe_ofExcept_bind
    · intro _ _
      apply safe_perform_bind needed
      · intro published _
        apply safe_ofExcept
        intro skill checked
        exact ⟨published, rfl, checked⟩
      · intro error _
        exact refused error _
    · intro error _
      exact refused error _
  · intro error _
    exact refused error _

/-- The part of a load after the resource has been found to be declared. -/
theorem loads_announced {gateway : SkillResourceGateway}
    (declared : Declared request descriptor trace) (unloaded : trace.countP isLoad = 0)
    (unreleased : trace.countP isRelease = 0) (unasked : trace.countP isAuthorize = 0) :
    Loads permits request (do
      let _ ← RuntimeControl.now
      LeasedCapability.emit skillResourceLoadStarted context (payload request 0)
      let resource ← ofExcept (skillResource request)
      (gateway.loadResource request descriptor resource context).catching fun error =>
        match error with
        | .core detail => do
          emitFailure request context detail
          .raise (.core detail)
        | error => .raise error) (Bounds request) trace := by
  apply only_clock.safe_bind loadNeeds_aside
  · intro _ read grown
    apply (only_emit _ _ _).safe_bind loadNeeds_aside
    · intro _ emitted grown'
      have later := grown.trans grown'
      have unloaded : emitted.countP isLoad = 0 := by
        rw [later.countP_eq fun event aside => isLoad_of_idle event aside.idle, unloaded]
      have unreleased : emitted.countP isRelease = 0 := by
        rw [later.countP_eq isRelease_of_aside, unreleased]
      have unasked : emitted.countP isAuthorize = 0 := by
        rw [later.countP_eq isAuthorize_of_aside, unasked]
      apply safe_ofExcept_bind
      · intro resource named
        have tries := @loads_loadResource request descriptor emitted _ permits context gateway
          resource (declared.later later) named unloaded unreleased unasked
        apply tries.catching
        · intro loaded after reached
          exact reached
        · intro error after _
          cases error with
          | core detail =>
            apply loads_emitFailure.bind
            · intro _ after _
              exact bounds_error
            · intro error after _
              exact bounds_error
          | value | assertion | key | other | cancelledError => exact bounds_error
      · intro error _
        exact bounds_error
    · intro error after _
      exact bounds_error
  · intro error after _
    exact bounds_error

/-- A load, from its first event. -/
theorem loads_load (gateway : SkillResourceGateway) :
    Loads permits request (gateway.load request context) (Bounds request) [] := by
  apply safe_ofExcept_bind
  · intro _ _
    apply (loads_resolve gateway.actions).bind
    · intro skill found resolved
      obtain ⟨published, rfl, checked⟩ := resolved skill rfl
      apply safe_ofExcept_bind
      · intro descriptor listed
        have stands : Declared request descriptor
            [(⟨.call (.getCapability request.skill.registrationKey), .ok published⟩ :
              SkillEvent)] :=
          declared_of_checked (List.mem_singleton.mpr rfl) checked listed
        exact loads_announced stands rfl rfl rfl
      · intro error _
        exact bounds_error
    · intro error after _
      exact bounds_error
  · intro error _
    exact bounds_error

end Steps

/-! ## The load as a whole -/

section Whole

variable [PythonFloat] {gateway : SkillResourceGateway} {request : SkillResourceRequest}
  {context : RuntimeCallContext} {permits : (op : GatewayOp
    (leasedInterface skillInterface SkillDescriptor)) → Except Raised op.Answer → Prop}
  {program : SkillProgram SkillResource} {trace : SkillTrace}

theorem load_allowed (steps : Steps (recording permits) SkillResource
      (gateway.load request context, []) (program, trace))
    {before after : SkillTrace} {event : SkillEvent} (split : trace = before ++ event :: after) :
    LoadNeeds request event.1 before := by
  obtain ⟨-, added, grown, needs⟩ := (loads_load gateway).traced steps
  have same : added = trace := by
    rw [grown]
    rfl
  exact (needs before event after (same.trans split)).1

theorem load_once (steps : Steps (recording permits) SkillResource
      (gateway.load request context, []) (program, trace)) : trace.countP isLoad ≤ 1 := by
  apply countP_le_one
  intro before event after split loads
  have needed := load_allowed steps split
  obtain ⟨op, outcome⟩ := event
  cases op with
  | call op =>
    cases op with
    | act op =>
      cases op with
      | loadResource descriptor context => exact needed.first
    | _ => cases loads
  | _ => cases loads

theorem authorize_once (steps : Steps (recording permits) SkillResource
      (gateway.load request context, []) (program, trace)) : trace.countP isAuthorize ≤ 1 := by
  apply countP_le_one
  intro before event after split asks
  have needed := load_allowed steps split
  obtain ⟨op, outcome⟩ := event
  cases op with
  | authorize access => exact needed
  | _ => cases asks

/-- The one grant of a load is what every authorization of it is by. -/
theorem narrows_of_authorized {descriptor : SkillResourceDescriptor} {limit : ℕ}
    {before : SkillTrace} {access : AccessRequest} {decision : PolicyDecision} {grant : Grant}
    (steps : Steps (recording permits) SkillResource (gateway.load request context, [])
      (program, trace))
    (asked : (⟨.authorize access, .ok decision⟩ : SkillEvent) ∈ trace)
    (granted : decision.grant = some grant) (earlier : ∀ event ∈ before, event ∈ trace)
    (authorized : Authorized request descriptor limit before) :
    Narrows descriptor request.maxBytes grant.constraints limit := by
  obtain ⟨access', decision', grant', asked', -, -, granted', narrows⟩ := authorized
  have same := eq_of_countP_le_one (authorize_once steps) asked (earlier _ asked') rfl rfl
  cases same
  obtain rfl : grant = grant' := Option.some.inj (granted.symm.trans granted')
  exact narrows

/-- An operation whose grant does not narrow denies at once. -/
theorem operation_denies {descriptor : SkillResourceDescriptor} {call : AuthorizedCall}
    (refuses : ∀ limit, ¬Narrows descriptor request.maxBytes call.grant.constraints limit)
    (published : PublishedCapability SkillDescriptor) :
    ∃ error, InvalidGrant error ∧ operation request descriptor published call = .raise error := by
  cases validated : validateGrant descriptor request.maxBytes call.grant.constraints with
  | ok limit => exact absurd (validateGrant_iff.mp validated) (refuses limit)
  | error error =>
    refine ⟨error, validateGrant_invalid error validated, ?_⟩
    unfold operation
    rw [validated]
    rfl

end Whole

end SkillResourceGateway

open SkillResourceGateway

/-- The loader is called at most once in a load, for the declared descriptor, with a grant that
narrows the request and under a lease that has not been released; what is returned fits. A grant
that does not narrow is refused before the loader, whatever the descriptor. -/
theorem skill_load_contained [PythonFloat] {gateway : SkillResourceGateway}
    {request : SkillResourceRequest} {context : RuntimeCallContext}
    {permits : (op : GatewayOp (leasedInterface skillInterface SkillDescriptor)) →
      Except Raised op.Answer → Prop}
    {program : SkillProgram SkillResource} {trace : SkillTrace}
    (steps : Steps (recording permits) SkillResource (gateway.load request context, [])
      (program, trace)) :
    trace.countP isLoad ≤ 1 ∧
      (∀ before after descriptor loadContext outcome, trace = before ++
        (⟨.call (.act (.loadResource descriptor loadContext)), outcome⟩ : SkillEvent) :: after →
          LoadAllowed request descriptor before) ∧
      (∀ resource, program = .ret resource → LoadBounded request resource trace) ∧
      ∀ access decision grant descriptor,
        (⟨.authorize access, .ok decision⟩ : SkillEvent) ∈ trace → decision.grant = some grant →
        (∀ limit, ¬Narrows descriptor request.maxBytes grant.constraints limit) →
          (∀ published call, call.grant = grant → ∃ error, InvalidGrant error ∧
            operation request descriptor published call = .raise error) ∧
          (∀ loadContext outcome, (⟨.call (.act (.loadResource descriptor loadContext)), outcome⟩ :
            SkillEvent) ∉ trace) ∧
          ∀ resource, program = .ret resource → resource.descriptor ≠ descriptor := by
  have bounded : ∀ resource, program = .ret resource → LoadBounded request resource trace := by
    intro resource returned
    subst returned
    exact ((loads_load gateway).traced steps).1 resource rfl
  refine ⟨load_once steps, ?_, bounded, ?_⟩
  · intro before after descriptor loadContext outcome split
    exact load_allowed steps split
  · intro access decision grant descriptor asked granted refuses
    refine ⟨?_, ?_, ?_⟩
    · intro published call same
      subst same
      exact operation_denies refuses published
    · intro loadContext outcome member
      obtain ⟨before, after, split⟩ := List.append_of_mem member
      have allowed : LoadAllowed request descriptor before := load_allowed steps split
      obtain ⟨limit, authorized⟩ := allowed.authorized
      apply refuses limit
      apply narrows_of_authorized steps asked granted _ authorized
      intro event early
      rw [split]
      exact List.mem_append_left _ early
    · intro resource returned same
      subst same
      obtain ⟨limit, authorized, -⟩ := (bounded resource returned).bounded
      exact refuses limit
        (narrows_of_authorized steps asked granted (fun _ member => member) authorized)

/-! ## A sample -/

namespace SampleParameters

def sampleSkillRef : CapabilityRef :=
  ⟨"core", "skill", ⟨"skill-1", skill_checked⟩, "plugin-1", "1", by decide⟩

def sampleSkillResource : SkillResourceDescriptor :=
  ⟨⟨"guide", by decide⟩, .instruction, "docs/guide.md", "text/markdown", 100,
    skillResourceReadAction, by decide⟩

def sampleSkill : PublishedCapability SkillDescriptor where
  registration := sampleRegistration .skill "skill-1" skillResourceReadAction
  implementation := some ⟨sampleSkillRef, [sampleSkillResource], by decide, by decide⟩

def sampleSkillRequest : SkillResourceRequest :=
  ⟨sampleSkillRef, ⟨"guide", by decide⟩, 50, by decide⟩

def sampleSkillLoader : (op : SkillOp) → Except Raised op.Answer
  | .loadResource _ _ => .ok (.typed ⟨.text, .str "Read me", none, some "text/markdown",
      .inr ⟨_, rfl⟩, nofun, by decide⟩)

def sampleLoad : SkillProgram SkillResource × SkillTrace :=
  answering (sampleSurroundings sampleSkill sampleSkillLoader) 40
    (@SkillResourceGateway.load samplePythonFloat ⟨[skillResourceReadAction],
      ⟨[skillResourceReadAction], true⟩⟩ sampleSkillRequest sampleInvocationContext)

end SampleParameters

open SampleParameters in
/-- The sample resource is loaded once, and fits. -/
theorem skill_load_contained_sample : sampleLoad.2.countP isLoad ≤ 1 ∧
    ∃ resource, sampleLoad.1 = .ret resource ∧
      @LoadBounded samplePythonFloat sampleSkillRequest resource sampleLoad.2 := by
  have returned : sampleLoad.1.returned = true := by decide +kernel
  obtain ⟨resource, same⟩ := Program.exists_of_returned returned
  have contained := @skill_load_contained samplePythonFloat _ _ _ _ _ _
    (answering_steps (sampleSurroundings sampleSkill sampleSkillLoader) 40
      (@SkillResourceGateway.load samplePythonFloat ⟨[skillResourceReadAction],
        ⟨[skillResourceReadAction], true⟩⟩ sampleSkillRequest sampleInvocationContext))
  exact ⟨contained.1, resource, same, contained.2.2.1 resource same⟩

end CongeriesCore
