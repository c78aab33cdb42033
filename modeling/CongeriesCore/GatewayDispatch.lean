import CongeriesCore.AsyncOutcome
import CongeriesCore.SampleParameters

/-! # Gateways in front of providers

A gateway calls its provider through an authorized dispatch. `P` is what the provider offers;
around it stand the clock, the cancellation token, the authorization policy and the audit. -/

namespace CongeriesCore

open AsyncProgram AsyncProgram.Program

inductive GatewayOp (P : Interface)
  | cancelled (token : CancellationId)
  | now
  | authorize (request : AccessRequest)
  | authorizationDenied (request : AccessRequest) (decision : PolicyDecision)
  | crossScopeGranted (request : AccessRequest) (grant : Grant)
  | handleAuditFailure (runId : RunId) (detail : ErrorDetail)
  | call (op : P.Op)

variable {P : Interface}

abbrev GatewayOp.Answer : GatewayOp P → Type
  | .cancelled _ => Bool
  | .now => DateTime
  | .authorize _ => PolicyDecision
  | .authorizationDenied _ _ => Unit
  | .crossScopeGranted _ _ => Unit
  | .handleAuditFailure _ _ => Unit
  | .call op => P.Answer op

/-- The operation is not one of the provider. -/
def GatewayOp.own : GatewayOp P → Prop
  | .call _ => False
  | _ => True

/-- The operation is not one of the provider either, and asks for no decision. -/
def GatewayOp.quiet : GatewayOp P → Prop
  | .call _ => False
  | .authorize _ => False
  | _ => True

theorem GatewayOp.own_of_quiet {op : GatewayOp P} (quiet : op.quiet) : op.own := by
  cases op with
  | call op => exact quiet
  | _ => trivial

abbrev gatewayInterface (P : Interface) : Interface := ⟨GatewayOp P, GatewayOp.Answer⟩

abbrev GatewayProgram (P : Interface) (α : Type) := Program (gatewayInterface P) Raised α

abbrev gatewayOp (op : GatewayOp P) : GatewayProgram P op.Answer :=
  @perform (gatewayInterface P) Raised op

abbrev providerOp (op : P.Op) : GatewayProgram P (P.Answer op) := gatewayOp (.call op)

instance : RuntimeControl (gatewayInterface P) where
  cancelled token := gatewayOp (.cancelled token)
  now := gatewayOp .now

/-- What a provider returns: a value of the declared type, or one of another type. -/
inductive Returned (α : Type)
  | typed (value : α)
  | malformed

/-- The registry of a gateway's dispatcher, and whether it has an authorization policy. -/
structure GatewayAuthorization where
  actions : List ActionRef
  governed : Bool

def GatewayAuthorization.dispatcher (authorization : GatewayAuthorization) :
    AuthorizedDispatcher (gatewayInterface P) where
  actions := authorization.actions
  policy := if authorization.governed then some fun request => gatewayOp (.authorize request)
    else none
  authorizationDenied request decision := gatewayOp (.authorizationDenied request decision)
  crossScopeGranted request grant := gatewayOp (.crossScopeGranted request grant)
  handleAuditFailure runId detail := gatewayOp (.handleAuditFailure runId detail)

/-- Only such exceptions are raised. -/
def Within {α : Type} (raises : Raised → Prop) (outcome : Except Raised α) : Prop :=
  ∀ error, outcome = .error error → raises error

theorem authorizationDenied_required :
    "authorization_denied" ≠ "" ∧ "authorization denied" ≠ "" := by decide

/-- What the surroundings of a gateway answer: the clock and the token a result, the provider what
it may, the others a result or an exception from `raises`. A denial of the policy is raised under
the policy's own reason, which is then from `raises` too. -/
def gatewayAnswers (raises : Raised → Prop) (may : (op : P.Op) → Except Raised (P.Answer op) → Prop) :
    (op : GatewayOp P) → Except Raised op.Answer → Prop
  | .cancelled _, outcome => ∃ isCancelled, outcome = .ok isCancelled
  | .now, outcome => ∃ time, outcome = .ok time
  | .authorize _, outcome => Within raises outcome ∧ ∀ decision, outcome = .ok decision →
      decision.effect ≠ .allow →
        raises (deniedBecause decision.reasonCode "authorization_denied" "authorization denied"
          authorizationDenied_required)
  | .authorizationDenied _ _, outcome => Within raises outcome
  | .crossScopeGranted _ _, outcome => Within raises outcome
  | .handleAuditFailure _ _, outcome => Within raises outcome
  | .call op, outcome => may op outcome

/-- The codes under which a dispatch itself refuses. -/
def dispatchCodes : List String :=
  ["call_cancelled", "deadline_exceeded", "unknown_action", "policy_missing", "grant_expired",
    "invalid_grant", "scope_broadening_denied"]

/-- A dispatch raises what its surroundings raise, or refuses under one of its own codes. -/
def DispatchRaises (raises : Raised → Prop) (error : Raised) : Prop :=
  raises error ∨ ∃ detail, error = .core detail ∧ detail.code ∈ dispatchCodes

/-! ### Grants that narrow a request -/

/-- `_narrow_limit`: a grant may give a limit that is not above the requested one. -/
def narrowLimit (kind name : String) (requested : Option ℕ) (rawGranted : Option JsonValue) :
    Except Raised (Option ℕ) :=
  match rawGranted with
  | none | some .null => .ok requested
  | some (.int granted) =>
    if granted < 1 ∨ requested.any (fun limit : ℕ => (limit : ℤ) < granted) = true then
      .error (AuthorizedDispatcher.invalidGrant
        (kind ++ " " ++ name ++ " grant broadens the request") (by simp))
    else .ok (some granted.toNat)
  | some _ =>
    .error (AuthorizedDispatcher.invalidGrant (kind ++ " " ++ name ++ " constraint is invalid")
      (by simp))

/-- `isinstance(value, str)` for each of the items. -/
def textItems : List JsonValue → Option (List String)
  | [] => some []
  | .str text :: items => (textItems items).map (text :: ·)
  | _ :: _ => none

/-- The names a grant leaves of the requested ones; `none` where it does not constrain them. -/
def narrowNames (requested : List String) (rawNames : Option JsonValue) (malformed broader : Raised) :
    Except Raised (Option (List String)) :=
  match rawNames with
  | none | some .null => .ok none
  | some (.arr items) =>
    match textItems items with
    | none => .error malformed
    | some names =>
      if names.all requested.contains then .ok (some names) else .error broader
  | some _ => .error malformed

/-- `set(constraints).difference(allowed)`. -/
def unknownConstraint (constraints : List (String × JsonValue)) (allowed : List String) : Bool :=
  constraints.any fun item => !allowed.contains item.1

/-- A limit that a grant leaves is the requested one, or a smaller one that is positive. -/
def Narrower (limit requested : Option ℕ) : Prop :=
  limit = requested ∨ ∃ units, limit = some units ∧ 1 ≤ units ∧ ∀ most ∈ requested, units ≤ most

namespace GatewayDispatch

variable {α β : Type} {raises : Raised → Prop}
  {may : (op : P.Op) → Except Raised (P.Answer op) → Prop}

theorem within_ok {value : α} : Within raises (.ok value : Except Raised α) := by
  intro error raised
  cases raised

theorem within_error {error : Raised} (inside : raises error) :
    Within raises (.error error : Except Raised α) := by
  intro other raised
  cases raised
  exact inside

theorem within_bind {first : Except Raised α} {rest : α → Except Raised β}
    (begins : Within raises first) (continues : ∀ value, first = .ok value →
      Within raises (rest value)) : Within raises (first >>= rest) := by
  intro error raised
  rcases bind_error raised with failed | ⟨value, passed, failed⟩
  · exact begins error failed
  · exact continues value passed error failed

theorem within_ensure {condition : Bool} {error : Raised} (inside : raises error) :
    Within raises (ensure condition error) := by
  cases condition with
  | true => exact within_ok
  | false => exact within_error inside

theorem ensure_core {condition : Bool} {detail : ErrorDetail} :
    Within (fun error => error.isCore = true) (ensure condition (.core detail)) :=
  within_ensure rfl

theorem narrowLimit_ok {kind name : String} {requested limit : Option ℕ}
    {rawGranted : Option JsonValue}
    (narrowed : narrowLimit kind name requested rawGranted = .ok limit) :
    Narrower limit requested := by
  unfold narrowLimit at narrowed
  split at narrowed
  · cases narrowed
    exact .inl rfl
  · cases narrowed
    exact .inl rfl
  · rename_i granted
    split at narrowed
    · cases narrowed
    · rename_i fits
      cases narrowed
      refine .inr ⟨granted.toNat, rfl, by omega, fun most given => ?_⟩
      obtain rfl : requested = some most := given
      have below : ¬((most : ℤ) < granted) := by
        intro above
        exact fits (.inr (by simpa using above))
      omega
  · cases narrowed

theorem narrowLimit_all {kind name : String} {requested limit : Option ℕ}
    {rawGranted : Option JsonValue}
    (narrowed : narrowLimit kind name requested rawGranted = .ok limit)
    (positive : requested.all (1 ≤ ·) = true) : limit.all (1 ≤ ·) = true := by
  rcases narrowLimit_ok narrowed with rfl | ⟨units, rfl, least, -⟩
  · exact positive
  · simpa using least

theorem textItems_map (names : List String) : textItems (names.map .str) = some names := by
  induction names with
  | nil => rfl
  | cons name names ih => simp [textItems, ih]

/-- A grant may name the requested names. -/
theorem narrowNames_some {requested names : List String} {malformed broader : Raised}
    (within : ∀ name ∈ names, name ∈ requested) :
    narrowNames requested (some (.arr (names.map .str))) malformed broader = .ok (some names) := by
  unfold narrowNames
  dsimp only
  rw [textItems_map]
  dsimp only
  rw [if_pos (List.all_eq_true.mpr fun name member => List.contains_iff_mem.mpr (within name member))]

/-- A grant may give the requested limit, or a smaller one. -/
theorem narrowLimit_some {kind name : String} {requested limit : Option ℕ}
    (positive : limit.all (1 ≤ ·) = true)
    (within : ∀ most ∈ requested, ∃ units ∈ limit, units ≤ most) :
    narrowLimit kind name requested (some (.ofOption (fun units => .int units) limit)) =
      .ok limit := by
  cases limit with
  | none =>
    cases requested with
    | none => rfl
    | some most =>
      obtain ⟨units, impossible, -⟩ := within most rfl
      cases impossible
  | some units =>
    have least : 1 ≤ units := by simpa using positive
    have fits : ¬((units : ℤ) < 1 ∨
        requested.any (fun most : ℕ => (most : ℤ) < units) = true) := by
      intro broader
      rcases broader with below | above
      · omega
      · cases requested with
        | none => cases above
        | some most =>
          obtain ⟨_, same, fitting⟩ := within most rfl
          cases same
          have above : most < units := by simpa using above
          omega
    change (if _ then _ else _) = _
    rw [if_neg fits]
    simp

theorem narrowLimit_core {kind name : String} {requested : Option ℕ}
    {rawGranted : Option JsonValue} :
    Within (fun error => error.isCore = true) (narrowLimit kind name requested rawGranted) := by
  unfold narrowLimit
  split
  · exact within_ok
  · exact within_ok
  · split
    · exact within_error rfl
    · exact within_ok
  · exact within_error rfl

theorem narrowNames_core {requested : List String} {rawNames : Option JsonValue}
    {malformed broader : ErrorDetail} : Within (fun error => error.isCore = true)
      (narrowNames requested rawNames (.core malformed) (.core broader)) := by
  unfold narrowNames
  split
  · exact within_ok
  · exact within_ok
  · split
    · exact within_error rfl
    · split
      · exact within_ok
      · exact within_error rfl
  · exact within_error rfl

theorem refused {detail : ErrorDetail} (listed : detail.code ∈ dispatchCodes) :
    DispatchRaises raises (.core detail) := .inr ⟨detail, rfl, listed⟩

/-- The program raises nothing else than a dispatch may. -/
abbrev Dispatches (raises : Raised → Prop) (may : (op : P.Op) → Except Raised (P.Answer op) → Prop)
    (program : GatewayProgram P α) : Prop :=
  program.Yields (gatewayAnswers raises may) (Within (DispatchRaises raises))

theorem dispatches_op {op : GatewayOp P}
    (answers : ∀ outcome, gatewayAnswers raises may op outcome →
      Within (DispatchRaises raises) outcome) :
    Dispatches raises may (gatewayOp op) :=
  yields_perform answers

theorem Dispatches.bind {program : GatewayProgram P α} {rest : α → GatewayProgram P β}
    (first : Dispatches raises may program) (continues : ∀ value, Dispatches raises may (rest value)) :
    Dispatches raises may (program >>= rest) := by
  apply Yields.bind first
  · intro value _
    exact continues value
  · intro error within
    exact within_error (within _ rfl)

theorem dispatches_cancelled (token : CancellationId) :
    Dispatches raises may (gatewayOp (.cancelled token) : GatewayProgram P Bool) := by
  apply dispatches_op
  intro outcome answered
  obtain ⟨isCancelled, rfl⟩ := answered
  exact within_ok

theorem dispatches_now : Dispatches raises may (gatewayOp .now : GatewayProgram P DateTime) := by
  apply dispatches_op
  intro outcome answered
  obtain ⟨time, rfl⟩ := answered
  exact within_ok

theorem dispatches_checkActive (context : RuntimeCallContext) :
    Dispatches raises may (context.checkActive : GatewayProgram P Unit) := by
  apply (dispatches_cancelled context.cancellation).bind
  intro isCancelled
  apply yields_ite
  · intro _
    exact within_error (refused (by decide))
  · intro _
    split
    · exact within_ok
    · apply dispatches_now.bind
      intro time
      apply yields_ite
      · intro _
        exact within_error (refused (by decide))
      · intro _
        exact within_ok

theorem dispatches_raises {op : GatewayOp P}
    (answers : ∀ outcome, gatewayAnswers raises may op outcome → Within raises outcome) :
    Dispatches raises may (gatewayOp op) := by
  apply dispatches_op
  intro outcome answered error raised
  exact .inl (answers outcome answered error raised)

/-- An audit that fails is handled and raised again. -/
theorem dispatches_auditOrHandle {audit : GatewayProgram P Unit} {runId : RunId}
    {authorization : GatewayAuthorization} (audits : Dispatches raises may audit) :
    Dispatches raises may
      (auditOrHandle audit authorization.dispatcher.handleAuditFailure runId) := by
  apply Yields.catching audits
  · intro value _
    exact within_ok
  · intro error within
    cases error with
    | core detail =>
      have handled : Dispatches raises may
          (gatewayOp (.handleAuditFailure runId detail) : GatewayProgram P Unit) :=
        dispatches_raises fun _ answered => answered
      exact handled.bind fun _ => within_error (within _ rfl)
    | value | assertion | key | other | cancelledError => exact within_error (within _ rfl)

/-- What a dispatch may raise, `post` allows. -/
abbrev Bears (raises : Raised → Prop) (post : Except Raised α → Prop) : Prop :=
  ∀ error, DispatchRaises raises error → post (.error error)

theorem yields_deny {request : AccessRequest} {decision : PolicyDecision}
    {authorization : GatewayAuthorization} {post : Except Raised α → Prop}
    (bears : Bears raises post) (denied : DispatchRaises raises
      (deniedBecause decision.reasonCode "authorization_denied" "authorization denied")) :
    (authorization.dispatcher.deny request decision : GatewayProgram P α).Yields
      (gatewayAnswers raises may) post := by
  have audits : Dispatches raises may (auditOrHandle
      (gatewayOp (.authorizationDenied request decision) : GatewayProgram P Unit)
      authorization.dispatcher.handleAuditFailure request.context.runId) :=
    dispatches_auditOrHandle (dispatches_raises fun _ answered => answered)
  apply Yields.bind audits
  · intro _ _
    exact bears _ denied
  · intro error within
    exact bears error (within error rfl)

/-- Where the decision on a request ends: only one that allows goes on. -/
def Decided (raises : Raised → Prop) : Except Raised PolicyDecision → Prop
  | .ok decision => decision.effect = .allow
  | .error error => DispatchRaises raises error

theorem yields_decide {request : AccessRequest} {authorization : GatewayAuthorization} :
    (authorization.dispatcher.decide request : GatewayProgram P PolicyDecision).Yields
      (gatewayAnswers raises may) (Decided raises) := by
  have bears : Bears raises (Decided raises) := fun _ raised => raised
  unfold AuthorizedDispatcher.decide
  apply yields_ite
  · intro _
    exact yields_deny bears (refused (by decide))
  · intro _
    cases governed : authorization.governed with
    | false =>
      have none : (authorization.dispatcher (P := P)).policy = none := by
        simp [GatewayAuthorization.dispatcher, governed]
      rw [none]
      exact yields_deny bears (refused (by decide))
    | true =>
      have some : (authorization.dispatcher (P := P)).policy =
          some fun request => gatewayOp (.authorize request) := by
        simp [GatewayAuthorization.dispatcher, governed]
      rw [some]
      have asked : (gatewayOp (.authorize request) : GatewayProgram P PolicyDecision).Yields
          (gatewayAnswers raises may) (gatewayAnswers (P := P) raises may (.authorize request)) :=
        yields_perform fun _ answered => answered
      apply Yields.bind asked
      · intro decision answered
        apply yields_ite
        · intro refuses
          exact yields_deny bears (.inl (answered.2 decision rfl refuses))
        · intro allows
          exact not_not.mp allows
      · intro error answered
        exact .inl (answered.1 error rfl)

theorem validateGrant_raises {request : AccessRequest} {grant : Grant} :
    Within (DispatchRaises raises) (AuthorizedDispatcher.validateGrant request grant) := by
  unfold AuthorizedDispatcher.validateGrant
  dsimp only
  split
  · exact within_error (refused (by decide))
  · split
    · exact within_error (refused (by decide))
    · split
      · exact within_error (refused (by decide))
      · split
        · exact within_error (refused (by decide))
        · split
          · exact within_error (refused (by decide))
          · split
            · unfold ScopeRef.requireNarrowerThan
              split
              · exact within_ok
              · exact within_error (refused (by decide))
            · exact within_ok

theorem dispatches_expired {grant : Grant} :
    Dispatches raises may (AuthorizedDispatcher.expired grant : GatewayProgram P Bool) := by
  unfold AuthorizedDispatcher.expired
  split
  · exact within_ok
  · exact dispatches_now.bind fun _ => within_ok

theorem dispatches_denyExpired {request : AccessRequest} {grant : Grant}
    {authorization : GatewayAuthorization} : Dispatches raises may
      (authorization.dispatcher.denyExpired request grant : GatewayProgram P Unit) := by
  apply dispatches_expired.bind
  intro expired
  apply yields_ite
  · intro _
    exact yields_deny (fun _ raised => within_error raised) (refused (by decide))
  · intro _
    exact within_ok

theorem dispatches_auditCrossScope {request : AccessRequest} {grant : Grant}
    {authorization : GatewayAuthorization} : Dispatches raises may
      (authorization.dispatcher.auditCrossScope request grant : GatewayProgram P Unit) := by
  unfold AuthorizedDispatcher.auditCrossScope
  apply yields_ite
  · intro _
    exact dispatches_auditOrHandle (dispatches_raises fun _ answered => answered)
  · intro _
    exact within_ok

/-- The call that a grant for the request makes. -/
structure Granted (request : AccessRequest) (call : AuthorizedCall) : Prop where
  requested : call.request = request
  valid : AuthorizedDispatcher.validateGrant request call.grant = .ok ()
  inContext : call.context = { request.context with scope := call.grant.effectiveScope }

section Quiet

variable {request : AccessRequest} {authorization : GatewayAuthorization}
  {allowed : GatewayOp P → Prop} (quiet : ∀ op : GatewayOp P, op.quiet → allowed op)

include quiet

theorem only_now : (RuntimeControl.now : GatewayProgram P DateTime).Only allowed :=
  only_perform.mpr (quiet .now trivial)

theorem only_active (context : RuntimeCallContext) :
    (context.checkActive : GatewayProgram P Unit).Only allowed :=
  RuntimeCallContext.only_checkActive
    (fun token => only_perform.mpr (quiet (.cancelled token) trivial)) (only_now quiet) context

theorem only_audit {audit : GatewayProgram P Unit} (only : audit.Only allowed) (runId : RunId) :
    (auditOrHandle audit authorization.dispatcher.handleAuditFailure runId).Only allowed := by
  apply only.catching
  intro error
  cases error with
  | core detail =>
    exact Only.bind (only_perform.mpr (quiet (.handleAuditFailure _ _) trivial)) fun _ => trivial
  | value | assertion | key | other | cancelledError => trivial

theorem only_deny {β : Type} (decision : PolicyDecision) :
    (authorization.dispatcher.deny request decision : GatewayProgram P β).Only allowed :=
  (only_audit quiet (only_perform.mpr (quiet (.authorizationDenied _ _) trivial)) _).bind
    fun _ => trivial

theorem only_denyExpired (grant : Grant) :
    (authorization.dispatcher.denyExpired request grant : GatewayProgram P Unit).Only allowed := by
  apply (AuthorizedDispatcher.only_expired (only_now quiet) grant).bind
  intro expired
  apply only_ite
  · intro _
    exact only_deny quiet _
  · intro _
    trivial

theorem only_auditCrossScope (grant : Grant) :
    (authorization.dispatcher.auditCrossScope request grant :
      GatewayProgram P Unit).Only allowed := by
  apply only_ite
  · intro _
    exact only_audit quiet (only_perform.mpr (quiet (.crossScopeGranted _ _) trivial)) _
  · intro _
    trivial

theorem only_decide (asks : allowed (.authorize request)) :
    (authorization.dispatcher.decide request : GatewayProgram P PolicyDecision).Only allowed := by
  apply only_ite
  · intro _
    exact only_deny quiet _
  · intro _
    split
    · exact only_deny quiet _
    · rename_i authorize policy
      have asked : (authorize request).Only allowed := by
        unfold GatewayAuthorization.dispatcher at policy
        dsimp only at policy
        split at policy
        · cases policy
          exact only_perform.mpr asks
        · cases policy
      apply asked.bind
      intro decision
      apply only_ite
      · intro _
        exact only_deny quiet _
      · intro _
        trivial

end Quiet

/-- A dispatch asks nothing of the provider but what its operation asks. -/
theorem only_dispatch {request : AccessRequest} {authorization : GatewayAuthorization}
    {allowed : GatewayOp P → Prop} (own : ∀ op : GatewayOp P, op.own → allowed op)
    {operation : AuthorizedCall → GatewayProgram P α}
    (operates : ∀ call, (operation call).Only allowed) :
    (authorization.dispatcher.dispatch request operation).Only allowed := by
  have quiet : ∀ op : GatewayOp P, op.quiet → allowed op :=
    fun op quiet => own op (GatewayOp.own_of_quiet quiet)
  apply (only_active quiet request.context).bind
  intro _
  apply (only_decide quiet (own _ trivial)).bind
  intro decision
  split
  · trivial
  · rename_i grant _
    exact only_ofExcept.bind fun _ => (only_denyExpired quiet grant).bind fun _ =>
      (only_auditCrossScope quiet grant).bind fun _ => operates _

/-- A dispatch ends as its operation does, or raises what a dispatch may. -/
theorem yields_dispatch {request : AccessRequest} {authorization : GatewayAuthorization}
    {operation : AuthorizedCall → GatewayProgram P α} {post : Except Raised α → Prop}
    (bears : Bears raises post)
    (operates : ∀ call, Granted request call →
      (operation call).Yields (gatewayAnswers raises may) post) :
    (authorization.dispatcher.dispatch request operation).Yields
      (gatewayAnswers raises may) post := by
  have failed : ∀ {β : Type} (error : Raised), Within (DispatchRaises raises)
      (.error error : Except Raised β) → post (.error error) := by
    intro β error within
    exact bears error (within error rfl)
  unfold AuthorizedDispatcher.dispatch
  apply Yields.bind (dispatches_checkActive request.context) _ failed
  intro _ _
  apply Yields.bind yields_decide _ bears
  intro decision allows
  split
  · rename_i missing
    have granted := decision.valid.1.mp allows
    simp [missing] at granted
  · rename_i grant given
    cases valid : AuthorizedDispatcher.validateGrant request grant with
    | error error => exact failed error (valid ▸ validateGrant_raises)
    | ok done =>
      apply Yields.bind dispatches_denyExpired _ failed
      intro _ _
      apply Yields.bind dispatches_auditCrossScope _ failed
      intro _ _
      exact operates _ ⟨rfl, valid, rfl⟩

/-- A dispatch returns what its operation returns. -/
theorem returns_dispatch {permits : (op : GatewayOp P) → Except Raised op.Answer → Prop}
    {request : AccessRequest} {authorization : GatewayAuthorization}
    {operation : AuthorizedCall → GatewayProgram P α} {post : α → Prop}
    (operates : ∀ call, (operation call).Returns permits post) :
    (authorization.dispatcher.dispatch request operation).Returns permits post := by
  apply returns_bind
  intro _
  apply returns_bind
  intro decision
  split
  · exact returns_raise
  · apply returns_bind
    intro _
    apply returns_bind
    intro _
    apply returns_bind
    intro _
    exact operates _

/-- What a provider does is done in an active context, and its result is taken in one. -/
theorem yields_awaitProvider {operation : GatewayProgram P α} {context : RuntimeCallContext}
    {post : Except Raised α → Prop} (bears : Bears raises post)
    (operates : operation.Yields (gatewayAnswers raises may) post) :
    (context.awaitProvider operation).Yields (gatewayAnswers raises may) post := by
  have failed : ∀ error, Within (DispatchRaises raises) (.error error : Except Raised Unit) →
      post (.error error) := fun error within => bears error (within error rfl)
  unfold RuntimeCallContext.awaitProvider
  apply Yields.bind (dispatches_checkActive context) _ failed
  intro _ _
  apply Yields.bind operates
  · intro result reached
    apply Yields.bind (dispatches_checkActive context) _ failed
    intro _ _
    exact reached
  · intro error reached
    exact reached

section Runs

variable {trace after : List (Event (gatewayInterface P) Raised)}

theorem op_ended (op : GatewayOp P) {outcome : Except Raised op.Answer}
    {permits : (op : GatewayOp P) → Except Raised op.Answer → Prop}
    (steps : Steps (recording permits) op.Answer (gatewayOp op, trace) (.ofExcept outcome, after)) :
    permits op outcome ∧ after = trace ++ [⟨op, outcome⟩] :=
  @Steps.perform_ended (gatewayInterface P) Raised permits trace after op outcome steps

end Runs

section Permitted

variable {permits : (op : GatewayOp P) → Except Raised op.Answer → Prop}

theorem can_op (op : GatewayOp P) {outcome : Except Raised op.Answer}
    (permitted : permits op outcome) : (gatewayOp op).Can permits (· = outcome) :=
  ⟨outcome, permitted, can_ofExcept rfl⟩

/-- A call need not be cancelled. -/
def Uncancelled (permits : (op : GatewayOp P) → Except Raised op.Answer → Prop) : Prop :=
  ∀ token, permits (.cancelled token) (.ok false)

/-- A call with no deadline that is not cancelled is active. -/
theorem can_checkActive {context : RuntimeCallContext} (active : Uncancelled permits)
    (endless : context.deadline = none) :
    (context.checkActive : GatewayProgram P Unit).Can permits (· = .ok ()) := by
  refine ⟨.ok false, active _, ?_⟩
  simp only [endless]
  rfl

theorem can_awaitProvider {operation : GatewayProgram P α} {context : RuntimeCallContext} {value : α}
    (active : Uncancelled permits) (endless : context.deadline = none)
    (operates : operation.Can permits (· = .ok value)) :
    (context.awaitProvider operation).Can permits (· = .ok value) :=
  (can_checkActive active endless).bind
    (operates.bind ((can_checkActive active endless).bind rfl))

theorem can_awaitProvider_raises {operation : GatewayProgram P α} {context : RuntimeCallContext}
    {error : Raised} (active : Uncancelled permits) (endless : context.deadline = none)
    (operates : operation.Can permits (· = .error error)) :
    (context.awaitProvider operation).Can permits (· = .error error) :=
  (can_checkActive active endless).bind (operates.raises rfl)

open SampleParameters

/-- The policy may grant the request under these constraints. -/
def Grants (permits : (op : GatewayOp P) → Except Raised op.Answer → Prop) (request : AccessRequest)
    (constraints : List (String × JsonValue)) : Prop :=
  permits (.authorize request) (.ok (allowingUnder request constraints))

theorem can_decide {authorization : GatewayAuthorization} {request : AccessRequest}
    {constraints : List (String × JsonValue)} (grants : Grants permits request constraints)
    (governed : authorization.governed = true) (known : request.action ∈ authorization.actions) :
    (authorization.dispatcher.decide request : GatewayProgram P PolicyDecision).Can
      permits (· = .ok (allowingUnder request constraints)) := by
  have found : (authorization.actions.any fun action => action == request.action) = true := by
    simp [known]
  have asked : authorization.dispatcher.decide request =
      (do
        let decision ← (gatewayOp (.authorize request) : GatewayProgram P PolicyDecision)
        if decision.effect ≠ .allow then authorization.dispatcher.deny request decision
        else pure decision) := by
    simp [AuthorizedDispatcher.decide, GatewayAuthorization.dispatcher, found, governed]
  rw [asked]
  exact ⟨_, grants, rfl⟩

theorem validateGrant_same {request : AccessRequest} {grant : Grant}
    (principal : grant.principal = request.principal) (action : grant.action = request.action)
    (resource : grant.resource = request.resource)
    (source : grant.sourceScope = request.context.scope)
    (effective : grant.effectiveScope = request.scope)
    (within : request.scope = request.context.scope) :
    AuthorizedDispatcher.validateGrant request grant = .ok () := by
  have still : grant.effectiveScope = request.context.scope := effective.trans within
  unfold AuthorizedDispatcher.validateGrant
  simp [principal, action, resource, source, still, within, ScopeRef.requireNarrowerThan_self]
  intro _
  rfl

/-- Under a policy that grants what is asked, a dispatch does what its operation does. -/
theorem can_dispatch {authorization : GatewayAuthorization} {request : AccessRequest}
    {constraints : List (String × JsonValue)} {operation : AuthorizedCall → GatewayProgram P α}
    {post : Except Raised α → Prop} (active : Uncancelled permits)
    (grants : Grants permits request constraints) (governed : authorization.governed = true)
    (known : request.action ∈ authorization.actions) (endless : request.context.deadline = none)
    (within : request.scope = request.context.scope)
    (operates : ∀ call, Granted request call → call.grant.constraints = constraints →
      call.context = request.context → (operation call).Can permits post) :
    (authorization.dispatcher.dispatch request operation).Can permits post := by
  obtain ⟨grant, given, principal, action, resource, source, effective, expires, constrained⟩ :
      ∃ grant, (allowingUnder request constraints).grant = some grant ∧
        grant.principal = request.principal ∧ grant.action = request.action ∧
        grant.resource = request.resource ∧ grant.sourceScope = request.context.scope ∧
        grant.effectiveScope = request.scope ∧ grant.expiresAt = none ∧
        grant.constraints = constraints :=
    ⟨_, rfl, rfl, rfl, rfl, rfl, rfl, rfl, rfl⟩
  have valid := validateGrant_same principal action resource source effective within
  have inside : grant.crossScope = false := by
    simp [Grant.crossScope, source, effective, within]
  have current : (authorization.dispatcher.denyExpired request grant : GatewayProgram P Unit) =
      .ret () := by
    simp only [AuthorizedDispatcher.denyExpired, AuthorizedDispatcher.expired, expires]
    rfl
  have uncrossed : (authorization.dispatcher.auditCrossScope request grant :
      GatewayProgram P Unit) = .ret () := by
    simp only [AuthorizedDispatcher.auditCrossScope, inside]
    rfl
  let call : AuthorizedCall :=
    ⟨request, grant, { request.context with scope := grant.effectiveScope }⟩
  have same : call.context = request.context := by
    simp only [call, effective, within]
  apply (can_checkActive active endless).bind
  apply (can_decide grants governed known).bind
  dsimp only
  rw [given]
  dsimp only
  rw [valid, current, uncrossed]
  exact operates call ⟨rfl, valid, rfl⟩ constrained same

/-- The clock may be read before the deadline of the call. -/
def Timely (permits : (op : GatewayOp P) → Except Raised op.Answer → Prop)
    (context : RuntimeCallContext) : Prop :=
  ∀ deadline ∈ context.deadline, ∃ time, permits .now (.ok time) ∧ time < deadline.at_

theorem can_checkActive_timely {context : RuntimeCallContext} (active : Uncancelled permits)
    (timely : Timely permits context) :
    (context.checkActive : GatewayProgram P Unit).Can permits (· = .ok ()) := by
  have uncancelled : (RuntimeControl.cancelled context.cancellation : GatewayProgram P Bool).Can
      permits (· = .ok false) := can_op (.cancelled context.cancellation) (active _)
  unfold RuntimeCallContext.checkActive
  apply uncancelled.bind
  rw [if_neg Bool.false_ne_true]
  cases ends : context.deadline with
  | none => rfl
  | some deadline =>
    obtain ⟨time, permitted, before⟩ := timely deadline ends
    have read : (RuntimeControl.now : GatewayProgram P DateTime).Can permits (· = .ok time) :=
      can_op .now permitted
    apply read.bind
    have current : ¬deadline.at_ ≤ time := Nat.not_le_of_lt before
    rw [if_neg current]
    rfl

/-- A call that is found active was so before its deadline. -/
theorem yields_timely (context : RuntimeCallContext) :
    (context.checkActive : GatewayProgram P Unit).Yields permits
      fun outcome => outcome = .ok () → Timely permits context := by
  have refused : ∀ error : Raised, (.error error : Except Raised Unit) = .ok () →
      Timely permits context := by
    intro error impossible
    cases impossible
  unfold RuntimeCallContext.checkActive
  apply Yields.bind (yields_true _)
  · intro isCancelled _
    apply yields_ite
    · intro _
      exact refused _
    · intro _
      cases ends : context.deadline with
      | none =>
        intro _ deadline given
        rw [ends] at given
        cases given
      | some deadline =>
        have read : (RuntimeControl.now : GatewayProgram P DateTime).Yields permits
            (permits .now) := yields_perform fun _ permitted => permitted
        apply Yields.bind read
        · intro time permitted
          apply yields_ite
          · intro _
            exact refused _
          · intro unexpired _ own given
            rw [ends] at given
            cases given
            exact ⟨time, permitted, Nat.lt_of_not_le unexpired⟩
        · intro error _
          exact refused error
  · intro error _
    exact refused error

theorem yields_governed {authorization : GatewayAuthorization} {request : AccessRequest} :
    (authorization.dispatcher.decide request : GatewayProgram P PolicyDecision).Yields permits
      fun outcome => (∃ decision, outcome = .ok decision) →
        authorization.governed = true ∧ request.action ∈ authorization.actions := by
  have refuses : ∀ (conclusion : Prop) decision, (authorization.dispatcher.deny request decision :
      GatewayProgram P PolicyDecision).Yields permits fun outcome =>
        (∃ decision, outcome = .ok decision) → conclusion := by
    intro conclusion decision
    apply Yields.bind (yields_true _)
    · intro _ _ impossible
      obtain ⟨_, impossible⟩ := impossible
      cases impossible
    · intro _ _ impossible
      obtain ⟨_, impossible⟩ := impossible
      cases impossible
  unfold AuthorizedDispatcher.decide
  apply yields_ite
  · intro _
    exact refuses _ _
  · intro known
    have listed : request.action ∈ authorization.actions := by
      simpa [GatewayAuthorization.dispatcher] using known
    cases governed : authorization.governed with
    | false =>
      have none : (authorization.dispatcher : AuthorizedDispatcher (gatewayInterface P)).policy = none := by
        simp [GatewayAuthorization.dispatcher, governed]
      rw [none]
      exact refuses _ _
    | true =>
      exact (yields_true _).mono fun _ _ _ => ⟨rfl, listed⟩

/-- A dispatch comes to its operation in a call that was active, with an action that it knows and
under a policy; around that it only does what is its own. -/
theorem keeps_dispatch {authorization : GatewayAuthorization} {request : AccessRequest}
    {operation : AuthorizedCall → GatewayProgram P α} {allowed : GatewayOp P → Prop}
    (own : ∀ op : GatewayOp P, op.own → allowed op)
    (operates : Timely permits request.context → authorization.governed = true →
      request.action ∈ authorization.actions → ∀ call, (operation call).Keeps permits allowed) :
    (authorization.dispatcher.dispatch request operation).Keeps permits allowed := by
  have quiet : ∀ op : GatewayOp P, op.quiet → allowed op :=
    fun op quiet => own op (GatewayOp.own_of_quiet quiet)
  apply (only_active quiet request.context).keeps.andThen (yields_timely request.context)
  intro outcome timely
  cases outcome with
  | error error => trivial
  | ok _ =>
    apply (only_decide quiet (own _ trivial)).keeps.andThen yields_governed
    intro outcome decided
    cases outcome with
    | error error => trivial
    | ok decision =>
      obtain ⟨governed, known⟩ := decided ⟨decision, rfl⟩
      dsimp only
      split
      · trivial
      · rename_i grant _
        exact keeps_ofExcept.bind fun _ => (only_denyExpired quiet grant).keeps.bind fun _ =>
          (only_auditCrossScope quiet grant).keeps.bind fun _ =>
            operates (timely rfl) governed known _

theorem validateGrant_asked {request : AccessRequest} {grant : Grant}
    (principal : grant.principal = request.principal) (action : grant.action = request.action)
    (resource : grant.resource = request.resource)
    (source : grant.sourceScope = request.context.scope)
    (effective : grant.effectiveScope = request.scope) :
    AuthorizedDispatcher.validateGrant request grant = .ok () := by
  unfold AuthorizedDispatcher.validateGrant
  simp only [principal, action, resource, source, effective, ne_eq, not_true_eq_false, if_false]
  cases crossed : grant.crossScope with
  | true => rfl
  | false =>
    have same : request.context.scope.key = request.scope.key := by
      rw [← source, ← effective]
      simpa [Grant.crossScope] using crossed
    exact ScopeRef.requireNarrowerThan_eq_ok.mpr (ScopeRef.isEqualOrDescendantOf_of_key same.symm)

/-- Under a policy that grants what is asked, a dispatch comes to what its operation comes to. -/
theorem reaches_dispatch {authorization : GatewayAuthorization} {request : AccessRequest}
    {operation : AuthorizedCall → GatewayProgram P α} {reached : GatewayOp P → Prop}
    (active : Uncancelled permits) (timely : Timely permits request.context)
    (grants : Grants permits request request.constraints)
    (audits : ∀ grant, permits (.crossScopeGranted request grant) (.ok ()))
    (governed : authorization.governed = true) (known : request.action ∈ authorization.actions)
    (operates : ∀ call, call.grant.constraints = request.constraints →
      call.context = { request.context with scope := request.scope } →
      (operation call).Reaches permits reached) :
    (authorization.dispatcher.dispatch request operation).Reaches permits reached := by
  obtain ⟨grant, given, principal, action, resource, source, effective, expires, constrained⟩ :
      ∃ grant, (allowingUnder request request.constraints).grant = some grant ∧
        grant.principal = request.principal ∧ grant.action = request.action ∧
        grant.resource = request.resource ∧ grant.sourceScope = request.context.scope ∧
        grant.effectiveScope = request.scope ∧ grant.expiresAt = none ∧
        grant.constraints = request.constraints :=
    ⟨_, rfl, rfl, rfl, rfl, rfl, rfl, rfl, rfl⟩
  have valid := validateGrant_asked principal action resource source effective
  have current : (authorization.dispatcher.denyExpired request grant : GatewayProgram P Unit) =
      .ret () := by
    simp only [AuthorizedDispatcher.denyExpired, AuthorizedDispatcher.expired, expires]
    rfl
  have audited : (authorization.dispatcher.auditCrossScope request grant :
      GatewayProgram P Unit).Can permits (· = .ok ()) := by
    unfold AuthorizedDispatcher.auditCrossScope
    split
    · exact Can.caught (can_op (.crossScopeGranted request grant) (audits grant))
    · rfl
  let call : AuthorizedCall :=
    ⟨request, grant, { request.context with scope := grant.effectiveScope }⟩
  have same : call.context = { request.context with scope := request.scope } := by
    simp only [call, effective]
  apply (can_checkActive_timely active timely).bind_reaches
  apply (can_decide grants governed known).bind_reaches
  dsimp only
  rw [given]
  dsimp only
  rw [valid, current]
  exact audited.bind_reaches (operates call constrained same)

end Permitted

theorem uncancelled_answers : Uncancelled (gatewayAnswers (P := P) raises may) :=
  fun _ => ⟨false, rfl⟩

theorem grants_answers (request : AccessRequest) (constraints : List (String × JsonValue)) :
    Grants (gatewayAnswers (P := P) raises may) request constraints := by
  refine ⟨within_ok, fun decision same refuses => ?_⟩
  cases same
  exact absurd rfl refuses

end GatewayDispatch

end CongeriesCore
