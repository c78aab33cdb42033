import CongeriesCore.GrantConstraints

/-! # Calls that nothing disturbs

Nothing is cancelled, no deadline and no expiry is reached, and the policy allows every request by a
grant that repeats its constraints at most. A dispatch then ends as its operation does. -/

namespace CongeriesCore.GatewayDispatch

open AsyncProgram AsyncProgram.Program

variable {P : Interface} {α : Type}

/-- A grant for the request that narrows nothing, and does not expire until then. -/
structure Unnarrowing (latest : DateTime) (request : AccessRequest) (grant : Grant) : Prop where
  valid : AuthorizedDispatcher.validateGrant request grant = .ok ()
  lasting : ∀ expiry ∈ grant.expiresAt, latest < expiry
  repeated : ∀ item ∈ grant.constraints, item ∈ request.constraints

/-- What undisturbed surroundings answer, the clock until `latest`. -/
def undisturbedAnswers (latest : DateTime) (may : (op : P.Op) → Except Raised (P.Answer op) → Prop) :
    (op : GatewayOp P) → Except Raised op.Answer → Prop
  | .cancelled _, outcome => outcome = .ok false
  | .now, outcome => ∃ time, outcome = .ok time ∧ time ≤ latest
  | .authorize request, outcome => ∃ decision grant, outcome = .ok decision ∧
      decision.grant = some grant ∧ Unnarrowing latest request grant
  | .authorizationDenied _ _, outcome => outcome = .ok ()
  | .crossScopeGranted _ _, outcome => outcome = .ok ()
  | .handleAuditFailure _ _, outcome => outcome = .ok ()
  | .call op, outcome => may op outcome

section Undisturbed

variable {latest : DateTime} {may : (op : P.Op) → Except Raised (P.Answer op) → Prop}
  {post : Except Raised α → Prop} {context : RuntimeCallContext}

/-- A part of a call that nothing disturbs. -/
abbrev Undisturbed (latest : DateTime) (may : (op : P.Op) → Except Raised (P.Answer op) → Prop)
    (program : GatewayProgram P α) (post : Except Raised α → Prop) : Prop :=
  program.Yields (undisturbedAnswers latest may) post

/-- A part that ends well, whatever it returns. -/
abbrev Passes (latest : DateTime) (may : (op : P.Op) → Except Raised (P.Answer op) → Prop)
    (program : GatewayProgram P α) : Prop :=
  Undisturbed latest may program fun outcome => ∃ value, outcome = .ok value

/-- A first part that ends well. -/
theorem Passes.bind {β : Type} {program : GatewayProgram P β} {rest : β → GatewayProgram P α}
    (passes : Passes latest may program)
    (continues : ∀ value, Undisturbed latest may (rest value) post) :
    Undisturbed latest may (program >>= rest) post := by
  apply Yields.bind passes
  · intro value _
    exact continues value
  · intro error impossible
    obtain ⟨value, impossible⟩ := impossible
    cases impossible

theorem passes_now : Passes latest may (RuntimeControl.now : GatewayProgram P DateTime) := by
  apply yields_perform
  intro outcome answered
  obtain ⟨time, same, -⟩ := answered
  exact ⟨time, same⟩

theorem passes_checkActive (early : ∀ deadline ∈ context.deadline, latest < deadline.at_) :
    Passes latest may (context.checkActive : GatewayProgram P Unit) := by
  have active : Undisturbed latest may
      (RuntimeControl.cancelled context.cancellation : GatewayProgram P Bool)
      (fun outcome => outcome = .ok false) := yields_perform fun _ answered => answered
  apply active.bind
  · intro isCancelled same
    cases same
    split
    · rename_i impossible
      cases impossible
    · split
      · exact ⟨(), rfl⟩
      · rename_i deadline own
        have reads : Undisturbed latest may (RuntimeControl.now : GatewayProgram P DateTime)
            (fun outcome => ∃ time, outcome = .ok time ∧ time ≤ latest) :=
          yields_perform fun _ answered => answered
        apply reads.bind
        · intro time shown
          obtain ⟨_, same, shown⟩ := shown
          cases same
          have before : ¬deadline.at_ ≤ time :=
            Nat.not_le_of_lt (Nat.lt_of_le_of_lt shown (early deadline own))
          rw [if_neg before]
          exact ⟨(), rfl⟩
        · intro error impossible
          obtain ⟨time, impossible, -⟩ := impossible
          cases impossible
  · intro error impossible
    cases impossible

/-- A provider is waited for as long as it takes. -/
theorem undisturbed_awaitProvider {operation : GatewayProgram P α}
    (early : ∀ deadline ∈ context.deadline, latest < deadline.at_)
    (operates : Undisturbed latest may operation post) :
    Undisturbed latest may (context.awaitProvider operation) post := by
  unfold RuntimeCallContext.awaitProvider
  apply (passes_checkActive early).bind
  intro _
  apply Yields.bind operates
  · intro result reached
    apply (passes_checkActive early).bind
    intro _
    exact reached
  · intro error reached
    exact reached

/-- A request for a registered action is allowed. -/
theorem undisturbed_decide {request : AccessRequest} {authorization : GatewayAuthorization}
    (governed : authorization.governed = true)
    (registered : (authorization.actions.any fun action => action == request.action) = true) :
    Undisturbed latest may (authorization.dispatcher.decide request)
      (fun outcome => ∃ decision grant, outcome = .ok decision ∧ decision.grant = some grant ∧
        Unnarrowing latest request grant) := by
  have policy : (authorization.dispatcher (P := P)).policy =
      some fun request => gatewayOp (.authorize request) := by
    simp [GatewayAuthorization.dispatcher, governed]
  unfold AuthorizedDispatcher.decide
  rw [if_neg (by simpa [GatewayAuthorization.dispatcher] using registered), policy]
  have asked : Undisturbed latest may (gatewayOp (.authorize request) : GatewayProgram P _)
      (fun outcome => ∃ decision grant, outcome = .ok decision ∧ decision.grant = some grant ∧
        Unnarrowing latest request grant) := yields_perform fun _ answered => answered
  apply asked.bind
  · intro decision allowed
    obtain ⟨_, grant, same, given, unnarrowing⟩ := allowed
    cases same
    have allows : decision.effect = .allow := by
      rw [decision.valid.1, given]
      rfl
    rw [if_neg (not_not.mpr allows)]
    exact ⟨decision, grant, rfl, given, unnarrowing⟩
  · intro error impossible
    exact impossible

theorem passes_denyExpired {request : AccessRequest} {authorization : GatewayAuthorization}
    {grant : Grant} (lasting : ∀ expiry ∈ grant.expiresAt, latest < expiry) :
    Passes latest may (authorization.dispatcher.denyExpired request grant :
      GatewayProgram P Unit) := by
  have expired : Undisturbed latest may (AuthorizedDispatcher.expired grant : GatewayProgram P Bool)
      (fun outcome => outcome = .ok false) := by
    unfold AuthorizedDispatcher.expired
    split
    · rfl
    · rename_i expiry given
      have reads : Undisturbed latest may (RuntimeControl.now : GatewayProgram P DateTime)
          (fun outcome => ∃ time, outcome = .ok time ∧ time ≤ latest) :=
        yields_perform fun _ answered => answered
      apply reads.bind
      · intro time shown
        obtain ⟨_, same, shown⟩ := shown
        cases same
        have before : ¬expiry ≤ time :=
          Nat.not_le_of_lt (Nat.lt_of_le_of_lt shown (lasting expiry given))
        change Except.ok (decide (expiry ≤ time)) = Except.ok false
        rw [decide_eq_false before]
      · intro error impossible
        obtain ⟨time, impossible, -⟩ := impossible
        cases impossible
  apply expired.bind
  · intro isExpired same
    cases same
    exact ⟨(), rfl⟩
  · intro error impossible
    cases impossible

theorem passes_auditCrossScope {request : AccessRequest} {authorization : GatewayAuthorization}
    {grant : Grant} : Passes latest may (authorization.dispatcher.auditCrossScope request grant :
      GatewayProgram P Unit) := by
  unfold AuthorizedDispatcher.auditCrossScope
  split
  · have audits : Undisturbed latest may
        (gatewayOp (.crossScopeGranted request grant) : GatewayProgram P Unit)
        (fun outcome => outcome = .ok ()) := yields_perform fun _ answered => answered
    apply audits.catching
    · intro result _
      exact ⟨result, rfl⟩
    · intro error impossible
      cases impossible
  · exact ⟨(), rfl⟩

/-- A dispatch comes to its operation, and ends as that does. -/
theorem undisturbed_dispatch {request : AccessRequest} {authorization : GatewayAuthorization}
    {operation : AuthorizedCall → GatewayProgram P α}
    (governed : authorization.governed = true)
    (registered : (authorization.actions.any fun action => action == request.action) = true)
    (early : ∀ deadline ∈ request.context.deadline, latest < deadline.at_)
    (operates : ∀ call, Granted request call → Unnarrowing latest request call.grant →
      Undisturbed latest may (operation call) post) :
    Undisturbed latest may (authorization.dispatcher.dispatch request operation) post := by
  unfold AuthorizedDispatcher.dispatch
  apply (passes_checkActive early).bind
  intro _
  apply (undisturbed_decide governed registered).bind
  · intro decision allowed
    obtain ⟨_, grant, same, given, unnarrowing⟩ := allowed
    cases same
    rw [given]
    dsimp only
    rw [unnarrowing.valid]
    apply Passes.bind (passes_denyExpired unnarrowing.lasting)
    intro _
    apply Passes.bind passes_auditCrossScope
    intro _
    exact operates _ ⟨rfl, unnarrowing.valid, rfl⟩ unnarrowing
  · intro error impossible
    obtain ⟨decision, grant, impossible, -⟩ := impossible
    cases impossible

end Undisturbed

end CongeriesCore.GatewayDispatch
