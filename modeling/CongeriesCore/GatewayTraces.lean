import CongeriesCore.AsyncGrowth
import CongeriesCore.GatewayDispatch

/-! # Traces of gateways

What has happened when a dispatch comes to its operation: the policy has been asked once and has
granted the call. Around that a dispatch only reads the clock and the token, and audits. -/

namespace CongeriesCore.GatewayDispatch

open AsyncProgram AsyncProgram.Program

variable {P : Interface} {α : Type}

abbrev GatewayTrace (P : Interface) := List (Event (gatewayInterface P) Raised)

/-- The policy has granted the request between these moments. -/
def Granting (request : AccessRequest) (grant : Grant) (trace after : GatewayTrace P) : Prop :=
  ∃ decision before, decision.effect = .allow ∧ decision.grant = some grant ∧
    Grown GatewayOp.quiet trace before ∧
    Grown GatewayOp.quiet
      (before ++ [(⟨.authorize request, .ok decision⟩ : Event (gatewayInterface P) Raised)]) after

def isAuthorize (event : Event (gatewayInterface P) Raised) : Bool :=
  match event.1 with
  | .authorize _ => true
  | _ => false

theorem isAuthorize_of_quiet (event : Event (gatewayInterface P) Raised)
    (quiet : GatewayOp.quiet event.1) : isAuthorize event = false := by
  obtain ⟨op, outcome⟩ := event
  cases op with
  | authorize request => exact absurd quiet id
  | _ => rfl

namespace Granting

variable {request : AccessRequest} {grant : Grant} {trace after : GatewayTrace P}

theorem grown (granting : Granting request grant trace after) :
    Grown GatewayOp.own trace after := by
  obtain ⟨decision, before, -, -, early, late⟩ := granting
  have quiet : ∀ op : GatewayOp P, op.quiet → op.own := fun _ => GatewayOp.own_of_quiet
  have asked : Grown GatewayOp.own before
      (before ++ [(⟨.authorize request, .ok decision⟩ : Event (gatewayInterface P) Raised)]) :=
    @Grown.event (gatewayInterface P) Raised _ _ (.authorize request) trivial _
  exact ((early.mono quiet).trans asked).trans (late.mono quiet)

theorem mem (granting : Granting request grant trace after) :
    ∃ decision, decision.grant = some grant ∧
      (⟨.authorize request, .ok decision⟩ : Event (gatewayInterface P) Raised) ∈ after := by
  obtain ⟨decision, before, -, granted, -, late⟩ := granting
  exact ⟨decision, granted, late.subset (by simp)⟩

theorem countP (granting : Granting request grant trace after) :
    after.countP isAuthorize = trace.countP isAuthorize + 1 := by
  obtain ⟨decision, before, -, -, early, late⟩ := granting
  rw [late.countP_eq isAuthorize_of_quiet, List.countP_append,
    early.countP_eq isAuthorize_of_quiet]
  rfl

end Granting

variable {permits : (op : GatewayOp P) → Except Raised op.Answer → Prop}
  {need : (op : GatewayOp P) → GatewayTrace P → Prop} {trace : GatewayTrace P}

/-- A program that runs in front of a provider, from the events `trace`. -/
abbrev Guards (permits : (op : GatewayOp P) → Except Raised op.Answer → Prop)
    (need : (op : GatewayOp P) → GatewayTrace P → Prop) (program : GatewayProgram P α)
    (post : Except Raised α → GatewayTrace P → Prop) (trace : GatewayTrace P) : Prop :=
  program.Safe (recording permits) (.traced need) post trace

/-- A decision that a dispatch goes on with is the policy's, and allows. -/
theorem guards_decide {request : AccessRequest} {authorization : GatewayAuthorization}
    (quiet : ∀ op after, GatewayOp.quiet op → need op after)
    (asks : need (.authorize request) trace) :
    Guards permits need (authorization.dispatcher.decide request)
      (fun outcome after => match outcome with
        | .ok decision => decision.effect = .allow ∧
            after = trace ++ [(⟨.authorize request, .ok decision⟩ : Event (gatewayInterface P) Raised)]
        | .error _ => Grown GatewayOp.own trace after) trace := by
  have own : ∀ op : GatewayOp P, op.quiet → op.own := fun _ => GatewayOp.own_of_quiet
  have denies : ∀ (decision : PolicyDecision) (before : GatewayTrace P),
      Grown GatewayOp.own trace before →
      Guards permits need (authorization.dispatcher.deny request decision)
        (fun (outcome : Except Raised PolicyDecision) after => match outcome with
          | .ok decision => decision.effect = .allow ∧
              after = trace ++
                [(⟨.authorize request, .ok decision⟩ : Event (gatewayInterface P) Raised)]
          | .error _ => Grown GatewayOp.own trace after) before := by
    intro decision before earlier
    have audited : (gatewayOp (.authorizationDenied request decision) :
        GatewayProgram P Unit).Only GatewayOp.quiet := only_perform.mpr trivial
    have audits : (auditOrHandle (gatewayOp (.authorizationDenied request decision))
        authorization.dispatcher.handleAuditFailure request.context.runId :
          GatewayProgram P Unit).Only GatewayOp.quiet :=
      only_audit (fun _ isQuiet => isQuiet) audited request.context.runId
    apply audits.safe_bind (fun op after isQuiet _ => quiet op after isQuiet)
    · intro _ after grown
      exact earlier.trans (grown.mono own)
    · intro _ after grown
      exact earlier.trans (grown.mono own)
  unfold AuthorizedDispatcher.decide
  split
  · exact denies _ _ (.refl _)
  · cases governed : authorization.governed with
    | false =>
      have none : (authorization.dispatcher (P := P)).policy = none := by
        simp [GatewayAuthorization.dispatcher, governed]
      rw [none]
      exact denies _ _ (.refl _)
    | true =>
      have some : (authorization.dispatcher (P := P)).policy =
          some fun request => gatewayOp (.authorize request) := by
        simp [GatewayAuthorization.dispatcher, governed]
      rw [some]
      apply safe_perform_bind asks
      · intro decision _
        split
        · exact denies _ _ (@Grown.event (gatewayInterface P) Raised _ _ (.authorize request) trivial _)
        · rename_i allows
          exact ⟨not_not.mp allows, rfl⟩
      · intro error _
        exact @Grown.event (gatewayInterface P) Raised _ _ (.authorize request) trivial _

/-- A dispatch comes to its operation with a call that the policy has granted. -/
theorem guards_dispatch {request : AccessRequest} {authorization : GatewayAuthorization}
    {operation : AuthorizedCall → GatewayProgram P α}
    {post : Except Raised α → GatewayTrace P → Prop}
    (quiet : ∀ op after, GatewayOp.quiet op → need op after)
    (asks : ∀ after, Grown GatewayOp.quiet trace after → need (.authorize request) after)
    (refused : ∀ error after, Grown GatewayOp.own trace after → post (.error error) after)
    (operates : ∀ call after, Granted request call → Granting request call.grant trace after →
      Guards permits need (operation call) post after) :
    Guards permits need (authorization.dispatcher.dispatch request operation) post trace := by
  have own : ∀ op : GatewayOp P, op.quiet → op.own := fun _ => GatewayOp.own_of_quiet
  have needs : ∀ (from_ : GatewayTrace P) op after, GatewayOp.quiet op →
      Grown GatewayOp.quiet from_ after → need op after := fun _ op after isQuiet _ =>
    quiet op after isQuiet
  apply (only_active (fun _ isQuiet => isQuiet) request.context).safe_bind (needs trace)
  · intro _ active entered
    apply Safe.bind (guards_decide quiet (asks active entered))
    · intro decision decided reached
      obtain ⟨allows, rfl⟩ := reached
      split
      · rename_i missing
        have granted := decision.valid.1.mp allows
        simp [missing] at granted
      · rename_i grant given
        have asked : Grown GatewayOp.own trace
            (active ++ [(⟨.authorize request, .ok decision⟩ : Event (gatewayInterface P) Raised)]) :=
          (entered.mono own).trans
            (@Grown.event (gatewayInterface P) Raised _ _ (.authorize request) trivial _)
        apply safe_ofExcept_bind
        · intro _ valid
          have expires : (authorization.dispatcher.denyExpired request grant :
              GatewayProgram P Unit).Only GatewayOp.quiet :=
            only_denyExpired (fun _ isQuiet => isQuiet) grant
          apply expires.safe_bind (needs _)
          · intro _ checked unexpired
            have audits : (authorization.dispatcher.auditCrossScope request grant :
                GatewayProgram P Unit).Only GatewayOp.quiet :=
              only_auditCrossScope (fun _ isQuiet => isQuiet) grant
            apply audits.safe_bind (needs _)
            · intro _ audited crossed
              exact operates _ audited ⟨rfl, valid, rfl⟩
                ⟨decision, active, allows, given, entered, unexpired.trans crossed⟩
            · intro error audited crossed
              exact refused error audited (asked.trans ((unexpired.trans crossed).mono own))
          · intro error checked unexpired
            exact refused error checked (asked.trans (unexpired.mono own))
        · intro error _
          exact refused error _ asked
    · intro error after grown
      exact refused error after ((entered.mono own).trans grown)
  · intro error after grown
    exact refused error after (grown.mono own)

end CongeriesCore.GatewayDispatch
