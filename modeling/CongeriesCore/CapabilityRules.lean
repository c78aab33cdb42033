import CongeriesCore.PolicyAuthorization

/-! # Rules for authorized calls

What a contract has to say about the clock, the cancellation tokens and the collaborators
of a dispatcher for every authorized call to keep it. -/

namespace CongeriesCore

open AsyncProgram

variable {I : Interface} [RuntimeControl I]

/-- `held` survives the calls around a capability; where one of them fails, `failed`
holds, by way of `unaudited` if it was an audit. -/
structure Routine {σ : Type} (E : Environment I Raised σ) (C : Contract I σ)
    (dispatcher : AuthorizedDispatcher I) (held unaudited failed : σ → Prop) : Prop where
  cancelled : ∀ token state, held state →
    (RuntimeControl.cancelled token : Program I Raised Bool).Safe E C
      (Ends (fun _ => held) failed) state
  now : ∀ state, held state →
    (RuntimeControl.now : Program I Raised DateTime).Safe E C (Ends (fun _ => held) failed) state
  authorize : ∀ policy, dispatcher.policy = some policy → ∀ request state, held state →
    (policy request).Safe E C (Ends (fun _ => held) failed) state
  denied : ∀ request decision state, held state →
    (dispatcher.authorizationDenied request decision).Safe E C (Ends (fun _ => held) unaudited) state
  granted : ∀ request grant state, held state →
    (dispatcher.crossScopeGranted request grant).Safe E C (Ends (fun _ => held) unaudited) state
  handle : ∀ runId detail state, unaudited state →
    (dispatcher.handleAuditFailure runId detail).Safe E C (Ends (fun _ => failed) failed) state
  weaken : ∀ state, held state → failed state
  unhandled : ∀ state, unaudited state → failed state

namespace Routine

variable {σ α : Type} {E : Environment I Raised σ} {C : Contract I σ}
  {dispatcher : AuthorizedDispatcher I} {held unaudited failed : σ → Prop} {state : σ}

theorem checkActive (routine : Routine E C dispatcher held unaudited failed) (context : RuntimeCallContext)
    (start : held state) :
    (context.checkActive : Program I Raised Unit).Safe E C (Ends (fun _ => held) failed) state := by
  unfold RuntimeCallContext.checkActive
  refine (routine.cancelled context.cancellation state start).next fun isCancelled after kept => ?_
  split
  · exact routine.weaken after kept
  · split
    · exact kept
    · refine (routine.now after kept).next fun time later kept => ?_
      split
      · exact routine.weaken later kept
      · exact kept

/-- The operation starts from `held`; whatever it establishes has to survive the last check. -/
theorem awaitProvider {value : α → σ → Prop} (routine : Routine E C dispatcher held unaudited failed)
    (after : ∀ result, Routine E C dispatcher (value result) unaudited failed)
    (operation : Program I Raised α) (context : RuntimeCallContext)
    (run : ∀ current, held current → operation.Safe E C (Ends value failed) current)
    (start : held state) :
    (context.awaitProvider operation).Safe E C (Ends value failed) state := by
  unfold RuntimeCallContext.awaitProvider
  refine (routine.checkActive context start).next fun _ current kept => ?_
  refine (run current kept).next fun result later reached => ?_
  exact ((after result).checkActive context reached).next fun _ last kept => kept

theorem auditOrHandle (routine : Routine E C dispatcher held unaudited failed)
    {audit : Program I Raised Unit} (runs : audit.Safe E C (Ends (fun _ => held) unaudited) state) (runId : RunId) :
    (CongeriesCore.auditOrHandle audit dispatcher.handleAuditFailure runId).Safe E C
      (Ends (fun _ => held) failed) state := by
  refine runs.catching (fun _ _ kept => kept) fun error after lost => ?_
  split
  · rename_i detail
    exact (routine.handle runId detail after lost).next fun _ _ reached => reached
  · exact routine.unhandled after lost

theorem deny {value : α → σ → Prop} (routine : Routine E C dispatcher held unaudited failed)
    (request : AccessRequest) (decision : PolicyDecision) (start : held state) :
    (dispatcher.deny request decision : Program I Raised α).Safe E C (Ends value failed) state := by
  have audit := routine.denied request decision state start
  have audited := routine.auditOrHandle audit request.context.runId
  exact audited.next fun _ after kept => routine.weaken after kept

theorem decide (routine : Routine E C dispatcher held unaudited failed) (request : AccessRequest)
    (start : held state) :
    (dispatcher.decide request).Safe E C (Ends (fun _ => held) failed) state := by
  unfold AuthorizedDispatcher.decide
  split
  · exact routine.deny request _ start
  · split
    · exact routine.deny request _ start
    · rename_i policy given
      refine (routine.authorize policy given request state start).next fun decision after kept => ?_
      split
      · exact routine.deny request decision kept
      · exact kept

theorem expired (routine : Routine E C dispatcher held unaudited failed) (grant : Grant)
    (start : held state) :
    (AuthorizedDispatcher.expired grant : Program I Raised Bool).Safe E C
      (Ends (fun _ => held) failed) state := by
  unfold AuthorizedDispatcher.expired
  split
  · exact start
  · exact (routine.now state start).next fun _ _ kept => kept

theorem denyExpired (routine : Routine E C dispatcher held unaudited failed)
    (request : AccessRequest) (grant : Grant) (start : held state) :
    (dispatcher.denyExpired request grant).Safe E C (Ends (fun _ => held) failed) state := by
  refine (routine.expired grant start).next fun isExpired after kept => ?_
  split
  · exact routine.deny request _ kept
  · exact kept

theorem auditCrossScope (routine : Routine E C dispatcher held unaudited failed)
    (request : AccessRequest) (grant : Grant) (start : held state) :
    (dispatcher.auditCrossScope request grant).Safe E C (Ends (fun _ => held) failed) state := by
  unfold AuthorizedDispatcher.auditCrossScope
  split
  · have audit := routine.granted request grant state start
    exact routine.auditOrHandle audit request.context.runId
  · exact start

/-- The operation of an authorized call runs only where `held` holds, for a call that the
policy granted. -/
theorem dispatch {value : α → σ → Prop} (routine : Routine E C dispatcher held unaudited failed)
    (request : AccessRequest) (operation : AuthorizedCall → Program I Raised α)
    (run : ∀ grant current, held current →
      (operation ⟨request, grant, { request.context with scope := grant.effectiveScope }⟩).Safe E C
        (Ends value failed) current) (start : held state) :
    (dispatcher.dispatch request operation).Safe E C (Ends value failed) state := by
  unfold AuthorizedDispatcher.dispatch
  refine (routine.checkActive request.context start).next fun _ after kept => ?_
  refine (routine.decide request kept).next fun decision decided kept => ?_
  split
  · exact routine.weaken decided kept
  · rename_i grant given
    have validated : (Program.ofExcept (AuthorizedDispatcher.validateGrant request grant) :
        Program I Raised Unit).Safe E C (Ends (fun _ => held) failed) decided :=
      Program.safe_checked (fun _ _ => kept) (routine.weaken decided kept)
    refine validated.next fun _ current kept => ?_
    have unexpired := routine.denyExpired request grant kept
    refine unexpired.next fun _ later kept => ?_
    have crossed := routine.auditCrossScope request grant kept
    exact crossed.next fun _ final kept => run grant final kept

end Routine

end CongeriesCore
