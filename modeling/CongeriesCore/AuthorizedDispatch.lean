import CongeriesCore.AsyncTrace
import CongeriesCore.SampleParameters

/-! # What an authorized dispatch does

The dispatcher over collaborators that answer as they please: the trace of a dispatch shows
which guards had been passed when the operation was invoked, and which audits were
attempted when it was not. -/

namespace CongeriesCore

open AsyncProgram AsyncProgram.Program

inductive DispatchOp
  | cancelled (token : CancellationId)
  | now
  | authorize (request : AccessRequest)
  | authorizationDenied (request : AccessRequest) (decision : PolicyDecision)
  | crossScopeGranted (request : AccessRequest) (grant : Grant)
  | handleAuditFailure (runId : RunId) (detail : ErrorDetail)
  | operation (call : AuthorizedCall)

/-- `α` is what the protected operation returns. -/
abbrev DispatchOp.Answer (α : Type) : DispatchOp → Type
  | .cancelled _ => Bool
  | .now => DateTime
  | .authorize _ => PolicyDecision
  | .authorizationDenied _ _ => Unit
  | .crossScopeGranted _ _ => Unit
  | .handleAuditFailure _ _ => Unit
  | .operation _ => α

abbrev dispatchInterface (α : Type) : Interface := ⟨DispatchOp, DispatchOp.Answer α⟩

abbrev dispatchOp {α : Type} (op : DispatchOp) :
    Program (dispatchInterface α) Raised (op.Answer α) :=
  @perform (dispatchInterface α) Raised op

abbrev DispatchTrace (α : Type) := List (Event (dispatchInterface α) Raised)

namespace AuthorizedDispatcher

variable {α : Type}

instance : RuntimeControl (dispatchInterface α) where
  cancelled token := dispatchOp (.cancelled token)
  now := dispatchOp .now

/-- The dispatcher of a registry; `governed` says whether it has a policy. -/
def dispatcherOver (α : Type) (actions : List ActionRef) (governed : Bool) :
    AuthorizedDispatcher (dispatchInterface α) where
  actions := actions
  policy := if governed then some fun request => dispatchOp (.authorize request) else none
  authorizationDenied request decision := dispatchOp (.authorizationDenied request decision)
  crossScopeGranted request grant := dispatchOp (.crossScopeGranted request grant)
  handleAuditFailure runId detail := dispatchOp (.handleAuditFailure runId detail)

def RaisesCore {β : Type} (outcome : Except Raised β) : Prop :=
  ∀ error, outcome = .error error → ∃ detail, error = .core detail

/-- The policy and the audit publisher raise nothing but `CoreError`; the operation and the
audit failure handler may raise anything. -/
def answers : (op : DispatchOp) → Except Raised (op.Answer α) → Prop
  | .cancelled _, outcome => ∃ isCancelled, outcome = .ok isCancelled
  | .now, outcome => ∃ time, outcome = .ok time
  | .authorize _, outcome => RaisesCore outcome
  | .authorizationDenied _ _, outcome => RaisesCore outcome
  | .crossScopeGranted _ _, outcome => RaisesCore outcome
  | .handleAuditFailure _ _, _ => True
  | .operation _, _ => True

/-- The call context is active when the clock reads `time`. -/
def Active (context : RuntimeCallContext) (time : DateTime) : Prop :=
  ∀ deadline, context.deadline = some deadline → time < deadline.at_

def clockRead {β : Type} (bound : Option β) (time : DateTime) : DispatchTrace α :=
  match bound with
  | none => []
  | some _ => [⟨DispatchOp.now, .ok time⟩]

/-- The reads of a context that is not cancelled. -/
def entry (context : RuntimeCallContext) (time : DateTime) : DispatchTrace α :=
  ⟨DispatchOp.cancelled context.cancellation, .ok false⟩ :: clockRead context.deadline time

def Unexpired (grant : Grant) (time : DateTime) : Prop :=
  ∀ expiry, grant.expiresAt = some expiry → time < expiry

def crossing (request : AccessRequest) (grant : Grant) : DispatchTrace α :=
  if grant.crossScope then [⟨DispatchOp.crossScopeGranted request grant, .ok ()⟩] else []

/-- The grant is for the request. -/
structure Matches (request : AccessRequest) (grant : Grant) : Prop where
  principal : grant.principal = request.principal
  action : grant.action = request.action
  resource : grant.resource = request.resource
  source : grant.sourceScope.key = request.context.scope.key
  effective : grant.effectiveScope.key = request.scope.key

/-- Every guard of `call` has been passed, and nothing else has happened. -/
def Authorized (actions : List ActionRef) (request : AccessRequest) (call : AuthorizedCall)
    (trace : DispatchTrace α) : Prop :=
  ∃ entered decision checked,
    Active request.context entered ∧ request.action ∈ actions ∧
    decision.effect = .allow ∧ decision.grant = some call.grant ∧ Matches request call.grant ∧
    Unexpired call.grant checked ∧
    call = ⟨request, call.grant, { request.context with scope := call.grant.effectiveScope }⟩ ∧
    trace = entry request.context entered ++ ⟨DispatchOp.authorize request, .ok decision⟩ ::
      clockRead call.grant.expiresAt checked ++ crossing request call.grant

/-- How a failed audit ends: the handler is called for the run, and what is raised is the
audit's error unless the handler raises. -/
inductive AuditFailure (runId : RunId) (failed : ErrorDetail → Event (dispatchInterface α) Raised) :
    Raised → DispatchTrace α → Prop
  | handled (detail : ErrorDetail) : AuditFailure runId failed (.core detail)
      [failed detail, ⟨DispatchOp.handleAuditFailure runId detail, .ok ()⟩]
  | unhandled (detail : ErrorDetail) (raised : Raised) : AuditFailure runId failed raised
      [failed detail, ⟨DispatchOp.handleAuditFailure runId detail, .error raised⟩]

inductive Denial (request : AccessRequest) (decision : PolicyDecision) :
    Raised → DispatchTrace α → Prop
  | denied : Denial request decision
      (deniedBecause decision.reasonCode "authorization_denied" "authorization denied")
      [⟨DispatchOp.authorizationDenied request decision, .ok ()⟩]
  | unaudited {error : Raised} {failure : DispatchTrace α} :
      AuditFailure request.context.runId
        (fun detail => ⟨DispatchOp.authorizationDenied request decision, .error (.core detail)⟩) error
        failure → Denial request decision error failure

/-- How a granted request ends that does not reach its operation. -/
inductive Rejection (request : AccessRequest) (grant : Grant) : Raised → DispatchTrace α → Prop
  | invalid (detail : ErrorDetail) : Rejection request grant (.core detail) []
  | expired {error : Raised} {denial : DispatchTrace α} (checked : DateTime) :
      Denial request (.deny "grant_expired") error denial →
      Rejection request grant error (clockRead grant.expiresAt checked ++ denial)
  | uncrossed {error : Raised} {failure : DispatchTrace α} (checked : DateTime) :
      Unexpired grant checked →
      AuditFailure request.context.runId
        (fun detail => ⟨DispatchOp.crossScopeGranted request grant, .error (.core detail)⟩) error failure →
      Rejection request grant error (clockRead grant.expiresAt checked ++ failure)

/-- How a dispatch ends that does not reach its operation. -/
inductive Refusal (actions : List ActionRef) (governed : Bool) (request : AccessRequest) :
    Raised → DispatchTrace α → Prop
  | cancelled : Refusal actions governed request callCancelled
      [⟨DispatchOp.cancelled request.context.cancellation, .ok true⟩]
  | late (entered : DateTime) : ¬ Active request.context entered →
      Refusal actions governed request deadlineExceeded (entry request.context entered)
  | unknown {error : Raised} {denial : DispatchTrace α} (entered : DateTime) :
      request.action ∉ actions → Denial request (.deny "unknown_action") error denial →
      Refusal actions governed request error (entry request.context entered ++ denial)
  | ungoverned {error : Raised} {denial : DispatchTrace α} (entered : DateTime) :
      request.action ∈ actions → governed = false →
      Denial request (.indeterminate "policy_missing") error denial →
      Refusal actions governed request error (entry request.context entered ++ denial)
  | undecided (entered : DateTime) (detail : ErrorDetail) :
      request.action ∈ actions → governed = true →
      Refusal actions governed request (.core detail)
        (entry request.context entered ++ [⟨DispatchOp.authorize request, .error (.core detail)⟩])
  | notAllowed {error : Raised} {denial : DispatchTrace α} (entered : DateTime)
      (decision : PolicyDecision) : request.action ∈ actions → governed = true →
      decision.effect ≠ .allow → Denial request decision error denial →
      Refusal actions governed request error
        (entry request.context entered ++ ⟨DispatchOp.authorize request, .ok decision⟩ :: denial)
  | rejected {error : Raised} {rejection : DispatchTrace α} (entered : DateTime)
      (decision : PolicyDecision) (grant : Grant) : request.action ∈ actions → governed = true →
      decision.grant = some grant → Rejection request grant error rejection →
      Refusal actions governed request error
        (entry request.context entered ++ ⟨DispatchOp.authorize request, .ok decision⟩ :: rejection)

/-- What has to hold of the trace at the operation. -/
def Guarded (actions : List ActionRef) (request : AccessRequest) :
    (op : DispatchOp) → DispatchTrace α → Prop
  | .operation call, trace => Authorized actions request call trace
  | _, _ => True

section Runs

variable {β : Type} {actions : List ActionRef} {governed : Bool} {request : AccessRequest}
  {post : Except Raised β → DispatchTrace α → Prop} {before : DispatchTrace α}

/-- A coroutine of a dispatch, run from the events `trace`. -/
abbrev Runs (actions : List ActionRef) (request : AccessRequest)
    (program : Program (dispatchInterface α) Raised β)
    (post : Except Raised β → DispatchTrace α → Prop) (trace : DispatchTrace α) : Prop :=
  program.Safe (recording answers) (.traced (Guarded actions request)) post trace

/-- An operation answers or raises, and the coroutine goes on from its trace. -/
theorem runs_next {op : DispatchOp} {rest : op.Answer α → Program (dispatchInterface α) Raised β}
    (guarded : Guarded actions request op before)
    (returns : ∀ answer : op.Answer α, @answers α op (.ok answer) →
      Runs actions request (rest answer) post (before ++ [⟨op, .ok answer⟩]))
    (raises : ∀ error, @answers α op (.error error) →
      post (.error error) (before ++ [⟨op, .error error⟩])) :
    Runs actions request (dispatchOp op >>= rest) post before := by
  have performed : Runs actions request (dispatchOp op) (fun outcome trace =>
      answers op outcome ∧ trace = before ++ [⟨op, outcome⟩]) before :=
    safe_perform_traced guarded fun outcome answered => ⟨answered, rfl⟩
  refine Safe.andThen performed ?_
  rintro outcome _ ⟨answered, rfl⟩
  cases outcome with
  | ok answer => exact returns answer answered
  | error error => exact raises error answered

theorem no_error {γ : Type} {error : Raised} {motive : Prop}
    (answered : ∃ value : γ, (Except.error error : Except Raised γ) = .ok value) : motive := by
  obtain ⟨_, impossible⟩ := answered
  cases impossible

/-- Where a part of the dispatch ends: `held` if it lets the dispatch go on. -/
def Part (actions : List ActionRef) (governed : Bool) (request : AccessRequest)
    (held : β → DispatchTrace α → Prop) : Except Raised β → DispatchTrace α → Prop
  | .ok value, trace => held value trace
  | .error error, trace => Refusal actions governed request error trace

theorem runs_checkActive :
    Runs actions request request.context.checkActive
      (Part actions governed request fun _ trace => ∃ entered, Active request.context entered ∧
        trace = entry request.context entered) ([] : DispatchTrace α) := by
  refine runs_next trivial (fun isCancelled _ => ?_) fun error raised => no_error raised
  cases isCancelled with
  | true => exact .cancelled
  | false =>
    simp only [Bool.false_eq_true, if_false]
    cases bound : request.context.deadline with
    | none => exact ⟨default, by simp [Active, bound], by simp [entry, clockRead, bound]⟩
    | some deadline =>
      refine runs_next trivial (fun time _ => ?_) fun error raised => no_error raised
      have read : (entry request.context time : DispatchTrace α) =
          [⟨DispatchOp.cancelled request.context.cancellation, .ok false⟩, ⟨DispatchOp.now, .ok time⟩] := by
        simp [entry, clockRead, bound]
      split
      · rename_i expired
        have refused : Refusal actions governed request deadlineExceeded
            (entry request.context time : DispatchTrace α) :=
          .late time fun active => Nat.not_le_of_lt (active deadline bound) expired
        rwa [read] at refused
      · rename_i notExpired
        refine ⟨time, fun own given => ?_, read.symm⟩
        obtain rfl := Option.some.inj (bound.symm.trans given)
        exact Nat.lt_of_not_le notExpired

/-- An audit returns, or it raises and the handler is called before the dispatch raises. -/
theorem runs_auditOrHandle {audit : Program (dispatchInterface α) Raised Unit} {runId : RunId}
    {failed : ErrorDetail → Event (dispatchInterface α) Raised} {passed : DispatchTrace α}
    (runs : Runs actions request audit (fun outcome trace => (outcome = .ok () ∧ trace = passed) ∨
      ∃ detail, outcome = .error (.core detail) ∧ trace = before ++ [failed detail]) before) :
    Runs actions request (auditOrHandle audit (dispatcherOver α actions governed).handleAuditFailure runId)
      (fun outcome trace => (outcome = .ok () ∧ trace = passed) ∨ ∃ error failure,
        outcome = .error error ∧ AuditFailure runId failed error failure ∧
          trace = before ++ failure) before := by
  refine runs.catching (fun done trace ended => ?_) fun error trace ended => ?_
  · rcases ended with ended | ⟨detail, impossible, -⟩
    · exact .inl ended
    · cases impossible
  · rcases ended with ⟨impossible, -⟩ | ⟨detail, raised, rfl⟩
    · cases impossible
    · obtain rfl := Except.error.inj raised
      refine runs_next trivial (fun _ _ => ?_) fun raised _ => ?_
      · exact .inr ⟨_, _, rfl, .handled detail, by simp⟩
      · exact .inr ⟨_, _, rfl, .unhandled detail raised, by simp⟩

theorem runs_deny {decision : PolicyDecision}
    (refused : ∀ error denial, Denial request decision error denial →
      post (.error error) (before ++ denial)) :
    Runs actions request ((dispatcherOver α actions governed).deny request decision) post before := by
  have audit : Runs actions request ((dispatcherOver α actions governed).authorizationDenied request decision)
      (fun outcome trace => (outcome = .ok () ∧
        trace = before ++ [⟨DispatchOp.authorizationDenied request decision, .ok ()⟩]) ∨
        ∃ detail, outcome = .error (.core detail) ∧
          trace = before ++
            [⟨DispatchOp.authorizationDenied request decision, .error (.core detail)⟩]) before := by
    refine safe_perform_traced trivial fun outcome answered => ?_
    cases outcome with
    | ok done => exact .inl ⟨rfl, rfl⟩
    | error error =>
      obtain ⟨detail, rfl⟩ := answered error rfl
      exact .inr ⟨detail, rfl, rfl⟩
  refine (runs_auditOrHandle audit).bind (fun done trace ended => ?_) fun error trace ended => ?_
  · rcases ended with ⟨-, rfl⟩ | ⟨_, _, impossible, -⟩
    · exact refused _ _ .denied
    · cases impossible
  · rcases ended with ⟨impossible, -⟩ | ⟨_, failure, raised, failed, rfl⟩
    · cases impossible
    · obtain rfl := Except.error.inj raised
      exact refused _ _ (.unaudited failed)

theorem runs_decide {entered : DateTime} :
    Runs actions request ((dispatcherOver α actions governed).decide request)
      (Part actions governed request fun decision trace => request.action ∈ actions ∧
        governed = true ∧ decision.effect = .allow ∧
        trace = entry request.context entered ++ [⟨DispatchOp.authorize request, .ok decision⟩])
      (entry request.context entered) := by
  have known : (actions.any fun action => action == request.action) = true ↔
      request.action ∈ actions := by simp
  unfold AuthorizedDispatcher.decide
  split
  · rename_i unknown
    have missing : request.action ∉ actions := fun found => unknown (known.mpr found)
    exact runs_deny fun error denial ended => .unknown entered missing ended
  · rename_i found
    have registered := known.mp (not_not.mp found)
    cases governed with
    | false =>
      exact runs_deny fun error denial ended => .ungoverned entered registered rfl ended
    | true =>
      refine runs_next trivial (fun decision _ => ?_) fun error answered => ?_
      · split
        · rename_i notAllow
          refine runs_deny fun error denial ended => ?_
          have refused := Refusal.notAllowed entered decision registered rfl notAllow ended
          simpa [Part] using refused
        · rename_i allow
          exact ⟨registered, rfl, not_not.mp allow, rfl⟩
      · obtain ⟨detail, rfl⟩ := answered error rfl
        exact .undecided entered detail registered rfl

theorem validateGrant_ok {grant : Grant} (valid : validateGrant request grant = .ok ()) :
    Matches request grant := by
  unfold validateGrant at valid
  dsimp only at valid
  split at valid
  · cases valid
  · split at valid
    · cases valid
    · split at valid
      · cases valid
      · split at valid
        · cases valid
        · split at valid
          · cases valid
          · rename_i principal action resource source effective
            exact ⟨not_not.mp principal, not_not.mp action, not_not.mp resource,
              not_not.mp source, not_not.mp effective⟩

theorem requireNarrowerThan_core {scope other : ScopeRef} {error : Raised}
    (denied : scope.requireNarrowerThan other = .error error) : ∃ detail, error = .core detail := by
  unfold ScopeRef.requireNarrowerThan at denied
  split at denied
  · cases denied
  · cases denied
    exact ⟨_, rfl⟩

theorem validateGrant_core {grant : Grant} {error : Raised}
    (invalid : validateGrant request grant = .error error) : ∃ detail, error = .core detail := by
  unfold validateGrant at invalid
  dsimp only at invalid
  split at invalid
  · cases invalid
    exact ⟨_, rfl⟩
  · split at invalid
    · cases invalid
      exact ⟨_, rfl⟩
    · split at invalid
      · cases invalid
        exact ⟨_, rfl⟩
      · split at invalid
        · cases invalid
          exact ⟨_, rfl⟩
        · split at invalid
          · cases invalid
            exact ⟨_, rfl⟩
          · split at invalid
            · exact requireNarrowerThan_core invalid
            · cases invalid
theorem runs_expired {grant : Grant} :
    Runs actions request (expired grant) (fun outcome trace => ∃ isExpired checked,
      outcome = .ok isExpired ∧ trace = before ++ clockRead grant.expiresAt checked ∧
      (isExpired = false → Unexpired grant checked)) before := by
  unfold expired
  cases bound : grant.expiresAt with
  | none => exact ⟨false, default, rfl, by simp [clockRead], fun _ => by simp [Unexpired, bound]⟩
  | some expiry =>
    refine runs_next trivial (fun time _ => ?_) fun error raised => no_error raised
    refine ⟨_, time, rfl, rfl, fun current own given => ?_⟩
    obtain rfl := Option.some.inj (bound.symm.trans given)
    exact Nat.lt_of_not_le (of_decide_eq_false current)

theorem runs_denyExpired {grant : Grant} :
    Runs actions request ((dispatcherOver α actions governed).denyExpired request grant)
      (fun outcome trace => ∃ checked, match outcome with
        | .ok _ => Unexpired grant checked ∧ trace = before ++ clockRead grant.expiresAt checked
        | .error error => ∃ denial, Denial request (.deny "grant_expired") error denial ∧
          trace = before ++ clockRead grant.expiresAt checked ++ denial) before := by
  refine runs_expired.bind (fun isExpired trace checked => ?_) fun error trace checked => ?_
  · obtain ⟨_, checked, found, rfl, current⟩ := checked
    obtain rfl := Except.ok.inj found
    cases isExpired with
    | true => exact runs_deny fun error denial ended => ⟨checked, denial, ended, rfl⟩
    | false => exact ⟨checked, current rfl, rfl⟩
  · obtain ⟨_, _, impossible, -⟩ := checked
    cases impossible

theorem runs_auditCrossScope {grant : Grant} :
    Runs actions request ((dispatcherOver α actions governed).auditCrossScope request grant)
      (fun outcome trace => match outcome with
        | .ok _ => trace = before ++ crossing request grant
        | .error error => ∃ failure, AuditFailure request.context.runId
            (fun detail => ⟨DispatchOp.crossScopeGranted request grant, .error (.core detail)⟩)
            error failure ∧ trace = before ++ failure) before := by
  unfold auditCrossScope
  split
  · rename_i cross
    have audit : Runs actions request ((dispatcherOver α actions governed).crossScopeGranted request grant)
        (fun outcome trace => (outcome = .ok () ∧
          trace = before ++ [⟨DispatchOp.crossScopeGranted request grant, .ok ()⟩]) ∨
          ∃ detail, outcome = .error (.core detail) ∧
            trace = before ++
              [⟨DispatchOp.crossScopeGranted request grant, .error (.core detail)⟩]) before := by
      refine safe_perform_traced trivial fun outcome answered => ?_
      cases outcome with
      | ok done => exact .inl ⟨rfl, rfl⟩
      | error error =>
        obtain ⟨detail, rfl⟩ := answered error rfl
        exact .inr ⟨detail, rfl, rfl⟩
    refine (runs_auditOrHandle audit).mono fun outcome trace ended => ?_
    rcases ended with ⟨rfl, rfl⟩ | ⟨error, failure, rfl, failed, rfl⟩
    · simp [crossing, cross]
    · exact ⟨failure, failed, rfl⟩
  · rename_i within
    simp [crossing, within]

/-- A dispatch ends with the outcome of its operation, or refuses. -/
def Concluded (actions : List ActionRef) (governed : Bool) (request : AccessRequest)
    (outcome : Except Raised α) (trace : DispatchTrace α) : Prop :=
  (∃ before call, trace = before ++ [⟨DispatchOp.operation call, outcome⟩]) ∨
    ∃ error, outcome = .error error ∧ Refusal actions governed request error trace

theorem runs_dispatch :
    Runs actions request ((dispatcherOver α actions governed).dispatch request fun call => dispatchOp (.operation call))
      (Concluded actions governed request) ([] : DispatchTrace α) := by
  unfold dispatch
  refine runs_checkActive.bind (fun _ trace entered => ?_) fun error trace refused =>
    .inr ⟨error, rfl, refused⟩
  obtain ⟨entered, active, rfl⟩ := entered
  refine runs_decide.bind (fun decision trace decided => ?_) fun error trace refused =>
    .inr ⟨error, rfl, refused⟩
  obtain ⟨registered, hasPolicy, allow, rfl⟩ := decided
  split
  · rename_i missing
    have given := decision.valid.1.mp allow
    simp [missing] at given
  · rename_i grant granted
    have rejects : ∀ {error} {rejection : DispatchTrace α}, Rejection request grant error rejection →
        Concluded actions governed request (.error error) (entry request.context entered ++
          [⟨DispatchOp.authorize request, .ok decision⟩] ++ rejection) := by
      intro error rejection rejected
      have refused := Refusal.rejected entered decision grant registered hasPolicy granted rejected
      exact .inr ⟨error, rfl, by simpa using refused⟩
    cases valid : validateGrant request grant with
    | error error =>
      obtain ⟨detail, rfl⟩ := validateGrant_core valid
      have refused := rejects (.invalid detail)
      rw [List.append_nil] at refused
      exact refused
    | ok done =>
      refine runs_denyExpired.bind (fun _ trace checked => ?_) fun error trace ended => ?_
      · obtain ⟨checked, current, rfl⟩ := checked
        refine runs_auditCrossScope.bind (fun _ trace audited => ?_) fun error trace ended => ?_
        · dsimp only at audited
          subst audited
          refine safe_perform_traced ?_ fun outcome _ => .inl ⟨_, _, rfl⟩
          refine ⟨entered, decision, checked, active, registered, allow, granted,
            validateGrant_ok valid, current, rfl, by simp⟩
        · obtain ⟨failure, failed, rfl⟩ := ended
          have refused := rejects (.uncrossed checked current failed)
          simpa using refused
      · obtain ⟨checked, denial, ended, rfl⟩ := ended
        have refused := rejects (.expired checked ended)
        simpa using refused

end Runs

/-- The trace starts with the reads of an active context. -/
def Entered (context : RuntimeCallContext) (trace : DispatchTrace α) : Prop :=
  ∃ entered rest, Active context entered ∧ trace = entry context entered ++ rest

def Attempted (request : AccessRequest) (decision : PolicyDecision) (trace : DispatchTrace α) :
    Prop :=
  ∃ outcome, ⟨DispatchOp.authorizationDenied request decision, outcome⟩ ∈ trace

def failedAudit : Event (dispatchInterface α) Raised → Option ErrorDetail
  | ⟨DispatchOp.authorizationDenied _ _, .error (.core detail)⟩ => some detail
  | ⟨DispatchOp.crossScopeGranted _ _, .error (.core detail)⟩ => some detail
  | _ => none

/-- The handler is called for the run right after each failed audit. -/
def Handled (runId : RunId) : DispatchTrace α → Prop
  | [] => True
  | event :: rest =>
    (∀ detail, failedAudit event = some detail → ∃ outcome later,
      rest = ⟨DispatchOp.handleAuditFailure runId detail, outcome⟩ :: later) ∧ Handled runId rest

def isOperation : Event (dispatchInterface α) Raised → Bool
  | ⟨DispatchOp.operation _, _⟩ => true
  | _ => false

/-- What a dispatch that refuses has done. -/
structure Refused (actions : List ActionRef) (governed : Bool) (request : AccessRequest)
    (error : Raised) (trace : DispatchTrace α) : Prop where
  uninvoked : trace.countP isOperation = 0
  raised : (∃ detail, error = .core detail) ∨ ∃ runId detail,
    ⟨DispatchOp.handleAuditFailure runId detail, .error error⟩ ∈ trace
  unknown : Entered request.context trace → request.action ∉ actions →
    Attempted request (.deny "unknown_action") trace
  ungoverned : Entered request.context trace → request.action ∈ actions → governed = false →
    Attempted request (.indeterminate "policy_missing") trace
  notAllowed : ∀ decision, ⟨DispatchOp.authorize request, .ok decision⟩ ∈ trace →
    decision.effect ≠ .allow → Attempted request decision trace
  expired : ∀ before decision after grant checked,
    trace = before ++ ⟨DispatchOp.authorize request, .ok decision⟩ :: after →
    decision.grant = some grant → ⟨DispatchOp.now, .ok checked⟩ ∈ after →
    ¬ Unexpired grant checked → Attempted request (.deny "grant_expired") trace
  handled : Handled request.context.runId trace

/-- What every way to refuse has in common. -/
structure Ended (runId : RunId) (error : Raised) (events : DispatchTrace α) : Prop where
  uninvoked : events.countP isOperation = 0
  raised : (∃ detail, error = .core detail) ∨ ∃ runId detail,
    ⟨DispatchOp.handleAuditFailure runId detail, .error error⟩ ∈ events
  handled : Handled runId events

section Endings

variable {request : AccessRequest} {decision : PolicyDecision} {grant : Grant} {runId : RunId}
  {error : Raised} {events rest : DispatchTrace α} {context : RuntimeCallContext} {time : DateTime}

theorem deniedBecause_core (reasonCode : Option String) (fallback message : String)
    (given : fallback ≠ "" ∧ message ≠ "") :
    ∃ detail, deniedBecause reasonCode fallback message given = .core detail := by
  unfold deniedBecause
  split
  · exact ⟨_, rfl⟩
  · split
    · exact ⟨_, rfl⟩
    · exact ⟨_, rfl⟩

theorem AuditFailure.deniedEnded
    (failure : AuditFailure runId (fun detail =>
      ⟨DispatchOp.authorizationDenied request decision, .error (.core detail)⟩) error events) :
    Ended runId error events := by
  cases failure with
  | handled detail => constructor <;> simp [isOperation, Handled, failedAudit]
  | unhandled detail raised => constructor <;> simp [isOperation, Handled, failedAudit]

theorem AuditFailure.grantedEnded
    (failure : AuditFailure runId (fun detail =>
      ⟨DispatchOp.crossScopeGranted request grant, .error (.core detail)⟩) error events) :
    Ended runId error events := by
  cases failure with
  | handled detail => constructor <;> simp [isOperation, Handled, failedAudit]
  | unhandled detail raised => constructor <;> simp [isOperation, Handled, failedAudit]

theorem Denial.ended (denial : Denial request decision error events) :
    Ended request.context.runId error events := by
  cases denial with
  | denied =>
    have core := deniedBecause_core decision.reasonCode "authorization_denied"
      "authorization denied" (by decide)
    constructor <;> simp [isOperation, Handled, failedAudit, core]
  | unaudited failure => exact failure.deniedEnded

theorem Denial.attempted (denial : Denial request decision error events) :
    Attempted request decision events := by
  cases denial with
  | denied => exact ⟨_, List.mem_cons_self⟩
  | unaudited failure => cases failure <;> exact ⟨_, List.mem_cons_self⟩

theorem Attempted.after (attempted : Attempted request decision rest)
    (before : DispatchTrace α) : Attempted request decision (before ++ rest) := by
  obtain ⟨outcome, found⟩ := attempted
  exact ⟨outcome, List.mem_append_right _ found⟩

theorem Ended.after {event : Event (dispatchInterface α) Raised}
    (ended : Ended runId error events) (quiet : isOperation event = false)
    (passed : failedAudit event = none) : Ended runId error (event :: events) where
  uninvoked := by simp [quiet, ended.uninvoked]
  raised := ended.raised.imp_right fun ⟨runId, detail, found⟩ =>
    ⟨runId, detail, List.mem_cons_of_mem _ found⟩
  handled := ⟨by simp [passed], ended.handled⟩

theorem Ended.afterRead {β : Type} (bound : Option β) (time : DateTime)
    (ended : Ended runId error events) : Ended runId error (clockRead bound time ++ events) := by
  cases bound with
  | none => exact ended
  | some _ => exact ended.after rfl rfl

theorem Ended.afterEntry (ended : Ended runId error events) :
    Ended runId error (entry context time ++ events) :=
  (ended.afterRead context.deadline time).after rfl rfl

theorem Rejection.ended (rejection : Rejection request grant error events) :
    Ended request.context.runId error events := by
  cases rejection with
  | invalid detail => constructor <;> simp [Handled]
  | expired checked denial => exact denial.ended.afterRead _ _
  | uncrossed checked unexpired failure => exact failure.grantedEnded.afterRead _ _

theorem Denial.unread (denial : Denial request decision error events)
    {outcome : Except Raised DateTime} : ⟨DispatchOp.now, outcome⟩ ∉ events := by
  cases denial with
  | denied => simp
  | unaudited failure => cases failure <;> simp

theorem Denial.undecided (denial : Denial request decision error events)
    {outcome : Except Raised PolicyDecision} : ⟨DispatchOp.authorize request, outcome⟩ ∉ events := by
  cases denial with
  | denied => simp
  | unaudited failure => cases failure <;> simp

theorem undecided_clockRead {β : Type} {bound : Option β} {outcome : Except Raised PolicyDecision} :
    ⟨DispatchOp.authorize request, outcome⟩ ∉ (clockRead bound time : DispatchTrace α) := by
  cases bound <;> simp [clockRead]

theorem undecided_entry {outcome : Except Raised PolicyDecision} :
    ⟨DispatchOp.authorize request, outcome⟩ ∉ (entry context time : DispatchTrace α) := by
  intro found
  rcases List.mem_cons.mp found with same | found
  · cases same
  · exact undecided_clockRead found

theorem AuditFailure.undecided (failure : AuditFailure runId (fun detail =>
      ⟨DispatchOp.crossScopeGranted request grant, .error (.core detail)⟩) error events)
    {outcome : Except Raised PolicyDecision} : ⟨DispatchOp.authorize request, outcome⟩ ∉ events := by
  cases failure <;> simp

theorem Rejection.undecided (rejection : Rejection request grant error events)
    {outcome : Except Raised PolicyDecision} : ⟨DispatchOp.authorize request, outcome⟩ ∉ events := by
  intro found
  cases rejection with
  | invalid detail => simp at found
  | expired checked denial =>
    exact (List.mem_append.mp found).elim undecided_clockRead denial.undecided
  | uncrossed checked unexpired failure =>
    exact (List.mem_append.mp found).elim undecided_clockRead failure.undecided

theorem Rejection.attempted (rejection : Rejection request grant error events)
    (read : ⟨DispatchOp.now, .ok time⟩ ∈ events) (expired : ¬ Unexpired grant time) :
    Attempted request (.deny "grant_expired") events := by
  cases rejection with
  | invalid detail => simp at read
  | expired checked denial => exact denial.attempted.after _
  | uncrossed checked unexpired failure =>
    have same : time = checked := by
      cases bound : grant.expiresAt with
      | none => exact absurd (fun _ => by simp [bound]) expired
      | some expiry => cases failure <;> simpa [clockRead, bound] using read
    exact absurd (same ▸ unexpired) expired

theorem entered_unique {entered : DateTime} (active : ¬ Active context entered) :
    ¬ Entered context (entry context entered : DispatchTrace α) := by
  rintro ⟨other, rest, current, same⟩
  cases bound : context.deadline with
  | none => exact active (by simp [Active, bound])
  | some deadline =>
    simp only [entry, clockRead, bound, List.cons_append, List.nil_append] at same
    obtain ⟨found, -⟩ := List.cons.inj (List.cons.inj same).2
    obtain rfl : entered = other := by simpa using found
    exact active current

theorem Refusal.ended {actions : List ActionRef} {governed : Bool}
    (refusal : Refusal actions governed request error events) :
    Ended request.context.runId error events := by
  cases refusal with
  | cancelled => constructor <;> simp [isOperation, Handled, failedAudit, callCancelled, coreError]
  | late entered _ =>
    have alone : Ended request.context.runId deadlineExceeded ([] : DispatchTrace α) := by
      constructor <;> simp [Handled, deadlineExceeded, retryableError]
    simpa using alone.afterEntry
  | unknown entered _ denial => exact denial.ended.afterEntry
  | ungoverned entered _ _ denial => exact denial.ended.afterEntry
  | undecided entered detail _ _ =>
    have alone : Ended request.context.runId (.core detail) ([] : DispatchTrace α) := by
      constructor <;> simp [Handled]
    exact (alone.after rfl rfl).afterEntry
  | notAllowed entered decision _ _ _ denial => exact (denial.ended.after rfl rfl).afterEntry
  | rejected entered decision grant _ _ _ rejection =>
    exact (rejection.ended.after rfl rfl).afterEntry

/-- A decision in the trace of a refusal was not to allow, or its grant was rejected. -/
theorem Refusal.decided {actions : List ActionRef} {governed : Bool} {before after : DispatchTrace α}
    (refusal : Refusal actions governed request error
      (before ++ ⟨DispatchOp.authorize request, .ok decision⟩ :: after)) :
    (decision.effect ≠ .allow ∧ Denial request decision error after) ∨
      ∃ grant, decision.grant = some grant ∧ Rejection request grant error after := by
  generalize whole : before ++ ⟨DispatchOp.authorize request, .ok decision⟩ :: after = trace
    at refusal
  have found : ⟨DispatchOp.authorize request, .ok decision⟩ ∈ trace := by simp [← whole]
  cases refusal with
  | cancelled => simp at found
  | late entered _ => exact absurd found undecided_entry
  | unknown entered _ denial =>
    exact ((List.mem_append.mp found).elim undecided_entry denial.undecided).elim
  | ungoverned entered _ _ denial =>
    exact ((List.mem_append.mp found).elim undecided_entry denial.undecided).elim
  | undecided entered detail _ _ =>
    rcases List.mem_append.mp found with found | found
    · exact absurd found undecided_entry
    · simp at found
  | notAllowed entered other _ _ notAllow denial =>
    obtain ⟨-, same, rfl⟩ :=
      (List.append_cons_inj_of_notMem undecided_entry denial.undecided).mp whole.symm
    obtain rfl : other = decision := by simpa using same
    exact .inl ⟨notAllow, denial⟩
  | rejected entered other grant _ _ granted rejection =>
    obtain ⟨-, same, rfl⟩ :=
      (List.append_cons_inj_of_notMem undecided_entry rejection.undecided).mp whole.symm
    obtain rfl : other = decision := by simpa using same
    exact .inr ⟨grant, granted, rejection⟩

theorem Refusal.refused {actions : List ActionRef} {governed : Bool}
    (refusal : Refusal actions governed request error events) :
    Refused actions governed request error events where
  uninvoked := refusal.ended.uninvoked
  raised := refusal.ended.raised
  handled := refusal.ended.handled
  unknown entered missing := by
    cases refusal with
    | cancelled =>
      obtain ⟨_, _, _, impossible⟩ := entered
      simp [entry] at impossible
    | late _ late => exact absurd entered (entered_unique late)
    | unknown _ _ denial => exact denial.attempted.after _
    | ungoverned _ registered _ _ => exact absurd registered missing
    | undecided _ _ registered _ => exact absurd registered missing
    | notAllowed _ _ registered _ _ _ => exact absurd registered missing
    | rejected _ _ _ registered _ _ _ => exact absurd registered missing
  ungoverned entered registered noPolicy := by
    cases refusal with
    | cancelled =>
      obtain ⟨_, _, _, impossible⟩ := entered
      simp [entry] at impossible
    | late _ late => exact absurd entered (entered_unique late)
    | unknown _ missing _ => exact absurd registered missing
    | ungoverned _ _ _ denial => exact denial.attempted.after _
    | undecided _ _ _ hasPolicy => simp [hasPolicy] at noPolicy
    | notAllowed _ _ _ hasPolicy _ _ => simp [hasPolicy] at noPolicy
    | rejected _ _ _ _ hasPolicy _ _ => simp [hasPolicy] at noPolicy
  notAllowed decision found notAllow := by
    obtain ⟨before, after, rfl⟩ := List.append_of_mem found
    rcases refusal.decided with ⟨-, denial⟩ | ⟨grant, granted, -⟩
    · exact (denial.attempted.after [_]).after before
    · exact absurd (decision.valid.1.mpr (by simp [granted])) notAllow
  expired before decision after grant checked split granted read expired := by
    subst split
    rcases refusal.decided with ⟨-, denial⟩ | ⟨other, held, rejection⟩
    · exact absurd read denial.unread
    · obtain rfl := Option.some.inj (granted.symm.trans held)
      exact ((rejection.attempted read expired).after [_]).after before

end Endings

theorem Authorized.uninvoked {actions : List ActionRef} {request : AccessRequest}
    {call : AuthorizedCall} {trace : DispatchTrace α}
    (authorized : Authorized actions request call trace) : trace.countP isOperation = 0 := by
  obtain ⟨entered, decision, checked, -, -, -, -, -, -, -, rfl⟩ := authorized
  have crossed : (crossing request call.grant : DispatchTrace α).countP isOperation = 0 := by
    unfold crossing
    split <;> rfl
  have read : ∀ {β : Type} (bound : Option β) time,
      (clockRead bound time : DispatchTrace α).countP isOperation = 0 := by
    intro β bound time
    cases bound <;> rfl
  have cancelled : isOperation (α := α) ⟨DispatchOp.cancelled request.context.cancellation, .ok false⟩ = false := rfl
  have authorized : isOperation (α := α) ⟨DispatchOp.authorize request, .ok decision⟩ = false := rfl
  rw [List.countP_append, List.countP_append, List.countP_cons, entry, List.countP_cons, read, read, crossed]
  simp [cancelled, authorized]

/-- A dispatch of `request`, run from its start to any of its suspensions or to its end. The
operation is invoked at most once, with every guard passed; a dispatch that returns has
returned the operation's result, and one that raises without it has refused. -/
theorem dispatch_authorized (actions : List ActionRef) (governed : Bool) (request : AccessRequest)
    (program : Program (dispatchInterface α) Raised α) (trace : DispatchTrace α)
    (steps : Steps (recording answers) α ((dispatcherOver α actions governed).dispatch request fun call =>
      dispatchOp (.operation call), []) (program, trace)) :
    (∀ before call outcome after, trace = before ++ ⟨DispatchOp.operation call, outcome⟩ :: after →
      Authorized actions request call before) ∧
    trace.countP isOperation ≤ 1 ∧
    (∀ value, program = .ret value →
      ∃ before call, trace = before ++ [⟨DispatchOp.operation call, .ok value⟩]) ∧
    (∀ error, program = .raise error →
      (∃ before call, trace = before ++ [⟨DispatchOp.operation call, .error error⟩]) ∨
        Refused actions governed request error trace) := by
  have safe : Runs actions request ((dispatcherOver α actions governed).dispatch request fun call =>
    dispatchOp (.operation call)) (Concluded actions governed request) [] := runs_dispatch
  obtain ⟨ends, added, recorded, needs⟩ := safe.traced steps
  obtain rfl : trace = added := recorded
  have guarded : ∀ before call outcome after,
      trace = before ++ ⟨DispatchOp.operation call, outcome⟩ :: after →
      Authorized actions request call before :=
    fun before call outcome after split => (needs before _ after split).1
  refine ⟨guarded, ?_, ?_, ?_⟩
  · refine countP_le_one fun before event after split found => ?_
    obtain ⟨op, outcome⟩ := event
    cases op with
    | operation call => exact (guarded before call outcome after split).uninvoked
    | _ => simp [isOperation] at found
  · rintro value rfl
    rcases ends with returned | ⟨_, impossible, -⟩
    · exact returned
    · cases impossible
  · rintro error rfl
    rcases ends with raised | ⟨_, same, refusal⟩
    · exact .inl raised
    · obtain rfl := Except.error.inj same
      exact .inr refusal.refused

section Sample

open SampleParameters

def sampleAction : ActionRef := ⟨"core", "checkpoint.save", "1", by decide⟩

def sampleRequest : AccessRequest where
  principal := samplePrincipal
  action := sampleAction
  resource := ⟨"core", "checkpoint", ⟨"checkpoint-1", by decide⟩, none, by decide⟩
  scope := sampleScope
  context := sampleContext
  constraints := []

def sampleGrant : Grant where
  principal := samplePrincipal
  action := sampleAction
  resource := sampleRequest.resource
  sourceScope := sampleScope
  effectiveScope := sampleScope
  constraints := []
  issuedAt := sampleTime
  expiresAt := none
  policyVersion := "1"
  auditCorrelation := "audit-1"
  valid := unexpiring

def sampleCall : AuthorizedCall := ⟨sampleRequest, sampleGrant, sampleContext⟩

/-- A dispatch that the policy allows, with the reads, the decision and the operation it makes. -/
theorem dispatch_authorized_allowed : Authorized [sampleAction] sampleRequest sampleCall
    ([⟨DispatchOp.cancelled sampleContext.cancellation, .ok false⟩,
      ⟨DispatchOp.authorize sampleRequest, .ok (allowing sampleRequest)⟩] : DispatchTrace Unit) := by
  have steps : Steps (recording answers) Unit
      ((dispatcherOver Unit [sampleAction] true).dispatch sampleRequest fun call =>
        dispatchOp (.operation call), [])
      (.ret (), [⟨DispatchOp.cancelled sampleContext.cancellation, .ok false⟩,
        ⟨DispatchOp.authorize sampleRequest, .ok (allowing sampleRequest)⟩,
        ⟨DispatchOp.operation sampleCall, .ok ()⟩]) := by
    refine .next (.ok false) ⟨false, rfl⟩ rfl ?_
    refine .next (.ok (allowing sampleRequest)) nofun rfl ?_
    refine .next (.ok ()) trivial rfl ?_
    exact .refl
  exact (dispatch_authorized _ _ _ _ _ steps).1 [_, _] sampleCall (.ok ()) [] rfl

end Sample

end AuthorizedDispatcher

end CongeriesCore
