import CongeriesCore.AsyncOracle
import CongeriesCore.CheckpointGateway

/-! # The listing calls of a trace

What a coroutine of the services does with the listings of a store: the calls around them list
nothing, and under an oracle that lets them pass an authorized call comes to its operation. -/

namespace CongeriesCore

open AsyncProgram Program

abbrev CoreEvent := Event CoreInterface Raised

abbrev CoreOracle := Oracle CoreInterface Raised

/-- A listing call of a store, with its outcome. -/
abbrev Listing := CheckpointQuery × Except Raised CheckpointPage

def CoreOp.lists : CoreOp → Bool
  | .checkpointList _ _ => true
  | _ => false

def listing? : CoreEvent → Option Listing
  | ⟨.checkpointList query _, outcome⟩ => some (query, outcome)
  | _ => none

/-- The listing calls of a trace, in their order. -/
def listings (trace : List CoreEvent) : List Listing := trace.filterMap listing?

section Silent

variable {trace : List CoreEvent} {held failed : List Listing → Prop} {α : Type}

theorem listings_silent {op : CoreOp} (silent : op.lists = false)
    (outcome : Except Raised op.Answer) :
    listings (trace ++ [⟨op, outcome⟩]) = listings trace := by
  have unlisted : listing? ⟨op, outcome⟩ = none := by
    cases op with
    | checkpointList query context => cases silent
    | _ => rfl
  simp [listings, unlisted]

theorem listings_listed (trace : List CoreEvent) (query : CheckpointQuery) (context : RuntimeCallContext)
    (outcome : Except Raised CheckpointPage) :
    listings (trace ++ [⟨.checkpointList query context, outcome⟩]) =
      listings trace ++ [(query, outcome)] := by
  simp [listings, listing?]

/-- The coroutine is safe whatever its operations answer. -/
abbrev Lists (program : CoreProgram α) (value : α → List Listing → Prop)
    (failed : List Listing → Prop) (trace : List CoreEvent) : Prop :=
  program.Safe (recording fun _ _ => True) (.traced fun _ _ => True)
    (Ends (fun result after => value result (listings after)) (fun after => failed (listings after)))
    trace

/-- The coroutine calls no listing. -/
abbrev Silent (program : CoreProgram α) : Prop := program.Only fun op : CoreOp => op.lists = false

/-- Such a coroutine keeps what is known of the listings. -/
theorem lists_silent {program : CoreProgram α} (silent : Silent program)
    (start : held (listings trace)) (weaken : ∀ listings, held listings → failed listings) :
    Lists program (fun _ => held) failed trace := by
  induction program generalizing trace with
  | ret value => exact start
  | raise error => exact weaken _ start
  | await op resume ih =>
    intro current same _
    have same : trace = current := same
    subst same
    refine ⟨trivial, fun outcome _ => ⟨trivial, trivial, ?_⟩⟩
    apply ih outcome (silent.2 outcome)
    have still : listings (trace ++ [⟨op, outcome⟩]) = listings trace :=
      listings_silent silent.1 outcome
    exact still.symm ▸ start

theorem silent_op {op : CoreOp} (silent : op.lists = false) : Silent (coreOp op) :=
  only_perform.mpr silent

theorem silent_apply (runId : RunId) (version : ℕ) (mutation : Mutation) :
    Silent (RunService.apply runId version mutation) := by
  unfold RunService.apply
  apply Only.bind (silent_op rfl)
  intro previous
  apply Only.bind (silent_op rfl)
  intro now
  apply Only.bind only_ofExcept
  intro transition
  apply only_ite
  · intro _
    exact only_pure
  · intro _
    apply Only.bind (silent_op rfl)
    intro committed
    exact Only.bind (silent_op rfl) fun _ => only_pure

theorem silent_auditFailure (runId : RunId) (detail : ErrorDetail) :
    Silent (handleRunAuditFailure runId detail) := by
  unfold handleRunAuditFailure RunService.handleAuditFailure
  refine Only.bind (Only.bind (silent_op rfl) fun run => ?_) fun _ => only_pure
  apply only_ite
  · intro _
    exact only_pure
  · intro _
    apply only_ite
    · intro _
      exact silent_apply _ _ _
    · intro _
      apply only_ite
      · intro _
        exact only_pure
      · intro _
        exact silent_apply _ _ _

/-- The calls around a capability list nothing. -/
theorem lists_routine (authorization : Authorization)
    (weaken : ∀ listings, held listings → failed listings) :
    Routine (recording fun _ _ => True) (.traced fun _ _ => True) authorization.dispatcher
      (fun trace => held (listings trace)) (fun trace => failed (listings trace))
      (fun trace => failed (listings trace)) where
  cancelled token trace start := lists_silent (silent_op rfl) start weaken
  now trace start := lists_silent (silent_op rfl) start weaken
  authorize policy given request trace start := by
    have awaited : policy = fun request => coreOp (.authorize request) := by
      unfold Authorization.dispatcher at given
      split at given
      · exact (Option.some.inj given).symm
      · cases given
    subst awaited
    exact lists_silent (silent_op rfl) start weaken
  denied request decision trace start := lists_silent (silent_op rfl) start weaken
  granted request grant trace start := lists_silent (silent_op rfl) start weaken
  handle runId detail trace start :=
    lists_silent (silent_auditFailure runId detail) start fun _ kept => kept
  weaken trace start := weaken _ start
  unhandled trace start := start

end Silent

section Oracle

variable {oracle : CoreOracle} {trace : List CoreEvent} {time : DateTime} {α β : Type}

/-- Under the oracle the coroutine ends so, and lists nothing. -/
def Quietly (oracle : CoreOracle) (program : CoreProgram α) (trace : List CoreEvent)
    (outcome : Except Raised α) : Prop :=
  ∃ after, program.answered oracle trace = (outcome, after) ∧ listings after = listings trace

theorem quietly_op {op : CoreOp} {outcome : Except Raised op.Answer} (silent : op.lists = false)
    (answers : oracle trace op = outcome) : Quietly oracle (coreOp op) trace outcome := by
  refine ⟨trace ++ [⟨op, outcome⟩], ?_, listings_silent silent outcome⟩
  have performed : (coreOp op).answered oracle trace =
      (oracle trace op, trace ++ [⟨op, oracle trace op⟩]) := answered_perform
  rw [performed, answers]

theorem quietly_ret {value : α} : Quietly oracle (.ret value) trace (.ok value) :=
  ⟨trace, rfl, rfl⟩

theorem quietly_ofExcept {outcome : Except Raised α} :
    Quietly oracle (.ofExcept outcome) trace outcome :=
  ⟨trace, answered_ofExcept, rfl⟩

theorem Quietly.bind {program : CoreProgram α} {value : α} {continuation : α → CoreProgram β}
    {outcome : Except Raised β} (first : Quietly oracle program trace (.ok value))
    (rest : ∀ after, listings after = listings trace →
      Quietly oracle (continuation value) after outcome) :
    Quietly oracle (program >>= continuation) trace outcome := by
  obtain ⟨middle, ran, same⟩ := first
  obtain ⟨after, later, still⟩ := rest middle same
  exact ⟨after, (Program.answered_bind ran).trans later, still.trans same⟩

theorem Quietly.raises {program : CoreProgram α} {error : Raised}
    {continuation : α → CoreProgram β} (first : Quietly oracle program trace (.error error)) :
    Quietly oracle (program >>= continuation) trace (.error error) := by
  obtain ⟨after, ran, same⟩ := first
  exact ⟨after, answered_bind_error ran, same⟩

theorem Quietly.catching {program : CoreProgram α} {value : α}
    {handler : Raised → CoreProgram α} (first : Quietly oracle program trace (.ok value)) :
    Quietly oracle (program.catching handler) trace (.ok value) := by
  obtain ⟨after, ran, same⟩ := first
  exact ⟨after, answered_catching ran, same⟩

/-- Under the oracle the coroutine raises, and lists nothing. -/
def Refuses (oracle : CoreOracle) (program : CoreProgram α) (trace : List CoreEvent) : Prop :=
  ∃ error, Quietly oracle program trace (.error error)

theorem Quietly.refuses {program : CoreProgram α} {value : α} {continuation : α → CoreProgram β}
    (first : Quietly oracle program trace (.ok value))
    (rest : ∀ after, listings after = listings trace → Refuses oracle (continuation value) after) :
    Refuses oracle (program >>= continuation) trace := by
  obtain ⟨middle, ran, same⟩ := first
  obtain ⟨error, after, later, still⟩ := rest middle same
  exact ⟨error, after, (Program.answered_bind ran).trans later, still.trans same⟩

theorem Refuses.bind {program : CoreProgram α} {continuation : α → CoreProgram β}
    (first : Refuses oracle program trace) : Refuses oracle (program >>= continuation) trace := by
  obtain ⟨error, raised⟩ := first
  exact ⟨error, raised.raises⟩

/-- The oracle lets the calls around a capability pass, all of them at one time. -/
structure Calm (oracle : CoreOracle) (time : DateTime) : Prop where
  cancelled : ∀ trace token, oracle trace (.cancelled token) = .ok false
  now : ∀ trace, oracle trace .now = .ok time
  denied : ∀ trace request decision,
    oracle trace (.authorizationDenied request decision) = .ok ()
  granted : ∀ trace request grant, oracle trace (.crossScopeGranted request grant) = .ok ()

/-- The deadline of a call, if it has one, is not reached. -/
def RuntimeCallContext.ActiveAt (context : RuntimeCallContext) (time : DateTime) : Prop :=
  ∀ deadline ∈ context.deadline, ¬ deadline.at_ ≤ time

theorem quietly_checkActive {context : RuntimeCallContext} (calm : Calm oracle time)
    (active : context.ActiveAt time) :
    Quietly oracle context.checkActive trace (.ok ()) := by
  have asked : Quietly oracle (coreOp (.cancelled context.cancellation)) trace (.ok false) :=
    quietly_op rfl (calm.cancelled trace _)
  apply asked.bind
  intro after _
  rw [if_neg (by decide)]
  cases bound : context.deadline with
  | none => exact quietly_ret
  | some deadline =>
    have read : Quietly oracle (coreOp .now) after (.ok time) := quietly_op rfl (calm.now after)
    apply read.bind
    intro later _
    rw [if_neg (active deadline bound)]
    exact quietly_ret

theorem refuses_checkActive {context : RuntimeCallContext} (calm : Calm oracle time)
    (late : ¬ context.ActiveAt time) : Refuses oracle context.checkActive trace := by
  have asked : Quietly oracle (coreOp (.cancelled context.cancellation)) trace (.ok false) :=
    quietly_op rfl (calm.cancelled trace _)
  unfold RuntimeCallContext.ActiveAt at late
  push Not at late
  obtain ⟨deadline, bound, reached⟩ := late
  have bound : context.deadline = some deadline := bound
  apply asked.refuses
  intro after _
  rw [if_neg (by decide), bound]
  have read : Quietly oracle (coreOp .now) after (.ok time) := quietly_op rfl (calm.now after)
  apply read.refuses
  intro later _
  rw [if_pos reached]
  exact ⟨_, later, rfl, rfl⟩

/-- An operation that an active context awaits. -/
theorem answered_awaitProvider {context : RuntimeCallContext} (operation : CoreProgram α)
    (calm : Calm oracle time) (active : context.ActiveAt time) :
    ∃ before, listings before = listings trace ∧
      ((context.awaitProvider operation).answered oracle trace).1 =
        (operation.answered oracle before).1 ∧
      listings ((context.awaitProvider operation).answered oracle trace).2 =
        listings (operation.answered oracle before).2 := by
  have opened : Quietly oracle context.checkActive trace (.ok ()) :=
    quietly_checkActive calm active
  obtain ⟨before, ran, same⟩ := opened
  refine ⟨before, same, ?_⟩
  have whole : (context.awaitProvider operation).answered oracle trace =
      (do
        let result ← operation
        context.checkActive
        pure result : CoreProgram α).answered oracle before := Program.answered_bind ran
  rw [whole]
  cases result : operation.answered oracle before with
  | mk outcome after =>
    cases outcome with
    | error error =>
      rw [answered_bind_error result]
      exact ⟨rfl, rfl⟩
    | ok value =>
      obtain ⟨last, closed, still⟩ : Quietly oracle context.checkActive after (.ok ()) :=
        quietly_checkActive calm active
      rw [Program.answered_bind result, Program.answered_bind closed]
      exact ⟨rfl, still⟩

/-- The policy's decision on a request is a grant that is good at this time. -/
structure Admits (authorization : Authorization) (request : AccessRequest) (time : DateTime)
    (decision : PolicyDecision) (grant : Grant) : Prop where
  known : request.action ∈ authorization.actions
  governed : authorization.hasPolicy = true
  allowed : decision.effect = .allow
  given : decision.grant = some grant
  valid : AuthorizedDispatcher.validateGrant request grant = .ok ()
  unexpired : ∀ expiry ∈ grant.expiresAt, ¬ expiry ≤ time

variable {authorization : Authorization} {request : AccessRequest} {decision : PolicyDecision}
  {grant : Grant}

theorem refuses_deny (calm : Calm oracle time) (refusal : PolicyDecision) :
    Refuses oracle (authorization.dispatcher.deny request refusal : CoreProgram α) trace := by
  have audited : Quietly oracle (coreOp (.authorizationDenied request refusal)) trace (.ok ()) :=
    quietly_op rfl (calm.denied trace request refusal)
  exact audited.catching.refuses fun after _ => ⟨_, after, rfl, rfl⟩

theorem quietly_expired (calm : Calm oracle time) {past : Bool}
    (late : (∃ expiry ∈ grant.expiresAt, expiry ≤ time) ↔ past = true) :
    Quietly oracle (AuthorizedDispatcher.expired grant) trace (.ok past) := by
  unfold AuthorizedDispatcher.expired
  cases bound : grant.expiresAt with
  | none =>
    rw [bound] at late
    have never : past = false := by simpa using late
    rw [never]
    exact quietly_ret
  | some expiry =>
    have read : Quietly oracle (coreOp .now) trace (.ok time) := quietly_op rfl (calm.now trace)
    apply read.bind
    intro later _
    rw [bound] at late
    have reached : expiry ≤ time ↔ past = true := by simpa using late
    have same : decide (expiry ≤ time) = past := by
      rw [Bool.eq_iff_iff, decide_eq_true_iff]
      exact reached
    rw [same]
    exact quietly_ret

theorem quietly_denyExpired (calm : Calm oracle time)
    (unexpired : ∀ expiry ∈ grant.expiresAt, ¬ expiry ≤ time) :
    Quietly oracle (authorization.dispatcher.denyExpired request grant) trace (.ok ()) := by
  have read : Quietly oracle (AuthorizedDispatcher.expired grant) trace (.ok false) := by
    apply quietly_expired calm
    simpa using unexpired
  exact read.bind fun after _ => quietly_ret

theorem refuses_denyExpired (calm : Calm oracle time)
    (expired : ¬ ∀ expiry ∈ grant.expiresAt, ¬ expiry ≤ time) :
    Refuses oracle (authorization.dispatcher.denyExpired request grant) trace := by
  have read : Quietly oracle (AuthorizedDispatcher.expired grant) trace (.ok true) := by
    apply quietly_expired calm
    simpa using expired
  apply read.refuses
  intro after _
  exact refuses_deny calm _

theorem quietly_auditCrossScope (calm : Calm oracle time) :
    Quietly oracle (authorization.dispatcher.auditCrossScope request grant) trace (.ok ()) := by
  unfold AuthorizedDispatcher.auditCrossScope
  split
  · have audited : Quietly oracle (coreOp (.crossScopeGranted request grant)) trace (.ok ()) :=
      quietly_op rfl (calm.granted trace request grant)
    exact audited.catching
  · exact quietly_ret

theorem asked_policy (known : request.action ∈ authorization.actions)
    (governed : authorization.hasPolicy = true) :
    authorization.dispatcher.decide request =
      (do
        let decision ← coreOp (.authorize request)
        if decision.effect ≠ .allow then authorization.dispatcher.deny request decision
        else pure decision : CoreProgram PolicyDecision) := by
  have found : (authorization.actions.any fun action => action == request.action) = true := by
    simp [known]
  simp [AuthorizedDispatcher.decide, Authorization.dispatcher, found, governed]

theorem quietly_decide (known : request.action ∈ authorization.actions)
    (governed : authorization.hasPolicy = true) (allowed : decision.effect = .allow)
    (decides : oracle trace (.authorize request) = .ok decision) :
    Quietly oracle (authorization.dispatcher.decide request) trace (.ok decision) := by
  have asked : Quietly oracle (coreOp (.authorize request)) trace (.ok decision) :=
    quietly_op rfl decides
  rw [asked_policy known governed]
  apply asked.bind
  intro after _
  rw [if_neg (by simpa using allowed)]
  exact quietly_ret

theorem refuses_decide (calm : Calm oracle time)
    (refused : ¬ (request.action ∈ authorization.actions ∧ authorization.hasPolicy = true ∧
      decision.effect = .allow))
    (decides : oracle trace (.authorize request) = .ok decision) :
    Refuses oracle (authorization.dispatcher.decide request) trace := by
  by_cases known : request.action ∈ authorization.actions
  · by_cases governed : authorization.hasPolicy = true
    · have asked : Quietly oracle (coreOp (.authorize request)) trace (.ok decision) :=
        quietly_op rfl decides
      rw [asked_policy known governed]
      apply asked.refuses
      intro after _
      rw [if_pos fun allowed => refused ⟨known, governed, allowed⟩]
      exact refuses_deny calm decision
    · have policy : authorization.dispatcher.policy = none := if_neg governed
      unfold AuthorizedDispatcher.decide
      rw [policy]
      split
      · exact refuses_deny calm _
      · exact refuses_deny calm _
  · have missing : ¬ (authorization.dispatcher.actions.any
        fun action => action == request.action) = true := by
      simp [Authorization.dispatcher, known]
    unfold AuthorizedDispatcher.decide
    rw [if_pos missing]
    exact refuses_deny calm _

/-- An authorized call comes to its operation under the grant that admits it, or it ends before. -/
theorem answered_dispatch {operation : AuthorizedCall → CoreProgram α} (calm : Calm oracle time)
    (active : request.context.ActiveAt time)
    (decides : ∀ after, listings after = listings trace →
      oracle after (.authorize request) = .ok decision) :
    (∃ grant before, Admits authorization request time decision grant ∧
      listings before = listings trace ∧
      (authorization.dispatcher.dispatch request operation).answered oracle trace =
        (operation ⟨request, grant, { request.context with scope := grant.effectiveScope }⟩).answered
          oracle before) ∨
    (∀ grant, ¬ Admits authorization request time decision grant) ∧
      Refuses oracle (authorization.dispatcher.dispatch request operation) trace := by
  have opened : Quietly oracle request.context.checkActive trace (.ok ()) :=
    quietly_checkActive calm active
  by_cases allowed : request.action ∈ authorization.actions ∧ authorization.hasPolicy = true ∧
      decision.effect = .allow
  · obtain ⟨grant, given⟩ := Option.isSome_iff_exists.mp (decision.valid.1.mp allowed.2.2)
    obtain ⟨entered, entering, same⟩ := opened
    have decided : Quietly oracle (authorization.dispatcher.decide request) entered (.ok decision) :=
      quietly_decide allowed.1 allowed.2.1 allowed.2.2 (decides entered same)
    obtain ⟨asked, asking, still⟩ := decided
    have whole : (authorization.dispatcher.dispatch request operation).answered oracle trace =
        (do
          Program.ofExcept (AuthorizedDispatcher.validateGrant request grant)
          authorization.dispatcher.denyExpired request grant
          authorization.dispatcher.auditCrossScope request grant
          operation ⟨request, grant, { request.context with scope := grant.effectiveScope }⟩ :
          CoreProgram α).answered oracle asked := by
      unfold AuthorizedDispatcher.dispatch
      rw [Program.answered_bind entering, Program.answered_bind asking]
      split
      · rename_i missing
        rw [given] at missing
        cases missing
      · rename_i other found
        rw [given] at found
        cases found
        rfl
    have only : ∀ other, Admits authorization request time decision other → other = grant := by
      intro other admits
      have found := admits.given
      rw [given] at found
      exact (Option.some.inj found).symm
    have refusing : ∀ {rest : CoreProgram α}, Refuses oracle rest asked →
        (authorization.dispatcher.dispatch request operation).answered oracle trace =
          rest.answered oracle asked →
        Refuses oracle (authorization.dispatcher.dispatch request operation) trace := by
      rintro rest ⟨error, after, ran, kept⟩ equal
      exact ⟨error, after, equal.trans ran, kept.trans (still.trans same)⟩
    cases valid : AuthorizedDispatcher.validateGrant request grant with
    | error error =>
      right
      refine ⟨fun other admits => ?_, refusing (Refuses.bind ⟨error, ?_⟩) whole⟩
      · have invalid := admits.valid
        rw [only other admits, valid] at invalid
        cases invalid
      · rw [valid]
        exact quietly_ofExcept
    | ok done =>
      by_cases expired : ∀ expiry ∈ grant.expiresAt, ¬ expiry ≤ time
      · left
        have current : Quietly oracle (authorization.dispatcher.denyExpired request grant) asked
            (.ok ()) := quietly_denyExpired calm expired
        obtain ⟨checked, checking, third⟩ := current
        have crossed : Quietly oracle (authorization.dispatcher.auditCrossScope request grant)
            checked (.ok ()) := quietly_auditCrossScope calm
        obtain ⟨before, crossing, fourth⟩ := crossed
        refine ⟨grant, before, ⟨allowed.1, allowed.2.1, allowed.2.2, given, valid, expired⟩,
          fourth.trans (third.trans (still.trans same)), ?_⟩
        rw [whole, valid]
        exact (Program.answered_bind checking).trans (Program.answered_bind crossing)
      · right
        refine ⟨fun other admits => expired (only other admits ▸ admits.unexpired), ?_⟩
        apply refusing _ whole
        rw [valid]
        exact (refuses_denyExpired calm expired).bind
  · right
    refine ⟨fun grant admits => allowed ⟨admits.known, admits.governed, admits.allowed⟩, ?_⟩
    exact opened.refuses fun after same => (refuses_decide calm allowed (decides after same)).bind

section Gateway

variable [Sha256] {gateway : CheckpointGateway} {query effective : CheckpointQuery}
  {context : RuntimeCallContext}

/-- What becomes of the store's answer. -/
def Passed (effective : CheckpointQuery) :
    Except Raised CheckpointPage → Except Raised CheckpointPage → Prop
  | .ok page, outcome =>
    outcome = (CheckpointGateway.validatePage page effective).map fun _ => page
  | .error _, outcome => ∃ error, outcome = .error error

omit [Sha256] in
/-- An awaited operation answers, or raises an exception of another name. -/
theorem answered_invoke (op : CoreOp) (calm : Calm oracle time) (active : context.ActiveAt time)
    (trace : List CoreEvent) :
    ∃ before after outcome, listings before = listings trace ∧
      (CheckpointGateway.invoke (coreOp op) context).answered oracle trace = (outcome, after) ∧
      listings after = listings (before ++ [⟨op, oracle before op⟩]) ∧
      (∀ value, oracle before op = .ok value → outcome = .ok value) ∧
      ∀ error, oracle before op = .error error → ∃ other, outcome = .error other := by
  obtain ⟨before, same, first, second⟩ : ∃ before, listings before = listings trace ∧ _ :=
    answered_awaitProvider (coreOp op) calm active
  have performed : (coreOp op).answered oracle before =
      (oracle before op, before ++ [⟨op, oracle before op⟩]) := answered_perform
  rw [performed] at first second
  have whole : (CheckpointGateway.invoke (coreOp op) context).answered oracle trace = _ :=
    answered_andThen
  cases ran : (context.awaitProvider (coreOp op)).answered oracle trace with
  | mk outcome after =>
    rw [ran] at first second whole
    have first : outcome = oracle before op := first
    cases outcome with
    | ok value =>
      refine ⟨before, after, .ok value, same, whole, second, ?_, ?_⟩
      · intro other answered
        rw [← first] at answered
        exact answered
      · intro error answered
        rw [← first] at answered
        cases answered
    | error error =>
      have failing : ∃ other, (CheckpointGateway.invoke (coreOp op) context).answered oracle trace =
          (.error other, after) := by
        rw [whole]
        dsimp only
        split
        · exact ⟨_, rfl⟩
        · exact ⟨_, rfl⟩
        · exact ⟨_, rfl⟩
      obtain ⟨other, failed⟩ := failing
      refine ⟨before, after, .error other, same, failed, second, ?_, ?_⟩
      · intro value answered
        rw [← first] at answered
        cases answered
      · intro _ _
        exact ⟨other, rfl⟩

/-- A listing that comes to the store ends with what becomes of the store's answer. -/
theorem answered_listOperation (call : AuthorizedCall) (calm : Calm oracle time)
    (active : call.context.ActiveAt time)
    (constrained : CheckpointGateway.constrainList query call.grant.constraints = .ok effective)
    (provided : gateway.provider = query.providerId) (trace : List CoreEvent) :
    ∃ before after outcome, listings before = listings trace ∧
      (gateway.listOperation query call).answered oracle trace = (outcome, after) ∧
      listings after =
        listings trace ++ [(effective, oracle before (.checkpointList effective call.context))] ∧
      Passed effective (oracle before (.checkpointList effective call.context)) outcome := by
  obtain ⟨before, after, outcome, same, ran, added, returns, raises⟩ :=
    answered_invoke (.checkpointList effective call.context) calm active trace
  have found : gateway.lookupStore query.providerId = .ok () := by
    apply ensure_ok
    simp [provided]
  have whole : (gateway.listOperation query call).answered oracle trace =
      (do
        let result ← CheckpointGateway.invoke
          (coreOp (.checkpointList effective call.context)) call.context
        Program.ofExcept (CheckpointGateway.validatePage result effective)
        return result : CoreProgram CheckpointPage).answered oracle trace := by
    unfold CheckpointGateway.listOperation
    rw [constrained, found]
    rfl
  rw [listings_listed, same] at added
  cases answer : oracle before (.checkpointList effective call.context) with
  | ok page =>
    obtain rfl := returns page answer
    rw [answer] at added
    have passed : (gateway.listOperation query call).answered oracle trace =
        ((CheckpointGateway.validatePage page effective).map fun _ => page, after) := by
      rw [whole, Program.answered_bind ran]
      cases CheckpointGateway.validatePage page effective with
      | ok done => rfl
      | error error => rfl
    refine ⟨before, after, _, same, passed, ?_, ?_⟩
    · rw [answer]
      exact added
    · rw [answer]
      rfl
  | error error =>
    obtain ⟨other, rfl⟩ := raises error answer
    rw [answer] at added
    refine ⟨before, after, .error other, same, ?_, ?_, ?_⟩
    · rw [whole, answered_bind_error ran]
    · rw [answer]
      exact added
    · rw [answer]
      exact ⟨other, rfl⟩

/-- What the gateway asks the policy for a listing. -/
def listRequest (query : CheckpointQuery) (context : RuntimeCallContext) : AccessRequest :=
  CheckpointGateway.request query.providerId checkpointListAction query.scope context
    (CheckpointGateway.listConstraints query)

/-- A listing of the gateway comes to the store, with the query under the grant. -/
structure ListPermits (gateway : CheckpointGateway) (query : CheckpointQuery)
    (context : RuntimeCallContext) (time : DateTime) (decision : PolicyDecision) (grant : Grant)
    (effective : CheckpointQuery) : Prop where
  narrower : query.scope.requireNarrowerThan context.scope = .ok ()
  admits : Admits gateway.authorization (listRequest query context) time decision grant
  constrained : CheckpointGateway.constrainList query grant.constraints = .ok effective
  provided : gateway.provider = query.providerId

omit [Sha256] in
theorem ListPermits.unique {grant other : Grant} {also : CheckpointQuery}
    (permits : ListPermits gateway query context time decision grant effective)
    (permitted : ListPermits gateway query context time decision other also) :
    other = grant ∧ also = effective := by
  have given := permitted.admits.given
  rw [permits.admits.given] at given
  obtain rfl := Option.some.inj given
  have kept := permitted.constrained
  rw [permits.constrained] at kept
  exact ⟨rfl, (Except.ok.inj kept).symm⟩

/-- A listing of the gateway comes to the store under a grant, or it ends before. -/
theorem answered_list (gateway : CheckpointGateway) (calm : Calm oracle time) (active : context.ActiveAt time)
    (decides : ∀ after, listings after = listings trace →
      oracle after (.authorize (listRequest query context)) = .ok decision) :
    (∃ grant effective, ListPermits gateway query context time decision grant effective ∧
      ∃ before after outcome, listings before = listings trace ∧
        (gateway.list query context).answered oracle trace = (outcome, after) ∧
        listings after = listings trace ++ [(effective, oracle before
          (.checkpointList effective { context with scope := grant.effectiveScope }))] ∧
        Passed effective (oracle before
          (.checkpointList effective { context with scope := grant.effectiveScope })) outcome) ∨
    (∀ grant effective, ¬ ListPermits gateway query context time decision grant effective) ∧
      Refuses oracle (gateway.list query context) trace := by
  unfold CheckpointGateway.list
  cases narrower : query.scope.requireNarrowerThan context.scope with
  | error error =>
    right
    refine ⟨fun grant effective permits => ?_, error, trace, rfl, rfl⟩
    have allowed := permits.narrower
    rw [narrower] at allowed
    cases allowed
  | ok done =>
    have current : (listRequest query context).context.ActiveAt time := active
    rcases answered_dispatch calm current decides with
      ⟨grant, entered, admits, still, ran⟩ | ⟨refused, refuses⟩
    · let call : AuthorizedCall :=
        ⟨listRequest query context, grant, { context with scope := grant.effectiveScope }⟩
      have ran : (gateway.authorization.dispatcher.dispatch (listRequest query context)
          (gateway.listOperation query)).answered oracle trace =
          (gateway.listOperation query call).answered oracle entered := ran
      have stopped : ∀ error, gateway.listOperation query call = .raise error →
          Refuses oracle (gateway.authorization.dispatcher.dispatch (listRequest query context)
            (gateway.listOperation query)) trace := by
        intro error raises
        rw [raises] at ran
        exact ⟨error, entered, ran, still⟩
      have only : ∀ other effective,
          ListPermits gateway query context time decision other effective → other = grant := by
        intro other effective permits
        have found := permits.admits.given
        rw [admits.given] at found
        exact (Option.some.inj found).symm
      cases constrained : CheckpointGateway.constrainList query grant.constraints with
      | error error =>
        right
        refine ⟨fun other effective permits => ?_, stopped error ?_⟩
        · have allowed := permits.constrained
          rw [only other effective permits, constrained] at allowed
          cases allowed
        · have failed : CheckpointGateway.constrainList query call.grant.constraints =
              .error error := constrained
          unfold CheckpointGateway.listOperation
          rw [failed]
          rfl
      | ok effective =>
        by_cases provided : gateway.provider = query.providerId
        · left
          obtain ⟨before, after, outcome, same, listed, added, passed⟩ :=
            answered_listOperation call calm active constrained provided entered
          rw [still] at same added
          exact ⟨grant, effective, ⟨narrower, admits, constrained, provided⟩, before, after, outcome,
            same, ran.trans listed, added, passed⟩
        · right
          refine ⟨fun other effective permits => provided permits.provided, ?_⟩
          have missing : gateway.lookupStore query.providerId = .error (retryableError .unavailable
              "checkpoint_store_unavailable" "CheckpointStore provider is not registered") := by
            have unequal : (gateway.provider == query.providerId) = false := by simpa using provided
            unfold CheckpointGateway.lookupStore
            rw [unequal]
            rfl
          apply stopped _
          have allowed : CheckpointGateway.constrainList query call.grant.constraints =
              .ok effective := constrained
          unfold CheckpointGateway.listOperation
          rw [allowed, missing]
          rfl
    · right
      exact ⟨fun grant effective permits => refused grant permits.admits, refuses⟩

theorem refuses_list (gateway : CheckpointGateway) (calm : Calm oracle time)
    (late : ¬ context.ActiveAt time) : Refuses oracle (gateway.list query context) trace := by
  unfold CheckpointGateway.list
  cases query.scope.requireNarrowerThan context.scope with
  | error error => exact ⟨error, trace, rfl, rfl⟩
  | ok done =>
    have closed : Refuses oracle (listRequest query context).context.checkActive trace :=
      refuses_checkActive calm late
    exact closed.bind

end Gateway

end Oracle

end CongeriesCore
