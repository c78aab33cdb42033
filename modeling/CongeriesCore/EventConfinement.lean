import CongeriesCore.EventSystem
import CongeriesCore.SampleParameters

/-! # Sensitivity confinement

What a sink is offered. A publication prepares an event for the sink it is about to offer
it to; a recovery offers what a publication has stored, to the sink that has the entry's
identity by then. -/

namespace CongeriesCore

open AsyncProgram

/-- The event is within the sink's sensitivity and capabilities. -/
def EventSink.Accepts (sink : EventSink) (event : RuntimeEvent) : Prop :=
  (∀ field ∈ event.payload.fields.entries,
    field.2.sensitivity.toNat ≤ sink.capabilities.maximumSensitivity.toNat) ∧
  EventDispatcher.checkCapabilities event sink = .ok ()

theorem EventSink.accepts_redact {sink : EventSink} {event : RuntimeEvent}
    (supported : EventDispatcher.checkCapabilities event sink = .ok ()) :
    sink.Accepts (redact event sink.capabilities.maximumSensitivity) := by
  refine ⟨fun field visible => ?_, supported⟩
  simpa using (List.mem_filter.mp visible).2

namespace EventDispatcher

theorem sinkRequest_fields {sink : EventSink} {event : RuntimeEvent} {context : RuntimeCallContext}
    {principal : RuntimePrincipal} {request : AccessRequest}
    (requested : sinkRequest sink event context principal = .ok request) :
    request.scope = event.scope ∧ request.context = context := by
  obtain ⟨id, -, built⟩ := bind_ok requested
  obtain rfl := Except.ok.inj built
  exact ⟨rfl, rfl⟩

theorem sinkRequest_ok_of_id {sink : EventSink} (event : RuntimeEvent)
    (context : RuntimeCallContext) (principal : RuntimePrincipal)
    (identified : ∃ id, Identifier.make .resource sink.sinkId = .ok id) :
    ∃ request, sinkRequest sink event context principal = .ok request := by
  obtain ⟨id, made⟩ := identified
  exact ⟨_, by simp [sinkRequest, made, bind, Except.bind, pure, Except.pure]; rfl⟩

/-- A sink is authorized by a policy that grants what is requested for it. -/
theorem steps_authorizeSink {σ : Type} {E : Environment EventInterface Raised σ}
    {dispatcher : EventDispatcher} {sink : EventSink} {event : RuntimeEvent}
    {context : RuntimeCallContext} {principal : RuntimePrincipal} {request : AccessRequest}
    {before after : σ} (authorized : dispatcher.authorized = true)
    (requested : sinkRequest sink event context principal = .ok request)
    (unbounded : context.deadline = none)
    (fresh : E.Gives (.cancelled context.cancellation) before (.ok false) before)
    (allowed : E.Gives (.authorize request) before (.ok (SampleParameters.allowing request))
      after) :
    Steps E Unit (dispatcher.authorizeSink sink event context principal, before) (.ret (), after) := by
  obtain ⟨scope, asked⟩ := sinkRequest_fields requested
  refine .given fresh ?_
  simp only [unbounded, authorized, requested]
  refine .given allowed ?_
  change Steps E Unit (if request.principal ≠ request.principal ∨ request.action ≠ request.action ∨
    request.resource ≠ request.resource ∨ request.context.scope.key ≠ context.scope.key ∨
    request.scope.key ≠ event.scope.key then _ else Program.ret (), after) _
  rw [if_neg (by simp [scope, asked])]

end EventDispatcher

/-- The registration that `recover_pending` finds for a sink identity. -/
def EventDispatcher.registered (dispatcher : EventDispatcher) (sinkId : String) :
    Option SinkRegistration :=
  dispatcher.sinks.reverse.find? fun item => item.sink.sinkId == sinkId

/-- A recovery that is allowed to offer the entry's event to its sink does so. -/
structure EventDispatcher.Redelivers (dispatcher : EventDispatcher)
    (pending : PendingAuditDelivery) (sink : EventSink) : Prop where
  registered : ∃ required, dispatcher.registered pending.sinkId = some ⟨sink, required⟩
  authorized : dispatcher.authorized = true
  identified : ∃ id, Identifier.make .resource sink.sinkId = .ok id
  attempts : pending.attempts < dispatcher.policy.auditMaxAttempts

/-- What a dispatcher may find in the outbox when it recovers. -/
abbrev RecoveryCondition := EventDispatcher → List PendingAuditDelivery → Prop

/-- Each entry that is offered again holds an event that the sink registered now accepts. -/
def storedAccepted : RecoveryCondition := fun dispatcher entries =>
  ∀ pending ∈ entries, ∀ sink, dispatcher.Redelivers pending sink → sink.Accepts pending.event

namespace EventConfinement

def permits (condition : RecoveryCondition) (dispatcher : EventDispatcher) :
    (op : EventOp) → op.Choice → EventWorld → Prop
  | .listPending limit, _, world => condition dispatcher (world.ledger.listPending limit)
  | _, _, _ => True

variable [Sha256]

def environment (condition : RecoveryCondition) (dispatcher : EventDispatcher) :
    Environment EventInterface Raised EventWorld where
  Choice := EventOp.Choice
  permits := permits condition dispatcher
  answer := eventAnswer

/-- Publications, observations and recoveries over one outbox, interleaved. Each runs on a
dispatcher of its own: sinks are registered anew from one to the next. -/
def pool (condition : RecoveryCondition) (dispatchers : ℕ → EventDispatcher) :
    Pool EventInterface Raised Unit EventWorld where
  environment thread := environment condition (dispatchers thread)
  initial world := world = .empty
  starts thread before program start := start = before ∧
    ((∃ event context principal, program = (dispatchers thread).publish event context principal) ∨
      (∃ queued, program = (dispatchers thread).publishObservation queued) ∨
      ∃ limit, program = (dispatchers thread).recoverPending limit >>= fun _ => pure ())

/-- A sink is offered only what it accepts. -/
def offered : EventInterface.Op → Prop
  | .deliver sink event _ => sink.Accepts event
  | _ => True

def contract : Contract EventInterface EventWorld where
  invariant _ := True
  rely _ _ := True
  guarantee _ _ := True
  need op := fun _ => offered op

/-- A coroutine that offers sinks only what they accept, and returns `value`. -/
abbrev Safe {α : Type} (condition : RecoveryCondition) (dispatcher : EventDispatcher)
    (program : EventProgram α) (value : α → Prop) (world : EventWorld) : Prop :=
  program.Safe (environment condition dispatcher) contract
    (Ends (fun result _ => value result) fun _ => True) world

theorem safe_of_only {α : Type} {condition : RecoveryCondition} {dispatcher : EventDispatcher}
    {program : EventProgram α} {world : EventWorld} (only : program.Only offered) :
    Safe condition dispatcher program (fun _ => True) world :=
  only.safe (fun op _ offers _ => ⟨offers, fun _ _ => ⟨trivial, trivial⟩⟩) fun outcome _ => by
    cases outcome <;> trivial

section Only

omit [Sha256]

theorem only_op (op : EventOp) (quiet : offered op) : (eventOp op).Only offered :=
  EventDispatcher.only_eventOp quiet

theorem only_authorizeSink (dispatcher : EventDispatcher) (sink : EventSink) (event : RuntimeEvent)
    (context : RuntimeCallContext) (principal : RuntimePrincipal) :
    (dispatcher.authorizeSink sink event context principal).Only offered :=
  @EventDispatcher.only_authorizeSink offered (fun _ => trivial) trivial (fun _ => trivial)
    dispatcher sink event context principal

theorem only_attemptDelivery {event : RuntimeEvent} {context : RuntimeCallContext}
    {sink : EventSink} (accepts : sink.Accepts event) :
    (EventDispatcher.attemptDelivery event context sink).Only offered := by
  refine (only_op (.deliver sink event context) accepts).bind fun acknowledgement => ?_
  cases acknowledgement with
  | none => trivial
  | some acknowledgement =>
    exact (only_op (.markAttempt _ _ _) trivial).bind fun _ => only_op (.acknowledge _) trivial

theorem only_deliverAttempts (dispatcher : EventDispatcher) {event : RuntimeEvent}
    {context : RuntimeCallContext} {sink : EventSink} (attempts : List ℕ)
    (accepts : attempts ≠ [] → sink.Accepts event) (lastError : Option ErrorDetail) :
    (dispatcher.deliverAttempts event context sink attempts lastError).Only offered := by
  induction attempts generalizing lastError with
  | nil => trivial
  | cons attempt attempts ih =>
    have taken := accepts (by simp)
    refine (only_attemptDelivery taken).andThen fun outcome => ?_
    match outcome with
    | .ok () => trivial
    | .error (.core error) =>
      refine (only_op (.markAttempt _ _ _) trivial).bind fun _ => Program.only_ite (fun _ => ?_)
        fun _ => trivial
      have waits : (dispatcher.backoff attempt).Only offered :=
        EventDispatcher.only_backoff (fun _ => trivial) dispatcher attempt
      exact waits.bind fun _ => ih (fun _ => taken) (some error)
    | .error (.value _) | .error (.assertion _) | .error (.key _) | .error (.other _)
    | .error .cancelledError => trivial

theorem only_observeAttempts (dispatcher : EventDispatcher) {event : RuntimeEvent}
    {context : RuntimeCallContext} {sink : EventSink} (accepts : sink.Accepts event)
    (attempts : List ℕ) (lastError : Option ErrorDetail) :
    (dispatcher.observeAttempts event context sink attempts lastError).Only offered := by
  induction attempts generalizing lastError with
  | nil => cases lastError <;> trivial
  | cons attempt attempts ih =>
    refine (only_op (.deliver sink event context) accepts).andThen fun outcome => ?_
    match outcome with
    | .ok _ => trivial
    | .error (.core error) =>
      refine Program.only_ite (fun _ => ?_) fun _ => trivial
      have waits : (dispatcher.backoff attempt).Only offered :=
        EventDispatcher.only_backoff (fun _ => trivial) dispatcher attempt
      exact waits.bind fun _ => ih (some error)
    | .error (.value _) | .error (.assertion _) | .error (.key _) | .error (.other _)
    | .error .cancelledError => trivial

end Only

variable {condition : RecoveryCondition} {dispatcher : EventDispatcher} {world : EventWorld}

theorem safe_prepareForSink (event : RuntimeEvent) (context : RuntimeCallContext)
    (principal : RuntimePrincipal) (sink : EventSink) :
    Safe condition dispatcher (dispatcher.prepareForSink event context principal sink) sink.Accepts
      world := by
  refine Program.safe_guarded trivial fun _ supported => ?_
  have authorized : Safe condition dispatcher (dispatcher.authorizeSink sink event context principal)
      (fun _ => True) world := safe_of_only (only_authorizeSink _ _ _ _ _)
  refine authorized.next fun _ after _ => ?_
  refine Program.safe_guarded trivial fun _ _ => ?_
  exact Program.safe_return (sink.accepts_redact supported)

theorem safe_publishToSink (event : RuntimeEvent) (context : RuntimeCallContext)
    (principal : RuntimePrincipal) (sink : EventSink) :
    Safe condition dispatcher (dispatcher.publishToSink event context principal sink) (fun _ => True)
      world := by
  refine (safe_prepareForSink event context principal sink).next fun prepared after accepts => ?_
  refine safe_of_only ((only_op (.enqueue _ _ _ _) trivial).bind fun _ => ?_)
  exact only_deliverAttempts dispatcher _ (fun _ => accepts) none

theorem safe_diagnosing {program : EventProgram Unit} {eventId : EventId} {sinkId : String}
    (safe : Safe condition dispatcher program (fun _ => True) world) :
    Safe condition dispatcher (EventDispatcher.diagnosing program eventId sinkId) (fun _ => True)
      world := by
  refine safe.catching (fun _ _ _ => trivial) fun error after _ => ?_
  cases error with
  | core detail => exact safe_of_only (only_op (.diagnose _) trivial)
  | _ => trivial

theorem safe_loop {α : Type} {body : α → EventProgram Unit} (items : List α)
    (safe : ∀ item after, Safe condition dispatcher (body item) (fun _ => True) after) :
    Safe condition dispatcher (Program.foldM (fun _ item => body item) () items) (fun _ => True)
      world := by
  refine Program.safe_foldM (fun _ _ _ => True) ?_ (fun _ _ _ => trivial) items () trivial
  intro _ item left before _
  exact (safe item before).mono fun outcome after _ => by cases outcome <;> trivial

theorem safe_publish (event : RuntimeEvent) (context : RuntimeCallContext)
    (principal : RuntimePrincipal) :
    Safe condition dispatcher (dispatcher.publish event context principal) (fun _ => True)
      world := by
  have published : ∀ sink after, Safe condition dispatcher
      (dispatcher.publishToSink event context principal sink) (fun _ => True) after :=
    fun sink after => safe_publishToSink event context principal sink
  refine Program.safe_guarded trivial fun _ _ => ?_
  split
  · unfold EventDispatcher.publishAudit
    split
    · trivial
    · refine (safe_loop dispatcher.required published).next fun _ after _ => ?_
      exact safe_loop dispatcher.optional fun sink after => safe_diagnosing (published sink after)
  · refine safe_of_only ((only_op (.putNowait _ _) trivial).bind fun accepted => ?_)
    exact Program.only_ite (fun _ => only_op (.diagnose _) trivial) fun _ => trivial

theorem safe_publishObservation (queued : QueuedObservation) :
    Safe condition dispatcher (dispatcher.publishObservation queued) (fun _ => True) world := by
  have observed : ∀ (registration : SinkRegistration) after, Safe condition dispatcher
      (dispatcher.observe queued registration.sink) (fun _ => True) after := by
    intro registration after
    unfold EventDispatcher.observe
    split
    · trivial
    · refine safe_diagnosing ?_
      have prepared : Safe condition dispatcher (dispatcher.prepareForSink queued.event
          queued.context queued.principal registration.sink) registration.sink.Accepts after :=
        safe_prepareForSink _ _ _ _
      exact prepared.next fun event later accepts =>
        safe_of_only (only_observeAttempts dispatcher accepts _ none)
  exact safe_loop dispatcher.sinks observed

/-- An authorization that passes has a policy to ask and a resource to ask about. -/
theorem safe_authorizeSink (event : RuntimeEvent) (context : RuntimeCallContext)
    (principal : RuntimePrincipal) (sink : EventSink) :
    Safe condition dispatcher (dispatcher.authorizeSink sink event context principal)
      (fun _ => dispatcher.authorized = true ∧ ∃ id, Identifier.make .resource sink.sinkId = .ok id)
      world := by
  have active : Safe condition dispatcher (context.checkActive : EventProgram Unit) (fun _ => True)
      world := safe_of_only (RuntimeCallContext.only_checkActive
        (fun token => only_op (.cancelled token) trivial) (only_op .now trivial) context)
  refine active.next fun _ after _ => ?_
  split
  · trivial
  · rename_i governed
    refine Program.safe_guarded trivial fun request requested => ?_
    obtain ⟨id, made, -⟩ := bind_ok requested
    have authorized : dispatcher.authorized = true := by simpa using governed
    have decided : Safe condition dispatcher (eventOp (.authorize request)) (fun _ => True) after :=
      safe_of_only (only_op (.authorize request) trivial)
    refine decided.next fun decision later _ => ?_
    split
    · have expired : ∀ grant, Safe condition dispatcher
          (AuthorizedDispatcher.expired grant : EventProgram Bool) (fun _ => True) later := fun grant =>
        safe_of_only (AuthorizedDispatcher.only_expired (only_op .now trivial) grant)
      refine (expired _).next fun isExpired last _ => ?_
      split
      · trivial
      · split
        · trivial
        · exact ⟨authorized, id, made⟩
    · trivial

theorem safe_recoverEntry (recovered : ℕ) (pending : PendingAuditDelivery)
    (accepts : ∀ sink, dispatcher.Redelivers pending sink → sink.Accepts pending.event) :
    Safe condition dispatcher (dispatcher.recoverEntry recovered pending) (fun _ => True)
      world := by
  unfold EventDispatcher.recoverEntry
  split
  · exact safe_of_only ((only_op (.diagnose _) trivial).bind fun _ => trivial)
  · rename_i registration found
    have fresh : Safe condition dispatcher (eventOp .newToken) (fun _ => True) world :=
      safe_of_only (only_op .newToken trivial)
    refine fresh.next fun token after _ => ?_
    have redelivered : Safe condition dispatcher
        (dispatcher.redeliver recovered pending registration.sink token) (fun _ => True) after := by
      refine (safe_authorizeSink pending.event _ pending.principal registration.sink).next
        fun _ later authorized => ?_
      have delivers : (dispatcher.deliverAudit pending.event
          { pending.context with deadline := none, cancellation := token } registration.sink
          pending.attempts).Only offered := by
        refine only_deliverAttempts dispatcher _ (fun left => accepts _ ?_) none
        refine ⟨⟨registration.requiredForAudit, found⟩, authorized.1, authorized.2, ?_⟩
        by_contra exhausted
        exact left (by simp; omega)
      exact safe_of_only (delivers.bind fun _ => trivial)
    refine redelivered.catching (fun _ _ _ => trivial) fun error later _ => ?_
    cases error with
    | core detail => exact safe_of_only ((only_op (.diagnose _) trivial).bind fun _ => trivial)
    | _ => trivial

theorem safe_recoverAll {entries : List PendingAuditDelivery}
    (accepted : storedAccepted dispatcher entries) :
    Safe condition dispatcher (Program.foldM dispatcher.recoverEntry 0 entries) (fun _ => True)
      world := by
  refine Program.safe_foldM (fun _ left _ => storedAccepted dispatcher left) ?_
    (fun _ _ _ => trivial) entries 0 accepted
  intro recovered pending left before accepted
  refine (safe_recoverEntry recovered pending (accepted pending List.mem_cons_self)).mono
    fun outcome after _ => ?_
  cases outcome with
  | ok _ => exact fun other member => accepted other (List.mem_cons_of_mem _ member)
  | error _ => trivial

theorem safe_recoverPending (limit : ℕ) :
    Safe storedAccepted dispatcher (dispatcher.recoverPending limit) (fun _ => True) world := by
  have listed : Safe storedAccepted dispatcher (eventOp (.listPending limit))
      (storedAccepted dispatcher) world :=
    Program.safe_perform fun current _ _ => ⟨trivial, fun _ permitted =>
      ⟨trivial, trivial, permitted⟩⟩
  exact listed.next fun entries after accepted => safe_recoverAll accepted

theorem pool_meets (dispatchers : ℕ → EventDispatcher) :
    (pool storedAccepted dispatchers).Meets (fun _ => contract) (fun _ => True)
      (fun _ => Ends (fun _ _ => True) fun _ => True) where
  shared _ := rfl
  reflexive _ _ := trivial
  transitive _ _ _ _ _ _ := trivial
  stable _ outcome _ _ _ _ := by cases outcome <;> trivial
  compatible _ _ _ _ _ _ := trivial
  initial _ _ := trivial
  starts := by
    rintro thread before program start - ⟨rfl, publishes | observes | recovers⟩
    · obtain ⟨event, context, principal, rfl⟩ := publishes
      exact ⟨trivial, trivial, safe_publish event context principal⟩
    · obtain ⟨queued, rfl⟩ := observes
      exact ⟨trivial, trivial, safe_publishObservation queued⟩
    · obtain ⟨limit, rfl⟩ := recovers
      exact ⟨trivial, trivial, (safe_recoverPending limit).next fun _ _ _ => trivial⟩

def anyOutbox : RecoveryCondition := fun _ _ => True

omit [Sha256] in
theorem permits_anyOutbox (dispatcher : EventDispatcher) (op : EventOp) (choice : op.Choice)
    (world : EventWorld) : permits anyOutbox dispatcher op choice world := by
  unfold permits anyOutbox
  split <;> trivial

variable {pending : PendingAuditDelivery} {sink : EventSink}

/-- Runs under any outbox. -/
abbrev Runs {α : Type} (dispatcher : EventDispatcher) :
    EventProgram α × EventWorld → EventProgram α × EventWorld → Prop :=
  Steps (environment anyOutbox dispatcher) α

/-- A run stands before the delivery of `event` to `sink`. -/
def Offers {α : Type} (sink : EventSink) (event : RuntimeEvent)
    (configuration : EventProgram α × EventWorld) : Prop :=
  ∃ context resume, configuration.1 = .await (.deliver sink event context) resume

theorem runs_next {α : Type} {op : EventOp} {resume : Except Raised op.Answer → EventProgram α}
    {before after : EventWorld} {outcome : Except Raised op.Answer}
    {target : EventProgram α × EventWorld} (choice : op.Choice)
    (answered : eventAnswer op choice before = (outcome, after))
    (rest : Runs dispatcher (resume outcome, after) target) :
    Runs dispatcher (.await op resume, before) target :=
  Steps.next (E := environment anyOutbox dispatcher) choice (permits_anyOutbox dispatcher op choice before) answered rest

theorem runs_authorizeSink (redelivers : dispatcher.Redelivers pending sink)
    (context : RuntimeCallContext) (unbounded : context.deadline = none) (world : EventWorld) :
    Runs dispatcher (dispatcher.authorizeSink sink pending.event context pending.principal, world)
      (.ret (), world) := by
  obtain ⟨request, requested⟩ := EventDispatcher.sinkRequest_ok_of_id pending.event context
    pending.principal redelivers.identified
  refine EventDispatcher.steps_authorizeSink redelivers.authorized requested unbounded ?_ ?_
  · exact ⟨false, trivial, rfl⟩
  · exact ⟨.ok (SampleParameters.allowing request), trivial, rfl⟩

/-- Whatever the entry, the policy may deny it: the recovery goes on to the next one. -/
theorem runs_skip (recovered : ℕ) (pending : PendingAuditDelivery) (world : EventWorld) :
    ∃ after, Runs dispatcher (dispatcher.recoverEntry recovered pending, world)
      (.ret recovered, after) := by
  unfold EventDispatcher.recoverEntry
  split
  · exact ⟨_, runs_next () rfl .refl⟩
  · exact ⟨_, runs_next pending.context.cancellation rfl
      (runs_next true rfl (runs_next () rfl .refl))⟩

theorem runs_redeliver (redelivers : dispatcher.Redelivers pending sink) (recovered : ℕ)
    (token : CancellationId) (world : EventWorld) :
    ∃ target, Runs dispatcher (dispatcher.redeliver recovered pending sink token, world) target ∧
      Offers sink pending.event target := by
  have authorizes := runs_authorizeSink redelivers
    { pending.context with deadline := none, cancellation := token } rfl world
  obtain ⟨attempt, attempts, left⟩ : ∃ attempt attempts, List.range' pending.attempts
      (dispatcher.policy.auditMaxAttempts - pending.attempts) = attempt :: attempts := by
    have room := redelivers.attempts
    cases remaining : dispatcher.policy.auditMaxAttempts - pending.attempts with
    | zero => omega
    | succ count => exact ⟨_, _, List.range'_succ⟩
  have run := Steps.bind authorizes fun _ => do
    dispatcher.deliverAudit pending.event
      { pending.context with deadline := none, cancellation := token } sink pending.attempts
    pure (recovered + 1)
  refine ⟨_, run, ?_⟩
  unfold Offers EventDispatcher.deliverAudit
  rw [left]
  exact ⟨_, _, rfl⟩

theorem runs_recoverEntry (redelivers : dispatcher.Redelivers pending sink) (recovered : ℕ)
    (world : EventWorld) :
    ∃ target, Runs dispatcher (dispatcher.recoverEntry recovered pending, world) target ∧
      Offers sink pending.event target := by
  obtain ⟨required, found⟩ := redelivers.registered
  unfold EventDispatcher.registered at found
  unfold EventDispatcher.recoverEntry
  rw [found]
  obtain ⟨⟨program, after⟩, run, context, resume, rfl⟩ :=
    runs_redeliver redelivers recovered pending.context.cancellation world
  refine ⟨_, runs_next pending.context.cancellation rfl (run.andThen _), context, _, rfl⟩

theorem runs_recoverPending {limit : ℕ} {world : EventWorld}
    (listed : pending ∈ world.ledger.listPending limit)
    (redelivers : dispatcher.Redelivers pending sink) :
    ∃ target, Runs dispatcher (dispatcher.recoverPending limit, world) target ∧
      Offers sink pending.event target := by
  have loop : ∀ entries recovered before, pending ∈ entries →
      ∃ target, Runs dispatcher (Program.foldM dispatcher.recoverEntry recovered entries, before)
        target ∧ Offers sink pending.event target := by
    intro entries
    induction entries with
    | nil => exact fun _ _ member => absurd member List.not_mem_nil
    | cons entry entries ih =>
      intro recovered before member
      rcases List.mem_cons.mp member with rfl | later
      · obtain ⟨⟨program, after⟩, run, context, resume, rfl⟩ :=
          runs_recoverEntry redelivers recovered before
        exact ⟨_, run.bind _, context, _, rfl⟩
      · obtain ⟨after, skips⟩ : ∃ after, Runs dispatcher (dispatcher.recoverEntry recovered entry,
            before) (.ret recovered, after) := runs_skip recovered entry before
        obtain ⟨target, run, offers⟩ := ih recovered after later
        exact ⟨target, (skips.bind _).trans run, offers⟩
  obtain ⟨target, run, offers⟩ := loop _ 0 world listed
  exact ⟨target, runs_next () rfl run, offers⟩

/-- A recovery offers only what its sinks accept exactly if they accept what is stored. -/
theorem recoverPending_confined (limit : ℕ) (world : EventWorld) :
    (∀ target sink event, Runs dispatcher (dispatcher.recoverPending limit, world) target →
      Offers sink event target → sink.Accepts event) ↔
    storedAccepted dispatcher (world.ledger.listPending limit) := by
  constructor
  · intro confined pending listed sink redelivers
    obtain ⟨target, run, offers⟩ := runs_recoverPending listed redelivers
    exact confined target sink pending.event run offers
  · intro accepted target sink event run offers
    obtain ⟨program, after⟩ := target
    obtain ⟨context, resume, rfl⟩ := offers
    rcases run.cases_head with same | ⟨next, first, rest⟩
    · cases same
    · cases first with
      | resume choice permitted =>
        have safe : Safe anyOutbox dispatcher (Program.foldM dispatcher.recoverEntry 0
            (world.ledger.listPending limit)) (fun _ => True) world := safe_recoverAll accepted
        have suspended := (safe.steps (fun _ => trivial) trivial rest).2
        exact (suspended after trivial trivial).1

end EventConfinement

/-- In every run, a coroutine that is about to deliver an event delivers one that the sink, as
registered with the coroutine's dispatcher, accepts. -/
def SensitivityConfined [Sha256] (condition : RecoveryCondition) : Prop :=
  ∀ (dispatchers : ℕ → EventDispatcher) (configuration : Configuration EventInterface Raised Unit EventWorld),
    (EventConfinement.pool condition dispatchers).Reachable configuration →
    ∀ (thread : ℕ) (sink : EventSink) (event : RuntimeEvent) (context : RuntimeCallContext)
      (resume : Except Raised (Option EventAcknowledgement) → EventProgram Unit),
      configuration.threads[thread]? = some (.await (.deliver sink event context) resume) →
      sink.Accepts event

namespace EventConfinement

open SampleParameters

/-- An audit event with one sensitive field. -/
def sampleEvent : RuntimeEvent where
  eventId := ⟨"event-1", SampleParameters.event_checked⟩
  eventType := "core.approval.decided"
  schemaVersion := "1"
  occurredAt := sampleTime
  runId := sampleRunId
  rootRunId := sampleRunId
  parentRunId := none
  sequence := 1
  scope := sampleScope
  correlationId := sampleContext.trace.correlationId
  causationId := none
  sensitivity := .sensitive
  deliveryClass := .audit
  payload := ⟨Dict.empty.set "reviewer" ⟨.str "principal-1", .sensitive⟩, by decide⟩
  valid := by decide

/-- The one sink, declared for sensitive data first and for internal data later. -/
def sampleSink (maximumSensitivity : Sensitivity) : EventSink :=
  ⟨"audit", ⟨[.audit], [("*", "*")], maximumSensitivity, true⟩⟩

def sampleDispatcher (maximumSensitivity : Sensitivity) : EventDispatcher where
  schemas := ⟨Dict.empty.set ("core.approval.decided", "1") fun _ => .ok ()⟩
  sinks := [⟨sampleSink maximumSensitivity, true⟩]
  authorized := true
  policy := { positive := EventDeliveryPolicy.default_positive }

def sampleDispatchers (thread : ℕ) : EventDispatcher :=
  sampleDispatcher (if thread = 0 then .sensitive else .internal)

/-- The policy allows every request; the sink never answers. -/
def sampleChoice : (op : EventOp) → op.Choice
  | .cancelled _ => false
  | .now => sampleTime
  | .newToken => sampleContext.cancellation
  | .authorize request => .ok (allowing request)
  | .deliver _ _ _ => .error .cancelledError
  | .enqueue _ _ _ _ | .markAttempt _ _ _ | .acknowledge _ | .listPending _ | .sleep _
  | .diagnose _ | .putNowait _ _ => ()

def samplePublish : EventProgram Unit :=
  (sampleDispatchers 0).publish sampleEvent sampleContext samplePrincipal

def sampleRecover : EventProgram Unit :=
  (sampleDispatchers 1).recoverPending 100 >>= fun _ => pure ()

/-- The publication is cut off when the sink should answer; the sink is registered anew, and the
recovery comes to offer it the stored event. -/
def reregistered : Configuration EventInterface Raised Unit EventWorld :=
  (pool anyOutbox sampleDispatchers).execute (fun _ op _ => sampleChoice op) (fun _ _ _ => true)
    (List.replicate 4 0 ++ List.replicate 4 1) ⟨.empty, [samplePublish, sampleRecover]⟩

theorem reregistered_reachable : (pool anyOutbox sampleDispatchers).Reachable reregistered := by
  apply Pool.execute_reachable
  · exact fun thread op state _ => permits_anyOutbox (sampleDispatchers thread) op _ state
  · have empty : (pool anyOutbox sampleDispatchers).Reachable ⟨.empty, []⟩ := .initial rfl
    have publishing : (pool anyOutbox sampleDispatchers).Reachable ⟨.empty, [samplePublish]⟩ :=
      empty.move (.start ⟨rfl, .inl ⟨_, _, _, rfl⟩⟩)
    exact publishing.move (.start ⟨rfl, .inr (.inr ⟨100, rfl⟩)⟩)

/-- Whether a coroutine is about to offer a sink a field above its declared sensitivity. -/
def overexposes : EventProgram Unit → Bool
  | .await (.deliver sink event _) _ => event.payload.fields.entries.any fun field =>
      sink.capabilities.maximumSensitivity.toNat < field.2.sensitivity.toNat
  | _ => false

end EventConfinement

end CongeriesCore
