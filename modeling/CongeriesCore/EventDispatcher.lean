import CongeriesCore.EventLedger

/-! # The event dispatcher

Routing of a published event to its sinks: reliable delivery of audit events through the
outbox, and the bounded queue of observations. A sink's answers, the authorization
decisions, the clock and the cancellation tokens are the environment's choices; the
ledger computes. -/

namespace CongeriesCore

open AsyncProgram

structure EventSink where
  sinkId : String
  capabilities : EventSinkCapabilities
  deriving DecidableEq, Repr

structure SinkRegistration where
  sink : EventSink
  requiredForAudit : Bool
  deriving DecidableEq, Repr

/-- Delays are in milliseconds. -/
structure EventDeliveryPolicy where
  auditMaxAttempts : ℕ := 3
  observabilityMaxAttempts : ℕ := 1
  baseRetryDelay : ℕ := 50
  maximumRetryDelay : ℕ := 1000
  observabilityQueueCapacity : ℕ := 1024
  positive : 1 ≤ auditMaxAttempts ∧ 1 ≤ observabilityMaxAttempts ∧
    1 ≤ observabilityQueueCapacity := by decide
  deriving DecidableEq, Repr

theorem EventDeliveryPolicy.default_positive : 1 ≤ 3 ∧ 1 ≤ 1 ∧ 1 ≤ 1024 := by decide

structure EventDiagnostic where
  eventId : EventId
  sinkId : Option String
  code : String
  message : String
  deriving DecidableEq, Repr

structure QueuedObservation where
  event : RuntimeEvent
  context : RuntimeCallContext
  principal : RuntimePrincipal

inductive EventOp
  | cancelled (token : CancellationId)
  | now
  | newToken
  | authorize (request : AccessRequest)
  | deliver (sink : EventSink) (event : RuntimeEvent) (context : RuntimeCallContext)
  | enqueue (event : RuntimeEvent) (sinkId : String) (context : RuntimeCallContext)
      (principal : RuntimePrincipal)
  | markAttempt (eventId : EventId) (sinkId : String) (error : Option String)
  | acknowledge (acknowledgement : EventAcknowledgement)
  | listPending (limit : ℕ)
  | sleep (delay : ℕ)
  | diagnose (diagnostic : EventDiagnostic)
  | putNowait (capacity : ℕ) (queued : QueuedObservation)

abbrev EventOp.Answer : EventOp → Type
  | .cancelled _ => Bool
  | .now => DateTime
  | .newToken => CancellationId
  | .authorize _ => PolicyDecision
  | .deliver _ _ _ => Option EventAcknowledgement
  | .listPending _ => List PendingAuditDelivery
  | .putNowait _ _ => Bool
  | .enqueue _ _ _ _ | .markAttempt _ _ _ | .acknowledge _ | .sleep _ | .diagnose _ => Unit

abbrev EventInterface : Interface := ⟨EventOp, EventOp.Answer⟩

abbrev EventProgram := Program EventInterface Raised

def eventOp (op : EventOp) : EventProgram op.Answer := @Program.perform EventInterface Raised op

instance : RuntimeControl EventInterface where
  cancelled token := eventOp (.cancelled token)
  now := eventOp .now

structure EventDispatcher where
  schemas : EventSchemaRegistry
  sinks : List SinkRegistration
  authorized : Bool
  policy : EventDeliveryPolicy

namespace EventDispatcher

def publishAction : ActionRef := ⟨"core", "event.publish", "1", by decide⟩

def sinkRequest (sink : EventSink) (event : RuntimeEvent) (context : RuntimeCallContext)
    (principal : RuntimePrincipal) : Except Raised AccessRequest := do
  let id ← Identifier.make .resource sink.sinkId
  pure {
    principal := principal
    action := publishAction
    resource := ⟨"core", "event_sink", id, none, by decide, by decide, by simp⟩
    scope := event.scope
    context := context
    constraints := [("event_type", .str event.eventType),
      ("delivery_class", .str event.deliveryClass.value)] }

/-- `_authorize_sink`. -/
def authorizeSink (dispatcher : EventDispatcher) (sink : EventSink) (event : RuntimeEvent)
    (context : RuntimeCallContext) (principal : RuntimePrincipal) : EventProgram Unit := do
  context.checkActive
  if !dispatcher.authorized then
    .raise (coreError .denied "event_sink_policy_missing"
      "EventSink dispatch is denied without an authorization policy")
  else
    let request ← Program.ofExcept (sinkRequest sink event context principal)
    let decision ← eventOp (.authorize request)
    match decision.effect, decision.grant with
    | .allow, some grant => do
      if ← AuthorizedDispatcher.expired grant then
        .raise (coreError .denied "event_sink_grant_expired" "EventSink grant has expired")
      else if grant.principal ≠ request.principal ∨ grant.action ≠ request.action ∨
          grant.resource ≠ request.resource ∨ grant.sourceScope.key ≠ context.scope.key ∨
          grant.effectiveScope.key ≠ event.scope.key then
        .raise (coreError .denied "invalid_event_sink_grant"
          "EventSink grant does not match the dispatch request")
      else pure ()
    | _, _ =>
      .raise (deniedBecause decision.reasonCode "event_sink_denied" "EventSink dispatch was denied")

/-- The capability checks of `_prepare_for_sink`. -/
def checkCapabilities (event : RuntimeEvent) (sink : EventSink) : Except Raised Unit := do
  if event.deliveryClass ∉ sink.capabilities.deliveryClasses then
    throw (coreError .unsupportedCapability "unsupported_delivery_class"
      "EventSink does not support the required delivery class")
  if (event.eventType, event.schemaVersion) ∉ sink.capabilities.schemaVersions ∧
      ("*", "*") ∉ sink.capabilities.schemaVersions then
    throw (coreError .versionMismatch "unsupported_event_schema"
      "EventSink does not support the event schema")
  if event.deliveryClass = .audit ∧ !sink.capabilities.acknowledgement then
    throw (coreError .unsupportedCapability "audit_acknowledgement_unsupported"
      "Audit EventSink must provide acknowledgements")

/-- `validate(redacted)`, where a `CoreError` becomes `event_redaction_failed`. -/
def validateRedacted (dispatcher : EventDispatcher) (redacted : RuntimeEvent) :
    Except Raised Unit :=
  match dispatcher.schemas.validate redacted with
  | .error (.core _) => .error (coreError .denied "event_redaction_failed"
      "redaction removed data required by the Event schema")
  | outcome => outcome

/-- `_prepare_for_sink`. -/
def prepareForSink (dispatcher : EventDispatcher) (event : RuntimeEvent)
    (context : RuntimeCallContext) (principal : RuntimePrincipal) (sink : EventSink) :
    EventProgram RuntimeEvent := do
  Program.ofExcept (checkCapabilities event sink)
  dispatcher.authorizeSink sink event context principal
  let redacted := redact event sink.capabilities.maximumSensitivity
  Program.ofExcept (dispatcher.validateRedacted redacted)
  pure redacted

/-- `_backoff`. -/
def backoff (dispatcher : EventDispatcher) (attempt : ℕ) : EventProgram Unit :=
  let delay := min (dispatcher.policy.baseRetryDelay * 2 ^ attempt)
    dispatcher.policy.maximumRetryDelay
  if delay = 0 then pure () else eventOp (.sleep delay)

/-- The body of the `try` in `_deliver_audit`: one attempt at one sink. -/
def attemptDelivery (event : RuntimeEvent) (context : RuntimeCallContext) (sink : EventSink) :
    EventProgram Unit := do
  let acknowledgement ← eventOp (.deliver sink event context)
  match acknowledgement with
  | none => .raise (coreError .protocolFailure "audit_acknowledgement_missing"
      "Audit EventSink returned no acknowledgement")
  | some acknowledgement => do
    eventOp (.markAttempt event.eventId sink.sinkId none)
    eventOp (.acknowledge acknowledgement)

def deliveryFailed (lastError : Option ErrorDetail) : Raised :=
  retryableError .unavailable "audit_delivery_failed"
    "required Audit EventSink did not acknowledge the Event" (lastError.map (·.code))

/-- The retry loop of `_deliver_audit` over the attempts that are left. -/
def deliverAttempts (dispatcher : EventDispatcher) (event : RuntimeEvent)
    (context : RuntimeCallContext) (sink : EventSink) :
    List ℕ → Option ErrorDetail → EventProgram Unit
  | [], lastError => .raise (deliveryFailed lastError)
  | attempt :: attempts, _ =>
    (attemptDelivery event context sink).andThen fun
      | .ok () => pure ()
      | .error (.core error) => do
        eventOp (.markAttempt event.eventId sink.sinkId (some error.code))
        if error.retryable then do
          dispatcher.backoff attempt
          deliverAttempts dispatcher event context sink attempts (some error)
        else
          .raise (deliveryFailed (some error))
      | .error error => .raise error

/-- `_deliver_audit`. -/
def deliverAudit (dispatcher : EventDispatcher) (event : RuntimeEvent)
    (context : RuntimeCallContext) (sink : EventSink) (startingAttempt : ℕ := 0) :
    EventProgram Unit :=
  deliverAttempts dispatcher event context sink
    (List.range' startingAttempt (dispatcher.policy.auditMaxAttempts - startingAttempt)) none

/-- Preparation, outbox entry and delivery for one sink. -/
def publishToSink (dispatcher : EventDispatcher) (event : RuntimeEvent)
    (context : RuntimeCallContext) (principal : RuntimePrincipal) (sink : EventSink) :
    EventProgram Unit := do
  let prepared ← dispatcher.prepareForSink event context principal sink
  eventOp (.enqueue prepared sink.sinkId context principal)
  dispatcher.deliverAudit prepared context sink

/-- `except CoreError as error: diagnostics.append(…)`. -/
def diagnosing (program : EventProgram Unit) (eventId : EventId) (sinkId : String) :
    EventProgram Unit :=
  program.catching fun
    | .core error => eventOp (.diagnose ⟨eventId, some sinkId, error.code, error.message⟩)
    | error => .raise error

def required (dispatcher : EventDispatcher) : List EventSink :=
  (dispatcher.sinks.filter (·.requiredForAudit)).map (·.sink)

def optional (dispatcher : EventDispatcher) : List EventSink :=
  (dispatcher.sinks.filter fun registration =>
    !registration.requiredForAudit && registration.sink.capabilities.deliveryClasses.contains .audit)
    |>.map (·.sink)

/-- `_publish_audit`. -/
def publishAudit (dispatcher : EventDispatcher) (event : RuntimeEvent)
    (context : RuntimeCallContext) (principal : RuntimePrincipal) : EventProgram Unit :=
  if dispatcher.required.isEmpty then
    .raise (retryableError .unavailable "required_audit_sink_missing"
      "no required Audit EventSink is configured")
  else do
    Program.foldM (fun _ sink => dispatcher.publishToSink event context principal sink) ()
      dispatcher.required
    Program.foldM (fun _ sink =>
      diagnosing (dispatcher.publishToSink event context principal sink) event.eventId sink.sinkId)
      () dispatcher.optional

def publish (dispatcher : EventDispatcher) (event : RuntimeEvent)
    (context : RuntimeCallContext) (principal : RuntimePrincipal) : EventProgram Unit := do
  Program.ofExcept (dispatcher.schemas.validate event)
  if event.deliveryClass = .audit then
    dispatcher.publishAudit event context principal
  else do
    let accepted ← eventOp
      (.putNowait dispatcher.policy.observabilityQueueCapacity ⟨event, context, principal⟩)
    if !(accepted : Bool) then
      eventOp (.diagnose ⟨event.eventId, none, "observability_queue_full",
        "observability event was dropped after the queue reached capacity"⟩)

/-- The retry loop of `_deliver_observation` over the attempts that are left. -/
def observeAttempts (dispatcher : EventDispatcher) (event : RuntimeEvent)
    (context : RuntimeCallContext) (sink : EventSink) :
    List ℕ → Option ErrorDetail → EventProgram Unit
  | [], none => pure ()
  | [], some lastError => .raise (.core lastError)
  | attempt :: attempts, _ =>
    (eventOp (.deliver sink event context)).andThen fun
      | .ok _ => pure ()
      | .error (.core error) =>
        if error.retryable then do
          dispatcher.backoff attempt
          observeAttempts dispatcher event context sink attempts (some error)
        else .raise (.core error)
      | .error error => .raise error

/-- `_deliver_observation`. -/
def deliverObservation (dispatcher : EventDispatcher) (event : RuntimeEvent)
    (context : RuntimeCallContext) (sink : EventSink) : EventProgram Unit :=
  dispatcher.observeAttempts event context sink
    (List.range dispatcher.policy.observabilityMaxAttempts) none

/-- The body of the loop of `_publish_observation`. -/
def observe (dispatcher : EventDispatcher) (queued : QueuedObservation) (sink : EventSink) :
    EventProgram Unit :=
  if !sink.capabilities.deliveryClasses.contains .observability then pure ()
  else diagnosing
    (do
      let event ← dispatcher.prepareForSink queued.event queued.context queued.principal sink
      dispatcher.deliverObservation event queued.context sink)
    queued.event.eventId sink.sinkId

/-- `_publish_observation`, which the worker runs on each event of the queue. -/
def publishObservation (dispatcher : EventDispatcher) (queued : QueuedObservation) :
    EventProgram Unit :=
  Program.foldM (fun _ registration => dispatcher.observe queued registration.sink) ()
    dispatcher.sinks

/-- The body of the `try` in `recover_pending`, with a fresh token and no deadline. -/
def redeliver (dispatcher : EventDispatcher) (recovered : ℕ) (pending : PendingAuditDelivery)
    (sink : EventSink) (token : CancellationId) : EventProgram ℕ := do
  let context := { pending.context with deadline := none, cancellation := token }
  dispatcher.authorizeSink sink pending.event context pending.principal
  dispatcher.deliverAudit pending.event context sink pending.attempts
  pure (recovered + 1)

/-- The body of the loop of `recover_pending`, which counts the recovered entries. -/
def recoverEntry (dispatcher : EventDispatcher) (recovered : ℕ)
    (pending : PendingAuditDelivery) : EventProgram ℕ :=
  -- the registrations are a dict by sink id, so the last one with the id counts
  match dispatcher.sinks.reverse.find? fun item => item.sink.sinkId == pending.sinkId with
  | none => do
    eventOp (.diagnose ⟨pending.event.eventId, some pending.sinkId, "sink_not_registered",
      "pending Audit Event cannot be delivered"⟩)
    pure recovered
  | some registration => do
    let token ← eventOp .newToken
    (dispatcher.redeliver recovered pending registration.sink token).catching fun
      | .core error => do
        eventOp (.diagnose ⟨pending.event.eventId, some pending.sinkId, error.code, error.message⟩)
        pure recovered
      | error => .raise error

def recoverPending (dispatcher : EventDispatcher) (limit : ℕ := 100) : EventProgram ℕ := do
  let entries ← eventOp (.listPending limit)
  Program.foldM dispatcher.recoverEntry 0 entries

section Only

variable {allowed : EventInterface.Op → Prop}

theorem only_eventOp {op : EventOp} (allows : allowed op) : (eventOp op).Only allowed :=
  Program.only_perform.mpr allows

theorem only_authorizeSink (cancelled : ∀ token, allowed (.cancelled token)) (now : allowed .now)
    (authorize : ∀ request, allowed (.authorize request)) (dispatcher : EventDispatcher)
    (sink : EventSink) (event : RuntimeEvent) (context : RuntimeCallContext)
    (principal : RuntimePrincipal) :
    (dispatcher.authorizeSink sink event context principal).Only allowed := by
  have read : (RuntimeControl.now : EventProgram DateTime).Only allowed := only_eventOp now
  refine (RuntimeCallContext.only_checkActive (fun token => only_eventOp (cancelled token)) read
    context).bind fun _ => Program.only_ite (fun _ => trivial) fun _ => ?_
  refine Program.only_ofExcept.bind fun request => ?_
  refine (only_eventOp (authorize request)).bind fun decision => ?_
  split
  · refine (AuthorizedDispatcher.only_expired read _).bind fun expired => ?_
    exact Program.only_ite (fun _ => trivial) fun _ =>
      Program.only_ite (fun _ => trivial) fun _ => trivial
  · trivial

theorem only_backoff (sleep : ∀ delay, allowed (.sleep delay)) (dispatcher : EventDispatcher)
    (attempt : ℕ) : (dispatcher.backoff attempt).Only allowed :=
  Program.only_ite (fun _ => trivial) fun _ => only_eventOp (sleep _)

end Only

end EventDispatcher

end CongeriesCore
