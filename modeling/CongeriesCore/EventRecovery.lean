import CongeriesCore.AuditDelivery
import CongeriesCore.EventConfinement

/-! # Outbox recovery

What a recovery that returns has achieved. An entry's attempt counter is carried from one
call to the next, so an entry that once used up its attempts is never offered again. -/

namespace CongeriesCore

open AsyncProgram

def PendingAuditDelivery.key (pending : PendingAuditDelivery) : OutboxKey :=
  (pending.event.eventId, pending.sinkId)

def InMemoryEventLedger.Acknowledged (ledger : InMemoryEventLedger) (key : OutboxKey) : Prop :=
  ∃ acknowledgement, ledger.acknowledged.get? key = some acknowledgement

namespace EventRecovery

/-- The world, with the grant that was last asked for and given. -/
abbrev RecoveryWorld := EventWorld × Option (AccessRequest × Grant)

/-- What the environment of a recovery may answer. -/
abbrev Answers := (op : EventOp) → op.Choice → RecoveryWorld → Prop

def record : (op : EventOp) → Except Raised op.Answer → EventWorld → EventWorld →
    Option (AccessRequest × Grant) → Option (AccessRequest × Grant)
  | .authorize request, .ok decision, _, _, _ => decision.grant.map fun grant => (request, grant)
  | _, _, _, _, asked => asked

/-- The context of a redelivery: a fresh token and no deadline. -/
def redeliveryContext (pending : PendingAuditDelivery) (token : CancellationId) :
    RuntimeCallContext :=
  { pending.context with deadline := none, cancellation := token }

/-- `request` asks to offer the entry to `sink`. -/
def RequestFor (sink : EventSink) (pending : PendingAuditDelivery) (request : AccessRequest) :
    Prop :=
  ∃ token, EventDispatcher.sinkRequest sink pending.event (redeliveryContext pending token)
    pending.principal = .ok request

/-- The decision grants the request. -/
def Allows (request : AccessRequest) (decision : PolicyDecision) : Prop :=
  decision.effect = .allow ∧ ∃ grant, decision.grant = some grant ∧
    grant.principal = request.principal ∧ grant.action = request.action ∧
    grant.resource = request.resource ∧ grant.sourceScope.key = request.context.scope.key ∧
    grant.effectiveScope.key = request.scope.key

variable [Sha256]

/-- The sink is authorized for the entry and acknowledges it when it is offered: the policy
grants the request, the grant has not expired when it is checked, and the sink answers with an
acknowledgement of the entry. A token that a recovery has just made is not cancelled. -/
def obliging (sink : EventSink) (pending : PendingAuditDelivery) : Answers
  | .cancelled _, isCancelled, _ => isCancelled = false
  | .authorize request, decision, _ => RequestFor sink pending request →
      ∃ given, decision = .ok given ∧ Allows request given
  | .now, time, (_, asked) => ∀ request grant expiry, asked = some (request, grant) →
      RequestFor sink pending request → grant.expiresAt = some expiry → time < expiry
  | .deliver offered event _, outcome, _ => offered = sink → event = pending.event →
      ∃ acknowledgement, outcome = .ok (some acknowledgement) ∧
        acknowledgement.key = pending.key ∧
        acknowledgement.payloadDigest = pending.event.payloadDigest
  | _, _, _ => True

omit [Sha256] in
def anything : Answers := fun _ _ _ => True

def environment (condition : SinkCondition) (answers : Answers) :
    Environment EventInterface Raised RecoveryWorld :=
  (eventEnvironment condition).instrumented answers record

def contract : Contract EventInterface RecoveryWorld :=
  .alone (fun world => world.1.ledger.WellKept)
    (fun before after => before.1.ledger.Later after.1.ledger) fun _ _ => True

abbrev Safe {α : Type} (condition : SinkCondition) (answers : Answers) (program : EventProgram α)
    (post : Except Raised α → RecoveryWorld → Prop) (world : RecoveryWorld) : Prop :=
  program.Safe (environment condition answers) contract post world

theorem answer_kept (op : EventOp) (choice : op.Choice) {world : EventWorld}
    (kept : world.ledger.WellKept) :
    (eventAnswer op choice world).2.ledger.WellKept ∧
      world.ledger.Later (eventAnswer op choice world).2.ledger := by
  cases op with
  | deliver sink event context =>
    have same : (eventAnswer (.deliver sink event context) choice world).2.ledger = world.ledger :=
      AuditDelivery.recordReturn_ledger _ _ _ _
    rw [same]
    exact ⟨kept, .refl _⟩
  | enqueue event sinkId context principal =>
    exact ⟨InMemoryEventLedger.enqueue_wellKept kept _ _ _ _,
      InMemoryEventLedger.enqueue_later _ _ _ _ _⟩
  | markAttempt eventId sinkId error =>
    exact ⟨InMemoryEventLedger.markAttempt_wellKept kept _ _ _,
      InMemoryEventLedger.markAttempt_later _ _ _ _⟩
  | acknowledge acknowledgement =>
    exact ⟨InMemoryEventLedger.acknowledge_wellKept kept _,
      InMemoryEventLedger.acknowledge_later _ _⟩
  | putNowait capacity queued =>
    simp only [eventAnswer]
    split
    · exact ⟨kept, .refl _⟩
    · exact ⟨kept, .refl _⟩
  | _ => exact ⟨kept, .refl _⟩

/-- Only `acknowledge` files acknowledgements. -/
theorem answer_acknowledged (op : EventOp) (quiet : AuditDelivery.files op = false)
    (choice : op.Choice) (world : EventWorld) :
    (eventAnswer op choice world).2.ledger.acknowledged = world.ledger.acknowledged := by
  cases op with
  | deliver sink event context =>
    exact congrArg InMemoryEventLedger.acknowledged (AuditDelivery.recordReturn_ledger _ _ _ _)
  | enqueue event sinkId context principal =>
    exact InMemoryEventLedger.enqueue_acknowledged _ _ _ _ _
  | markAttempt eventId sinkId error => exact InMemoryEventLedger.markAttempt_acknowledged _ _ _ _
  | acknowledge acknowledgement => cases quiet
  | putNowait capacity queued =>
    simp only [eventAnswer]
    split <;> rfl
  | _ => rfl

section Rules

variable {α : Type} {condition : SinkCondition} {answers : Answers} {program : EventProgram α}
  {world : RecoveryWorld}

/-- Whatever a coroutine does, it keeps the outbox and loses nothing. -/
theorem safe_any (program : EventProgram α) (world : RecoveryWorld) :
    Safe condition answers program (fun _ _ => True) world := by
  induction program generalizing world with
  | ret value => trivial
  | raise error => trivial
  | await op resume ih =>
    intro current relied kept
    obtain rfl : world = current := relied
    refine ⟨trivial, fun choice _ => ?_⟩
    obtain ⟨keeps, later⟩ := answer_kept op choice kept
    exact ⟨keeps, later, ih _ _⟩

theorem safe_quiet {acknowledged : Dict OutboxKey EventAcknowledgement}
    (quiet : program.Only fun op => AuditDelivery.files op = false)
    (same : world.1.ledger.acknowledged = acknowledged) :
    Safe condition answers program (fun _ after => after.1.ledger.acknowledged = acknowledged)
      world := by
  induction program generalizing world with
  | ret value => exact same
  | raise error => exact same
  | await op resume ih =>
    intro current relied kept
    obtain rfl : world = current := relied
    refine ⟨trivial, fun choice _ => ?_⟩
    obtain ⟨keeps, later⟩ := answer_kept op choice kept
    exact ⟨keeps, later, ih _ (quiet.2 _) ((answer_acknowledged op quiet.1 choice _).trans same)⟩

theorem Safe.kept {post : Except Raised α → RecoveryWorld → Prop}
    (kept : world.1.ledger.WellKept) (safe : Safe condition answers program post world) :
    Safe condition answers program (fun outcome after => after.1.ledger.WellKept ∧
      world.1.ledger.Later after.1.ledger ∧ post outcome after) world :=
  Program.Safe.remember (fun world => .refl world.1.ledger)
    (fun _ _ _ earlier later => earlier.trans later) kept safe

theorem safe_op {op : EventOp} {post : Except Raised op.Answer → RecoveryWorld → Prop}
    (answered : world.1.ledger.WellKept → ∀ choice, eventPermits condition op choice world.1 →
      answers op choice world →
      post (eventAnswer op choice world.1).1 ((eventAnswer op choice world.1).2,
        record op (eventAnswer op choice world.1).1 world.1 (eventAnswer op choice world.1).2
          world.2)) :
    Safe condition answers (eventOp op) post world := by
  refine Program.safe_perform_alone fun kept => ⟨trivial, fun choice permitted => ?_⟩
  obtain ⟨keeps, later⟩ := answer_kept op choice kept
  exact ⟨keeps, later, answered kept choice permitted.1 permitted.2⟩

end Rules

section Naming

variable {answers : Answers} {dispatcher : EventDispatcher} {world : RecoveryWorld}
  {event : RuntimeEvent} {context : RuntimeCallContext} {sink : EventSink}
  {acknowledged : Dict OutboxKey EventAcknowledgement}

/-- A delivery that returns has filed an acknowledgement under `key`, one that raises none. -/
def Filed {α : Type} (key : OutboxKey) (acknowledged : Dict OutboxKey EventAcknowledgement) :
    Except Raised α → RecoveryWorld → Prop
  | .ok _, after => ∃ acknowledgement,
      after.1.ledger.acknowledged = acknowledged.set key acknowledgement
  | .error _, after => after.1.ledger.acknowledged = acknowledged

omit [Sha256] in
theorem acknowledge_filed {world : EventWorld} {acknowledgement : EventAcknowledgement}
    (asked : Option (AccessRequest × Grant))
    (absent : world.ledger.acknowledged.get? (event.eventId, sink.sinkId) = none)
    (named : namesDelivery sink event acknowledgement world.ledger) :
    Filed (event.eventId, sink.sinkId) world.ledger.acknowledged
      (world.ledger.acknowledge acknowledgement).1
      ({ world with ledger := (world.ledger.acknowledge acknowledgement).2 }, asked) := by
  rcases world.ledger.acknowledge_cases acknowledgement with
    ⟨error, equal⟩ | ⟨equal, existing, found, -⟩ | ⟨pending, -, -, -, equal⟩
  · rw [equal]
    rfl
  · have own := named.resolve_right fun refused => refused (congrArg Prod.fst equal)
    rw [own, absent] at found
    cases found
  · have own := named.resolve_right fun refused => refused (congrArg Prod.fst equal)
    rw [equal, ← own]
    exact ⟨acknowledgement, rfl⟩

theorem attemptDelivery_filed (same : world.1.ledger.acknowledged = acknowledged)
    (absent : acknowledged.get? (event.eventId, sink.sinkId) = none) :
    Safe namesDelivery answers (EventDispatcher.attemptDelivery event context sink)
      (Filed (event.eventId, sink.sinkId) acknowledged) world := by
  let answered (outcome : Except Raised (Option EventAcknowledgement)) (after : RecoveryWorld) :=
    after.1.ledger.acknowledged = acknowledged ∧ ∀ acknowledgement,
      outcome = .ok (some acknowledgement) →
      namesDelivery sink event acknowledgement after.1.ledger
  have deliver : Safe namesDelivery answers (eventOp (.deliver sink event context)) answered
      world := by
    refine safe_op fun _ choice permitted _ => ?_
    refine ⟨(answer_acknowledged (.deliver sink event context) rfl choice world.1).trans same, ?_⟩
    intro acknowledgement returned
    obtain rfl : choice = .ok (some acknowledgement) := returned
    exact permitted
  refine deliver.bind (fun outcome after answered => ?_) fun _ _ answered => answered.1
  obtain ⟨same, names⟩ := answered
  cases outcome with
  | none => exact same
  | some acknowledgement =>
    have named := names acknowledgement rfl
    have mark : Safe namesDelivery answers (eventOp (.markAttempt event.eventId sink.sinkId none))
        (fun _ after => after.1.ledger.acknowledged = acknowledged ∧
          namesDelivery sink event acknowledgement after.1.ledger) after := by
      refine safe_op fun _ choice _ _ => ⟨?_, named.imp_right fun refused => ?_⟩
      · exact (answer_acknowledged (.markAttempt _ _ none) rfl choice after.1).trans same
      · exact mt (InMemoryEventLedger.acknowledge_markAttempt_ok _ _ _ _ _).mp refused
    refine mark.bind (fun _ marked kept => ?_) fun _ _ kept => kept.1
    obtain ⟨same, named⟩ := kept
    subst same
    exact safe_op fun _ _ _ _ => acknowledge_filed marked.2 absent named

theorem deliverAttempts_filed (attempts : List ℕ) (lastError : Option ErrorDetail)
    (same : world.1.ledger.acknowledged = acknowledged)
    (absent : acknowledged.get? (event.eventId, sink.sinkId) = none) :
    Safe namesDelivery answers
      (dispatcher.deliverAttempts event context sink attempts lastError)
      (fun outcome after => Filed (event.eventId, sink.sinkId) acknowledged outcome after ∧
        (attempts = [] → outcome ≠ .ok ())) world := by
  induction attempts generalizing lastError world with
  | nil => exact ⟨same, nofun⟩
  | cons attempt attempts ih =>
    refine (attemptDelivery_filed same absent).andThen fun outcome after filed => ?_
    match outcome with
    | .ok () => exact ⟨filed, nofun⟩
    | .error (.core error) =>
      have marks : (eventOp (.markAttempt event.eventId sink.sinkId (some error.code))).Only
          fun op => AuditDelivery.files op = false := AuditDelivery.only_op (.markAttempt _ _ _) rfl
      refine (safe_quiet marks filed).bind (fun _ marked same => ?_) fun _ _ same => ⟨same, nofun⟩
      split
      · have waits := AuditDelivery.only_backoff dispatcher attempt
        refine (safe_quiet waits same).bind (fun _ waited same => ?_) fun _ _ same => ⟨same, nofun⟩
        exact (ih (some error) same).mono fun _ _ ended => ⟨ended.1, nofun⟩
      · exact ⟨same, nofun⟩
    | .error (.value _) | .error (.assertion _) | .error (.key _) | .error (.other _)
    | .error .cancelledError => exact ⟨filed, nofun⟩

/-- What an entry's turn in the loop has done: it counts the entry exactly if it files an
acknowledgement of it, and an entry without attempts is not counted. -/
def Turn (dispatcher : EventDispatcher) (pending : PendingAuditDelivery) (recovered : ℕ)
    (acknowledged : Dict OutboxKey EventAcknowledgement) (outcome : Except Raised ℕ)
    (after : RecoveryWorld) : Prop :=
  ∀ count, outcome = .ok count →
    (count = recovered ∧ after.1.ledger.acknowledged = acknowledged) ∨
    (count = recovered + 1 ∧ pending.attempts < dispatcher.policy.auditMaxAttempts ∧
      ∃ acknowledgement,
        after.1.ledger.acknowledged = acknowledged.set pending.key acknowledgement)

theorem recoverEntry_turn (recovered : ℕ) (pending : PendingAuditDelivery)
    (same : world.1.ledger.acknowledged = acknowledged)
    (absent : acknowledged.get? pending.key = none) :
    Safe namesDelivery answers (dispatcher.recoverEntry recovered pending)
      (Turn dispatcher pending recovered acknowledged) world := by
  have diagnosed : ∀ diagnostic (after : RecoveryWorld),
      after.1.ledger.acknowledged = acknowledged →
      Safe namesDelivery answers (do
        eventOp (.diagnose diagnostic)
        pure recovered) (Turn dispatcher pending recovered acknowledged) after := by
    intro diagnostic after same
    have diagnoses := AuditDelivery.only_op (.diagnose diagnostic) rfl
    refine (safe_quiet diagnoses same).bind (fun _ last same => ?_) fun _ _ _ => nofun
    exact fun count counted => .inl ⟨(Except.ok.inj counted).symm, same⟩
  unfold EventDispatcher.recoverEntry
  split
  · exact diagnosed _ world same
  · rename_i registration found
    have named : registration.sink.sinkId = pending.sinkId := by
      simpa using List.find?_some found
    have fresh := AuditDelivery.only_op .newToken rfl
    refine (safe_quiet fresh same).bind (fun token after same => ?_) fun _ _ _ => nofun
    have redelivered : Safe namesDelivery answers
        (dispatcher.redeliver recovered pending registration.sink token)
        (fun outcome last => match outcome with
          | .ok count => count = recovered + 1 ∧
            pending.attempts < dispatcher.policy.auditMaxAttempts ∧ ∃ acknowledgement,
              last.1.ledger.acknowledged = acknowledged.set pending.key acknowledgement
          | .error _ => last.1.ledger.acknowledged = acknowledged) after := by
      have authorizes := AuditDelivery.only_authorizeSink dispatcher registration.sink
        pending.event (redeliveryContext pending token) pending.principal
      refine (safe_quiet authorizes same).bind (fun _ authorized same => ?_) fun _ _ same => same
      have absent' : acknowledged.get? (pending.event.eventId, registration.sink.sinkId) = none :=
        named ▸ absent
      refine (deliverAttempts_filed _ none same absent').bind (fun _ last ended => ?_)
        fun _ _ ended => ended.1
      obtain ⟨⟨acknowledgement, filed⟩, offered⟩ := ended
      refine ⟨rfl, ?_, acknowledgement, by rw [filed, named]; rfl⟩
      by_contra exhausted
      exact offered (by simp; omega) rfl
    refine redelivered.catching (fun count last ended => ?_) fun error last same => ?_
    · intro counted equal
      obtain rfl := Except.ok.inj equal
      exact .inr ended
    · cases error with
      | core detail => exact diagnosed _ last same
      | _ => exact nofun

/-- The loop counts the entries it files, and leaves everything else unfiled. -/
theorem recoverAll_counts (entries : List PendingAuditDelivery) (recovered : ℕ)
    (distinct : (entries.map PendingAuditDelivery.key).Nodup)
    (same : world.1.ledger.acknowledged = acknowledged)
    (absent : ∀ pending ∈ entries, acknowledged.get? pending.key = none) :
    Safe namesDelivery answers (Program.foldM dispatcher.recoverEntry recovered entries)
      (fun outcome after => ∀ count, outcome = .ok count →
        count = recovered + entries.countP (fun pending =>
          after.1.ledger.acknowledged.contains pending.key) ∧
        (∀ pending ∈ entries, dispatcher.policy.auditMaxAttempts ≤ pending.attempts →
          after.1.ledger.acknowledged.get? pending.key = none) ∧
        ∀ key ∉ entries.map PendingAuditDelivery.key,
          after.1.ledger.acknowledged.get? key = acknowledged.get? key) world := by
  induction entries generalizing recovered world acknowledged with
  | nil =>
    intro count counted
    obtain rfl := Except.ok.inj counted
    exact ⟨by simp, by simp, fun key _ => by rw [same]⟩
  | cons pending entries ih =>
    rw [List.map_cons, List.nodup_cons] at distinct
    obtain ⟨fresh, distinct⟩ := distinct
    refine (recoverEntry_turn recovered pending same (absent pending List.mem_cons_self)).bind
      (fun next middle turn => ?_) fun error after failed => ?_
    swap
    · intro count counted
      cases counted
    have elsewhere : ∀ key, key ≠ pending.key →
        middle.1.ledger.acknowledged.get? key = acknowledged.get? key := by
      intro key other
      rcases turn next rfl with ⟨-, unchanged⟩ | ⟨-, -, acknowledgement, filed⟩
      · rw [unchanged]
      · rw [filed, Dict.get?_set_of_ne _ other.symm]
    have left : ∀ later ∈ entries, middle.1.ledger.acknowledged.get? later.key = none := by
      intro later member
      have other : later.key ≠ pending.key :=
        fun equal => fresh (equal ▸ List.mem_map_of_mem member)
      rw [elsewhere later.key other]
      exact absent later (List.mem_cons_of_mem _ member)
    refine (ih next distinct rfl left).mono fun outcome after rest count counted => ?_
    obtain ⟨total, exhausted, outside⟩ := rest count counted
    have own := outside pending.key fresh
    refine ⟨?_, ?_, ?_⟩
    · rw [List.countP_cons, total]
      rcases turn next rfl with ⟨rfl, unchanged⟩ | ⟨rfl, -, acknowledgement, filed⟩
      · have unfiled : after.1.ledger.acknowledged.contains pending.key = false := by
          rw [Dict.contains, own, unchanged, absent pending List.mem_cons_self]
          rfl
        simp [unfiled]
      · have settled : after.1.ledger.acknowledged.contains pending.key = true := by
          rw [Dict.contains, own, filed, Dict.get?_set_self]
          rfl
        simp only [settled, if_true]
        omega
    · intro other member used
      rcases List.mem_cons.mp member with rfl | later
      · rw [own]
        rcases turn next rfl with ⟨-, unchanged⟩ | ⟨-, remaining, -⟩
        · rw [unchanged]
          exact absent other List.mem_cons_self
        · omega
      · exact exhausted other later used
    · intro key outsideAll
      rw [List.map_cons, List.mem_cons, not_or] at outsideAll
      rw [outside key outsideAll.2, elsewhere key outsideAll.1]

end Naming

section Obliging

variable {condition : SinkCondition} {dispatcher : EventDispatcher} {world : RecoveryWorld}
  {pending : PendingAuditDelivery} {sink : EventSink}

theorem checkActive_obliged (token : CancellationId) :
    Safe condition (obliging sink pending)
      ((redeliveryContext pending token).checkActive : EventProgram Unit)
      (fun outcome _ => outcome = .ok ()) world := by
  have cancelled : Safe condition (obliging sink pending) (eventOp (.cancelled token))
      (fun outcome _ => outcome = .ok false) world := by
    refine safe_op fun _ choice _ answered => ?_
    obtain rfl : choice = false := answered
    rfl
  refine cancelled.bind (fun isCancelled after fresh => ?_) fun _ _ impossible => nomatch impossible
  obtain rfl := Except.ok.inj fresh
  rfl

/-- A grant that was just given is found unexpired. -/
theorem expired_obliged {request : AccessRequest} {grant : Grant}
    (asked : world.2 = some (request, grant)) (requested : RequestFor sink pending request) :
    Safe condition (obliging sink pending)
      (AuthorizedDispatcher.expired grant : EventProgram Bool)
      (fun outcome _ => outcome = .ok false) world := by
  unfold AuthorizedDispatcher.expired
  split
  · rfl
  · rename_i expiry bounded
    have read : Safe condition (obliging sink pending) (eventOp .now)
        (fun outcome _ => ∃ time, outcome = .ok time ∧ time < expiry) world := by
      refine safe_op fun _ time _ answered => ⟨time, rfl, ?_⟩
      obtain ⟨world, _⟩ := world
      exact answered request grant expiry asked requested bounded
    refine read.bind (fun time after current => ?_) fun _ _ failed => ?_
    · obtain ⟨_, equal, earlier⟩ := current
      obtain rfl := Except.ok.inj equal
      have unexpired : ¬ expiry ≤ time := Nat.not_le_of_lt earlier
      simp [unexpired]
    · obtain ⟨_, impossible, -⟩ := failed
      cases impossible

/-- The authorization of a sink that the policy allows passes: there is a policy to ask, and the
sink's identity is a resource's. -/
theorem authorizeSink_obliged (authorized : dispatcher.authorized = true)
    (identified : ∃ id, Identifier.make .resource sink.sinkId = .ok id) (token : CancellationId) :
    Safe condition (obliging sink pending) (dispatcher.authorizeSink sink pending.event
      (redeliveryContext pending token) pending.principal) (fun outcome _ => outcome = .ok ())
      world := by
  obtain ⟨request, requested⟩ := EventDispatcher.sinkRequest_ok_of_id pending.event
    (redeliveryContext pending token) pending.principal identified
  refine (checkActive_obliged token).bind (fun _ after _ => ?_)
    fun error after impossible => by cases impossible
  simp only [authorized, requested]
  have decided : Safe condition (obliging sink pending) (eventOp (.authorize request))
      (fun outcome later => ∃ decision, outcome = .ok decision ∧ Allows request decision ∧
        ∀ grant, decision.grant = some grant → later.2 = some (request, grant)) after := by
    refine safe_op fun _ choice _ answered => ?_
    obtain ⟨decision, rfl, allows⟩ := answered ⟨token, requested⟩
    exact ⟨decision, rfl, allows, fun grant given => by simp [record, eventAnswer, given]⟩
  refine decided.bind (fun decision later given => ?_) fun _ _ failed => ?_
  · obtain ⟨_, equal, ⟨allow, grant, granted, principal, action, resource, source, effective⟩, asked⟩ :=
      given
    obtain rfl := Except.ok.inj equal
    obtain ⟨scope, context⟩ := EventDispatcher.sinkRequest_fields requested
    simp only [allow, granted]
    refine (expired_obliged (asked grant granted) ⟨token, requested⟩).bind
      (fun isExpired last current => ?_) fun error last impossible => by cases impossible
    obtain rfl := Except.ok.inj current
    rw [scope] at effective
    rw [context] at source
    simp [principal, action, resource, source, effective]
  · obtain ⟨_, impossible, -⟩ := failed
    cases impossible

/-- The sink's acknowledgement is filed, whoever filed one under the key before. -/
theorem attemptDelivery_obliged {context : RuntimeCallContext}
    (named : sink.sinkId = pending.sinkId)
    (holds : world.1.ledger.Holds pending.key pending.event.payloadDigest) :
    Safe condition (obliging sink pending)
      (EventDispatcher.attemptDelivery pending.event context sink)
      (fun outcome after => outcome = .ok () ∧ after.1.ledger.Acknowledged pending.key) world := by
  have deliver : Safe condition (obliging sink pending)
      (eventOp (.deliver sink pending.event context)) (fun outcome after =>
        (∃ acknowledgement, outcome = .ok (some acknowledgement) ∧
          acknowledgement.key = pending.key ∧
          acknowledgement.payloadDigest = pending.event.payloadDigest) ∧
        after.1.ledger.Holds pending.key pending.event.payloadDigest) world := by
    refine safe_op fun kept choice _ answered => ⟨answered rfl rfl, ?_⟩
    exact (answer_kept (.deliver sink pending.event context) choice kept).2.holds _ _ holds
  refine deliver.bind (fun outcome after answered => ?_) fun _ _ answered => ?_
  · obtain ⟨⟨acknowledgement, equal, key, digest⟩, holds⟩ := answered
    obtain rfl := Except.ok.inj equal
    have mark : Safe condition (obliging sink pending)
        (eventOp (.markAttempt pending.event.eventId sink.sinkId none)) (fun outcome after =>
          outcome = .ok () ∧ after.1.ledger.Holds pending.key pending.event.payloadDigest)
        after := by
      refine safe_op fun kept choice _ _ => ⟨?_, ?_⟩
      · rw [named]
        exact InMemoryEventLedger.markAttempt_ok holds none
      · exact (answer_kept (.markAttempt _ _ none) choice kept).2.holds _ _ holds
    refine mark.bind (fun _ marked kept => ?_) fun _ _ failed => nomatch failed.1
    refine safe_op fun wellKept _ _ _ => ?_
    have accepted := InMemoryEventLedger.acknowledge_accepted wellKept (key ▸ digest ▸ kept.2)
    obtain ⟨existing, found, -⟩ := InMemoryEventLedger.acknowledge_settles accepted
    exact ⟨accepted, existing, key ▸ found⟩
  · obtain ⟨⟨_, impossible, -⟩, -⟩ := answered
    cases impossible

theorem deliverAudit_obliged {context : RuntimeCallContext}
    (redelivers : dispatcher.Redelivers pending sink)
    (holds : world.1.ledger.Holds pending.key pending.event.payloadDigest) :
    Safe condition (obliging sink pending)
      (dispatcher.deliverAudit pending.event context sink pending.attempts)
      (fun outcome after => outcome = .ok () ∧ after.1.ledger.Acknowledged pending.key) world := by
  obtain ⟨required, found⟩ := redelivers.registered
  have named : sink.sinkId = pending.sinkId := by simpa using List.find?_some found
  obtain ⟨count, remaining⟩ : ∃ count,
      dispatcher.policy.auditMaxAttempts - pending.attempts = count + 1 := by
    have room := redelivers.attempts
    exact ⟨dispatcher.policy.auditMaxAttempts - pending.attempts - 1, by omega⟩
  unfold EventDispatcher.deliverAudit
  rw [remaining, List.range'_succ]
  refine (attemptDelivery_obliged named holds).andThen fun outcome after settled => ?_
  obtain ⟨rfl, acknowledged⟩ := settled
  exact ⟨rfl, acknowledged⟩

/-- The turn of an entry with attempts left, whose sink is registered, authorized and obliging. -/
theorem recoverEntry_obliged (recovered : ℕ) (redelivers : dispatcher.Redelivers pending sink)
    (kept : world.1.ledger.WellKept)
    (holds : world.1.ledger.Holds pending.key pending.event.payloadDigest) :
    Safe condition (obliging sink pending) (dispatcher.recoverEntry recovered pending)
      (fun outcome after => ∀ count, outcome = .ok count →
        after.1.ledger.Acknowledged pending.key) world := by
  obtain ⟨required, found⟩ := redelivers.registered
  unfold EventDispatcher.registered at found
  unfold EventDispatcher.recoverEntry
  rw [found]
  refine (Safe.kept kept (safe_any (eventOp .newToken) world)).bind (fun token fresh later => ?_)
    fun _ _ _ => nofun
  obtain ⟨keeps, later, -⟩ := later
  have redelivered : Safe condition (obliging sink pending)
      (dispatcher.redeliver recovered pending sink token) (fun outcome after =>
        outcome = .ok (recovered + 1) ∧ after.1.ledger.Acknowledged pending.key) fresh := by
    have authorizes : Safe condition (obliging sink pending) (dispatcher.authorizeSink sink
        pending.event (redeliveryContext pending token) pending.principal)
        (fun outcome _ => outcome = .ok ()) fresh :=
      authorizeSink_obliged redelivers.authorized redelivers.identified token
    refine (Safe.kept keeps authorizes).bind (fun _ authorized passed => ?_)
      fun _ _ failed => nomatch failed.2.2
    have held := passed.2.1.holds _ _ (later.holds _ _ holds)
    refine (deliverAudit_obliged redelivers held).bind (fun _ after delivered => ?_)
      fun _ _ failed => nomatch failed.1
    exact ⟨rfl, delivered.2⟩
  refine redelivered.catching (fun _ after settled _ _ => settled.2) fun _ _ failed => ?_
  exact nomatch failed.1

theorem recoverAll_obliged (redelivers : dispatcher.Redelivers pending sink)
    (entries : List PendingAuditDelivery) (listed : pending ∈ entries)
    (kept : world.1.ledger.WellKept)
    (holds : world.1.ledger.Holds pending.key pending.event.payloadDigest) (recovered : ℕ) :
    Safe condition (obliging sink pending)
      (Program.foldM dispatcher.recoverEntry recovered entries)
      (fun outcome after => ∀ count, outcome = .ok count →
        after.1.ledger.Acknowledged pending.key) world := by
  refine Program.safe_foldM (fun _ left before => before.1.ledger.WellKept ∧
    before.1.ledger.Holds pending.key pending.event.payloadDigest ∧
    (pending ∈ left ∨ before.1.ledger.Acknowledged pending.key)) ?_ ?_ entries recovered
    ⟨kept, holds, .inl listed⟩
  · rintro recovered entry left before ⟨kept, holds, waiting⟩
    have turn : Safe condition (obliging sink pending) (dispatcher.recoverEntry recovered entry)
        (fun outcome after => ∀ count, outcome = .ok count →
          pending ∈ left ∨ after.1.ledger.Acknowledged pending.key) before := by
      rcases waiting with waiting | ⟨acknowledgement, found⟩
      · rcases List.mem_cons.mp waiting with rfl | later
        · exact (recoverEntry_obliged recovered redelivers kept holds).mono
            fun _ _ settled count counted => .inr (settled count counted)
        · exact (safe_any _ _).mono fun _ _ _ _ _ => .inl later
      · refine (Safe.kept kept (safe_any _ _)).mono fun _ _ ended _ _ => .inr ?_
        exact ⟨acknowledgement, ended.2.1.acknowledged _ _ found⟩
    refine (Safe.kept kept turn).mono fun outcome after ended => ?_
    obtain ⟨keeps, later, waits⟩ := ended
    cases outcome with
    | ok count => exact ⟨keeps, later.holds _ _ holds, waits count rfl⟩
    | error error => exact nofun
  · rintro recovered after ⟨-, -, waiting⟩ _ _
    exact waiting.resolve_left List.not_mem_nil

end Obliging

/-- Publications and recoveries over one outbox, each on a dispatcher of its own and any of them
cut off anywhere. -/
def system (condition : SinkCondition) : Sequence EventInterface Raised Unit EventWorld where
  environment := eventEnvironment condition
  initial world := world = .empty
  starts before program start := start = before ∧ ∃ dispatcher : EventDispatcher,
    (∃ event context principal, program = dispatcher.publish event context principal) ∨
      ∃ limit, program = dispatcher.recoverPending limit >>= fun _ => pure ()

theorem steps_kept {α : Type} {condition : SinkCondition}
    {source target : EventProgram α × EventWorld}
    (steps : Steps (eventEnvironment condition) α source target)
    (kept : source.2.ledger.WellKept) : target.2.ledger.WellKept := by
  induction steps with
  | refl => exact kept
  | tail _ last ih =>
    cases last with
    | @resume op resume state choice permitted => exact (answer_kept op choice ih).1

theorem reachable_kept {condition : SinkCondition} {world : EventWorld}
    (reached : (system condition).Reachable world) : world.ledger.WellKept := by
  induction reached with
  | initial start =>
    obtain rfl := start
    exact AuditDelivery.invariant_empty.1
  | call _ starts steps ih =>
    obtain ⟨rfl, -⟩ := starts
    exact steps_kept steps ih

end EventRecovery

open EventRecovery

/-- A recovery with room for every pending entry that returns has delivered each `included`
entry whose sink is registered, authorized and acknowledges it, and counts the entries that
became acknowledged. -/
def RecoveryComplete [Sha256] (condition : SinkCondition)
    (included : EventDispatcher → PendingAuditDelivery → Prop) : Prop :=
  ∀ (dispatcher : EventDispatcher) (before : EventWorld) (limit : ℕ),
    (EventRecovery.system condition).Reachable before →
    before.ledger.pending.values.length ≤ limit →
    (∀ (pending : PendingAuditDelivery) (sink : EventSink) (required : Bool) (count : ℕ)
        (after : RecoveryWorld),
      pending ∈ before.ledger.pending.values → included dispatcher pending →
      dispatcher.registered pending.sinkId = some ⟨sink, required⟩ →
      dispatcher.authorized = true → (∃ id, Identifier.make .resource sink.sinkId = .ok id) →
      Steps (environment condition (obliging sink pending)) ℕ
        (dispatcher.recoverPending limit, (before, none)) (.ret count, after) →
      after.1.ledger.Acknowledged pending.key) ∧
    ∀ (count : ℕ) (after : RecoveryWorld),
      Steps (environment condition anything) ℕ
        (dispatcher.recoverPending limit, (before, none)) (.ret count, after) →
      count = before.ledger.pending.values.countP fun pending =>
        after.1.ledger.acknowledged.contains pending.key

/-- The entry may still be offered. -/
def attemptsLeft (dispatcher : EventDispatcher) (pending : PendingAuditDelivery) : Prop :=
  pending.attempts < dispatcher.policy.auditMaxAttempts

section

variable [Sha256] {dispatcher : EventDispatcher} {before : EventWorld} {limit : ℕ}

theorem InMemoryEventLedger.WellKept.keys {ledger : InMemoryEventLedger} (kept : ledger.WellKept) :
    ledger.pending.values.map PendingAuditDelivery.key = ledger.pending.entries.map Prod.fst := by
  rw [Dict.values, List.map_map]
  refine List.map_congr_left fun entry member => ?_
  exact (kept entry.1 entry.2 (Dict.get?_of_mem member)).1.symm

omit [Sha256] in
theorem EventRecovery.listed_all (room : before.ledger.pending.values.length ≤ limit) :
    before.ledger.listPending limit = before.ledger.pending.values :=
  List.take_of_length_le room

/-- The first step of a recovery lists the pending entries. -/
theorem EventRecovery.recoverPending_steps {condition : SinkCondition} {answers : Answers}
    {count : ℕ} {after : RecoveryWorld} (room : before.ledger.pending.values.length ≤ limit)
    (steps : Steps (environment condition answers) ℕ
      (dispatcher.recoverPending limit, (before, none)) (.ret count, after)) :
    Steps (environment condition answers) ℕ
      (Program.foldM dispatcher.recoverEntry 0 before.ledger.pending.values, (before, none))
      (.ret count, after) := by
  rcases steps.cases_head with same | ⟨next, first, rest⟩
  · cases same
  · cases first with
    | resume choice permitted =>
      rw [← listed_all room]
      exact rest

theorem InMemoryEventLedger.WellKept.pending {ledger : InMemoryEventLedger}
    (kept : ledger.WellKept) {pending : PendingAuditDelivery}
    (member : pending ∈ ledger.pending.values) :
    ledger.acknowledged.get? pending.key = none ∧
      ledger.Holds pending.key pending.event.payloadDigest := by
  obtain ⟨⟨key, _⟩, entry, rfl⟩ := List.mem_map.mp member
  have found := Dict.get?_of_mem entry
  obtain ⟨rfl, digest, unacknowledged⟩ := kept _ _ found
  exact ⟨unacknowledged, .inl ⟨_, found, digest⟩⟩

theorem EventRecovery.recoverPending_counts {count : ℕ} {after : RecoveryWorld}
    (reached : (EventRecovery.system namesDelivery).Reachable before)
    (room : before.ledger.pending.values.length ≤ limit)
    (steps : Steps (environment namesDelivery anything) ℕ
      (dispatcher.recoverPending limit, (before, none)) (.ret count, after)) :
    count = (before.ledger.pending.values.countP fun pending =>
      after.1.ledger.acknowledged.contains pending.key) ∧
    ∀ pending ∈ before.ledger.pending.values,
      dispatcher.policy.auditMaxAttempts ≤ pending.attempts →
      after.1.ledger.acknowledged.get? pending.key = none := by
  have kept := reachable_kept reached
  have distinct : (before.ledger.pending.values.map PendingAuditDelivery.key).Nodup := by
    rw [kept.keys]
    exact before.ledger.pending.nodup
  let world : RecoveryWorld := (before, none)
  have safe : Safe namesDelivery anything (Program.foldM dispatcher.recoverEntry 0
      before.ledger.pending.values) _ world :=
    recoverAll_counts _ 0 distinct rfl fun pending member => (kept.pending member).1
  obtain ⟨-, ended⟩ := safe.steps (fun _ => rfl) kept (recoverPending_steps room steps)
  obtain ⟨total, exhausted, -⟩ := ended count rfl
  exact ⟨by omega, exhausted⟩

end

/-- With attempts left and acknowledgements that name their deliveries a recovery is complete;
an entry without attempts left is never acknowledged by one. -/
theorem recoverPending_complete [Sha256] :
    RecoveryComplete namesDelivery attemptsLeft ∧
    ∀ (dispatcher : EventDispatcher) (before : EventWorld) (limit count : ℕ)
      (after : RecoveryWorld), (EventRecovery.system namesDelivery).Reachable before →
      before.ledger.pending.values.length ≤ limit →
      Steps (environment namesDelivery anything) ℕ
        (dispatcher.recoverPending limit, (before, none)) (.ret count, after) →
      ∀ pending ∈ before.ledger.pending.values, ¬ attemptsLeft dispatcher pending →
        ¬ after.1.ledger.Acknowledged pending.key := by
  refine ⟨fun dispatcher before limit reached room => ⟨?_, ?_⟩, ?_⟩
  · intro pending sink required count after member left registered authorized identified steps
    have kept := reachable_kept reached
    have redelivers : dispatcher.Redelivers pending sink :=
      ⟨⟨required, registered⟩, authorized, identified, left⟩
    let world : RecoveryWorld := (before, none)
    have safe : Safe namesDelivery (obliging sink pending) (Program.foldM dispatcher.recoverEntry 0
        before.ledger.pending.values) _ world :=
      recoverAll_obliged redelivers _ member kept (kept.pending member).2 0
    exact (safe.steps (fun _ => rfl) kept (recoverPending_steps room steps)).2 count rfl
  · intro count after steps
    exact (recoverPending_counts reached room steps).1
  · intro dispatcher before limit count after reached room steps pending member used acknowledged
    obtain ⟨acknowledgement, found⟩ := acknowledged
    have unacknowledged := (recoverPending_counts reached room steps).2 pending member
      (Nat.le_of_not_lt used)
    rw [unacknowledged] at found
    cases found

namespace EventRecovery

section Exhausted

variable [Sha256] {dispatcher : EventDispatcher} {pending : PendingAuditDelivery} {sink : EventSink}

omit [Sha256] in
theorem allows_allowing (request : AccessRequest) :
    Allows request (SampleParameters.allowing request) :=
  ⟨rfl, _, rfl, rfl, rfl, rfl, rfl, rfl⟩

/-- A recovery of an entry without attempts left may ask the policy, offer nothing and return. -/
theorem steps_exhausted {required : Bool} {limit : ℕ} {world : EventWorld}
    (listed : world.ledger.listPending limit = [pending])
    (registered : dispatcher.registered pending.sinkId = some ⟨sink, required⟩)
    (authorized : dispatcher.authorized = true)
    (identified : ∃ id, Identifier.make .resource sink.sinkId = .ok id)
    (used : dispatcher.policy.auditMaxAttempts - pending.attempts = 0) :
    ∃ after, Steps (environment anyAnswer (obliging sink pending)) ℕ
      (dispatcher.recoverPending limit, (world, none)) (.ret 0, after) ∧
      after.1.ledger = world.ledger := by
  let E := environment anyAnswer (obliging sink pending)
  let token := pending.context.cancellation
  obtain ⟨request, requested⟩ := EventDispatcher.sinkRequest_ok_of_id pending.event
    (redeliveryContext pending token) pending.principal identified
  let asked : RecoveryWorld :=
    (world, (SampleParameters.allowing request).grant.map fun grant => (request, grant))
  have authorizes : Steps E Unit (dispatcher.authorizeSink sink pending.event
      (redeliveryContext pending token) pending.principal, (world, none)) (.ret (), asked) := by
    refine EventDispatcher.steps_authorizeSink authorized requested rfl ?_ ?_
    · exact ⟨false, ⟨trivial, rfl⟩, rfl⟩
    · exact ⟨.ok (SampleParameters.allowing request),
        ⟨trivial, fun _ => ⟨_, rfl, allows_allowing request⟩⟩, rfl⟩
  have delivers : dispatcher.deliverAudit pending.event (redeliveryContext pending token) sink
      pending.attempts = .raise (EventDispatcher.deliveryFailed none) := by
    unfold EventDispatcher.deliverAudit
    rw [used]
    rfl
  have redelivers : Steps E ℕ (dispatcher.redeliver 0 pending sink token, (world, none))
      (.raise (EventDispatcher.deliveryFailed none), asked) := by
    have equal : dispatcher.redeliver 0 pending sink token = (do
        dispatcher.authorizeSink sink pending.event (redeliveryContext pending token)
          pending.principal
        dispatcher.deliverAudit pending.event (redeliveryContext pending token) sink
          pending.attempts
        pure 1) := rfl
    rw [equal, delivers]
    exact authorizes.bind _
  have turn : ∃ after, Steps E ℕ (dispatcher.recoverEntry 0 pending, (world, none))
      (.ret 0, after) ∧ after.1.ledger = world.ledger := by
    unfold EventDispatcher.registered at registered
    unfold EventDispatcher.recoverEntry
    rw [registered]
    let diagnosed : RecoveryWorld := ({ world with diagnostics := world.diagnostics ++
      [⟨pending.event.eventId, some pending.sinkId, "audit_delivery_failed",
        "required Audit EventSink did not acknowledge the Event"⟩] }, asked.2)
    have fresh : E.Gives .newToken (world, none) (.ok token) (world, none) :=
      ⟨token, ⟨trivial, trivial⟩, rfl⟩
    refine ⟨diagnosed, Steps.given fresh ?_, rfl⟩
    refine (redelivers.andThen _).trans ?_
    exact Steps.next () ⟨trivial, trivial⟩ rfl .refl
  obtain ⟨after, run, unchanged⟩ := turn
  refine ⟨after, .next () ⟨trivial, trivial⟩ rfl ?_, unchanged⟩
  change Steps E ℕ (Program.foldM dispatcher.recoverEntry 0 (world.ledger.listPending limit),
    (world, none)) _
  rw [listed]
  exact run.bind _

end Exhausted

open SampleParameters

/-- A sink that always fails retryably. -/
def failingOracle : ℕ → (op : EventOp) → EventWorld → op.Choice
  | _, .cancelled _, _ => false
  | _, .now, _ => sampleTime
  | _, .newToken, _ => sampleContext.cancellation
  | _, .authorize request, _ => .ok (allowing request)
  | _, .deliver _ _ _, _ => .error (retryableError .unavailable "sink_unavailable" "sink is down")
  | _, .enqueue _ _ _ _, _ | _, .markAttempt _ _ _, _ | _, .acknowledge _, _
  | _, .listPending _, _ | _, .sleep _, _ | _, .diagnose _, _ | _, .putNowait _ _, _ => ()

def failingDispatcher : EventDispatcher :=
  { AuditDelivery.sampleDispatcher with sinks := [⟨AuditDelivery.sampleSink "sink-a", true⟩] }

/-- A publication that fails `audit_max_attempts` times. -/
def failedRun : EventProgram Unit × EventWorld :=
  execute (eventEnvironment anyAnswer) failingOracle 40 0
    (failingDispatcher.publish AuditDelivery.sampleEvent sampleContext samplePrincipal, .empty)

end EventRecovery

open EventRecovery SampleParameters in
/-- After a publication that failed `audit_max_attempts` times a recovery with the sink working
again returns without offering it the event. -/
theorem recoverPending_incomplete : ¬ RecoveryComplete anyAnswer fun _ _ => True := by
  intro complete
  have permitted : ∀ tick (op : EventOp) world,
      (eventEnvironment anyAnswer).permits op (failingOracle tick op world) world :=
    fun _ op _ => permits_anyAnswer op _ _
  have steps := execute_steps permitted 40 0
    (failingDispatcher.publish AuditDelivery.sampleEvent sampleContext samplePrincipal,
      EventWorld.empty)
  have reached : (EventRecovery.system anyAnswer).Reachable failedRun.2 :=
    .call (.initial rfl) ⟨rfl, failingDispatcher, .inl ⟨_, _, _, rfl⟩⟩ steps
  obtain ⟨pending, listed⟩ : ∃ pending, failedRun.2.ledger.pending.values = [pending] :=
    List.length_eq_one_iff.mp (by decide +kernel)
  have facts : failedRun.2.ledger.pending.values.all fun pending =>
      pending.attempts = 3 ∧ pending.sinkId = "sink-a" := by decide +kernel
  have unacknowledged : failedRun.2.ledger.acknowledged.entries = [] :=
    List.isEmpty_iff.mp (by decide +kernel)
  simp only [listed] at facts
  obtain ⟨used, named⟩ : pending.attempts = 3 ∧ pending.sinkId = "sink-a" := by simpa using facts
  have identified : ∃ id, Identifier.make .resource "sink-a" = .ok id := ⟨_, rfl⟩
  have registered : failingDispatcher.registered pending.sinkId =
      some ⟨AuditDelivery.sampleSink "sink-a", true⟩ := by
    rw [named]
    rfl
  have recovers : ∃ after, Steps (environment anyAnswer (obliging _ pending)) ℕ
      (failingDispatcher.recoverPending 100, (failedRun.2, none)) (.ret 0, after) ∧
      after.1.ledger = failedRun.2.ledger :=
    steps_exhausted listed registered rfl identified (by rw [used]; rfl)
  obtain ⟨after, run, unchanged⟩ := recovers
  obtain ⟨delivered, -⟩ := complete failingDispatcher failedRun.2 100 reached (by simp [listed])
  obtain ⟨acknowledgement, found⟩ := delivered pending _ true 0 after (by simp [listed]) trivial
    registered rfl identified run
  rw [unchanged] at found
  simp only [Dict.get?, unacknowledged] at found
  cases found

end CongeriesCore
