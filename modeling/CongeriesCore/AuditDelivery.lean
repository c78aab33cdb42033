import CongeriesCore.EventSystem
import CongeriesCore.SampleParameters

/-! # Audit delivery

What a returned audit publication says about the outbox. The outbox files an
acknowledgement under the event and the sink that the acknowledgement itself names, so
everything here rests on sinks naming the delivery they answer. -/

namespace CongeriesCore

open AsyncProgram

/-- A returned acknowledgement that names its delivery: event, sink and payload digest. -/
structure ReturnedAcknowledgement.Names [Sha256] (returned : ReturnedAcknowledgement) : Prop where
  event : returned.acknowledgement.eventId = returned.event.eventId
  sink : returned.acknowledgement.sinkId = returned.sink.sinkId
  digest : returned.acknowledgement.payloadDigest = returned.event.payloadDigest

/-- The entry of `eventId` at the sink `sinkId` is acknowledged, with payload digest `digest`,
by an acknowledgement which that sink returned and which names the delivery. -/
def EventWorld.Audited [Sha256] (world : EventWorld) (eventId : EventId) (sinkId digest : String) : Prop :=
  ∃ returned ∈ world.returned,
    world.ledger.acknowledged.get? (eventId, sinkId) = some returned.acknowledgement ∧
    returned.Names ∧ returned.event.eventId = eventId ∧ returned.sink.sinkId = sinkId ∧
    returned.event.payloadDigest = digest

/-- The sink names the event and itself, or names an entry for which the outbox refuses it. -/
def namesDelivery : SinkCondition := fun sink event acknowledgement ledger =>
  acknowledgement.key = (event.eventId, sink.sinkId) ∨
    (ledger.acknowledge acknowledgement).1 ≠ .ok ()

namespace AuditDelivery

/-- Every acknowledged entry was acknowledged by what its sink returned for it. -/
def Backed [Sha256] (world : EventWorld) : Prop :=
  ∀ key acknowledgement, world.ledger.acknowledged.get? key = some acknowledgement →
    ∃ returned ∈ world.returned, returned.acknowledgement = acknowledgement ∧
      returned.Names ∧ key = (returned.event.eventId, returned.sink.sinkId)

def Invariant [Sha256] (world : EventWorld) : Prop := world.ledger.WellKept ∧ Backed world

def Later (before after : EventWorld) : Prop :=
  before.ledger.Later after.ledger ∧ before.returned ⊆ after.returned

theorem Later.refl (world : EventWorld) : Later world world := ⟨.refl _, List.Subset.refl _⟩

theorem Later.trans (first second third : EventWorld) (earlier : Later first second)
    (later : Later second third) : Later first third :=
  ⟨earlier.1.trans later.1, List.Subset.trans earlier.2 later.2⟩

theorem recordReturn_ledger (world : EventWorld) (sink : EventSink) (event : RuntimeEvent)
    (outcome : Except Raised (Option EventAcknowledgement)) :
    (world.recordReturn sink event outcome).ledger = world.ledger := by
  unfold EventWorld.recordReturn
  split <;> rfl

theorem recordReturn_subset (world : EventWorld) (sink : EventSink) (event : RuntimeEvent)
    (outcome : Except Raised (Option EventAcknowledgement)) :
    world.returned ⊆ (world.recordReturn sink event outcome).returned := by
  unfold EventWorld.recordReturn
  split
  · exact List.subset_cons_self _ _
  · exact List.Subset.refl _

/-- Whether an operation files an acknowledgement in the outbox. -/
def files : EventInterface.Op → Bool
  | .acknowledge _ => true
  | _ => false

theorem only_op (op : EventOp) (other : files op = false) :
    (eventOp op).Only fun op => files op = false :=
  Program.only_perform.mpr other

theorem only_backoff (dispatcher : EventDispatcher) (attempt : ℕ) :
    (dispatcher.backoff attempt).Only fun op => files op = false :=
  EventDispatcher.only_backoff (fun _ => rfl) dispatcher attempt

theorem only_authorizeSink (dispatcher : EventDispatcher) (sink : EventSink) (event : RuntimeEvent)
    (context : RuntimeCallContext) (principal : RuntimePrincipal) :
    (dispatcher.authorizeSink sink event context principal).Only fun op => files op = false :=
  @EventDispatcher.only_authorizeSink (fun op => files op = false) (fun _ => rfl) rfl (fun _ => rfl)
    dispatcher sink event context principal

variable [Sha256]

def contract : Contract EventInterface EventWorld :=
  .alone Invariant Later fun _ _ => True

/-- Safety of a publisher coroutine whose sinks name their deliveries. -/
abbrev Safe {α : Type} (program : EventProgram α) (post : Except Raised α → EventWorld → Prop)
    (world : EventWorld) : Prop :=
  program.Safe (eventEnvironment namesDelivery) contract post world

theorem invariant_of_acknowledged {before after : EventWorld} (invariant : Invariant before)
    (kept : after.ledger.WellKept)
    (same : after.ledger.acknowledged = before.ledger.acknowledged)
    (returned : before.returned ⊆ after.returned) : Invariant after := by
  refine ⟨kept, fun key acknowledgement found => ?_⟩
  rw [same] at found
  obtain ⟨entry, member, rest⟩ := invariant.2 key acknowledgement found
  exact ⟨entry, returned member, rest⟩

theorem recordReturn_invariant {world : EventWorld} (invariant : Invariant world)
    (sink : EventSink) (event : RuntimeEvent)
    (outcome : Except Raised (Option EventAcknowledgement)) :
    Invariant (world.recordReturn sink event outcome) := by
  have ledger := recordReturn_ledger world sink event outcome
  refine invariant_of_acknowledged invariant ?_ (by rw [ledger])
    (recordReturn_subset world sink event outcome)
  rw [ledger]
  exact invariant.1

/-- Every operation but `acknowledge` keeps the invariant and loses nothing. -/
theorem step_later (op : EventOp) (other : files op = false)
    {before : EventWorld} (invariant : Invariant before) (choice : op.Choice) :
    Invariant (eventAnswer op choice before).2 ∧ Later before (eventAnswer op choice before).2 := by
  cases op with
  | deliver sink event context =>
    refine ⟨recordReturn_invariant invariant _ _ _, ?_, recordReturn_subset _ _ _ _⟩
    rw [show (eventAnswer (.deliver sink event context) choice before).2.ledger = before.ledger from
      recordReturn_ledger _ _ _ _]
    exact .refl _
  | enqueue event sinkId context principal =>
    refine ⟨invariant_of_acknowledged invariant
      (InMemoryEventLedger.enqueue_wellKept invariant.1 _ _ _ _) ?_ (List.Subset.refl _),
      InMemoryEventLedger.enqueue_later _ _ _ _ _, List.Subset.refl _⟩
    exact InMemoryEventLedger.enqueue_acknowledged _ _ _ _ _
  | markAttempt eventId sinkId error =>
    exact ⟨invariant_of_acknowledged invariant
      (InMemoryEventLedger.markAttempt_wellKept invariant.1 _ _ _)
      (InMemoryEventLedger.markAttempt_acknowledged _ _ _ _) (List.Subset.refl _),
      InMemoryEventLedger.markAttempt_later _ _ _ _, List.Subset.refl _⟩
  | acknowledge acknowledgement => cases other
  | putNowait capacity queued =>
    simp only [eventAnswer]
    split
    · exact ⟨invariant, .refl _⟩
    · exact ⟨invariant, .refl _⟩
  | cancelled token => exact ⟨invariant, .refl _⟩
  | now => exact ⟨invariant, .refl _⟩
  | newToken => exact ⟨invariant, .refl _⟩
  | authorize request => exact ⟨invariant, .refl _⟩
  | listPending limit => exact ⟨invariant, .refl _⟩
  | sleep delay => exact ⟨invariant, .refl _⟩
  | diagnose diagnostic => exact ⟨invariant, .refl _⟩

/-- An acknowledgement that the sink returned for a held entry, and that names it, keeps
the invariant. -/
theorem acknowledge_invariant {world : EventWorld} (invariant : Invariant world)
    {returned : ReturnedAcknowledgement} (member : returned ∈ world.returned)
    (holds : world.ledger.Holds (returned.event.eventId, returned.sink.sinkId)
      returned.event.payloadDigest)
    (names : returned.acknowledgement.key = (returned.event.eventId, returned.sink.sinkId) ∨
      (world.ledger.acknowledge returned.acknowledgement).1 ≠ .ok ()) :
    Invariant { world with
      ledger := (world.ledger.acknowledge returned.acknowledgement).2 } := by
  refine ⟨InMemoryEventLedger.acknowledge_wellKept invariant.1 _, fun key existing found => ?_⟩
  rcases InMemoryEventLedger.acknowledged_of_acknowledge found with earlier | ⟨rfl, rfl, accepted⟩
  · exact invariant.2 key existing earlier
  · have named := names.resolve_right fun refused => refused accepted
    refine ⟨returned, member, rfl, ⟨?_, ?_, ?_⟩, named⟩
    · exact congrArg Prod.fst named
    · exact congrArg Prod.snd named
    · -- the entry it is filed under is the one held for the delivered event
      exact InMemoryEventLedger.digest_of_accepted invariant.1 accepted (named ▸ holds)

omit [Sha256] in
theorem acknowledge_later (world : EventWorld) (acknowledgement : EventAcknowledgement) :
    Later world { world with ledger := (world.ledger.acknowledge acknowledgement).2 } :=
  ⟨InMemoryEventLedger.acknowledge_later _ _, List.Subset.refl _⟩

/-- An accepted acknowledgement that names its delivery leaves the entry audited. -/
theorem acknowledge_audited {world : EventWorld} (invariant : Invariant world)
    {returned : ReturnedAcknowledgement} (member : returned ∈ world.returned)
    (holds : world.ledger.Holds (returned.event.eventId, returned.sink.sinkId)
      returned.event.payloadDigest)
    (named : returned.acknowledgement.key = (returned.event.eventId, returned.sink.sinkId))
    (accepted : (world.ledger.acknowledge returned.acknowledgement).1 = .ok ()) :
    EventWorld.Audited
      { world with ledger := (world.ledger.acknowledge returned.acknowledgement).2 }
      returned.event.eventId returned.sink.sinkId returned.event.payloadDigest := by
  obtain ⟨existing, found, same⟩ := InMemoryEventLedger.acknowledge_settles accepted
  have after := acknowledge_invariant invariant member holds (.inl named)
  obtain ⟨entry, member', rfl, names, key⟩ := after.2 _ _ found
  have digest := InMemoryEventLedger.digest_of_accepted invariant.1 accepted (named ▸ holds)
  rw [named] at found key
  refine ⟨entry, member', found, names, (congrArg Prod.fst key).symm, (congrArg Prod.snd key).symm,
    ?_⟩
  rw [← names.digest, same, digest]

theorem audited_later {before after : EventWorld} (later : Later before after) {eventId : EventId}
    {sinkId digest : String} (audited : before.Audited eventId sinkId digest) :
    after.Audited eventId sinkId digest := by
  obtain ⟨entry, member, found, rest⟩ := audited
  exact ⟨entry, later.2 member, later.1.acknowledged _ _ found, rest⟩

/-- A coroutine without `acknowledge` is safe, whatever it does. -/
theorem safe_of_only {α : Type} {program : EventProgram α} {world : EventWorld}
    (only : program.Only fun op => files op = false) :
    Safe program (fun _ _ => True) world :=
  only.safe (fun op _ other invariant =>
    ⟨trivial, fun choice _ => step_later op other invariant choice⟩) fun _ _ => trivial

theorem Safe.kept {α : Type} {program : EventProgram α} {world : EventWorld}
    {post : Except Raised α → EventWorld → Prop} (invariant : Invariant world)
    (safe : Safe program post world) :
    Safe program (fun outcome after => Invariant after ∧ Later world after ∧ post outcome after)
      world :=
  Program.Safe.remember Later.refl Later.trans invariant safe

theorem attemptDelivery_safe {world : EventWorld} {event : RuntimeEvent}
    {context : RuntimeCallContext} {sink : EventSink}
    (holds : world.ledger.Holds (event.eventId, sink.sinkId) event.payloadDigest) :
    Safe (EventDispatcher.attemptDelivery event context sink)
      (fun outcome after => outcome = .ok () →
        after.Audited event.eventId sink.sinkId event.payloadDigest) world := by
  let answered (outcome : Except Raised (Option EventAcknowledgement)) (after : EventWorld) :=
    after.ledger.Holds (event.eventId, sink.sinkId) event.payloadDigest ∧
    ∀ acknowledgement, outcome = .ok (some acknowledgement) →
      ⟨sink, event, acknowledgement⟩ ∈ after.returned ∧
      namesDelivery sink event acknowledgement after.ledger
  have deliver : Safe (eventOp (.deliver sink event context)) answered world := by
    refine Program.safe_perform_alone fun invariant => ⟨trivial, fun choice permitted => ?_⟩
    obtain ⟨keeps, later⟩ := step_later (.deliver sink event context) rfl invariant choice
    refine ⟨keeps, later, later.1.holds _ _ holds, fun acknowledgement returned => ?_⟩
    obtain rfl : choice = .ok (some acknowledgement) := returned
    exact ⟨List.mem_cons_self, permitted⟩
  refine deliver.bind ?_ fun _ _ _ => nofun
  rintro (_ | acknowledgement) after ⟨holds, names⟩
  · exact nofun
  obtain ⟨member, named⟩ := names acknowledgement rfl
  let marked (_ : Except Raised Unit) (after : EventWorld) :=
    after.ledger.Holds (event.eventId, sink.sinkId) event.payloadDigest ∧
    ⟨sink, event, acknowledgement⟩ ∈ after.returned ∧
    namesDelivery sink event acknowledgement after.ledger
  have mark : Safe (eventOp (.markAttempt event.eventId sink.sinkId none)) marked after := by
    refine Program.safe_perform_alone fun invariant => ⟨trivial, fun choice permitted => ?_⟩
    obtain ⟨keeps, later⟩ := step_later (.markAttempt event.eventId sink.sinkId none) rfl invariant
      choice
    refine ⟨keeps, later, later.1.holds _ _ holds, later.2 member, named.imp_right fun refused => ?_⟩
    exact mt (InMemoryEventLedger.acknowledge_markAttempt_ok _ _ _ _ _).mp refused
  refine mark.bind ?_ fun _ _ _ => nofun
  rintro _ filed ⟨holds, member, named⟩
  refine Program.safe_perform_alone fun invariant => ⟨trivial, fun choice permitted => ?_⟩
  refine ⟨acknowledge_invariant invariant member holds named, acknowledge_later _ _,
    fun accepted => ?_⟩
  exact acknowledge_audited invariant member holds
    (named.resolve_right fun refused => refused accepted) accepted

theorem deliverAttempts_safe (dispatcher : EventDispatcher) {event : RuntimeEvent}
    {context : RuntimeCallContext} {sink : EventSink} (attempts : List ℕ)
    (lastError : Option ErrorDetail) {world : EventWorld} (invariant : Invariant world)
    (holds : world.ledger.Holds (event.eventId, sink.sinkId) event.payloadDigest) :
    Safe (dispatcher.deliverAttempts event context sink attempts lastError)
      (fun outcome after => outcome = .ok () →
        after.Audited event.eventId sink.sinkId event.payloadDigest) world := by
  induction attempts generalizing lastError world with
  | nil => exact nofun
  | cons attempt attempts ih =>
    refine Program.Safe.andThen (Safe.kept invariant (attemptDelivery_safe holds)) ?_
    rintro outcome after ⟨keeps, later, audited⟩
    have held := later.1.holds _ _ holds
    match outcome with
    | .ok () => exact audited
    | .error (.core error) =>
      refine Program.Safe.bind (Safe.kept keeps (safe_of_only (only_op (.markAttempt _ _ _) rfl))) ?_
        (fun _ _ _ => nofun)
      rintro _ marked ⟨keeps, later, -⟩
      have held := later.1.holds _ _ held
      split
      · refine Program.Safe.bind (Safe.kept keeps (safe_of_only (only_backoff dispatcher attempt))) ?_
          (fun _ _ _ => nofun)
        rintro _ slept ⟨keeps, later, -⟩
        exact ih _ keeps (later.1.holds _ _ held)
      · exact nofun
    | .error (.value _) | .error (.assertion _) | .error (.key _) | .error (.other _)
    | .error .cancelledError => exact nofun

theorem prepareForSink_safe (dispatcher : EventDispatcher) (event : RuntimeEvent)
    (context : RuntimeCallContext) (principal : RuntimePrincipal) (sink : EventSink)
    (world : EventWorld) :
    Safe (dispatcher.prepareForSink event context principal sink)
      (fun outcome _ => ∀ prepared, outcome = .ok prepared →
        prepared = redact event sink.capabilities.maximumSensitivity) world := by
  have checked : Safe (Program.ofExcept (EventDispatcher.checkCapabilities event sink))
      (fun _ _ => True) world := Program.safe_ofExcept trivial
  refine checked.bind (fun _ authorizing _ => ?_) fun _ _ _ => nofun
  refine (safe_of_only (only_authorizeSink dispatcher sink event context principal)).bind
    (fun _ redacting _ => ?_) fun _ _ _ => nofun
  have validated : Safe (Program.ofExcept (dispatcher.validateRedacted
      (redact event sink.capabilities.maximumSensitivity))) (fun _ _ => True) redacting :=
    Program.safe_ofExcept trivial
  refine validated.bind (fun _ _ _ => ?_) fun _ _ _ => nofun
  rintro prepared ⟨⟩
  rfl

theorem enqueue_safe (event : RuntimeEvent) (sink : EventSink) (context : RuntimeCallContext)
    (principal : RuntimePrincipal) (world : EventWorld) :
    Safe (eventOp (.enqueue event sink.sinkId context principal))
      (fun outcome after => outcome = .ok () → Invariant after ∧
        after.ledger.Holds (event.eventId, sink.sinkId) event.payloadDigest) world := by
  refine Program.safe_perform_alone fun invariant => ⟨trivial, fun choice permitted => ?_⟩
  obtain ⟨keeps, later⟩ := step_later (.enqueue event sink.sinkId context principal) rfl invariant
    choice
  exact ⟨keeps, later, fun accepted => ⟨keeps, InMemoryEventLedger.enqueue_holds accepted⟩⟩

theorem publishToSink_safe (dispatcher : EventDispatcher) (event : RuntimeEvent)
    (context : RuntimeCallContext) (principal : RuntimePrincipal) (sink : EventSink)
    {world : EventWorld} (invariant : Invariant world) :
    Safe (dispatcher.publishToSink event context principal sink)
      (fun outcome after => outcome = .ok () → after.Audited event.eventId sink.sinkId
        (redact event sink.capabilities.maximumSensitivity).payloadDigest) world := by
  refine (Safe.kept invariant (prepareForSink_safe dispatcher event context principal sink _)).bind
    ?_ fun _ _ _ => nofun
  rintro prepared preparing ⟨keeps, -, redacted⟩
  refine (enqueue_safe prepared sink context principal preparing).bind ?_ fun _ _ _ => nofun
  rintro _ delivering enqueued
  obtain ⟨keeps, holds⟩ := enqueued rfl
  have same := redacted prepared rfl
  have eventId : prepared.eventId = event.eventId := same ▸ redact_eventId _ _
  rw [← same, ← eventId]
  exact deliverAttempts_safe dispatcher _ none keeps holds

theorem diagnosing_safe {program : EventProgram Unit} {eventId : EventId} {sinkId : String}
    {world : EventWorld} {post : Except Raised Unit → EventWorld → Prop}
    (safe : Safe program post world) :
    Safe (EventDispatcher.diagnosing program eventId sinkId) (fun _ _ => True) world := by
  refine Program.Safe.catching safe (fun _ _ _ => trivial) fun error after _ => ?_
  cases error with
  | core detail => exact safe_of_only (only_op (.diagnose _) rfl)
  | _ => trivial

theorem publishAudit_safe (dispatcher : EventDispatcher) (event : RuntimeEvent)
    (context : RuntimeCallContext) (principal : RuntimePrincipal) {world : EventWorld}
    (invariant : Invariant world) :
    Safe (dispatcher.publishAudit event context principal)
      (fun outcome after => outcome = .ok () → ∀ sink ∈ dispatcher.required,
        after.Audited event.eventId sink.sinkId
          (redact event sink.capabilities.maximumSensitivity).payloadDigest) world := by
  unfold EventDispatcher.publishAudit
  split
  · exact nofun
  let audited (sinks : List EventSink) (after : EventWorld) := ∀ sink ∈ sinks,
    after.Audited event.eventId sink.sinkId
      (redact event sink.capabilities.maximumSensitivity).payloadDigest
  have requiredLoop : Safe (Program.foldM
      (fun _ sink => dispatcher.publishToSink event context principal sink) ()
      dispatcher.required) (fun outcome after => outcome = .ok () →
        Invariant after ∧ audited dispatcher.required after) world := by
    refine Program.safe_foldM (fun _ left before => Invariant before ∧
      ∀ sink ∈ dispatcher.required, sink ∈ left ∨ audited [sink] before) ?_ ?_ _ _ ?_
    · rintro _ sink left before ⟨keeps, done⟩
      refine (Safe.kept keeps (publishToSink_safe dispatcher event context principal sink
        keeps)).mono fun outcome after => ?_
      rintro ⟨keeps, later, published⟩
      match outcome with
      | .error _ => exact nofun
      | .ok () =>
        refine ⟨keeps, fun other member => ?_⟩
        rcases done other member with waiting | audited
        · rcases List.mem_cons.mp waiting with rfl | waiting
          · exact .inr fun _ same => List.mem_singleton.mp same ▸ published rfl
          · exact .inl waiting
        · exact .inr fun _ same => audited_later later (audited _ same)
    · rintro _ after ⟨keeps, done⟩ -
      exact ⟨keeps, fun sink member =>
        (done sink member).resolve_left List.not_mem_nil sink List.mem_cons_self⟩
    · exact ⟨invariant, fun sink member => .inl member⟩
  refine requiredLoop.bind ?_ fun _ _ _ => nofun
  intro _ optionally published
  obtain ⟨keeps, published⟩ := published rfl
  refine Program.safe_foldM (fun _ _ before => Invariant before ∧
    audited dispatcher.required before) ?_ ?_ _ _ ⟨keeps, published⟩
  · rintro _ sink left before ⟨keeps, published⟩
    refine (Safe.kept keeps (diagnosing_safe (publishToSink_safe dispatcher event context
      principal sink keeps))).mono fun outcome after => ?_
    rintro ⟨keeps, later, -⟩
    match outcome with
    | .error _ => exact nofun
    | .ok () => exact ⟨keeps, fun sink member => audited_later later (published sink member)⟩
  · rintro _ after ⟨-, published⟩ -
    exact published

theorem publish_safe (dispatcher : EventDispatcher) (event : RuntimeEvent)
    (context : RuntimeCallContext) (principal : RuntimePrincipal) {world : EventWorld}
    (invariant : Invariant world) :
    Safe (dispatcher.publish event context principal)
      (fun outcome after => event.deliveryClass = .audit → outcome = .ok () →
        ∀ sink ∈ dispatcher.required, after.Audited event.eventId sink.sinkId
          (redact event sink.capabilities.maximumSensitivity).payloadDigest) world := by
  have validated : Safe (Program.ofExcept (dispatcher.schemas.validate event))
      (fun _ after => Invariant after) world := Program.safe_ofExcept invariant
  refine validated.bind (fun _ after invariant => ?_) fun _ _ _ _ => nofun
  split
  · exact (publishAudit_safe dispatcher event context principal invariant).mono
      fun _ _ published _ => published
  · rename_i observed
    refine Program.Safe.mono (safe_of_only ?_) fun _ _ _ audit => absurd audit observed
    refine (only_op (.putNowait _ _) rfl).bind fun accepted => ?_
    exact Program.only_ite (fun _ => only_op (.diagnose _) rfl) fun _ => trivial

theorem redeliver_safe (dispatcher : EventDispatcher) (recovered : ℕ)
    (pending : PendingAuditDelivery) {sink : EventSink} (token : CancellationId)
    {world : EventWorld} (invariant : Invariant world)
    (holds : world.ledger.Holds (pending.event.eventId, sink.sinkId)
      pending.event.payloadDigest) :
    Safe (dispatcher.redeliver recovered pending sink token) (fun _ _ => True) world := by
  refine (Safe.kept invariant (safe_of_only (only_authorizeSink dispatcher _ _ _ _))).bind ?_
    fun _ _ _ => trivial
  rintro _ authorized ⟨keeps, later, -⟩
  exact (deliverAttempts_safe dispatcher _ none keeps (later.1.holds _ _ holds)).bind
    (fun _ _ _ => trivial) fun _ _ _ => trivial

theorem recoverEntry_safe (dispatcher : EventDispatcher) (recovered : ℕ)
    (pending : PendingAuditDelivery) {world : EventWorld} (invariant : Invariant world)
    (holds : world.ledger.Holds (pending.event.eventId, pending.sinkId)
      pending.event.payloadDigest) :
    Safe (dispatcher.recoverEntry recovered pending) (fun _ _ => True) world := by
  unfold EventDispatcher.recoverEntry
  split
  · exact safe_of_only ((only_op (.diagnose _) rfl).bind fun _ => trivial)
  · rename_i registration found
    have named : registration.sink.sinkId = pending.sinkId := by
      simpa using List.find?_some found
    refine (Safe.kept invariant (safe_of_only (only_op .newToken rfl))).bind ?_ fun _ _ _ => trivial
    rintro token after ⟨keeps, later, -⟩
    have held : after.ledger.Holds (pending.event.eventId, registration.sink.sinkId)
        pending.event.payloadDigest := named ▸ later.1.holds _ _ holds
    refine (redeliver_safe dispatcher recovered pending token keeps held).catching
      (fun _ _ _ => trivial) fun error failed _ => ?_
    cases error with
    | core detail => exact safe_of_only ((only_op (.diagnose _) rfl).bind fun _ => trivial)
    | _ => trivial

theorem recoverPending_safe (dispatcher : EventDispatcher) (limit : ℕ) (world : EventWorld) :
    Safe (dispatcher.recoverPending limit) (fun _ _ => True) world := by
  let held (entries : List PendingAuditDelivery) (after : EventWorld) := ∀ pending ∈ entries,
    after.ledger.Holds (pending.event.eventId, pending.sinkId) pending.event.payloadDigest
  have listed : Safe (eventOp (.listPending limit)) (fun outcome after => Invariant after ∧
      ∀ entries, outcome = .ok entries → held entries after) world := by
    refine Program.safe_perform_alone fun invariant => ⟨trivial, fun choice permitted => ?_⟩
    refine ⟨invariant, .refl _, invariant, ?_⟩
    rintro _ ⟨⟩ pending member
    obtain ⟨⟨key, _⟩, entry, rfl⟩ := List.mem_map.mp (List.mem_of_mem_take member)
    have found := Dict.get?_of_mem entry
    obtain ⟨rfl, digest, -⟩ := invariant.1 _ _ found
    exact .inl ⟨_, found, digest⟩
  refine listed.bind ?_ fun _ _ _ => trivial
  rintro entries after ⟨keeps, holds⟩
  refine Program.safe_foldM (fun _ left before => Invariant before ∧ held left before) ?_
    (fun _ _ _ => trivial) _ _ ⟨keeps, holds entries rfl⟩
  rintro recovered pending left before ⟨keeps, holds⟩
  refine (Safe.kept keeps (recoverEntry_safe dispatcher recovered pending keeps
    (holds pending List.mem_cons_self))).mono fun outcome after => ?_
  rintro ⟨keeps, later, -⟩
  match outcome with
  | .error _ => trivial
  | .ok _ =>
    exact ⟨keeps, fun other member => later.1.holds _ _ (holds other (List.mem_cons_of_mem _ member))⟩

theorem invariant_empty : Invariant .empty := by
  refine ⟨fun _ _ found => ?_, fun _ _ found => ?_⟩
  · rw [show EventWorld.empty.ledger.pending = .empty from rfl, Dict.get?_empty] at found
    cases found
  · rw [show EventWorld.empty.ledger.acknowledged = .empty from rfl, Dict.get?_empty] at found
    cases found

theorem system_meets (dispatcher : EventDispatcher) :
    (dispatcher.system namesDelivery).Meets contract where
  reflexive _ := rfl
  initial := by
    rintro _ rfl
    exact invariant_empty
  starts := by
    rintro before program start invariant ⟨same, publishes | recovers⟩
    all_goals subst same
    · obtain ⟨event, context, principal, rfl⟩ := publishes
      exact ⟨invariant, (publish_safe dispatcher event context principal invariant).mono
        fun _ _ _ => trivial⟩
    · obtain ⟨limit, rfl⟩ := recovers
      exact ⟨invariant, (recoverPending_safe dispatcher limit start).bind
        (fun _ _ _ => trivial) fun _ _ _ => trivial⟩

end AuditDelivery

/-- In every run whose sinks answer under `condition`, an audit publication that returns
leaves the entry of every required sink audited. -/
def AuditDeliverySound [Sha256] (condition : SinkCondition) : Prop :=
  ∀ (dispatcher : EventDispatcher) (event : RuntimeEvent) (context : RuntimeCallContext)
    (principal : RuntimePrincipal) (before after : EventWorld),
    event.deliveryClass = .audit → (dispatcher.system condition).Reachable before →
    Steps (eventEnvironment condition) Unit
      (dispatcher.publish event context principal, before) (.ret (), after) →
    ∀ sink ∈ dispatcher.required, after.Audited event.eventId sink.sinkId
      (redact event sink.capabilities.maximumSensitivity).payloadDigest

theorem publish_audited [Sha256] : AuditDeliverySound namesDelivery := by
  intro dispatcher event context principal before after audit reached returned
  have invariant := (AuditDelivery.system_meets dispatcher).reachable reached
  have safe := AuditDelivery.publish_safe dispatcher event context principal invariant
  exact (safe.steps (fun _ => rfl) invariant returned).2 audit rfl

/-- Any answer of a sink. -/
def anyAnswer : SinkCondition := fun _ _ _ _ => True

theorem permits_anyAnswer (op : EventOp) (choice : op.Choice) (world : EventWorld) :
    eventPermits anyAnswer op choice world := by
  unfold eventPermits anyAnswer
  split <;> trivial

namespace AuditDelivery

open SampleParameters

def sampleEvent : RuntimeEvent where
  eventId := ⟨"event-1", by decide⟩
  eventType := "core.authorization.denied"
  schemaVersion := "1"
  occurredAt := sampleTime
  runId := sampleRunId
  rootRunId := sampleRunId
  parentRunId := none
  sequence := 1
  scope := sampleScope
  correlationId := sampleContext.trace.correlationId
  causationId := none
  sensitivity := .internal
  deliveryClass := .audit
  payload := ⟨.empty, rfl⟩
  valid := by decide

def sampleSink (sinkId : String) : EventSink :=
  ⟨sinkId, ⟨[.audit], [("*", "*")], .internal, true⟩⟩

def sampleDispatcher : EventDispatcher where
  schemas := ⟨Dict.empty.set ("core.authorization.denied", "1") fun _ => .ok ()⟩
  sinks := [⟨sampleSink "sink-a", true⟩, ⟨sampleSink "sink-b", true⟩]
  authorized := true
  policy := {}

/-- Whichever sink is asked, its acknowledgement names `sink-a`. -/
def sampleOracle : ℕ → (op : EventOp) → EventWorld → op.Choice
  | _, .cancelled _, _ => false
  | _, .now, _ => sampleTime
  | _, .newToken, _ => sampleContext.cancellation
  | _, .authorize request, _ => .ok (allowing request)
  | _, .deliver _ event _, _ =>
    .ok (some ⟨⟨"acknowledgement-1", by decide⟩, event.eventId, "sink-a", event.payloadDigest,
      sampleTime, by decide, Sha256Digest.ne_empty _⟩)
  | _, .enqueue _ _ _ _, _ | _, .markAttempt _ _ _, _ | _, .acknowledge _, _
  | _, .listPending _, _ | _, .sleep _, _ | _, .diagnose _, _ | _, .putNowait _ _, _ => ()

/-- The publication to `sink-a` and `sink-b` when both acknowledge as `sink-a`. -/
def sampleRun : EventProgram Unit × EventWorld :=
  execute (eventEnvironment anyAnswer) sampleOracle 40 0
    (sampleDispatcher.publish sampleEvent sampleContext samplePrincipal, .empty)

end AuditDelivery

open AuditDelivery SampleParameters in
/-- A second sink that returns the first sink's acknowledgement ends the publication with its
own entry pending. -/
theorem publish_unaudited : ¬ AuditDeliverySound anyAnswer := by
  intro sound
  have returned : sampleRun.1.returned = true := by decide +kernel
  have steps := execute_returned (fun _ op world => permits_anyAnswer op _ world) sampleRun.eq_def.symm
    returned
  obtain ⟨entry, -, found, -⟩ := sound sampleDispatcher sampleEvent sampleContext samplePrincipal
    .empty sampleRun.2 rfl (.initial rfl) steps (sampleSink "sink-b")
    (by decide +kernel)
  have pending : sampleRun.2.ledger.acknowledged.get?
      (sampleEvent.eventId, (sampleSink "sink-b").sinkId) = none := by decide +kernel
  rw [pending] at found
  cases found

end CongeriesCore
