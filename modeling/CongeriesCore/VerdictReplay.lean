import CongeriesCore.EvaluationEvents

/-! # Replay of verdict publications

Verdicts are published, other events go through the same dispatcher and outbox, the process is
restarted over the outbox it had, and verdicts are published again. A verdict that repeats its
data meets no conflict with what is there, and is delivered where the sinks and the policy let
it pass. -/

namespace CongeriesCore

open AsyncProgram

/-- The dispatcher and its outbox, with the verdicts that have been published. A publication that
was cut off has no outcome. -/
structure VerdictState where
  created : Dict EventId RuntimeEvent
  world : EventWorld
  published : List (VerdictPublication × Option (Except Raised Unit))

def VerdictState.empty : VerdictState := ⟨.empty, .empty, []⟩

/-- What a new process finds. -/
def VerdictState.restarted (state : VerdictState) : VerdictState :=
  { state with
    created := .empty
    world := { state.world with observations := [], diagnostics := [] } }

/-- Sinks registered under one name see the same of an event. -/
def EventDispatcher.SameViews (dispatcher : EventDispatcher) : Prop :=
  ∀ first ∈ dispatcher.sinks, ∀ second ∈ dispatcher.sinks,
    first.sink.sinkId = second.sink.sinkId →
      first.sink.capabilities.maximumSensitivity = second.sink.capabilities.maximumSensitivity

section Replay

variable [Sha256]

/-- `evaluation_verdict_recorded`, up to its end or to the step after which it was cut off. -/
def EventDispatcher.RecordsVerdict (dispatcher : EventDispatcher)
    (environment : Environment EventInterface Raised EventWorld) (publication : VerdictPublication)
    (allocation : EventAllocation) (before : VerdictState) (outcome : Option (Except Raised Unit))
    (after : VerdictState) : Prop :=
  let result := dispatcher.createEvent before.created publication.fields publication.eventId
    allocation
  match result.1 with
  | .error error => outcome = some (.error error) ∧ after = { before with
      published := (publication, outcome) :: before.published }
  | .ok event => ∃ rest world, Steps environment Unit
      (dispatcher.publish event publication.context publication.principal, before.world)
      (rest, world) ∧ outcome = rest.outcome? ∧
      after = ⟨result.2, world, (publication, outcome) :: before.published⟩

/-- The event is not that of a verdict. -/
def EventId.Foreign (eventId : EventId) : Prop :=
  ∀ publication : VerdictPublication, publication.eventId ≠ eventId

/-- What happens to the dispatcher and its outbox, whatever the sinks and the policy do. -/
inductive EventDispatcher.VerdictMoves (dispatcher : EventDispatcher) :
    VerdictState → VerdictState → Prop
  | record {before after : VerdictState} {publication : VerdictPublication}
      {allocation : EventAllocation} {outcome : Option (Except Raised Unit)} :
      EventIdentity.Unconflicted allocation.sequence →
      dispatcher.RecordsVerdict publicationEnvironment publication allocation before outcome after →
      VerdictMoves dispatcher before after
  | publish {before : VerdictState} {event : RuntimeEvent} {context : RuntimeCallContext}
      {principal : RuntimePrincipal} {created : Dict EventId RuntimeEvent}
      {rest : EventProgram Unit} {world : EventWorld} : EventId.Foreign event.eventId →
      (∀ publication : VerdictPublication,
        created.get? publication.eventId = before.created.get? publication.eventId) →
      Steps publicationEnvironment Unit (dispatcher.publish event context principal, before.world)
        (rest, world) →
      VerdictMoves dispatcher before ⟨created, world, before.published⟩
  | recover {before : VerdictState} {limit : ℕ} {rest : EventProgram ℕ} {world : EventWorld} :
      Steps publicationEnvironment ℕ (dispatcher.recoverPending limit, before.world)
        (rest, world) →
      VerdictMoves dispatcher before { before with world }
  | restart {before : VerdictState} : VerdictMoves dispatcher before before.restarted

/-- The states that a dispatcher reaches from an empty outbox. -/
def EventDispatcher.VerdictReachable (dispatcher : EventDispatcher) : VerdictState → Prop :=
  Relation.ReflTransGen dispatcher.VerdictMoves .empty

/-- A verdict that repeats an identity repeats the data. -/
def RepeatsData (published : List VerdictPublication) : Prop :=
  ∀ first ∈ published, ∀ second ∈ published, first.eventId = second.eventId →
    first.SameData second

theorem RepeatsData.subset {first second : List VerdictPublication} (repeats : RepeatsData second)
    (subset : first ⊆ second) : RepeatsData first := by
  intro one listed two member
  exact repeats one (subset listed) two (subset member)

def VerdictState.verdicts (state : VerdictState) : List VerdictPublication :=
  state.published.map Prod.fst

/-! ### What the outbox holds of the verdicts -/

namespace VerdictReplay

open EventIdentity

variable {dispatcher : EventDispatcher}

/-- The event was created for the publication. -/
def Made (publication : VerdictPublication) (event : RuntimeEvent) : Prop :=
  ∃ allocation, EventDispatcher.newEvent publication.fields publication.eventId allocation = .ok event

theorem Made.eventId {publication : VerdictPublication} {event : RuntimeEvent}
    (made : Made publication event) : event.eventId = publication.eventId := by
  obtain ⟨allocation, made⟩ := made
  exact (EventDispatcher.newEvent_agrees publication.payload_equals made).1

theorem Made.audit {publication : VerdictPublication} {event : RuntimeEvent}
    (made : Made publication event) : event.deliveryClass = .audit := by
  obtain ⟨allocation, made⟩ := made
  exact (EventDispatcher.newEvent_agrees publication.payload_equals made).2.2

theorem Made.digest {first second : VerdictPublication} {event other : RuntimeEvent}
    (made : Made first event) (again : Made second other) (same : first.SameData second)
    (level : Sensitivity) :
    (redact event level).payloadDigest = (redact other level).payloadDigest := by
  obtain ⟨one, made⟩ := made
  obtain ⟨two, again⟩ := again
  rw [same.fields] at made
  exact EventDispatcher.newEvent_digest made again level

/-- The entries of verdicts that have been published; other events are left open. -/
def entries (dispatcher : EventDispatcher) (verdicts : List VerdictPublication) : Entries :=
  fun eventId sinkId digest => (∃ publication : VerdictPublication, publication.eventId = eventId) →
    ∃ verdict ∈ verdicts, verdict.eventId = eventId ∧ ∃ event, Made verdict event ∧
      ∃ registration ∈ dispatcher.sinks, registration.sink.sinkId = sinkId ∧
        digest = (redact event registration.sink.capabilities.maximumSensitivity).payloadDigest

theorem entries_mono {first second : List VerdictPublication} (subset : first ⊆ second)
    {world : EventWorld} (holds : EventIdentity.Holds (entries dispatcher first) world) :
    EventIdentity.Holds (entries dispatcher second) world := by
  intro eventId sinkId digest held verdict
  obtain ⟨other, listed, explained⟩ := holds eventId sinkId digest held verdict
  exact ⟨other, subset listed, explained⟩

theorem entries_open {verdicts : List VerdictPublication} {event : RuntimeEvent}
    (foreign : EventId.Foreign event.eventId) : Open (entries dispatcher verdicts) event := by
  intro sinkId digest verdict
  obtain ⟨publication, same⟩ := verdict
  exact absurd same (foreign publication)

/-- All that is held of a verdict is what its sinks may see of it. -/
theorem files_made (views : dispatcher.SameViews) {verdicts : List VerdictPublication}
    (repeats : RepeatsData verdicts) {publication : VerdictPublication} {event : RuntimeEvent}
    (listed : publication ∈ verdicts) (made : Made publication event) :
    ∀ registration ∈ dispatcher.sinks,
      Files (entries dispatcher verdicts) event registration.sink := by
  intro registration member digest
  constructor
  · intro held
    obtain ⟨other, published, named, earlier, created, second, present, sink, same⟩ :=
      held ⟨publication, made.eventId.symm⟩
    have data := repeats other published publication listed (named.trans made.eventId)
    rw [same, views second present registration member sink]
    exact created.digest made data _
  · intro same _
    exact ⟨publication, listed, made.eventId.symm, event, made, registration, member, rfl, same⟩

/-- Whichever verdicts have been created were published, and the outbox holds their digests. -/
structure Kept (dispatcher : EventDispatcher) (state : VerdictState) : Prop where
  created : ∀ (publication : VerdictPublication) (event : RuntimeEvent),
    state.created.get? publication.eventId = some event → ∃ verdict ∈ state.verdicts,
      verdict.eventId = publication.eventId ∧ Made verdict event
  holds : EventIdentity.Holds (entries dispatcher state.verdicts) state.world
  wellKept : state.world.ledger.WellKept

theorem kept_empty (dispatcher : EventDispatcher) : Kept dispatcher .empty := by
  refine ⟨fun publication event found => ?_, fun eventId sinkId digest held => ?_,
    AuditDelivery.invariant_empty.1⟩
  · cases found
  · rcases held with ⟨_, found, -⟩ | ⟨_, found, -⟩
    · cases found
    · cases found

theorem wellKept_answer (op : EventOp) (choice : op.Choice) {world : EventWorld}
    (kept : world.ledger.WellKept) : (eventAnswer op choice world).2.ledger.WellKept := by
  cases op with
  | deliver sink event context =>
    have same : (eventAnswer (.deliver sink event context) choice world).2.ledger = world.ledger :=
      AuditDelivery.recordReturn_ledger _ _ _ _
    rwa [same]
  | enqueue event sinkId context principal => exact InMemoryEventLedger.enqueue_wellKept kept _ _ _ _
  | markAttempt eventId sinkId error => exact InMemoryEventLedger.markAttempt_wellKept kept _ _ _
  | acknowledge acknowledgement => exact InMemoryEventLedger.acknowledge_wellKept kept _
  | putNowait capacity queued =>
    simp only [eventAnswer]
    split
    · exact kept
    · exact kept
  | _ => exact kept

theorem wellKept_steps {α : Type} {program rest : EventProgram α} {before after : EventWorld}
    (steps : Steps publicationEnvironment α (program, before) (rest, after))
    (kept : before.ledger.WellKept) : after.ledger.WellKept := by
  generalize target : (rest, after) = last at steps
  induction steps generalizing rest after with
  | refl =>
    cases target
    exact kept
  | tail _ step ih =>
    subst target
    cases step with
    | resume choice permitted => exact wellKept_answer _ choice (ih rfl)

/-- What `create_event` makes of a verdict that repeats its data. -/
theorem createEvent_made {state : VerdictState} {publication : VerdictPublication}
    (allocation : EventAllocation) (kept : Kept dispatcher state)
    (repeats : RepeatsData (publication :: state.verdicts)) :
    (∃ event, Made publication event ∧
      dispatcher.createEvent state.created publication.fields publication.eventId allocation =
        (.ok event, state.created)) ∨
    state.created.get? publication.eventId = none ∧
      ((∃ error, dispatcher.validEvent publication.fields publication.eventId allocation =
          .error error ∧
        dispatcher.createEvent state.created publication.fields publication.eventId allocation =
          (.error error, state.created)) ∨
      ∃ event, Made publication event ∧
        dispatcher.validEvent publication.fields publication.eventId allocation = .ok event ∧
        dispatcher.createEvent state.created publication.fields publication.eventId allocation =
          (.ok event, state.created.set publication.eventId event)) := by
  unfold EventDispatcher.createEvent
  dsimp only
  cases found : state.created.get? publication.eventId with
  | some existing =>
    left
    obtain ⟨verdict, listed, named, allocated, made⟩ := kept.created publication existing found
    have same := repeats verdict (.tail _ listed) publication (.head _) named
    rw [same.fields, named] at made
    have agrees := (EventDispatcher.newEvent_agrees publication.payload_equals made).2.1
    refine ⟨existing, ⟨allocated, made⟩, ?_⟩
    dsimp only
    rw [if_pos agrees]
  | none =>
    right
    refine ⟨rfl, ?_⟩
    dsimp only
    cases valid : dispatcher.validEvent publication.fields publication.eventId allocation with
    | error error => exact .inl ⟨error, rfl, rfl⟩
    | ok event =>
      have made := EventDispatcher.newEvent_of_valid valid
      have named := (EventDispatcher.newEvent_agrees publication.payload_equals made).1
      refine .inr ⟨event, ⟨allocation, made⟩, rfl, ?_⟩
      simp only

/-- What a publication keeps, and that it meets no conflict. -/
theorem records_kept {before after : VerdictState} {publication : VerdictPublication}
    {allocation : EventAllocation} {outcome : Option (Except Raised Unit)}
    (views : dispatcher.SameViews) (own : ∀ event, Unconflicted (dispatcher.schemas.validate event))
    (sequenced : Unconflicted allocation.sequence) (kept : Kept dispatcher before)
    (repeats : RepeatsData (publication :: before.verdicts))
    (records : dispatcher.RecordsVerdict publicationEnvironment publication allocation before outcome
      after) :
    Kept dispatcher after ∧ ∀ ended, outcome = some ended → Unconflicted ended := by
  have published : ∀ {event : RuntimeEvent} {rest : EventProgram Unit} {world : EventWorld},
      Made publication event →
      Steps publicationEnvironment Unit
        (dispatcher.publish event publication.context publication.principal, before.world)
        (rest, world) →
      EventIdentity.Holds (entries dispatcher (publication :: before.verdicts)) world ∧ world.ledger.WellKept ∧
        ∀ ended, rest.outcome? = some ended → Unconflicted ended := by
    intro event rest world made steps
    have quiet := quiet_publish publication.context publication.principal (own event)
      (fun _ => files_made views repeats (.head _) made) before.world
    have holds := entries_mono (List.subset_cons_self publication before.verdicts) kept.holds
    have reflexive : ∀ state,
        (contract (entries dispatcher (publication :: before.verdicts))).rely state state :=
      fun _ => rfl
    obtain ⟨keeps, -⟩ := quiet.steps reflexive holds steps
    refine ⟨keeps, wellKept_steps steps kept.wellKept, fun ended finished => ?_⟩
    rw [Program.outcome?_eq_some finished] at steps
    exact quiet.ended reflexive holds steps
  have earlier : ∀ (other : VerdictPublication) (event : RuntimeEvent),
      before.created.get? other.eventId = some event →
      ∃ verdict ∈ publication :: before.verdicts,
        verdict.eventId = other.eventId ∧ Made verdict event := by
    intro other event found
    obtain ⟨verdict, listed, made⟩ := kept.created other event found
    exact ⟨verdict, .tail _ listed, made⟩
  unfold EventDispatcher.RecordsVerdict at records
  rcases createEvent_made allocation kept repeats with
    ⟨event, made, equal⟩ | ⟨absent, ⟨error, refused, equal⟩ | ⟨event, made, -, equal⟩⟩
  · simp only [equal] at records
    obtain ⟨rest, world, steps, ended, rfl⟩ := records
    obtain ⟨holds, wellKept, unconflicted⟩ := published made steps
    exact ⟨⟨earlier, holds, wellKept⟩, fun outcome same => unconflicted outcome (ended ▸ same)⟩
  · simp only [equal] at records
    obtain ⟨ended, rfl⟩ := records
    refine ⟨⟨earlier, entries_mono (List.subset_cons_self _ _) kept.holds, kept.wellKept⟩, ?_⟩
    intro outcome same
    cases ended.symm.trans same
    exact unconflicted_error (unconflicted_validEvent own sequenced error refused)
  · simp only [equal] at records
    obtain ⟨rest, world, steps, ended, rfl⟩ := records
    obtain ⟨holds, wellKept, unconflicted⟩ := published made steps
    refine ⟨⟨fun other event' found => ?_, holds, wellKept⟩,
      fun outcome same => unconflicted outcome (ended ▸ same)⟩
    by_cases same : publication.eventId = other.eventId
    · rw [← same] at found
      cases (Dict.get?_set_self _ _ _).symm.trans found
      exact ⟨publication, .head _, same, made⟩
    · exact earlier other event' ((Dict.get?_set_of_ne _ same _).symm.trans found)

theorem records_verdicts {environment : Environment EventInterface Raised EventWorld}
    {before after : VerdictState} {publication : VerdictPublication}
    {allocation : EventAllocation} {outcome : Option (Except Raised Unit)}
    (records : dispatcher.RecordsVerdict environment publication allocation before outcome after) :
    after.verdicts = publication :: before.verdicts := by
  unfold EventDispatcher.RecordsVerdict at records
  dsimp only at records
  split at records
  · obtain ⟨-, rfl⟩ := records
    rfl
  · obtain ⟨rest, world, -, -, rfl⟩ := records
    rfl

/-- No step forgets a verdict. -/
theorem moves_verdicts {before after : VerdictState} (moves : dispatcher.VerdictMoves before after) :
    before.verdicts ⊆ after.verdicts := by
  cases moves with
  | record _ records =>
    rw [records_verdicts records]
    exact List.subset_cons_self _ _
  | publish _ _ _ => exact List.Subset.refl _
  | recover _ => exact List.Subset.refl _
  | restart => exact List.Subset.refl _

/-- What the outbox holds of the verdicts does not grow by what leaves them alone. -/
theorem holds_harmless {α : Type} {verdicts : List VerdictPublication} {program rest : EventProgram α}
    {before after : EventWorld} (harmless : Harmless (entries dispatcher verdicts) program)
    (holds : EventIdentity.Holds (entries dispatcher verdicts) before)
    (steps : Steps publicationEnvironment α (program, before) (rest, after)) :
    EventIdentity.Holds (entries dispatcher verdicts) after :=
  ((harmless before).steps (fun _ => rfl) holds steps).1

theorem moves_kept {before after : VerdictState} (views : dispatcher.SameViews)
    (own : ∀ event, Unconflicted (dispatcher.schemas.validate event))
    (kept : Kept dispatcher before) (moves : dispatcher.VerdictMoves before after)
    (repeats : RepeatsData after.verdicts) : Kept dispatcher after := by
  cases moves with
  | record sequenced records =>
    rw [records_verdicts records] at repeats
    exact (records_kept views own sequenced kept repeats records).1
  | publish foreign same steps =>
    refine ⟨fun publication event found => ?_, ?_, wellKept_steps steps kept.wellKept⟩
    · rw [same] at found
      exact kept.created publication event found
    · exact holds_harmless (harmless_publish dispatcher _ _ (entries_open foreign)) kept.holds steps
  | recover steps =>
    refine ⟨kept.created, ?_, wellKept_steps steps kept.wellKept⟩
    exact holds_harmless (harmless_recoverPending dispatcher _) kept.holds steps
  | restart =>
    refine ⟨fun publication event found => ?_, kept.holds, kept.wellKept⟩
    cases found

theorem reachable_kept {state : VerdictState} (views : dispatcher.SameViews)
    (own : ∀ event, Unconflicted (dispatcher.schemas.validate event))
    (reached : dispatcher.VerdictReachable state) (repeats : RepeatsData state.verdicts) :
    Kept dispatcher state := by
  induction reached with
  | refl => exact kept_empty dispatcher
  | tail _ moves ih =>
    have earlier := ih (repeats.subset (moves_verdicts moves))
    exact moves_kept views own earlier moves repeats

/-! ### Delivery of a verdict that passes -/

/-- Nothing is cancelled, the clock stays before `horizon`, the policy grants what it is asked,
and a sink names the delivery that it acknowledges. -/
def passes (horizon : DateTime) : (op : EventOp) → op.Choice → Prop
  | .cancelled _, cancelled => cancelled = false
  | .now, now => now < horizon
  | .authorize request, answer => ∃ decision grant, answer = .ok decision ∧
      decision.effect = .allow ∧ decision.grant = some grant ∧
      (∀ expiry ∈ grant.expiresAt, horizon ≤ expiry) ∧ grant.principal = request.principal ∧
      grant.action = request.action ∧ grant.resource = request.resource ∧
      grant.sourceScope.key = request.context.scope.key ∧
      grant.effectiveScope.key = request.scope.key
  | .deliver sink event _, answer => ∃ acknowledgement : EventAcknowledgement,
      answer = .ok (some acknowledgement) ∧
      acknowledgement.key = (event.eventId, sink.sinkId) ∧
      acknowledgement.payloadDigest = event.payloadDigest
  | _, _ => True

def passingEnvironment (horizon : DateTime) : Environment EventInterface Raised EventWorld where
  Choice := EventOp.Choice
  permits op choice _ := passes horizon op choice
  answer := eventAnswer

/-- The event fits every audit sink of the dispatcher. -/
structure Accepts (dispatcher : EventDispatcher) (event : RuntimeEvent) : Prop where
  valid : dispatcher.schemas.validate event = .ok ()
  authorized : dispatcher.authorized = true
  required : dispatcher.required ≠ []
  fits : ∀ sink ∈ dispatcher.required ++ dispatcher.optional,
    EventDispatcher.checkCapabilities event sink = .ok () ∧
    dispatcher.validateRedacted (redact event sink.capabilities.maximumSensitivity) = .ok () ∧
    Identifier.check sink.sinkId = .ok ()

variable {verdicts : List VerdictPublication} {horizon : DateTime} {world : EventWorld}

def outboxContract (entries : Entries) : Contract EventInterface EventWorld :=
  .alone (fun world => EventIdentity.Holds entries world ∧ world.ledger.WellKept) (fun _ _ => True)
    fun _ _ => True

/-- From any state of the outbox, the program returns. -/
def Returns {α : Type} (horizon : DateTime) (entries : Entries) (program : EventProgram α)
    (result : α) : Prop :=
  ∀ world, program.Safe (passingEnvironment horizon) (outboxContract entries)
    (fun outcome _ => outcome = .ok result) world

theorem Returns.bind {α β : Type} {entries : Entries} {program : EventProgram α}
    {rest : α → EventProgram β} {result : α} {last : β} (first : Returns horizon entries program result)
    (continues : Returns horizon entries (rest result) last) :
    Returns horizon entries (program >>= rest) last := by
  intro world
  apply (first world).bind
  · intro other after same
    cases same
    exact continues after
  · intro error _ same
    cases same

theorem returns_ofExcept {α : Type} {entries : Entries} {outcome : Except Raised α} {result : α}
    (done : outcome = .ok result) : Returns horizon entries (Program.ofExcept outcome) result :=
  fun _ => Program.safe_ofExcept done

theorem returns_foldM {α : Type} {entries : Entries} {body : Unit → α → EventProgram Unit}
    (items : List α) (step : ∀ item ∈ items, Returns horizon entries (body () item) ()) :
    Returns horizon entries (Program.foldM body () items) () := by
  induction items with
  | nil => exact fun _ => rfl
  | cons item items ih =>
    apply (step item (.head _)).bind
    exact ih fun other member => step other (.tail _ member)

/-- An operation that makes no entry, by what it answers. -/
theorem safe_op {entries : Entries} {op : EventOp} (other : enqueues op = false)
    {post : Except Raised op.Answer → EventWorld → Prop}
    (answers : world.ledger.WellKept → ∀ choice, passes horizon op choice →
      post (eventAnswer op choice world).1 (eventAnswer op choice world).2) :
    (eventOp op).Safe (passingEnvironment horizon) (outboxContract entries) post world := by
  apply Program.safe_perform_alone
  intro kept
  refine ⟨trivial, fun choice permitted => ⟨⟨?_, ?_⟩, trivial, answers kept.2 choice permitted⟩⟩
  · exact holds_answer other kept.1 choice
  · exact wellKept_answer op choice kept.2

theorem returns_cancelled {entries : Entries} (token : CancellationId) :
    Returns horizon entries (eventOp (.cancelled token)) false := by
  intro world
  apply safe_op rfl
  intro _ choice permitted
  have same : choice = false := permitted
  rw [same]
  rfl

theorem safe_now {entries : Entries} :
    (eventOp .now).Safe (passingEnvironment horizon) (outboxContract entries)
      (fun outcome _ => ∃ time, outcome = .ok time ∧ time < horizon) world := by
  apply safe_op rfl
  intro _ choice permitted
  exact ⟨choice, rfl, permitted⟩

omit [Sha256] in
theorem not_due {time due : DateTime} (before : time < horizon) (later : horizon ≤ due) :
    ¬due ≤ time := by
  intro earlier
  have first : time.rank < horizon.rank := before
  have second : horizon.rank ≤ due.rank := later
  have third : due.rank ≤ time.rank := earlier
  omega

theorem returns_checkActive {entries : Entries} {context : RuntimeCallContext}
    (active : ∀ deadline ∈ context.deadline, horizon ≤ deadline.at_) :
    Returns horizon entries (context.checkActive : EventProgram Unit) () := by
  apply (returns_cancelled context.cancellation).bind
  intro world
  cases due : context.deadline with
  | none => exact rfl
  | some deadline =>
    apply safe_now.bind
    · intro time after ended
      obtain ⟨_, same, before⟩ := ended
      cases same
      rw [if_neg (not_due before (active deadline due))]
      exact rfl
    · intro error _ ended
      obtain ⟨_, same, -⟩ := ended
      cases same

theorem returns_expired {entries : Entries} {grant : Grant}
    (lasts : ∀ expiry ∈ grant.expiresAt, horizon ≤ expiry) :
    Returns horizon entries (AuthorizedDispatcher.expired grant : EventProgram Bool) false := by
  unfold AuthorizedDispatcher.expired
  intro world
  cases expires : grant.expiresAt with
  | none => exact rfl
  | some expiry =>
    apply safe_now.bind
    · intro time after ended
      obtain ⟨_, same, before⟩ := ended
      cases same
      have still : decide (expiry ≤ time) = false :=
        decide_eq_false (not_due before (lasts expiry expires))
      exact congrArg Except.ok still
    · intro error _ ended
      obtain ⟨_, same, -⟩ := ended
      cases same

theorem returns_authorizeSink {entries : Entries} {sink : EventSink} {event : RuntimeEvent}
    {context : RuntimeCallContext} (principal : RuntimePrincipal)
    (active : ∀ deadline ∈ context.deadline, horizon ≤ deadline.at_)
    (authorized : dispatcher.authorized = true) (named : Identifier.check sink.sinkId = .ok ()) :
    Returns horizon entries (dispatcher.authorizeSink sink event context principal) () := by
  unfold EventDispatcher.authorizeSink
  apply (returns_checkActive active).bind
  rw [authorized]
  have made : Identifier.make .resource sink.sinkId = .ok ⟨sink.sinkId, named⟩ :=
    Identifier.make_self ⟨sink.sinkId, named⟩
  have requested : ∃ request, EventDispatcher.sinkRequest sink event context principal =
      .ok request ∧ request.context = context ∧ request.scope = event.scope := by
    unfold EventDispatcher.sinkRequest
    rw [made]
    exact ⟨_, rfl, rfl, rfl⟩
  obtain ⟨request, asked, sameContext, sameScope⟩ := requested
  apply (returns_ofExcept asked).bind
  intro world
  have granted : (eventOp (.authorize request)).Safe (passingEnvironment horizon)
      (outboxContract entries) (fun outcome _ => ∃ decision, outcome = .ok decision ∧
        passes horizon (.authorize request) (.ok decision)) world := by
    apply safe_op rfl
    intro _ choice permitted
    obtain ⟨decision, grant, same, rest⟩ := permitted
    exact ⟨decision, same, decision, grant, rfl, rest⟩
  apply granted.bind
  · intro decision after ended
    obtain ⟨_, same, _, grant, judged, allowed, given, lasts, principal', action, resource, source,
      effective⟩ := ended
    cases same
    cases judged
    simp only [allowed, given]
    apply (returns_expired lasts).bind _ after
    rw [sameContext] at source
    rw [sameScope] at effective
    intro unexpired
    rw [if_neg Bool.false_ne_true, if_neg (by simp [principal', action, resource, source, effective])]
    exact rfl
  · intro error _ ended
    obtain ⟨_, same, -⟩ := ended
    cases same

theorem returns_prepareForSink {entries : Entries} {sink : EventSink} {event : RuntimeEvent}
    {context : RuntimeCallContext} (principal : RuntimePrincipal)
    (active : ∀ deadline ∈ context.deadline, horizon ≤ deadline.at_)
    (accepts : Accepts dispatcher event) (listed : sink ∈ dispatcher.required ++ dispatcher.optional) :
    Returns horizon entries (dispatcher.prepareForSink event context principal sink)
      (redact event sink.capabilities.maximumSensitivity) := by
  obtain ⟨capable, redacted, named⟩ := accepts.fits sink listed
  apply (returns_ofExcept capable).bind
  apply (returns_authorizeSink principal active accepts.authorized named).bind
  apply (returns_ofExcept redacted).bind
  exact fun _ => rfl

/-- A delivery of a held entry returns at its first attempt. -/
theorem safe_deliverAudit {entries : Entries} {sink : EventSink} {event : RuntimeEvent}
    {context : RuntimeCallContext}
    (held : world.ledger.Holds (event.eventId, sink.sinkId) event.payloadDigest) :
    (dispatcher.deliverAudit event context sink).Safe (passingEnvironment horizon)
      (outboxContract entries) (fun outcome _ => outcome = .ok ()) world := by
  let answered (outcome : Except Raised (Option EventAcknowledgement)) (after : EventWorld) :=
    after.ledger.Holds (event.eventId, sink.sinkId) event.payloadDigest ∧
    ∃ acknowledgement : EventAcknowledgement, outcome = .ok (some acknowledgement) ∧
      acknowledgement.key = (event.eventId, sink.sinkId) ∧
      acknowledgement.payloadDigest = event.payloadDigest
  have delivers : (eventOp (.deliver sink event context)).Safe (passingEnvironment horizon)
      (outboxContract entries) answered world := by
    apply safe_op rfl
    intro _ choice permitted
    have same : (eventAnswer (.deliver sink event context) choice world).2.ledger = world.ledger :=
      AuditDelivery.recordReturn_ledger _ _ _ _
    exact ⟨same.symm ▸ held, permitted⟩
  have attempt : (EventDispatcher.attemptDelivery event context sink).Safe
      (passingEnvironment horizon) (outboxContract entries) (fun outcome _ => outcome = .ok ())
      world := by
    apply delivers.bind
    · intro result after ended
      obtain ⟨held, acknowledgement, same, key, digest⟩ := ended
      cases same
      have marks : (eventOp (.markAttempt event.eventId sink.sinkId none)).Safe
          (passingEnvironment horizon) (outboxContract entries) (fun outcome marked =>
            outcome = .ok () ∧
              marked.ledger.Holds (event.eventId, sink.sinkId) event.payloadDigest) after := by
        apply safe_op rfl
        intro _ choice _
        exact ⟨InMemoryEventLedger.markAttempt_ok held none,
          (InMemoryEventLedger.markAttempt_later _ _ _ _).holds _ _ held⟩
      apply marks.bind
      · intro _ marked ended
        apply safe_op rfl
        intro kept choice _
        apply InMemoryEventLedger.acknowledge_accepted kept
        rw [key, digest]
        exact ended.2
      · intro error _ ended
        cases ended.1
    · intro error _ ended
      obtain ⟨-, _, same, -⟩ := ended
      cases same
  have some : 0 < dispatcher.policy.auditMaxAttempts := dispatcher.policy.positive.1
  unfold EventDispatcher.deliverAudit
  obtain ⟨rest, attempts⟩ : ∃ rest, List.range' 0 (dispatcher.policy.auditMaxAttempts - 0) = 0 :: rest := by
    obtain ⟨count, same⟩ := Nat.exists_eq_add_of_lt some
    rw [same]
    exact ⟨_, List.range'_succ⟩
  rw [attempts]
  apply attempt.andThen
  intro outcome after same
  subst same
  exact rfl

theorem returns_publishToSink {entries : Entries} {sink : EventSink} {event : RuntimeEvent}
    {context : RuntimeCallContext} (principal : RuntimePrincipal)
    (active : ∀ deadline ∈ context.deadline, horizon ≤ deadline.at_)
    (accepts : Accepts dispatcher event) (listed : sink ∈ dispatcher.required ++ dispatcher.optional)
    (files : Files entries event sink) :
    Returns horizon entries (dispatcher.publishToSink event context principal sink) () := by
  apply (returns_prepareForSink principal active accepts listed).bind
  intro world
  have enqueued : (eventOp (.enqueue (redact event sink.capabilities.maximumSensitivity) sink.sinkId
      context principal)).Safe (passingEnvironment horizon) (outboxContract entries)
      (fun outcome after => outcome = .ok () ∧ after.ledger.Holds (event.eventId, sink.sinkId)
        (redact event sink.capabilities.maximumSensitivity).payloadDigest) world := by
    apply Program.safe_perform_alone
    intro kept
    refine ⟨trivial, fun choice _ => ⟨⟨?_, wellKept_answer (.enqueue _ _ _ _) () kept.2⟩, trivial, ?_⟩⟩
    · intro eventId sinkId digest held
      rcases InMemoryEventLedger.holds_of_enqueue held with earlier | ⟨key, filed⟩
      · exact kept.1 eventId sinkId digest earlier
      · cases key
        exact (files digest).mpr filed
    · cases stored : (world.ledger.enqueue (redact event sink.capabilities.maximumSensitivity)
          sink.sinkId context principal).1 with
      | ok _ => exact ⟨stored, InMemoryEventLedger.enqueue_holds stored⟩
      | error error =>
        obtain ⟨held, present, other⟩ := InMemoryEventLedger.enqueue_refused stored
        exact absurd ((files held).mp (kept.1 _ _ _ present)) other
  apply enqueued.bind
  · intro _ after ended
    exact safe_deliverAudit ended.2
  · intro error _ ended
    cases ended.1

/-- A verdict that passes is delivered to every audit sink. -/
theorem returns_publish {entries : Entries} {event : RuntimeEvent} {context : RuntimeCallContext}
    (principal : RuntimePrincipal)
    (active : ∀ deadline ∈ context.deadline, horizon ≤ deadline.at_)
    (accepts : Accepts dispatcher event) (audit : event.deliveryClass = .audit)
    (files : ∀ registration ∈ dispatcher.sinks, Files entries event registration.sink) :
    Returns horizon entries (dispatcher.publish event context principal) () := by
  have published : ∀ sink ∈ dispatcher.required ++ dispatcher.optional,
      Returns horizon entries (dispatcher.publishToSink event context principal sink) () := by
    intro sink listed
    have registered : ∃ registration ∈ dispatcher.sinks, registration.sink = sink := by
      rcases List.mem_append.mp listed with required | optional
      · obtain ⟨registration, member, same⟩ := List.mem_map.mp required
        exact ⟨registration, (List.mem_filter.mp member).1, same⟩
      · obtain ⟨registration, member, same⟩ := List.mem_map.mp optional
        exact ⟨registration, (List.mem_filter.mp member).1, same⟩
    obtain ⟨registration, member, rfl⟩ := registered
    exact returns_publishToSink principal active accepts listed (files registration member)
  unfold EventDispatcher.publish
  apply (returns_ofExcept accepts.valid).bind
  rw [if_pos audit]
  unfold EventDispatcher.publishAudit
  rw [if_neg (by simpa using accepts.required)]
  apply (returns_foldM dispatcher.required fun sink listed =>
    published sink (List.mem_append_left _ listed)).bind
  apply returns_foldM
  intro sink listed world
  apply (published sink (List.mem_append_right _ listed) world).andThen
  intro outcome after same
  subst same
  exact rfl

end VerdictReplay

open EventIdentity VerdictReplay

variable {dispatcher : EventDispatcher}

/-- The publication meets no identity conflict, whatever the sinks and the policy do; and it
returns where its event passes. -/
def VerdictReplays (dispatcher : EventDispatcher) (state : VerdictState)
    (publication : VerdictPublication) : Prop :=
  ∀ allocation : EventAllocation, Unconflicted allocation.sequence →
    (∀ outcome after, dispatcher.RecordsVerdict publicationEnvironment publication allocation state
      (some outcome) after → Unconflicted outcome) ∧
    ∀ horizon event,
      (dispatcher.createEvent state.created publication.fields publication.eventId allocation).1 =
        .ok event → VerdictReplay.Accepts dispatcher event →
      (∀ deadline ∈ publication.context.deadline, horizon ≤ deadline.at_) →
      ∀ outcome after, dispatcher.RecordsVerdict (passingEnvironment horizon) publication allocation
        state (some outcome) after → outcome = .ok ()

/-- A verdict that repeats the data of its earlier publications is replayed, in the process that
published it and after a restart. -/
theorem verdict_replays (views : dispatcher.SameViews)
    (own : ∀ event, Unconflicted (dispatcher.schemas.validate event)) {state : VerdictState}
    (reached : dispatcher.VerdictReachable state) {publication : VerdictPublication}
    (repeats : RepeatsData (publication :: state.verdicts)) :
    VerdictReplays dispatcher state publication := by
  have kept := reachable_kept views own reached (repeats.subset (List.subset_cons_self _ _))
  intro allocation sequenced
  constructor
  · intro outcome after records
    exact (records_kept views own sequenced kept repeats records).2 outcome rfl
  · intro horizon event created accepts active outcome after records
    have made : VerdictReplay.Made publication event := by
      rcases createEvent_made allocation kept repeats with
        ⟨other, made, equal⟩ | ⟨-, ⟨error, -, equal⟩ | ⟨other, made, -, equal⟩⟩
      · rw [equal] at created
        cases created
        exact made
      · rw [equal] at created
        cases created
      · rw [equal] at created
        cases created
        exact made
    have returns : (dispatcher.publish event publication.context publication.principal).Safe
        (passingEnvironment horizon) (outboxContract (entries dispatcher
          (publication :: state.verdicts))) (fun outcome _ => outcome = .ok ()) state.world :=
      returns_publish publication.principal active accepts made.audit
        (files_made views repeats (.head _) made) state.world
    have holds := entries_mono (List.subset_cons_self publication state.verdicts) kept.holds
    unfold EventDispatcher.RecordsVerdict at records
    simp only [created] at records
    obtain ⟨rest, world, steps, ended, -⟩ := records
    rw [Program.outcome?_eq_some ended.symm] at steps
    have outbox : (outboxContract (entries dispatcher (publication :: state.verdicts))).invariant
        state.world := ⟨holds, kept.wellKept⟩
    have returned := returns.ended (fun _ => rfl) outbox steps
    exact returned

end Replay

section Samples

open SampleParameters EventIdentity VerdictReplay

def verdictDispatcher : EventDispatcher where
  schemas := ⟨⟨[(("core.evaluation.verdict_recorded", "1"), fun _ => .ok ())], by decide⟩⟩
  sinks := [⟨auditSink, true⟩]
  authorized := true
  policy := { positive := EventDeliveryPolicy.default_positive }

def sampleEvaluation : EvaluationRequest where
  contractVersion := "1"
  evaluationId := ⟨"evaluation-1", evaluation_checked⟩
  value := .str "draft"
  inputSchema := ⟨"app", "text", "1", text_named⟩
  policyRef := "policy-1"
  qualityEvaluatorId := ⟨"quality-1", quality_checked⟩
  qualityProfileRef := "profile:1"
  scope := sampleScope
  constraints := .empty
  valid := by decide

def refusedStage : EvaluationStageResult :=
  ⟨.schema, .schemaFailed, "schema_validation_failed", .empty, [], by decide⟩

def refusedResult : EvaluationResult where
  contractVersion := "1"
  evaluationId := ⟨"evaluation-1", evaluation_checked⟩
  verdict := .schemaFailed
  stageResults := [refusedStage]
  terminalStage := .schema
  evidenceRefs := []
  error := none
  checked := by decide +kernel

def firstVerdict : VerdictPublication := ⟨sampleEvaluation, refusedResult, sampleContext⟩

/-- The same verdict under another correlation. -/
def tracedVerdict : VerdictPublication :=
  ⟨sampleEvaluation, refusedResult,
    { sampleContext with trace := ⟨⟨"correlation-2", by decide⟩, none⟩ }⟩

/-- One publication, executed to its end. -/
@[irreducible] def verdictPublished (publication : VerdictPublication) (before : VerdictState) :
    Option (Except Raised Unit) × VerdictState :=
  let result := verdictDispatcher.createEvent before.created publication.fields publication.eventId
    auditAllocation
  match result.1 with
  | .error error => (some (.error error), { before with
      published := (publication, some (.error error)) :: before.published })
  | .ok event =>
    let ended := executeWhile publicationEnvironment (fun _ => true) (fun op _ => auditChoice op) 40
      (verdictDispatcher.publish event publication.context publication.principal, before.world)
    (ended.1.outcome?, ⟨result.2, ended.2, (publication, ended.1.outcome?) :: before.published⟩)

theorem verdictPublished_records (publication : VerdictPublication) (before : VerdictState) :
    verdictDispatcher.RecordsVerdict publicationEnvironment publication auditAllocation before
      (verdictPublished publication before).1 (verdictPublished publication before).2 := by
  unfold EventDispatcher.RecordsVerdict verdictPublished
  dsimp only
  generalize verdictDispatcher.createEvent before.created publication.fields publication.eventId
    auditAllocation = result
  obtain ⟨made, created⟩ := result
  cases made with
  | error error => exact ⟨rfl, rfl⟩
  | ok event =>
    refine ⟨_, _, executeWhile_steps ?_ 40 _, rfl, rfl⟩
    intro op world _
    exact auditChoice_permitted op world

/-- The verdict has been published. -/
def verdictState : VerdictState := (verdictPublished firstVerdict .empty).2

theorem verdictState_reachable : verdictDispatcher.VerdictReachable verdictState :=
  .single (.record unconflicted_ok (verdictPublished_records firstVerdict .empty))

theorem verdictState_verdicts : verdictState.verdicts = [firstVerdict] :=
  records_verdicts (verdictPublished_records firstVerdict .empty)

theorem verdictDispatcher_views : verdictDispatcher.SameViews := by
  intro first one second two _
  rw [List.mem_singleton.mp one, List.mem_singleton.mp two]

theorem verdictDispatcher_validates (event : RuntimeEvent) :
    Unconflicted (verdictDispatcher.schemas.validate event) := by
  unfold EventSchemaRegistry.validate
  split
  · exact unconflicted_error (by decide)
  · rename_i validator found
    have listed := Dict.mem_of_get? found
    simp only [verdictDispatcher, List.mem_singleton, Prod.mk.injEq] at listed
    rw [listed.2]
    exact unconflicted_ok

/-- A published verdict is replayed under the trace of its publication. -/
theorem verdict_replays_first : VerdictReplays verdictDispatcher verdictState firstVerdict := by
  have repeats : RepeatsData (firstVerdict :: verdictState.verdicts) := by
    rw [verdictState_verdicts]
    intro first one second two _
    have same : first = firstVerdict := by simpa using one
    have again : second = firstVerdict := by simpa using two
    rw [same, again]
    exact .refl firstVerdict
  exact verdict_replays verdictDispatcher_views verdictDispatcher_validates verdictState_reachable
    repeats

/-- The publication has met an identity conflict. -/
def conflicted : Option (Except Raised Unit) → Bool
  | some (.error error) => error.isIdentityConflict
  | _ => false

theorem not_replays_of_conflicted {state : VerdictState} {publication : VerdictPublication}
    (conflict : conflicted (verdictPublished publication state).1 = true) :
    ¬VerdictReplays verdictDispatcher state publication := by
  intro replays
  have records := verdictPublished_records publication state
  generalize verdictPublished publication state = ended at *
  obtain ⟨outcome, after⟩ := ended
  match outcome with
  | some (.error error) =>
    have unconflicted := (replays auditAllocation unconflicted_ok).1 _ after records error rfl
    exact Bool.false_ne_true (unconflicted.symm.trans conflict)
  | some (.ok ()) => cases conflict
  | none => cases conflict

/-- A verdict whose audit has been acknowledged is not replayed under another correlation, in the
same process or in a new one. -/
theorem verdict_not_replayed : ∃ state, verdictDispatcher.VerdictReachable state ∧
    (firstVerdict, some (.ok ())) ∈ state.published ∧
    tracedVerdict.request = firstVerdict.request ∧ tracedVerdict.result = firstVerdict.result ∧
    tracedVerdict.context.runId = firstVerdict.context.runId ∧
    ¬VerdictReplays verdictDispatcher state tracedVerdict ∧
    ¬VerdictReplays verdictDispatcher state.restarted tracedVerdict := by
  have executed : (((verdictPublished firstVerdict .empty).1.any fun outcome => outcome.toBool) &&
      conflicted (verdictPublished tracedVerdict verdictState).1 &&
      conflicted (verdictPublished tracedVerdict verdictState.restarted).1) = true := by
    decide +kernel
  obtain ⟨executed, restarted⟩ := Bool.and_eq_true_iff.mp executed
  obtain ⟨returned, same⟩ := Bool.and_eq_true_iff.mp executed
  have published : (verdictPublished firstVerdict .empty).1 = some (.ok ()) := by
    cases outcome : (verdictPublished firstVerdict .empty).1 with
    | none =>
      rw [outcome] at returned
      cases returned
    | some ended =>
      rw [outcome] at returned
      cases ended with
      | ok _ => rfl
      | error error => cases returned
  refine ⟨verdictState, verdictState_reachable, ?_, rfl, rfl, rfl,
    not_replays_of_conflicted same, not_replays_of_conflicted restarted⟩
  rw [← published]
  unfold verdictState verdictPublished
  dsimp only
  split
  · exact .head _
  · exact .head _

end Samples

end CongeriesCore
