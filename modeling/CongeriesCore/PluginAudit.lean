import CongeriesCore.PluginCoherence
import CongeriesCore.PluginEvents

/-! # Audit identities of plugin operations

An event identity stands for one event of the dispatcher and for one payload digest of every
sink. As long as an audit event that repeats an identity repeats its data as well, no publication
meets a conflict; the events of an operation that is tried again need not. -/

namespace CongeriesCore

open AsyncProgram


/-! ### Histories of publications -/

/-- Sinks registered under one name see the same of an event. -/
def EventDispatcher.Alike (dispatcher : EventDispatcher) : Prop :=
  ∀ first ∈ dispatcher.sinks, ∀ second ∈ dispatcher.sinks,
    first.sink.sinkId = second.sink.sinkId →
      first.sink.capabilities.maximumSensitivity = second.sink.capabilities.maximumSensitivity

namespace PluginEvent

/-- Two publications of the same Event data. -/
def SameData (first second : PluginEvent) : Prop :=
  first.kind = second.kind ∧ first.plugin = second.plugin ∧ first.fromState = second.fromState ∧
    first.toState = second.toState ∧ first.operationId = second.operationId ∧
    first.activeLeaseCount = second.activeLeaseCount ∧
    first.context.runId = second.context.runId ∧
    first.context.rootRunId = second.context.rootRunId ∧
    first.context.parentRunId = second.context.parentRunId ∧
    first.context.scope = second.context.scope ∧ first.context.trace = second.context.trace

instance (first second : PluginEvent) : Decidable (first.SameData second) := by
  unfold SameData
  infer_instance

theorem SameData.fields {first second : PluginEvent} (same : first.SameData second) :
    first.fields = second.fields := by
  obtain ⟨kind, plugin, fromState, toState, operationId, count, runId, rootRunId, parentRunId,
    scope, trace⟩ := same
  unfold PluginEvent.fields PluginEvent.payload PluginEvent.entries PluginEvent.values
  simp only [kind, plugin, fromState, toState, operationId, count, runId, rootRunId, parentRunId,
    scope, trace]

/-- Every value of a lifecycle payload equals itself. -/
theorem entries_equal (event : PluginEvent) : ∀ field ∈ event.entries,
    field.2.value.equals field.2.value = true := by
  intro field member
  obtain ⟨value, listed, rfl⟩ := List.mem_map.mp member
  have scalar : value ∈ event.values → value.2.equals value.2 = true := by
    intro listed
    simp only [values, List.mem_append, List.mem_cons, List.not_mem_nil, or_false] at listed
    rcases listed with (rfl | rfl | rfl | rfl | rfl | rfl | rfl) | code
    · exact JsonValue.equals_str_self _
    · exact JsonValue.equals_str_self _
    · exact JsonValue.equals_str_self _
    · exact JsonValue.equals_str_self _
    · exact JsonValue.equals_str_self _
    · exact JsonValue.equals_int_self _
    · exact JsonValue.equals_str_self _
    · cases kind : event.kind with
      | failed errorCode =>
        rw [kind] at code
        cases List.mem_singleton.mp code
        exact JsonValue.equals_str_self _
      | requested =>
        rw [kind] at code
        cases code
      | changed =>
        rw [kind] at code
        cases code
  exact scalar listed

theorem payload_equals (event : PluginEvent) : event.payload.equals event.payload = true :=
  ClassifiedPayload.equals_self event.entries_equal

end PluginEvent

section Publications

variable [Sha256] {dispatcher : EventDispatcher}

/-- An audit event that repeats an identity repeats the data. -/
def Consistent (published : List (PluginEvent × Except Raised Unit)) : Prop :=
  ∀ first ∈ published, ∀ second ∈ published, first.1.kind.deliveryClass = .audit →
    second.1.kind.deliveryClass = .audit → first.1.auditText = second.1.auditText →
      first.1.SameData second.1

theorem Consistent.earlier {entry : PluginEvent × Except Raised Unit}
    {published : List (PluginEvent × Except Raised Unit)}
    (consistent : Consistent (entry :: published)) : Consistent published := by
  intro first one second two
  exact consistent first (.tail _ one) second (.tail _ two)

/-- What the outbox holds of the events that have been created. -/
def EventDispatcher.entries (dispatcher : EventDispatcher) (created : Dict EventId RuntimeEvent) :
    EventIdentity.Entries := fun eventId sinkId digest => ∃ event, created.get? eventId = some event ∧
  ∃ registration ∈ dispatcher.sinks, registration.sink.sinkId = sinkId ∧
    digest = (redact event registration.sink.capabilities.maximumSensitivity).payloadDigest

theorem EventDispatcher.Alike.files (alike : dispatcher.Alike) {created : Dict EventId RuntimeEvent}
    {event : RuntimeEvent} (found : created.get? event.eventId = some event) :
    ∀ registration ∈ dispatcher.sinks,
      EventIdentity.Files (dispatcher.entries created) event registration.sink := by
  intro registration listed digest
  constructor
  · intro held
    obtain ⟨other, present, second, member, named, same⟩ := held
    cases found.symm.trans present
    rw [same, alike second member registration listed named]
  · intro same
    exact ⟨event, found, registration, listed, rfl, same⟩

/-- Every event under an asked identity was made of a publication, and the outbox holds its
digests. -/
structure PublisherState.Kept (dispatcher : EventDispatcher) (state : PublisherState) : Prop where
  created : ∀ id event, state.created.get? id = some event → event.eventId = id ∧
    ∃ entry ∈ state.published, entry.1.kind.deliveryClass = .audit ∧
      entry.1.auditText = id.value ∧ event.agrees entry.1.fields = true ∧
        event.deliveryClass = .audit
  holds : EventIdentity.Holds (dispatcher.entries state.created) state.world

/-- What `create_event` makes of a publication. -/
inductive EventDispatcher.Creates (dispatcher : EventDispatcher)
    (created : Dict EventId RuntimeEvent) (event : PluginEvent) :
    Except Raised RuntimeEvent → Dict EventId RuntimeEvent → Prop
  | refused {error : Raised} : error.isIdentityConflict = false →
      Creates dispatcher created event (.error error) created
  | observed {runtimeEvent : RuntimeEvent} : runtimeEvent.deliveryClass = .observability →
      Creates dispatcher created event (.ok runtimeEvent) created
  | repeated {runtimeEvent : RuntimeEvent} :
      created.get? runtimeEvent.eventId = some runtimeEvent →
      Creates dispatcher created event (.ok runtimeEvent) created
  | fresh {runtimeEvent : RuntimeEvent} : created.get? runtimeEvent.eventId = none →
      event.kind.deliveryClass = .audit → event.auditText = runtimeEvent.eventId.value →
      runtimeEvent.agrees event.fields = true → runtimeEvent.deliveryClass = .audit →
      Creates dispatcher created event (.ok runtimeEvent)
        (created.set runtimeEvent.eventId runtimeEvent)

/-- Which events carry the identity of their operation. -/
theorem PluginEvent.eventId_ok {event : PluginEvent} {eventId : Option EventId}
    (identified : event.eventId = .ok eventId) :
    (eventId = none ∧ event.kind.deliveryClass = .observability) ∨
    ∃ id, eventId = some id ∧ event.kind.deliveryClass = .audit ∧ event.auditText = id.value := by
  unfold PluginEvent.eventId at identified
  split at identified
  · rename_i audit
    obtain ⟨id, made, same⟩ := bind_ok identified
    cases same
    exact .inr ⟨id, rfl, audit, (Identifier.make_value made).symm⟩
  · rename_i observed
    cases identified
    exact .inl ⟨rfl, observed⟩

open EventIdentity in
theorem EventDispatcher.creates {state : PublisherState} {event : PluginEvent}
    {allocation : EventAllocation} {eventId : Option EventId} (kept : state.Kept dispatcher)
    (own : ∀ event, Unconflicted (dispatcher.schemas.validate event))
    (sequenced : Unconflicted allocation.sequence)
    (consistent : ∀ entry ∈ state.published, entry.1.kind.deliveryClass = .audit →
      event.kind.deliveryClass = .audit → entry.1.auditText = event.auditText →
        entry.1.SameData event)
    (identified : event.eventId = .ok eventId) :
    dispatcher.Creates state.created event
      (dispatcher.createEvent state.created event.fields eventId allocation).1
      (dispatcher.createEvent state.created event.fields eventId allocation).2 := by
  have unconflicted : ∀ id, Unconflicted (dispatcher.validEvent event.fields id allocation) :=
    fun _ => unconflicted_validEvent own sequenced
  rcases event.eventId_ok identified with ⟨rfl, observed⟩ | ⟨id, rfl, audit, text⟩
  · change dispatcher.Creates state.created event
      (dispatcher.validEvent event.fields allocation.fresh allocation) state.created
    cases made : dispatcher.validEvent event.fields allocation.fresh allocation with
    | error error => exact .refused (unconflicted _ error made)
    | ok runtimeEvent => exact .observed ((validEvent_agrees event.payload_equals made).2.2.trans observed)
  · unfold createEvent
    dsimp only
    cases found : state.created.get? id with
    | some existing =>
      obtain ⟨named, entry, listed, earlier, identity, agrees, -⟩ := kept.created id existing found
      have same := consistent entry listed earlier audit (identity.trans text.symm)
      rw [same.fields] at agrees
      dsimp only
      rw [if_pos agrees]
      exact .repeated (named.symm ▸ found)
    | none =>
      dsimp only
      cases made : dispatcher.validEvent event.fields id allocation with
      | error error => exact .refused (unconflicted _ error made)
      | ok runtimeEvent =>
        obtain ⟨named, agrees, delivery⟩ := validEvent_agrees event.payload_equals made
        subst named
        exact .fresh found audit text agrees (delivery.trans audit)

open EventIdentity in
/-- A created event runs through the dispatcher. -/
theorem EventDispatcher.publish_steps {entries : Entries} {runtimeEvent : RuntimeEvent}
    {event : PluginEvent} {outcome : Except Raised Unit} {before after : EventWorld}
    (own : ∀ event, Unconflicted (dispatcher.schemas.validate event))
    (files : runtimeEvent.deliveryClass = .audit →
      ∀ registration ∈ dispatcher.sinks, Files entries runtimeEvent registration.sink)
    (holds : EventIdentity.Holds entries before)
    (steps : dispatcher.Publishes event (.ok runtimeEvent) before outcome after) :
    EventIdentity.Holds entries after ∧ Unconflicted outcome := by
  have quiet := quiet_publish event.context event.principal (own runtimeEvent) files before
  have reflexive : ∀ state, (contract entries).rely state state := fun _ => rfl
  exact ⟨(quiet.steps reflexive holds steps).1, quiet.ended reflexive holds steps⟩

omit [Sha256] in
theorem unconflicted_eventId [Sha256] (event : PluginEvent) : EventIdentity.Unconflicted event.eventId := by
  unfold PluginEvent.eventId
  split
  · exact (EventIdentity.unconflicted_make _ _).bind fun _ => EventIdentity.unconflicted_ok
  · exact EventIdentity.unconflicted_ok

/-- More publications explain the same events. -/
theorem PublisherState.Kept.notes {state : PublisherState} {world : EventWorld}
    {entry : PluginEvent × Except Raised Unit} (kept : state.Kept dispatcher)
    (holds : EventIdentity.Holds (dispatcher.entries state.created) world) :
    PublisherState.Kept dispatcher ⟨state.created, world, entry :: state.published⟩ := by
  refine ⟨fun id event found => ?_, holds⟩
  obtain ⟨named, earlier, listed, rest⟩ := kept.created id event found
  exact ⟨named, earlier, .tail _ listed, rest⟩

/-- An event is created under a new identity. -/
theorem PublisherState.Kept.creates {state : PublisherState} {runtimeEvent : RuntimeEvent}
    {world : EventWorld} {entry : PluginEvent × Except Raised Unit} (kept : state.Kept dispatcher)
    (audit : entry.1.kind.deliveryClass = .audit)
    (text : entry.1.auditText = runtimeEvent.eventId.value)
    (agrees : runtimeEvent.agrees entry.1.fields = true)
    (delivery : runtimeEvent.deliveryClass = .audit)
    (holds : EventIdentity.Holds
      (dispatcher.entries (state.created.set runtimeEvent.eventId runtimeEvent)) world) :
    PublisherState.Kept dispatcher
      ⟨state.created.set runtimeEvent.eventId runtimeEvent, world, entry :: state.published⟩ := by
  refine ⟨fun id event found => ?_, holds⟩
  by_cases same : runtimeEvent.eventId = id
  · subst same
    have equal : runtimeEvent = event :=
      Option.some.inj ((Dict.get?_set_self _ _ _).symm.trans found)
    subst equal
    exact ⟨rfl, entry, .head _, audit, text, agrees, delivery⟩
  · have present := (Dict.get?_set_of_ne _ same _).symm.trans found
    obtain ⟨named, earlier, listed, rest⟩ := kept.created id event present
    exact ⟨named, earlier, .tail _ listed, rest⟩

theorem EventDispatcher.holds_created {created : Dict EventId RuntimeEvent} {world : EventWorld}
    {runtimeEvent : RuntimeEvent} (absent : created.get? runtimeEvent.eventId = none)
    (holds : EventIdentity.Holds (dispatcher.entries created) world) :
    EventIdentity.Holds
      (dispatcher.entries (created.set runtimeEvent.eventId runtimeEvent)) world := by
  intro eventId sinkId digest held
  obtain ⟨event, found, explained⟩ := holds eventId sinkId digest held
  have distinct : runtimeEvent.eventId ≠ eventId := by
    rintro rfl
    rw [absent] at found
    cases found
  exact ⟨event, (Dict.get?_set_of_ne _ distinct _).trans found, explained⟩

open EventIdentity in
/-- What a publication keeps, and that it meets no conflict. -/
theorem EventDispatcher.publishes_kept {before after : PublisherState} {event : PluginEvent}
    {outcome : Except Raised Unit} (alike : dispatcher.Alike)
    (own : ∀ event, Unconflicted (dispatcher.schemas.validate event))
    (kept : before.Kept dispatcher)
    (published : dispatcher.pluginPublisher.publishes event before outcome after)
    (consistent : Consistent after.published) :
    after.Kept dispatcher ∧ Unconflicted outcome := by
  obtain ⟨allocation, world, sequenced, rest⟩ := published
  cases identified : event.eventId with
  | error error =>
    simp only [identified] at rest
    obtain ⟨rfl, rfl⟩ := rest
    exact ⟨kept.notes kept.holds, unconflicted_error (unconflicted_eventId event error identified)⟩
  | ok eventId =>
    simp only [identified] at rest
    obtain ⟨steps, rfl⟩ := rest
    have earlier : ∀ entry ∈ before.published, entry.1.kind.deliveryClass = .audit →
        event.kind.deliveryClass = .audit → entry.1.auditText = event.auditText →
          entry.1.SameData event := fun entry listed =>
      consistent entry (.tail _ listed) (event, outcome) (.head _)
    have creates := creates kept own sequenced earlier identified
    generalize dispatcher.createEvent before.created event.fields eventId allocation = result at *
    obtain ⟨made, created⟩ := result
    cases creates with
    | refused other =>
      obtain ⟨rfl, rfl⟩ := steps
      exact ⟨kept.notes kept.holds, unconflicted_error other⟩
    | observed observed =>
      obtain ⟨holds, unconflicted⟩ := publish_steps own
        (fun audit => by rw [observed] at audit; cases audit) kept.holds steps
      exact ⟨kept.notes holds, unconflicted⟩
    | repeated found =>
      obtain ⟨holds, unconflicted⟩ := publish_steps own (fun _ => alike.files found) kept.holds steps
      exact ⟨kept.notes holds, unconflicted⟩
    | @fresh runtimeEvent absent audit text agrees delivery =>
      have found : (before.created.set runtimeEvent.eventId runtimeEvent).get?
          runtimeEvent.eventId = some runtimeEvent := Dict.get?_set_self _ _ _
      obtain ⟨holds, unconflicted⟩ := publish_steps own (fun _ => alike.files found)
        (holds_created absent kept.holds) steps
      exact ⟨kept.creates audit text agrees delivery holds, unconflicted⟩

theorem EventDispatcher.publishes_published {before after : PublisherState} {event : PluginEvent}
    {outcome : Except Raised Unit}
    (published : dispatcher.pluginPublisher.publishes event before outcome after) :
    after.published = (event, outcome) :: before.published := by
  obtain ⟨allocation, world, -, rest⟩ := published
  split at rest
  · rw [rest.2]
  · rw [rest.2]

/-- An operation of a plugin publishes at most one event. -/
theorem PluginWorld.answer_publisher {τ : Type} {publisher : PluginEventPublisher τ}
    {world : PluginWorld τ} {plugin : String} {thread : ℕ} {op : PluginOp}
    {choice : Except Raised op.Answer × τ} (allowed : world.allows publisher plugin op choice) :
    (world.answer plugin thread op choice).2.publisher = world.publisher ∨
    ∃ event outcome, publisher.publishes event world.publisher outcome
      (world.answer plugin thread op choice).2.publisher := by
  have recorded : ∀ outcome : Except Raised PluginStateRecord,
      (world.recorded plugin outcome).2.publisher = world.publisher := by
    intro outcome
    cases outcome with
    | ok record => rfl
    | error error => rfl
  cases op with
  | discover manifest => exact .inl (recorded _)
  | transition target version receipt clear => exact .inl (recorded _)
  | markHook hook => exact .inl (recorded _)
  | transitionRequested plugin fromState toState operationId count context =>
    exact .inr ⟨_, _, allowed⟩
  | lifecycleChanged plugin fromState toState operationId count context =>
    exact .inr ⟨_, _, allowed⟩
  | lifecycleFailed plugin fromState toState operationId count error context =>
    exact .inr ⟨_, _, allowed⟩
  | _ => exact .inl rfl

instance (published : List (PluginEvent × Except Raised Unit)) : Decidable (Consistent published) := by
  unfold Consistent
  infer_instance

/-- As long as its publications are consistent, the publisher is kept and meets no conflict. -/
def PublisherState.Clear (dispatcher : EventDispatcher) (state : PublisherState) : Prop :=
  Consistent state.published → state.Kept dispatcher ∧
    ∀ entry ∈ state.published, EventIdentity.Unconflicted entry.2

theorem PublisherState.Clear.publishes {before after : PublisherState} {event : PluginEvent}
    {outcome : Except Raised Unit} (clear : before.Clear dispatcher) (alike : dispatcher.Alike)
    (own : ∀ event, EventIdentity.Unconflicted (dispatcher.schemas.validate event))
    (published : dispatcher.pluginPublisher.publishes event before outcome after) :
    after.Clear dispatcher := by
  intro consistent
  have same := EventDispatcher.publishes_published published
  have earlier : Consistent before.published := by
    rw [same] at consistent
    exact consistent.earlier
  obtain ⟨kept, unconflicted⟩ := clear earlier
  obtain ⟨keeps, ended⟩ := EventDispatcher.publishes_kept alike own kept published consistent
  refine ⟨keeps, fun entry listed => ?_⟩
  rw [same] at listed
  rcases List.mem_cons.mp listed with rfl | other
  · exact ended
  · exact unconflicted entry other

theorem clear_empty (dispatcher : EventDispatcher) : PublisherState.empty.Clear dispatcher := by
  intro _
  refine ⟨⟨fun id event found => ?_, fun eventId sinkId digest held => ?_⟩, fun entry listed => ?_⟩
  · cases found
  · rcases held with ⟨_, found, -⟩ | ⟨_, found, -⟩
    · cases found
    · cases found
  · cases listed

variable {threads : ℕ → PluginThread}
  {configuration : Configuration PluginInterface Raised PluginStateRecord
    (PluginState PublisherState)}

theorem clear_reachable (alike : dispatcher.Alike)
    (own : ∀ event, EventIdentity.Unconflicted (dispatcher.schemas.validate event))
    (reached : (pluginPool dispatcher.pluginPublisher .empty threads).Reachable configuration) :
    configuration.state.1.publisher.Clear dispatcher := by
  induction reached with
  | initial start =>
    subst start
    exact clear_empty dispatcher
  | @move before after _ moves ih =>
    cases moves with
    | start begun =>
      obtain ⟨rfl, -⟩ := begun
      exact ih
    | @step moved program rest state found step =>
      cases step with
      | resume choice permitted =>
        obtain ⟨⟨-, allowed⟩, -⟩ := permitted
        rcases PluginWorld.answer_publisher allowed with same | ⟨event, outcome, published⟩
        · exact same.symm ▸ ih
        · exact ih.publishes alike own published

/-- Where an audit event that repeats an identity repeats the data, no lifecycle event of any
operation fails for its identity. -/
theorem audit_unconflicted (alike : dispatcher.Alike)
    (own : ∀ event, EventIdentity.Unconflicted (dispatcher.schemas.validate event))
    (reached : (pluginPool dispatcher.pluginPublisher .empty threads).Reachable configuration)
    (consistent : Consistent configuration.state.1.publisher.published) :
    ∀ entry ∈ configuration.state.1.publisher.published, EventIdentity.Unconflicted entry.2 :=
  (clear_reachable alike own reached consistent).2

end Publications

section Samples

open SampleParameters

/-- A dispatcher with one required sink, which acknowledges every delivery. -/
def auditDispatcher : EventDispatcher where
  schemas := ⟨⟨[(("core.plugin.lifecycle_transition_requested", "1"), fun _ => .ok ()),
    (("core.plugin.lifecycle_changed", "1"), fun _ => .ok ()),
    (("core.plugin.lifecycle_failed", "1"), fun _ => .ok ())], by decide⟩⟩
  sinks := [⟨auditSink, true⟩]
  authorized := true
  policy := { positive := EventDeliveryPolicy.default_positive }

def auditRun (runtimeEvent : RuntimeEvent) (event : PluginEvent) (before : EventWorld) :
    EventProgram Unit × EventWorld :=
  executeWhile publicationEnvironment (fun _ => true) (fun op _ => auditChoice op) 40
    (auditDispatcher.publish runtimeEvent event.context event.principal, before)

theorem auditRun_steps (runtimeEvent : RuntimeEvent) (event : PluginEvent) (before : EventWorld) :
    Steps publicationEnvironment Unit
      (auditDispatcher.publish runtimeEvent event.context event.principal, before)
      (auditRun runtimeEvent event before) := by
  apply executeWhile_steps
  intro op world _
  exact auditChoice_permitted op world

/-- The identity of an audit event. -/
def auditIdentity (event : PluginEvent) : Option EventId :=
  match event.kind.deliveryClass with
  | .audit => some ⟨event.auditText, event.auditText_checked⟩
  | .observability => none

theorem auditIdentity_eventId (event : PluginEvent) : event.eventId = .ok (auditIdentity event) := by
  unfold PluginEvent.eventId auditIdentity
  cases event.kind.deliveryClass with
  | audit =>
    have made := Identifier.make_self (⟨event.auditText, event.auditText_checked⟩ : EventId)
    simp only [made]
    rfl
  | observability => rfl

/-- One publication, executed to its end. -/
@[irreducible] def auditPublished (event : PluginEvent) (before : PublisherState) :
    Except Raised Unit × PublisherState :=
  let result := auditDispatcher.createEvent before.created event.fields (auditIdentity event)
    auditAllocation
  match result.1 with
  | .error error => (.error error,
      ⟨result.2, before.world, (event, .error error) :: before.published⟩)
  | .ok runtimeEvent =>
    let ended := auditRun runtimeEvent event before.world
    if ended.1.returned then (.ok (), ⟨result.2, ended.2, (event, .ok ()) :: before.published⟩)
    else (.ok (), before)

def isException : Except Raised Unit → Bool
  | .ok () => true
  | .error error => error.isException

/-- Whether it has come to its end. -/
@[irreducible] def auditEnds (event : PluginEvent) (before : PublisherState) : Bool :=
  (auditPublished event before).2.published.length == before.published.length + 1 &&
    isException (auditPublished event before).1

theorem auditPublished_publishes {event : PluginEvent} {before : PublisherState}
    (ends : auditEnds event before = true) :
    auditDispatcher.pluginPublisher.publishes event before (auditPublished event before).1
      (auditPublished event before).2 := by
  have sequenced : EventIdentity.Unconflicted auditAllocation.sequence :=
    EventIdentity.unconflicted_ok
  refine ⟨auditAllocation, (auditPublished event before).2.world, sequenced, ?_⟩
  unfold auditEnds at ends
  have ends : ((auditPublished event before).2.published.length ==
      before.published.length + 1) = true := (Bool.and_eq_true_iff.mp ends).1
  rw [auditIdentity_eventId]
  unfold auditPublished at ends ⊢
  dsimp only at ends ⊢
  generalize auditDispatcher.createEvent before.created event.fields (auditIdentity event)
    auditAllocation = result at *
  obtain ⟨made, created⟩ := result
  cases made with
  | error error => exact ⟨⟨rfl, rfl⟩, rfl⟩
  | ok runtimeEvent =>
    have steps := auditRun_steps runtimeEvent event before.world
    dsimp only at ends ⊢
    generalize auditRun runtimeEvent event before.world = ended at *
    obtain ⟨program, world⟩ := ended
    by_cases returned : program.returned = true
    · rw [if_pos returned]
      rw [Program.eq_ret_of_returned returned] at steps
      exact ⟨steps, rfl⟩
    · rw [if_neg returned] at ends
      simp at ends

/-- What an operation is answered: the hook raises, the rest succeeds. -/
def auditAnswers (op : PluginOp) (state : PluginState PublisherState) :
    Except Raised op.Answer × PublisherState :=
  match op with
  | .transitionRequested plugin fromState toState operationId count context =>
    auditPublished ⟨.requested, plugin, fromState, toState, operationId, count, context⟩
      state.1.publisher
  | .lifecycleChanged plugin fromState toState operationId count context =>
    auditPublished ⟨.changed, plugin, fromState, toState, operationId, count, context⟩
      state.1.publisher
  | .lifecycleFailed plugin fromState toState operationId count error context =>
    auditPublished ⟨.failed error.code, plugin, fromState, toState, operationId, count, context⟩
      state.1.publisher
  | .runHook _ _ _ => (.error (.other "RuntimeError"), state.1.publisher)
  | op => ((toolChoice op).1, state.1.publisher)

def auditPermitted (thread : ℕ) (state : PluginState PublisherState) : PluginOp → Bool
  | .acquireOperationLock => (state.1.locks.get? (toolThreads thread).plugin).isNone
  | .commitRegistration _ => state.1.history.issued.isEmpty
  | .prepare _ _ => decide (.prepared 1 ∉ (state.2.logs (toolThreads thread).plugin).progress)
  | .transitionRequested plugin fromState toState operationId count context =>
    auditEnds ⟨.requested, plugin, fromState, toState, operationId, count, context⟩
      state.1.publisher
  | .lifecycleChanged plugin fromState toState operationId count context =>
    auditEnds ⟨.changed, plugin, fromState, toState, operationId, count, context⟩ state.1.publisher
  | .lifecycleFailed plugin fromState toState operationId count error context =>
    auditEnds ⟨.failed error.code, plugin, fromState, toState, operationId, count, context⟩
      state.1.publisher
  | _ => true

def auditPool : Pool PluginInterface Raised PluginStateRecord (PluginState PublisherState) :=
  pluginPool auditDispatcher.pluginPublisher .empty toolThreads

theorem auditEnds_exception {event : PluginEvent} {before : PublisherState}
    (ends : auditEnds event before = true) (error : Raised)
    (raised : (auditPublished event before).1 = .error error) : error.isException = true := by
  unfold auditEnds at ends
  have exception := (Bool.and_eq_true_iff.mp ends).2
  rw [raised] at exception
  exact exception

theorem auditAnswers_permitted (thread : ℕ) (op : PluginOp) (state : PluginState PublisherState)
    (permitted : auditPermitted thread state op = true) :
    (auditPool.environment thread).permits op (auditAnswers op state) state := by
  cases op with
  | transitionRequested plugin fromState toState operationId count context =>
    have ends : auditEnds ⟨.requested, plugin, fromState, toState, operationId, count, context⟩
      state.1.publisher = true := permitted
    exact ⟨⟨auditEnds_exception ends, auditPublished_publishes ends⟩, trivial⟩
  | lifecycleChanged plugin fromState toState operationId count context =>
    have ends : auditEnds ⟨.changed, plugin, fromState, toState, operationId, count, context⟩
      state.1.publisher = true := permitted
    exact ⟨⟨auditEnds_exception ends, auditPublished_publishes ends⟩, trivial⟩
  | lifecycleFailed plugin fromState toState operationId count error context =>
    have ends : auditEnds ⟨.failed error.code, plugin, fromState, toState, operationId, count,
      context⟩ state.1.publisher = true := permitted
    exact ⟨⟨auditEnds_exception ends, auditPublished_publishes ends⟩, trivial⟩
  | prepare manifest context =>
    refine ⟨⟨fun error raised => ?_, trivial⟩, fun prepared given => ?_⟩
    · cases raised
    cases given
    exact of_decide_eq_true permitted
  | acquireOperationLock =>
    have free : state.1.locks.get? (toolThreads thread).plugin = none :=
      Option.isNone_iff_eq_none.mp permitted
    refine ⟨⟨fun error raised => ?_, free⟩, trivial⟩
    cases raised
    rfl
  | commitRegistration plan =>
    have first := separatesDigests_first (List.isEmpty_iff.mp permitted) plan
    refine ⟨⟨fun error raised => ?_, first⟩, trivial⟩
    cases raised
    rfl
  | cancelled token => exact ⟨⟨nofun, _, rfl⟩, trivial⟩
  | now => exact ⟨⟨nofun, _, rfl⟩, trivial⟩
  | newToken => exact ⟨⟨nofun, _, rfl⟩, trivial⟩
  | _ =>
    refine ⟨⟨fun error raised => ?_, trivial⟩, trivial⟩
    cases raised <;> rfl

/-- The Plugin is loaded; its activation hook fails, and the activation is tried again with the
same key. -/
def activatedAgain (schedule : List ℕ) : Configuration PluginInterface Raised PluginStateRecord
    (PluginState PublisherState) :=
  auditPool.execute (fun _ op state => auditAnswers op state)
    (fun thread op state => auditPermitted thread state op)
    schedule
    ⟨(.empty .empty, .empty), [(toolThreads 0).run, (toolThreads 1).run, (toolThreads 2).run]⟩

theorem activatedAgain_reachable (schedule : List ℕ) :
    (pluginPool auditDispatcher.pluginPublisher .empty toolThreads).Reachable
      (activatedAgain schedule) := by
  have first : auditPool.Reachable ⟨(.empty .empty, .empty), [(toolThreads 0).run]⟩ :=
    .move (.initial rfl) (.start ⟨rfl, rfl⟩)
  have second : auditPool.Reachable
      ⟨(.empty .empty, .empty), [(toolThreads 0).run, (toolThreads 1).run]⟩ :=
    .move first (.start ⟨rfl, rfl⟩)
  have third : auditPool.Reachable ⟨(.empty .empty, .empty),
      [(toolThreads 0).run, (toolThreads 1).run, (toolThreads 2).run]⟩ :=
    .move second (.start ⟨rfl, rfl⟩)
  exact Pool.execute_reachable auditAnswers_permitted _ third

theorem auditDispatcher_alike : auditDispatcher.Alike := by
  intro first one second two _
  rw [List.mem_singleton.mp one, List.mem_singleton.mp two]

theorem auditDispatcher_validates (event : RuntimeEvent) :
    EventIdentity.Unconflicted (auditDispatcher.schemas.validate event) := by
  unfold EventSchemaRegistry.validate
  split
  · exact EventIdentity.unconflicted_error (by decide)
  · rename_i validator found
    have listed := Dict.mem_of_get? found
    have accepts : validator event = .ok () := by
      simp only [auditDispatcher, List.mem_cons, List.not_mem_nil, or_false, Prod.mk.injEq] at listed
      rcases listed with ⟨-, rfl⟩ | ⟨-, rfl⟩ | ⟨-, rfl⟩
      · rfl
      · rfl
      · rfl
    rw [accepts]
    exact EventIdentity.unconflicted_ok

/-- The Plugin has been loaded. -/
theorem audit_unconflicted_loaded :
    (activatedAgain (List.replicate 60 0)).state.1.publisher.published ≠ [] ∧
      ∀ entry ∈ (activatedAgain (List.replicate 60 0)).state.1.publisher.published,
        EventIdentity.Unconflicted entry.2 := by
  obtain ⟨consistent, some⟩ :
      Consistent (activatedAgain (List.replicate 60 0)).state.1.publisher.published ∧
        (activatedAgain (List.replicate 60 0)).state.1.publisher.published.isEmpty = false := by
    decide +kernel
  refine ⟨fun none => ?_, ?_⟩
  · rw [none] at some
    cases some
  · exact audit_unconflicted auditDispatcher_alike auditDispatcher_validates
      (activatedAgain_reachable _) consistent

def isConflict : Except Raised Unit → Bool
  | .ok () => false
  | .error error => error.isIdentityConflict

/-- Every call takes its turn. -/
def everyTurn : List ℕ := List.replicate 60 0 ++ List.replicate 60 1 ++ List.replicate 20 2

/-- The repeated activation is refused before it starts: its request has another state. -/
theorem activation_blocked : ∃ configuration,
    (pluginPool auditDispatcher.pluginPublisher .empty toolThreads).Reachable configuration ∧
    configuration.threads[2]? = some (.raise EventDispatcher.identityConflict) ∧
    ∃ entry ∈ configuration.state.1.publisher.published, entry.1.kind = .requested ∧
      ¬EventIdentity.Unconflicted entry.2 := by
  have both : (((activatedAgain everyTurn).threads[2]?.bind Program.raised?) ==
        some EventDispatcher.identityConflict &&
      (activatedAgain everyTurn).state.1.publisher.published.any fun entry =>
        decide (entry.1.kind = .requested) && isConflict entry.2) = true := by decide +kernel
  obtain ⟨raises, conflicts⟩ := Bool.and_eq_true_iff.mp both
  obtain ⟨program, found, raised⟩ := Option.bind_eq_some_iff.mp (eq_of_beq raises)
  obtain ⟨entry, listed, refused⟩ := List.any_eq_true.mp conflicts
  obtain ⟨requested, conflict⟩ := Bool.and_eq_true_iff.mp refused
  refine ⟨activatedAgain everyTurn, activatedAgain_reachable _, ?_, entry, listed,
    of_decide_eq_true requested, fun unconflicted => ?_⟩
  · rw [found, Program.raised?_eq_some.mp raised]
  · cases ended : entry.2 with
    | ok done =>
      rw [ended] at conflict
      cases conflict
    | error error =>
      rw [ended] at conflict
      exact Bool.false_ne_true ((unconflicted error ended).symm.trans conflict)

end Samples

end CongeriesCore
