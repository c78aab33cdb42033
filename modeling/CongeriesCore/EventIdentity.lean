import CongeriesCore.AuditDelivery
import CongeriesCore.EventCreation

/-! # Event identities in the outbox

An entry stands for one payload digest. A publication whose event keeps to the digests that the
outbox holds raises no identity conflict, whatever the sinks and the policy do. -/

namespace CongeriesCore

open AsyncProgram

/-- The error that reports an event identity used for other data. -/
def Raised.isIdentityConflict : Raised → Bool
  | .core detail => detail.code == "event_identity_conflict"
  | _ => false

/-- The authorization policy reports its own errors and reasons. -/
def ownReasons : (op : EventOp) → op.Choice → Prop
  | .authorize _, .error error => error.isIdentityConflict = false
  | .authorize _, .ok decision => decision.reasonCode ≠ some "event_identity_conflict"
  | _, _ => True

/-- Publications, with sinks that answer as they please. -/
def publicationEnvironment [Sha256] : Environment EventInterface Raised EventWorld where
  Choice := EventOp.Choice
  permits op choice _ := ownReasons op choice
  answer := eventAnswer

/-! ### What the outbox holds -/

namespace InMemoryEventLedger

variable {ledger : InMemoryEventLedger} {key : OutboxKey} {digest : String}

theorem holds_of_markAttempt {eventId : EventId} {sinkId : String} {error : Option String}
    (holds : (ledger.markAttempt eventId sinkId error).2.Holds key digest) :
    ledger.Holds key digest := by
  rcases ledger.markAttempt_cases eventId sinkId error with equal | ⟨pending, found, equal⟩
  · rwa [equal] at holds
  · rw [equal] at holds
    rcases holds with ⟨existing, present, same⟩ | acknowledged
    · by_cases hit : (eventId, sinkId) = key
      · subst hit
        rw [Dict.get?_set_self] at present
        cases present
        exact .inl ⟨pending, found, same⟩
      · rw [Dict.get?_set_of_ne _ hit] at present
        exact .inl ⟨existing, present, same⟩
    · exact .inr acknowledged

theorem holds_of_acknowledge {acknowledgement : EventAcknowledgement}
    (holds : (ledger.acknowledge acknowledgement).2.Holds key digest) :
    ledger.Holds key digest := by
  rcases ledger.acknowledge_cases acknowledgement with
    ⟨error, equal⟩ | ⟨equal, -⟩ | ⟨pending, -, found, same, equal⟩
  · rwa [equal] at holds
  · rwa [equal] at holds
  · rw [equal] at holds
    rcases holds with ⟨existing, present, equals⟩ | ⟨existing, present, equals⟩
    · by_cases hit : acknowledgement.key = key
      · subst hit
        rw [Dict.get?_erase_self] at present
        cases present
      · rw [Dict.get?_erase_of_ne _ hit] at present
        exact .inl ⟨existing, present, equals⟩
    · by_cases hit : acknowledgement.key = key
      · subst hit
        rw [Dict.get?_set_self] at present
        cases present
        exact .inl ⟨pending, found, same.trans equals⟩
      · rw [Dict.get?_set_of_ne _ hit] at present
        exact .inr ⟨existing, present, equals⟩

theorem holds_of_enqueue [Sha256] {event : RuntimeEvent} {sinkId : String}
    {context : RuntimeCallContext} {principal : RuntimePrincipal}
    (holds : (ledger.enqueue event sinkId context principal).2.Holds key digest) :
    ledger.Holds key digest ∨ (key = (event.eventId, sinkId) ∧ digest = event.payloadDigest) := by
  rcases ledger.enqueue_cases event sinkId context principal with
    ⟨error, equal⟩ | ⟨equal, -⟩ | ⟨-, -, equal⟩
  · rw [equal] at holds
    exact .inl holds
  · rw [equal] at holds
    exact .inl holds
  · rw [equal] at holds
    rcases holds with ⟨existing, present, same⟩ | acknowledged
    · by_cases hit : (event.eventId, sinkId) = key
      · subst hit
        rw [Dict.get?_set_self] at present
        cases present
        exact .inr ⟨rfl, same.symm⟩
      · rw [Dict.get?_set_of_ne _ hit] at present
        exact .inl (.inl ⟨existing, present, same⟩)
    · exact .inl (.inr acknowledged)

/-- An entry is refused for a digest that the outbox holds under its key. -/
theorem enqueue_refused [Sha256] {event : RuntimeEvent} {sinkId : String}
    {context : RuntimeCallContext} {principal : RuntimePrincipal} {error : Raised}
    (refused : (ledger.enqueue event sinkId context principal).1 = .error error) :
    ∃ held, ledger.Holds (event.eventId, sinkId) held ∧ held ≠ event.payloadDigest := by
  unfold enqueue at refused
  cases pending : ledger.pending.get? (event.eventId, sinkId) with
  | some existing =>
    refine ⟨existing.payloadDigest, .inl ⟨existing, pending, rfl⟩, fun same => ?_⟩
    simp [pending, same] at refused
  | none =>
    cases acknowledged : ledger.acknowledged.get? (event.eventId, sinkId) with
    | some existing =>
      refine ⟨existing.payloadDigest, .inr ⟨existing, acknowledged, rfl⟩, fun same => ?_⟩
      simp [pending, acknowledged, same] at refused
    | none => simp [pending, acknowledged] at refused

end InMemoryEventLedger

namespace EventIdentity

/-- What an outbox may hold: a digest for an event and a sink. -/
abbrev Entries := EventId → String → String → Prop

def Holds (entries : Entries) (world : EventWorld) : Prop :=
  ∀ eventId sinkId digest, world.ledger.Holds (eventId, sinkId) digest →
    entries eventId sinkId digest

def contract (entries : Entries) : Contract EventInterface EventWorld :=
  .alone (Holds entries) (fun _ _ => True) fun _ _ => True

/-- No identity conflict is raised. -/
def Unconflicted {α : Type} (outcome : Except Raised α) : Prop :=
  ∀ error, outcome = .error error → error.isIdentityConflict = false

theorem unconflicted_ok {α : Type} {result : α} :
    Unconflicted (.ok result : Except Raised α) := by
  intro error raised
  cases raised

theorem unconflicted_error {α : Type} {error : Raised} (other : error.isIdentityConflict = false) :
    Unconflicted (.error error : Except Raised α) := by
  intro raised same
  cases same
  exact other

theorem Unconflicted.bind {α β : Type} {first : Except Raised α} {rest : α → Except Raised β}
    (unconflicted : Unconflicted first) (continues : ∀ result, Unconflicted (rest result)) :
    Unconflicted (first >>= rest) := by
  cases first with
  | ok result => exact continues result
  | error error => exact unconflicted_error (unconflicted error rfl)

theorem unconflicted_requireValue (condition : Bool) (message : String) :
    Unconflicted (requireValue condition message) := by
  cases condition with
  | true => exact unconflicted_ok
  | false => exact unconflicted_error rfl

theorem unconflicted_make (kind : IdKind) (value : String) :
    Unconflicted (Identifier.make kind value) := by
  have checked : Unconflicted (Identifier.check value) :=
    (unconflicted_requireValue _ _).bind fun _ =>
      (unconflicted_requireValue _ _).bind fun _ => unconflicted_requireValue _ _
  unfold Identifier.make
  split
  · exact unconflicted_ok
  · rename_i refused
    exact unconflicted_error (checked _ refused)

theorem unconflicted_newEvent {fields : EventFields} {id : EventId} {allocation : EventAllocation}
    (sequenced : Unconflicted allocation.sequence) :
    Unconflicted (EventDispatcher.newEvent fields id allocation) := by
  apply sequenced.bind
  intro sequence
  have checked : Unconflicted
      (RuntimeEvent.checkEnvelope fields.eventType fields.schemaVersion sequence) :=
    (unconflicted_requireValue _ _).bind fun _ =>
      (unconflicted_requireValue _ _).bind fun _ => unconflicted_requireValue _ _
  split
  · rename_i refused
    exact unconflicted_error (checked _ refused)
  · exact unconflicted_ok

theorem unconflicted_validEvent {dispatcher : EventDispatcher} {fields : EventFields} {id : EventId}
    {allocation : EventAllocation}
    (own : ∀ event, Unconflicted (dispatcher.schemas.validate event))
    (sequenced : Unconflicted allocation.sequence) :
    Unconflicted (dispatcher.validEvent fields id allocation) :=
  (unconflicted_newEvent sequenced).bind fun event => (own event).bind fun _ => unconflicted_ok

variable [Sha256] {entries : Entries} {α β : Type}

/-- From any state whose outbox holds `entries` only, the program raises no identity conflict. -/
def Quiet (entries : Entries) (program : EventProgram α) : Prop :=
  ∀ world, program.Safe publicationEnvironment (contract entries)
    (fun outcome _ => Unconflicted outcome) world

/-- Whatever it raises, it leaves the entries to the outbox. -/
def Harmless (entries : Entries) (program : EventProgram α) : Prop :=
  ∀ world, program.Safe publicationEnvironment (contract entries) (fun _ _ => True) world

theorem Quiet.harmless {program : EventProgram α} (quiet : Quiet entries program) :
    Harmless entries program :=
  fun world => (quiet world).mono fun _ _ _ => trivial

theorem quiet_ret {result : α} : Quiet entries (.ret result) := fun _ => unconflicted_ok

theorem quiet_raise {error : Raised} (other : error.isIdentityConflict = false) :
    Quiet entries (.raise error : EventProgram α) := fun _ => unconflicted_error other

theorem quiet_ofExcept {outcome : Except Raised α} (unconflicted : Unconflicted outcome) :
    Quiet entries (Program.ofExcept outcome) := fun _ => Program.safe_ofExcept unconflicted

theorem Harmless.andThen {program : EventProgram α} {rest : Except Raised α → EventProgram β}
    (first : Harmless entries program) (continues : ∀ outcome, Quiet entries (rest outcome)) :
    Quiet entries (program.andThen rest) :=
  fun world => (first world).andThen fun outcome after _ => continues outcome after

theorem Quiet.bind {program : EventProgram α} {rest : α → EventProgram β}
    (first : Quiet entries program) (continues : ∀ result, Quiet entries (rest result)) :
    Quiet entries (program >>= rest) :=
  fun world => (first world).bind (fun result after _ => continues result after)
    fun error _ unconflicted => unconflicted_error (unconflicted error rfl)

theorem Harmless.bind {program : EventProgram α} {rest : α → EventProgram β}
    (first : Harmless entries program) (continues : ∀ result, Harmless entries (rest result)) :
    Harmless entries (program >>= rest) :=
  fun world => (first world).bind (fun result after _ => continues result after)
    fun _ _ _ => trivial

theorem harmless_ofExcept {outcome : Except Raised α} :
    Harmless entries (Program.ofExcept outcome) := fun _ => Program.safe_ofExcept trivial

theorem Harmless.andThen_harmless {program : EventProgram α}
    {rest : Except Raised α → EventProgram β} (first : Harmless entries program)
    (continues : ∀ outcome, Harmless entries (rest outcome)) :
    Harmless entries (program.andThen rest) :=
  fun world => (first world).andThen fun outcome after _ => continues outcome after

theorem harmless_ite {condition : Prop} [Decidable condition] {yes no : EventProgram α}
    (one : condition → Harmless entries yes) (two : ¬condition → Harmless entries no) :
    Harmless entries (if condition then yes else no) := by
  split
  · exact one ‹_›
  · exact two ‹_›

theorem harmless_foldM {body : β → α → EventProgram β} (items : List α)
    (step : ∀ accumulator, ∀ item ∈ items, Harmless entries (body accumulator item))
    (accumulator : β) : Harmless entries (Program.foldM body accumulator items) := by
  induction items generalizing accumulator with
  | nil => exact fun _ => trivial
  | cons item items ih =>
    apply (step accumulator item (.head _)).bind
    intro next
    exact ih (fun accumulator other member => step accumulator other (.tail _ member)) next

theorem quiet_ite {condition : Prop} [Decidable condition] {yes no : EventProgram α}
    (one : condition → Quiet entries yes) (two : ¬condition → Quiet entries no) :
    Quiet entries (if condition then yes else no) := by
  split
  · exact one ‹_›
  · exact two ‹_›

theorem quiet_foldM {body : β → α → EventProgram β} (items : List α)
    (step : ∀ accumulator, ∀ item ∈ items, Quiet entries (body accumulator item))
    (accumulator : β) : Quiet entries (Program.foldM body accumulator items) := by
  induction items generalizing accumulator with
  | nil => exact quiet_ret
  | cons item items ih =>
    apply (step accumulator item (.head _)).bind
    intro next
    exact ih (fun accumulator other member => step accumulator other (.tail _ member)) next

/-! ### Operations -/

/-- The operation that makes an entry in the outbox. -/
def enqueues : EventOp → Bool
  | .enqueue _ _ _ _ => true
  | _ => false

/-- Other operations make none. -/
theorem holds_answer {op : EventOp} (other : enqueues op = false) {world : EventWorld}
    (holds : Holds entries world) (choice : op.Choice) :
    Holds entries (eventAnswer op choice world).2 := by
  intro eventId sinkId digest held
  apply holds eventId sinkId digest
  cases op with
  | enqueue event sink context principal => cases other
  | deliver sink event context =>
    have same : (eventAnswer (.deliver sink event context) choice world).2.ledger = world.ledger :=
      AuditDelivery.recordReturn_ledger _ _ _ _
    rwa [same] at held
  | markAttempt id sink error => exact InMemoryEventLedger.holds_of_markAttempt held
  | acknowledge acknowledgement => exact InMemoryEventLedger.holds_of_acknowledge held
  | putNowait capacity queued =>
    simp only [eventAnswer] at held
    split at held
    · exact held
    · exact held
  | _ => exact held

theorem harmless_op {op : EventOp} (other : enqueues op = false) :
    Harmless entries (eventOp op) := by
  intro world
  apply Program.safe_perform_alone
  intro holds
  exact ⟨trivial, fun choice _ => ⟨holds_answer other holds choice, trivial, trivial⟩⟩

/-- What the operation answers where the policy has its own reasons. -/
theorem quiet_op {op : EventOp} (other : enqueues op = false)
    (answers : ∀ choice world, ownReasons op choice →
      Unconflicted (eventAnswer op choice world).1) : Quiet entries (eventOp op) := by
  intro world
  apply Program.safe_perform_alone
  intro holds
  exact ⟨trivial, fun choice permitted =>
    ⟨holds_answer other holds choice, trivial, answers choice world permitted⟩⟩

theorem quiet_markAttempt (eventId : EventId) (sinkId : String) (error : Option String) :
    Quiet entries (eventOp (.markAttempt eventId sinkId error)) := by
  apply quiet_op rfl
  intro choice world _
  simp only [eventAnswer, EventWorld.withLedger, InMemoryEventLedger.markAttempt]
  split
  · split
    · exact unconflicted_ok
    · exact unconflicted_error (by decide)
  · exact unconflicted_ok

theorem quiet_diagnose (diagnostic : EventDiagnostic) :
    Quiet entries (eventOp (.diagnose diagnostic)) :=
  quiet_op rfl fun _ _ _ => unconflicted_ok

theorem quiet_backoff (dispatcher : EventDispatcher) (attempt : ℕ) :
    Quiet entries (dispatcher.backoff attempt) :=
  quiet_ite (fun _ => quiet_ret) fun _ => quiet_op rfl fun _ _ _ => unconflicted_ok

theorem quiet_checkActive (context : RuntimeCallContext) :
    Quiet entries (context.checkActive : EventProgram Unit) := by
  have cancelled : Quiet entries (eventOp (.cancelled context.cancellation)) :=
    quiet_op rfl fun _ _ _ => unconflicted_ok
  have now : Quiet entries (eventOp .now) := quiet_op rfl fun _ _ _ => unconflicted_ok
  apply cancelled.bind
  intro isCancelled
  apply quiet_ite
  · intro _
    exact quiet_raise (by decide)
  · intro _
    split
    · exact quiet_ret
    · apply now.bind
      intro time
      apply quiet_ite
      · intro _
        exact quiet_raise (by decide)
      · intro _
        exact quiet_ret

theorem quiet_expired (grant : Grant) :
    Quiet entries (AuthorizedDispatcher.expired grant : EventProgram Bool) := by
  unfold AuthorizedDispatcher.expired
  split
  · exact quiet_ret
  · have now : Quiet entries (eventOp .now) := quiet_op rfl fun _ _ _ => unconflicted_ok
    exact now.bind fun _ => quiet_ret

theorem quiet_sinkRequest (sink : EventSink) (event : RuntimeEvent) (context : RuntimeCallContext)
    (principal : RuntimePrincipal) :
    Quiet entries (Program.ofExcept (EventDispatcher.sinkRequest sink event context principal)) :=
  quiet_ofExcept ((unconflicted_make _ _).bind fun _ => unconflicted_ok)

theorem deniedBecause_unconflicted {reason : Option String} {fallback message : String}
    {given : fallback ≠ "" ∧ message ≠ ""} (own : reason ≠ some "event_identity_conflict")
    (other : fallback ≠ "event_identity_conflict") :
    (deniedBecause reason fallback message given).isIdentityConflict = false := by
  unfold deniedBecause
  split
  · simpa [coreError, Raised.isIdentityConflict] using other
  · rename_i code
    split
    · simpa [coreError, Raised.isIdentityConflict] using other
    · simpa [coreError, Raised.isIdentityConflict] using own

theorem quiet_authorizeSink (dispatcher : EventDispatcher) (sink : EventSink) (event : RuntimeEvent)
    (context : RuntimeCallContext) (principal : RuntimePrincipal) :
    Quiet entries (dispatcher.authorizeSink sink event context principal) := by
  unfold EventDispatcher.authorizeSink
  apply (quiet_checkActive context).bind
  intro _
  apply quiet_ite
  · intro _
    exact quiet_raise (by decide)
  intro _
  apply (quiet_sinkRequest sink event context principal).bind
  intro request world
  have decided : (eventOp (.authorize request)).Safe publicationEnvironment (contract entries)
      (fun outcome _ => Unconflicted outcome ∧ ∀ decision, outcome = .ok decision →
        decision.reasonCode ≠ some "event_identity_conflict") world := by
    apply Program.safe_perform_alone
    intro holds
    refine ⟨trivial, fun choice permitted => ⟨holds_answer rfl holds choice, trivial, ?_⟩⟩
    cases choice with
    | ok decision =>
      refine ⟨unconflicted_ok, fun other same => ?_⟩
      cases same
      exact permitted
    | error error =>
      refine ⟨unconflicted_error permitted, fun other same => ?_⟩
      cases same
  apply decided.bind
  · intro decision after answered
    have own := answered.2 decision rfl
    refine (fun judged : Quiet entries _ => judged after) ?_
    split
    · apply (quiet_expired _).bind
      intro expired
      apply quiet_ite
      · intro _
        exact quiet_raise (by decide)
      · intro _
        apply quiet_ite
        · intro _
          exact quiet_raise (by decide)
        · intro _
          exact quiet_ret
    · exact quiet_raise (deniedBecause_unconflicted own (by decide))
  · intro error _ answered
    exact unconflicted_error (answered.1 error rfl)

/-! ### Publication -/

theorem unconflicted_checkCapabilities (event : RuntimeEvent) (sink : EventSink) :
    Unconflicted (EventDispatcher.checkCapabilities event sink) := by
  unfold EventDispatcher.checkCapabilities
  dsimp only
  split
  · exact unconflicted_error (by decide)
  · split
    · exact unconflicted_error (by decide)
    · split
      · exact unconflicted_error (by decide)
      · exact unconflicted_ok

theorem unconflicted_validateRedacted (dispatcher : EventDispatcher) (redacted : RuntimeEvent) :
    Unconflicted (dispatcher.validateRedacted redacted) := by
  unfold EventDispatcher.validateRedacted
  split
  · exact unconflicted_error (by decide)
  · rename_i outcome other
    intro error raised
    cases error with
    | core detail => exact (other detail raised).elim
    | _ => rfl

/-- The event is prepared as the sink may see it. -/
theorem safe_prepareForSink (dispatcher : EventDispatcher) (event : RuntimeEvent)
    (context : RuntimeCallContext) (principal : RuntimePrincipal) (sink : EventSink)
    (world : EventWorld) :
    (dispatcher.prepareForSink event context principal sink).Safe publicationEnvironment
      (contract entries) (fun outcome _ => Unconflicted outcome ∧ ∀ prepared,
        outcome = .ok prepared → prepared = redact event sink.capabilities.maximumSensitivity)
      world := by
  have failed : ∀ {error : Raised}, error.isIdentityConflict = false →
      Unconflicted (.error error : Except Raised RuntimeEvent) ∧ ∀ prepared,
        (.error error : Except Raised RuntimeEvent) = .ok prepared →
          prepared = redact event sink.capabilities.maximumSensitivity := by
    intro error other
    refine ⟨unconflicted_error other, fun prepared same => ?_⟩
    cases same
  unfold EventDispatcher.prepareForSink
  apply (quiet_ofExcept (unconflicted_checkCapabilities event sink) world).bind
  · intro _ checked _
    apply (quiet_authorizeSink dispatcher sink event context principal checked).bind
    · intro _ authorized _
      apply (quiet_ofExcept (unconflicted_validateRedacted dispatcher _) authorized).bind
      · intro _ _ _
        refine ⟨unconflicted_ok, fun prepared same => ?_⟩
        cases same
        rfl
      · intro error _ unconflicted
        exact failed (unconflicted error rfl)
    · intro error _ unconflicted
      exact failed (unconflicted error rfl)
  · intro error _ unconflicted
    exact failed (unconflicted error rfl)

theorem harmless_attemptDelivery (event : RuntimeEvent) (context : RuntimeCallContext)
    (sink : EventSink) : Harmless entries (EventDispatcher.attemptDelivery event context sink) := by
  unfold EventDispatcher.attemptDelivery
  apply (harmless_op rfl).bind
  intro acknowledgement
  cases acknowledgement with
  | none => exact fun _ => trivial
  | some acknowledgement =>
    apply (harmless_op rfl).bind
    intro _
    exact harmless_op rfl

theorem quiet_deliverAttempts (dispatcher : EventDispatcher) (event : RuntimeEvent)
    (context : RuntimeCallContext) (sink : EventSink) (attempts : List ℕ)
    (lastError : Option ErrorDetail) :
    Quiet entries (dispatcher.deliverAttempts event context sink attempts lastError) := by
  induction attempts generalizing lastError with
  | nil => exact quiet_raise (by rfl)
  | cons attempt attempts ih =>
    apply (harmless_attemptDelivery event context sink).andThen
    intro outcome
    match outcome with
    | .ok () => exact quiet_ret
    | .error (.core error) =>
      apply (quiet_markAttempt _ _ _).bind
      intro _
      apply quiet_ite
      · intro _
        apply (quiet_backoff dispatcher attempt).bind
        intro _
        exact ih (some error)
      · intro _
        exact quiet_raise (by rfl)
    | .error (.value _) | .error (.assertion _) | .error (.key _) | .error (.other _)
    | .error .cancelledError => exact quiet_raise (by rfl)

/-- The outbox holds no other digest of the event for the sink than the sink's own. -/
def Files (entries : Entries) (event : RuntimeEvent) (sink : EventSink) : Prop :=
  ∀ digest, entries event.eventId sink.sinkId digest ↔
    digest = (redact event sink.capabilities.maximumSensitivity).payloadDigest

theorem quiet_publishToSink (dispatcher : EventDispatcher) {event : RuntimeEvent}
    (context : RuntimeCallContext) (principal : RuntimePrincipal) {sink : EventSink}
    (files : Files entries event sink) :
    Quiet entries (dispatcher.publishToSink event context principal sink) := by
  intro world
  apply (safe_prepareForSink dispatcher event context principal sink world).bind
  · intro prepared after ended
    have same := ended.2 prepared rfl
    subst same
    have enqueued : Quiet entries (eventOp (.enqueue
        (redact event sink.capabilities.maximumSensitivity) sink.sinkId context principal)) := by
      intro current
      apply Program.safe_perform_alone
      intro holds
      refine ⟨trivial, fun choice _ => ⟨?_, trivial, ?_⟩⟩
      · intro eventId sinkId digest held
        rcases InMemoryEventLedger.holds_of_enqueue held with earlier | ⟨key, filed⟩
        · exact holds eventId sinkId digest earlier
        · cases key
          exact (files digest).mpr filed
      · intro error refused
        obtain ⟨held, present, other⟩ := InMemoryEventLedger.enqueue_refused refused
        exact absurd ((files held).mp (holds _ _ _ present)) other
    apply enqueued.bind _ after
    intro _
    exact quiet_deliverAttempts dispatcher _ context sink _ none
  · intro error _ ended
    exact unconflicted_error (ended.1 error rfl)

theorem quiet_diagnosing {program : EventProgram Unit} {eventId : EventId} {sinkId : String}
    (quiet : Quiet entries program) :
    Quiet entries (EventDispatcher.diagnosing program eventId sinkId) := by
  apply quiet.harmless.andThen
  intro outcome
  match outcome with
  | .ok () => exact quiet_ret
  | .error (.core error) => exact quiet_diagnose _
  | .error (.value _) | .error (.assertion _) | .error (.key _) | .error (.other _)
  | .error .cancelledError => exact quiet_raise (by rfl)

/-- An event whose validators report their own errors is published without a conflict. -/
theorem quiet_publish {dispatcher : EventDispatcher} {event : RuntimeEvent}
    (context : RuntimeCallContext) (principal : RuntimePrincipal)
    (validated : Unconflicted (dispatcher.schemas.validate event))
    (files : event.deliveryClass = .audit →
      ∀ registration ∈ dispatcher.sinks, Files entries event registration.sink) :
    Quiet entries (dispatcher.publish event context principal) := by
  have required : ∀ sink ∈ dispatcher.required, ∃ registration ∈ dispatcher.sinks,
      registration.sink = sink := by
    intro sink member
    obtain ⟨registration, listed, same⟩ := List.mem_map.mp member
    exact ⟨registration, (List.mem_filter.mp listed).1, same⟩
  have optional : ∀ sink ∈ dispatcher.optional, ∃ registration ∈ dispatcher.sinks,
      registration.sink = sink := by
    intro sink member
    obtain ⟨registration, listed, same⟩ := List.mem_map.mp member
    exact ⟨registration, (List.mem_filter.mp listed).1, same⟩
  unfold EventDispatcher.publish
  apply (quiet_ofExcept validated).bind
  intro _
  apply quiet_ite
  · intro audit
    unfold EventDispatcher.publishAudit
    apply quiet_ite
    · intro _
      exact quiet_raise (by decide)
    intro _
    apply (quiet_foldM dispatcher.required _ ()).bind
    · intro _
      apply quiet_foldM
      intro _ sink member
      obtain ⟨registration, listed, rfl⟩ := optional sink member
      exact quiet_diagnosing
        (quiet_publishToSink dispatcher context principal (files audit registration listed))
    · intro _ sink member
      obtain ⟨registration, listed, rfl⟩ := required sink member
      exact quiet_publishToSink dispatcher context principal (files audit registration listed)
  · intro _
    have offered : Quiet entries (eventOp
        (.putNowait dispatcher.policy.observabilityQueueCapacity ⟨event, context, principal⟩)) := by
      apply quiet_op rfl
      intro choice world _
      simp only [eventAnswer]
      split
      · exact unconflicted_ok
      · exact unconflicted_ok
    apply offered.bind
    intro accepted
    apply quiet_ite
    · intro _
      exact quiet_diagnose _
    · intro _
      exact quiet_ret

/-! ### Events that the entries leave alone -/

/-- Anything may be held of the event. -/
def Open (entries : Entries) (event : RuntimeEvent) : Prop :=
  ∀ sinkId digest, entries event.eventId sinkId digest

theorem harmless_publishToSink (dispatcher : EventDispatcher) {event : RuntimeEvent}
    (context : RuntimeCallContext) (principal : RuntimePrincipal) (sink : EventSink)
    (free : Open entries event) :
    Harmless entries (dispatcher.publishToSink event context principal sink) := by
  intro world
  apply (safe_prepareForSink dispatcher event context principal sink world).bind
  · intro prepared after ended
    have same := ended.2 prepared rfl
    subst same
    have enqueued : Harmless entries (eventOp (.enqueue
        (redact event sink.capabilities.maximumSensitivity) sink.sinkId context principal)) := by
      intro current
      apply Program.safe_perform_alone
      intro holds
      refine ⟨trivial, fun choice _ => ⟨?_, trivial, trivial⟩⟩
      intro eventId sinkId digest held
      rcases InMemoryEventLedger.holds_of_enqueue held with earlier | ⟨key, -⟩
      · exact holds eventId sinkId digest earlier
      · cases key
        exact free sink.sinkId digest
    apply enqueued.bind _ after
    intro _
    exact (quiet_deliverAttempts dispatcher _ context sink _ none).harmless
  · intro _ _ _
    trivial

theorem harmless_publish (dispatcher : EventDispatcher) {event : RuntimeEvent}
    (context : RuntimeCallContext) (principal : RuntimePrincipal) (free : Open entries event) :
    Harmless entries (dispatcher.publish event context principal) := by
  have toSink := fun sink => harmless_publishToSink dispatcher context principal sink free
  unfold EventDispatcher.publish
  apply harmless_ofExcept.bind
  intro _
  apply harmless_ite
  · intro _
    apply harmless_ite
    · exact fun _ _ => trivial
    intro _
    apply (harmless_foldM dispatcher.required (fun _ sink _ => toSink sink) ()).bind
    intro _
    apply harmless_foldM
    intro _ sink _
    apply (toSink sink).andThen_harmless
    intro outcome
    match outcome with
    | .ok () => exact fun _ => trivial
    | .error (.core error) => exact harmless_op rfl
    | .error (.value _) | .error (.assertion _) | .error (.key _) | .error (.other _)
    | .error .cancelledError => exact fun _ => trivial
  · intro _
    apply (harmless_op rfl).bind
    intro accepted
    exact harmless_ite (fun _ => harmless_op rfl) fun _ _ => trivial

theorem harmless_recoverPending (dispatcher : EventDispatcher) (limit : ℕ) :
    Harmless entries (dispatcher.recoverPending limit) := by
  apply (harmless_op rfl).bind
  intro pending
  apply harmless_foldM
  intro recovered entry _
  unfold EventDispatcher.recoverEntry
  split
  · exact (harmless_op rfl).bind fun _ _ => trivial
  · rename_i registration _
    apply (harmless_op rfl).bind
    intro token
    apply Harmless.andThen_harmless
    · apply (quiet_authorizeSink dispatcher _ _ _ _).harmless.bind
      intro _
      apply (quiet_deliverAttempts dispatcher _ _ _ _ none).harmless.bind
      exact fun _ _ => trivial
    · intro outcome
      match outcome with
      | .ok _ => exact fun _ => trivial
      | .error (.core error) => exact (harmless_op rfl).bind fun _ _ => trivial
      | .error (.value _) | .error (.assertion _) | .error (.key _) | .error (.other _)
      | .error .cancelledError => exact fun _ => trivial

end EventIdentity

section Samples

open SampleParameters

def auditSink : EventSink := ⟨"audit-1", ⟨[.audit], [("*", "*")], .internal, true⟩⟩

def auditChoice : (op : EventOp) → op.Choice
  | .cancelled _ => false
  | .now => sampleTime
  | .newToken => ⟨"token-3", by decide⟩
  | .authorize request => .ok (allowing request)
  | .deliver sink event _ => if present : sink.sinkId ≠ "" then
      .ok (some ⟨⟨"acknowledgement-1", acknowledgement_checked⟩, event.eventId, sink.sinkId, event.payloadDigest,
        sampleTime, present, Sha256Digest.ne_empty _⟩)
      else .ok none
  | .enqueue _ _ _ _ | .markAttempt _ _ _ | .acknowledge _ | .listPending _ | .sleep _
  | .diagnose _ | .putNowait _ _ => ()

theorem auditChoice_permitted (op : EventOp) (world : EventWorld) :
    publicationEnvironment.permits op (auditChoice op) world := by
  cases op with
  | authorize request =>
    intro conflict
    cases conflict
  | _ => trivial

def auditAllocation : EventAllocation := ⟨⟨"event-1", event_checked⟩, sampleTime, .ok 1⟩

end Samples

end CongeriesCore
