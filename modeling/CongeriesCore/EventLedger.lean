import CongeriesCore.EventModel
import CongeriesCore.PolicyAuthorization

/-! # The in-memory event ledger

Sequence numbers and the audit outbox: an entry is keyed by an event and a sink, is
pending once enqueued and acknowledged by an acknowledgement that names its key. -/

namespace CongeriesCore

abbrev OutboxKey := EventId × String

structure PendingAuditDelivery where
  event : RuntimeEvent
  sinkId : String
  context : RuntimeCallContext
  principal : RuntimePrincipal
  payloadDigest : String
  attempts : ℕ
  lastError : Option String

structure InMemoryEventLedger where
  sequences : Dict RunId ℕ
  pending : Dict OutboxKey PendingAuditDelivery
  acknowledged : Dict OutboxKey EventAcknowledgement

def EventAcknowledgement.key (acknowledgement : EventAcknowledgement) : OutboxKey :=
  (acknowledgement.eventId, acknowledgement.sinkId)

namespace InMemoryEventLedger

def empty : InMemoryEventLedger := ⟨.empty, .empty, .empty⟩

def nextSequence (ledger : InMemoryEventLedger) (runId : RunId) : ℕ × InMemoryEventLedger :=
  let sequence := (ledger.sequences.get? runId).getD 0 + 1
  (sequence, { ledger with sequences := ledger.sequences.set runId sequence })

def enqueue [Sha256] (ledger : InMemoryEventLedger) (event : RuntimeEvent) (sinkId : String)
    (context : RuntimeCallContext) (principal : RuntimePrincipal) :
    Except Raised Unit × InMemoryEventLedger :=
  let key := (event.eventId, sinkId)
  let digest := event.payloadDigest
  let existing := ledger.pending.get? key
  let acknowledgement := ledger.acknowledged.get? key
  let existingDigest := (existing.map (·.payloadDigest)).or (acknowledgement.map (·.payloadDigest))
  if existingDigest.any (· ≠ digest) then
    (.error (coreError .conflict "event_identity_conflict"
      "event identity was reused with a different payload"), ledger)
  else if existing.isNone && acknowledgement.isNone then
    (.ok (), { ledger with
      pending := ledger.pending.set key ⟨event, sinkId, context, principal, digest, 0, none⟩ })
  else (.ok (), ledger)

def markAttempt (ledger : InMemoryEventLedger) (eventId : EventId) (sinkId : String)
    (error : Option String) : Except Raised Unit × InMemoryEventLedger :=
  let key := (eventId, sinkId)
  match ledger.pending.get? key with
  | none =>
    if ledger.acknowledged.contains key then (.ok (), ledger)
    else (.error (coreError .invalidRequest "outbox_entry_not_found"
      "pending audit delivery does not exist"), ledger)
  | some pending =>
    (.ok (), { ledger with
      pending := ledger.pending.set key
        { pending with attempts := pending.attempts + 1, lastError := error } })

def acknowledge (ledger : InMemoryEventLedger) (acknowledgement : EventAcknowledgement) :
    Except Raised Unit × InMemoryEventLedger :=
  match ledger.acknowledged.get? acknowledgement.key with
  | some existing =>
    if existing.payloadDigest ≠ acknowledgement.payloadDigest then
      (.error (coreError .conflict "acknowledgement_conflict"
        "acknowledgement payload digest conflicts with existing value"), ledger)
    else (.ok (), ledger)
  | none =>
    match ledger.pending.get? acknowledgement.key with
    | none => (.error (coreError .conflict "acknowledgement_conflict"
        "acknowledgement does not match pending Event payload"), ledger)
    | some pending =>
      if pending.payloadDigest ≠ acknowledgement.payloadDigest then
        (.error (coreError .conflict "acknowledgement_conflict"
          "acknowledgement does not match pending Event payload"), ledger)
      else (.ok (), { ledger with
        pending := ledger.pending.erase acknowledgement.key
        acknowledged := ledger.acknowledged.set acknowledgement.key acknowledgement })

def listPending (ledger : InMemoryEventLedger) (limit : ℕ) : List PendingAuditDelivery :=
  ledger.pending.values.take limit

/-- The entry under `key` is pending or acknowledged, with payload digest `digest`. -/
def Holds (ledger : InMemoryEventLedger) (key : OutboxKey) (digest : String) : Prop :=
  (∃ pending, ledger.pending.get? key = some pending ∧ pending.payloadDigest = digest) ∨
    ∃ acknowledgement, ledger.acknowledged.get? key = some acknowledgement ∧
      acknowledgement.payloadDigest = digest

/-- `after` keeps every acknowledgement of `before` and every entry's digest. -/
structure Later (before after : InMemoryEventLedger) : Prop where
  acknowledged : ∀ key acknowledgement, before.acknowledged.get? key = some acknowledgement →
    after.acknowledged.get? key = some acknowledgement
  holds : ∀ key digest, before.Holds key digest → after.Holds key digest

theorem Later.refl (ledger : InMemoryEventLedger) : Later ledger ledger :=
  ⟨fun _ _ found => found, fun _ _ holds => holds⟩

theorem Later.trans {first second third : InMemoryEventLedger} (earlier : Later first second)
    (later : Later second third) : Later first third where
  acknowledged key acknowledgement found :=
    later.acknowledged key acknowledgement (earlier.acknowledged key acknowledgement found)
  holds key digest holds := later.holds key digest (earlier.holds key digest holds)

/-- A pending entry is keyed by its own event and sink, carries its event's digest and is
not acknowledged. -/
def WellKept [Sha256] (ledger : InMemoryEventLedger) : Prop :=
  ∀ key pending, ledger.pending.get? key = some pending →
    key = (pending.event.eventId, pending.sinkId) ∧
      pending.payloadDigest = pending.event.payloadDigest ∧
      ledger.acknowledged.get? key = none

theorem enqueue_cases [Sha256] (ledger : InMemoryEventLedger) (event : RuntimeEvent) (sinkId : String)
    (context : RuntimeCallContext) (principal : RuntimePrincipal) :
    (∃ error, ledger.enqueue event sinkId context principal = (.error error, ledger)) ∨
    (ledger.enqueue event sinkId context principal = (.ok (), ledger) ∧
      ledger.Holds (event.eventId, sinkId) event.payloadDigest) ∨
    (ledger.pending.get? (event.eventId, sinkId) = none ∧
      ledger.acknowledged.get? (event.eventId, sinkId) = none ∧
      ledger.enqueue event sinkId context principal = (.ok (), { ledger with
        pending := ledger.pending.set (event.eventId, sinkId)
          ⟨event, sinkId, context, principal, event.payloadDigest, 0, none⟩ })) := by
  unfold enqueue Holds
  cases pending : ledger.pending.get? (event.eventId, sinkId) with
  | some existing =>
    by_cases same : existing.payloadDigest = event.payloadDigest
    · right; left
      simp [pending, same]
    · left
      simp [pending, same]
  | none =>
    cases acknowledged : ledger.acknowledged.get? (event.eventId, sinkId) with
    | some existing =>
      by_cases same : existing.payloadDigest = event.payloadDigest
      · right; left
        simp [pending, acknowledged, same]
      · left
        simp [pending, acknowledged, same]
    | none =>
      right; right
      simp [pending, acknowledged]

theorem markAttempt_cases (ledger : InMemoryEventLedger) (eventId : EventId) (sinkId : String)
    (error : Option String) :
    (ledger.markAttempt eventId sinkId error).2 = ledger ∨
    ∃ pending, ledger.pending.get? (eventId, sinkId) = some pending ∧
      (ledger.markAttempt eventId sinkId error).2 = { ledger with
        pending := ledger.pending.set (eventId, sinkId)
          { pending with attempts := pending.attempts + 1, lastError := error } } := by
  unfold markAttempt
  cases found : ledger.pending.get? (eventId, sinkId) with
  | none =>
    left
    simp only [found]
    split <;> rfl
  | some pending =>
    right
    exact ⟨pending, rfl, by simp [found]⟩

theorem acknowledge_cases (ledger : InMemoryEventLedger) (acknowledgement : EventAcknowledgement) :
    (∃ error, ledger.acknowledge acknowledgement = (.error error, ledger)) ∨
    (ledger.acknowledge acknowledgement = (.ok (), ledger) ∧
      ∃ existing, ledger.acknowledged.get? acknowledgement.key = some existing ∧
        existing.payloadDigest = acknowledgement.payloadDigest) ∨
    ∃ pending, ledger.acknowledged.get? acknowledgement.key = none ∧
      ledger.pending.get? acknowledgement.key = some pending ∧
      pending.payloadDigest = acknowledgement.payloadDigest ∧
      ledger.acknowledge acknowledgement = (.ok (), { ledger with
        pending := ledger.pending.erase acknowledgement.key
        acknowledged := ledger.acknowledged.set acknowledgement.key acknowledgement }) := by
  unfold acknowledge
  cases acknowledged : ledger.acknowledged.get? acknowledgement.key with
  | some existing =>
    by_cases same : existing.payloadDigest = acknowledgement.payloadDigest
    · right; left
      simp [same]
    · left
      simp [same]
  | none =>
    cases found : ledger.pending.get? acknowledgement.key with
    | none =>
      left
      simp
    | some pending =>
      by_cases same : pending.payloadDigest = acknowledgement.payloadDigest
      · right; right
        exact ⟨pending, rfl, rfl, same, by simp [same]⟩
      · left
        simp [same]

theorem holds_set {ledger : InMemoryEventLedger} {key : OutboxKey} {entry : PendingAuditDelivery}
    (same : ∀ digest, ledger.Holds key digest → entry.payloadDigest = digest) :
    ∀ other digest, ledger.Holds other digest →
      Holds { ledger with pending := ledger.pending.set key entry } other digest := by
  intro other digest holds
  by_cases hit : key = other
  · subst hit
    exact .inl ⟨entry, Dict.get?_set_self _ _ _, same digest holds⟩
  · rcases holds with ⟨pending, found, equal⟩ | acknowledged
    · exact .inl ⟨pending, (Dict.get?_set_of_ne _ hit _).trans found, equal⟩
    · exact .inr acknowledged

theorem enqueue_later [Sha256] (ledger : InMemoryEventLedger) (event : RuntimeEvent) (sinkId : String)
    (context : RuntimeCallContext) (principal : RuntimePrincipal) :
    Later ledger (ledger.enqueue event sinkId context principal).2 := by
  rcases ledger.enqueue_cases event sinkId context principal with
    ⟨error, equal⟩ | ⟨equal, -⟩ | ⟨pending, acknowledged, equal⟩
  · rw [equal]; exact .refl _
  · rw [equal]; exact .refl _
  · rw [equal]
    refine ⟨fun _ _ found => found, holds_set fun digest holds => ?_⟩
    rcases holds with ⟨_, found, -⟩ | ⟨_, found, -⟩
    · rw [pending] at found; cases found
    · rw [acknowledged] at found; cases found

theorem enqueue_wellKept [Sha256] {ledger : InMemoryEventLedger} (kept : ledger.WellKept)
    (event : RuntimeEvent) (sinkId : String) (context : RuntimeCallContext)
    (principal : RuntimePrincipal) :
    (ledger.enqueue event sinkId context principal).2.WellKept := by
  rcases ledger.enqueue_cases event sinkId context principal with
    ⟨error, equal⟩ | ⟨equal, -⟩ | ⟨-, absent, equal⟩
  · rw [equal]; exact kept
  · rw [equal]; exact kept
  · rw [equal]
    intro key pending found
    simp only [Dict.get?_set] at found
    split at found
    · rename_i hit
      cases found
      exact ⟨hit.symm, rfl, hit ▸ absent⟩
    · exact kept key pending found

theorem enqueue_acknowledged [Sha256] (ledger : InMemoryEventLedger) (event : RuntimeEvent)
    (sinkId : String) (context : RuntimeCallContext) (principal : RuntimePrincipal) :
    (ledger.enqueue event sinkId context principal).2.acknowledged = ledger.acknowledged := by
  rcases ledger.enqueue_cases event sinkId context principal with
    ⟨error, equal⟩ | ⟨equal, -⟩ | ⟨-, -, equal⟩ <;> rw [equal]

theorem enqueue_holds [Sha256] {ledger : InMemoryEventLedger} {event : RuntimeEvent} {sinkId : String}
    {context : RuntimeCallContext} {principal : RuntimePrincipal}
    (accepted : (ledger.enqueue event sinkId context principal).1 = .ok ()) :
    (ledger.enqueue event sinkId context principal).2.Holds (event.eventId, sinkId)
      event.payloadDigest := by
  rcases ledger.enqueue_cases event sinkId context principal with
    ⟨error, equal⟩ | ⟨equal, holds⟩ | ⟨-, -, equal⟩
  · rw [equal] at accepted; cases accepted
  · rw [equal]; exact holds
  · rw [equal]
    exact .inl ⟨_, Dict.get?_set_self _ _ _, rfl⟩

theorem markAttempt_later (ledger : InMemoryEventLedger) (eventId : EventId) (sinkId : String)
    (error : Option String) : Later ledger (ledger.markAttempt eventId sinkId error).2 := by
  rcases ledger.markAttempt_cases eventId sinkId error with equal | ⟨pending, found, equal⟩
  · rw [equal]; exact .refl _
  · rw [equal]
    refine ⟨fun _ _ found => found, fun key digest holds => ?_⟩
    by_cases hit : (eventId, sinkId) = key
    · subst hit
      rcases holds with ⟨existing, found', equal'⟩ | acknowledged
      · rw [found] at found'
        cases found'
        exact .inl ⟨_, Dict.get?_set_self _ _ _, equal'⟩
      · exact .inr acknowledged
    · rcases holds with ⟨existing, found', equal'⟩ | acknowledged
      · exact .inl ⟨existing, (Dict.get?_set_of_ne _ hit _).trans found', equal'⟩
      · exact .inr acknowledged

theorem markAttempt_acknowledged (ledger : InMemoryEventLedger) (eventId : EventId)
    (sinkId : String) (error : Option String) :
    (ledger.markAttempt eventId sinkId error).2.acknowledged = ledger.acknowledged := by
  rcases ledger.markAttempt_cases eventId sinkId error with equal | ⟨pending, -, equal⟩
  · rw [equal]
  · rw [equal]

theorem markAttempt_wellKept [Sha256] {ledger : InMemoryEventLedger}
    (kept : ledger.WellKept) (eventId : EventId) (sinkId : String) (error : Option String) :
    (ledger.markAttempt eventId sinkId error).2.WellKept := by
  rcases ledger.markAttempt_cases eventId sinkId error with equal | ⟨existing, found, equal⟩
  · rw [equal]; exact kept
  · rw [equal]
    intro key pending found'
    simp only [Dict.get?_set] at found'
    split at found'
    · rename_i hit
      cases found'
      exact hit ▸ kept _ existing found
    · exact kept key pending found'

theorem acknowledge_later (ledger : InMemoryEventLedger) (acknowledgement : EventAcknowledgement) :
    Later ledger (ledger.acknowledge acknowledgement).2 := by
  rcases ledger.acknowledge_cases acknowledgement with
    ⟨error, equal⟩ | ⟨equal, -⟩ | ⟨pending, absent, found, same, equal⟩
  · rw [equal]; exact .refl _
  · rw [equal]; exact .refl _
  · rw [equal]
    have keeps : ∀ key existing, ledger.acknowledged.get? key = some existing →
        (ledger.acknowledged.set acknowledgement.key acknowledgement).get? key =
          some existing := by
      intro key existing present
      have distinct : acknowledgement.key ≠ key := by
        rintro rfl
        rw [absent] at present
        cases present
      rw [Dict.get?_set_of_ne _ distinct, present]
    refine ⟨keeps, fun key digest holds => ?_⟩
    rcases holds with ⟨existing, found', equal'⟩ | ⟨existing, found', equal'⟩
    · by_cases hit : acknowledgement.key = key
      · subst hit
        rw [found] at found'
        cases found'
        exact .inr ⟨acknowledgement, Dict.get?_set_self _ _ _, same.symm.trans equal'⟩
      · exact .inl ⟨existing, (Dict.get?_erase_of_ne _ hit).trans found', equal'⟩
    · exact .inr ⟨existing, keeps _ _ found', equal'⟩

theorem acknowledge_wellKept [Sha256] {ledger : InMemoryEventLedger}
    (kept : ledger.WellKept) (acknowledgement : EventAcknowledgement) :
    (ledger.acknowledge acknowledgement).2.WellKept := by
  rcases ledger.acknowledge_cases acknowledgement with
    ⟨error, equal⟩ | ⟨equal, -⟩ | ⟨pending, -, -, -, equal⟩
  · rw [equal]; exact kept
  · rw [equal]; exact kept
  · rw [equal]
    intro key existing found
    simp only [Dict.get?_erase] at found
    split at found
    · cases found
    · rename_i distinct
      obtain ⟨keyed, digest, absent⟩ := kept key existing found
      exact ⟨keyed, digest, (Dict.get?_set_of_ne _ distinct _).trans absent⟩

/-- An accepted acknowledgement leaves its own entry acknowledged with its digest. -/
theorem acknowledge_settles {ledger : InMemoryEventLedger} {acknowledgement : EventAcknowledgement}
    (accepted : (ledger.acknowledge acknowledgement).1 = .ok ()) :
    ∃ existing, (ledger.acknowledge acknowledgement).2.acknowledged.get? acknowledgement.key =
      some existing ∧ existing.payloadDigest = acknowledgement.payloadDigest := by
  rcases ledger.acknowledge_cases acknowledgement with
    ⟨error, equal⟩ | ⟨equal, existing⟩ | ⟨pending, -, -, -, equal⟩
  · rw [equal] at accepted; cases accepted
  · rw [equal]; exact existing
  · rw [equal]; exact ⟨acknowledgement, Dict.get?_set_self _ _ _, rfl⟩

/-- An entry acknowledged by `acknowledge` was acknowledged before, or was pending with the
digest of the acknowledgement that names it. -/
theorem acknowledged_of_acknowledge {ledger : InMemoryEventLedger}
    {acknowledgement existing : EventAcknowledgement} {key : OutboxKey}
    (found : (ledger.acknowledge acknowledgement).2.acknowledged.get? key = some existing) :
    ledger.acknowledged.get? key = some existing ∨
      (existing = acknowledgement ∧ key = acknowledgement.key ∧
        (ledger.acknowledge acknowledgement).1 = .ok ()) := by
  rcases ledger.acknowledge_cases acknowledgement with
    ⟨error, equal⟩ | ⟨equal, -⟩ | ⟨pending, -, -, -, equal⟩
  · rw [equal] at found; exact .inl found
  · rw [equal] at found; exact .inl found
  · rw [equal] at found ⊢
    simp only [Dict.get?_set] at found
    split at found
    · rename_i hit
      cases found
      exact .inr ⟨rfl, hit.symm, rfl⟩
    · exact .inl found

/-- An accepted acknowledgement has the digest under which its entry is held. -/
theorem digest_of_accepted [Sha256] {ledger : InMemoryEventLedger} (kept : ledger.WellKept)
    {acknowledgement : EventAcknowledgement} {digest : String}
    (accepted : (ledger.acknowledge acknowledgement).1 = .ok ())
    (holds : ledger.Holds acknowledgement.key digest) :
    acknowledgement.payloadDigest = digest := by
  rcases ledger.acknowledge_cases acknowledgement with
    ⟨error, equal⟩ | ⟨-, existing, found, same⟩ | ⟨pending, absent, found, same, -⟩
  · rw [equal] at accepted; cases accepted
  · rcases holds with ⟨pending, pends, equal⟩ | ⟨other, found', equal⟩
    · rw [(kept _ _ pends).2.2] at found; cases found
    · rw [found] at found'
      cases found'
      exact same.symm.trans equal
  · rcases holds with ⟨other, found', equal⟩ | ⟨other, found', -⟩
    · rw [found] at found'
      cases found'
      exact same.symm.trans equal
    · rw [absent] at found'; cases found'

/-- Whether an acknowledgement is accepted depends on its entry's digest alone. -/
theorem acknowledge_ok_iff {ledger : InMemoryEventLedger} {acknowledgement : EventAcknowledgement} :
    (ledger.acknowledge acknowledgement).1 = .ok () ↔
      (∃ existing, ledger.acknowledged.get? acknowledgement.key = some existing ∧
        existing.payloadDigest = acknowledgement.payloadDigest) ∨
      (ledger.acknowledged.get? acknowledgement.key = none ∧
        ∃ pending, ledger.pending.get? acknowledgement.key = some pending ∧
          pending.payloadDigest = acknowledgement.payloadDigest) := by
  unfold acknowledge
  cases acknowledged : ledger.acknowledged.get? acknowledgement.key with
  | some existing =>
    by_cases same : existing.payloadDigest = acknowledgement.payloadDigest <;> simp [same]
  | none =>
    cases found : ledger.pending.get? acknowledgement.key with
    | none => simp
    | some pending =>
      by_cases same : pending.payloadDigest = acknowledgement.payloadDigest <;> simp [same]

theorem acknowledge_markAttempt_ok (ledger : InMemoryEventLedger)
    (acknowledgement : EventAcknowledgement) (eventId : EventId) (sinkId : String)
    (error : Option String) :
    ((ledger.markAttempt eventId sinkId error).2.acknowledge acknowledgement).1 = .ok () ↔
      (ledger.acknowledge acknowledgement).1 = .ok () := by
  rw [acknowledge_ok_iff, acknowledge_ok_iff, markAttempt_acknowledged]
  rcases ledger.markAttempt_cases eventId sinkId error with equal | ⟨existing, found, equal⟩
  · rw [equal]
  · rw [equal]
    by_cases hit : (eventId, sinkId) = acknowledgement.key
    · simp [← hit, found]
    · simp only [Dict.get?_set_of_ne _ hit]

theorem markAttempt_ok {ledger : InMemoryEventLedger} {eventId : EventId} {sinkId digest : String}
    (holds : ledger.Holds (eventId, sinkId) digest) (error : Option String) :
    (ledger.markAttempt eventId sinkId error).1 = .ok () := by
  unfold markAttempt
  cases found : ledger.pending.get? (eventId, sinkId) with
  | some pending => simp [found]
  | none =>
    rcases holds with ⟨pending, pends, -⟩ | ⟨acknowledgement, acknowledged, -⟩
    · rw [found] at pends
      cases pends
    · simp [found, Dict.contains, acknowledged]

/-- An acknowledgement of a held entry with the entry's digest is accepted. -/
theorem acknowledge_accepted [Sha256] {ledger : InMemoryEventLedger} (kept : ledger.WellKept)
    {acknowledgement : EventAcknowledgement}
    (holds : ledger.Holds acknowledgement.key acknowledgement.payloadDigest) :
    (ledger.acknowledge acknowledgement).1 = .ok () := by
  apply acknowledge_ok_iff.mpr
  rcases holds with ⟨pending, pends, same⟩ | acknowledged
  · exact .inr ⟨(kept _ pending pends).2.2, pending, pends, same⟩
  · exact .inl acknowledged

end InMemoryEventLedger

end CongeriesCore
