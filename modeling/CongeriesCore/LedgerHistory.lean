import CongeriesCore.EventIdentity
import Mathlib.Data.List.Induction

/-! # Histories of the in-memory ledger

Every operation holds the lock from its first step to its last, so whatever the callers do is
a sequence of calls. An entry only moves from pending to acknowledged, with the digest it was
enqueued with. -/

namespace CongeriesCore

namespace InMemoryEventLedger

/-- `list(…)[:limit]`; a negative limit leaves off that many at the end. -/
def sliceTo {α : Type} (items : List α) (limit : ℤ) : List α :=
  if 0 ≤ limit then items.take limit.toNat else items.take (items.length - (-limit).toNat)

/-- The calls of the ledger with the arguments that its callers choose. -/
inductive Call
  | nextSequence (runId : RunId)
  | enqueue (event : RuntimeEvent) (sinkId : String) (context : RuntimeCallContext)
      (principal : RuntimePrincipal)
  | markAttempt (eventId : EventId) (sinkId : String) (error : Option String)
  | acknowledge (acknowledgement : EventAcknowledgement)
  | pending (limit : ℤ)

inductive Answer
  | sequence (number : ℕ)
  | done
  | entries (entries : List PendingAuditDelivery)

def Call.run [Sha256] (ledger : InMemoryEventLedger) :
    Call → Except Raised Answer × InMemoryEventLedger
  | .nextSequence runId =>
    let (number, after) := ledger.nextSequence runId
    (.ok (.sequence number), after)
  | .enqueue event sinkId context principal =>
    let (outcome, after) := ledger.enqueue event sinkId context principal
    (outcome.map fun _ => .done, after)
  | .markAttempt eventId sinkId error =>
    let (outcome, after) := ledger.markAttempt eventId sinkId error
    (outcome.map fun _ => .done, after)
  | .acknowledge acknowledgement =>
    let (outcome, after) := ledger.acknowledge acknowledgement
    (outcome.map fun _ => .done, after)
  | .pending limit => (.ok (.entries (sliceTo ledger.pending.values limit)), ledger)

/-- The ledger after calls on a new one. -/
def after [Sha256] (calls : List Call) : InMemoryEventLedger :=
  calls.foldl (fun ledger call => (call.run ledger).2) .empty

/-- Some call enqueued the entry, and was not refused. -/
def Enqueued [Sha256] (calls : List Call) (key : OutboxKey) (digest : String) : Prop :=
  ∃ before event sinkId context principal rest,
    calls = before ++ Call.enqueue event sinkId context principal :: rest ∧
      ((after before).enqueue event sinkId context principal).1 = .ok () ∧
      key = (event.eventId, sinkId) ∧ digest = event.payloadDigest

/-- The call asks for the run's next number. -/
def Call.asks (runId : RunId) : Call → Bool
  | .nextSequence other => decide (other = runId)
  | .enqueue _ _ _ _ | .markAttempt _ _ _ | .acknowledge _ | .pending _ => false

/-- The number in an answer. -/
def number? : Except Raised Answer → Option ℕ
  | .ok (.sequence number) => some number
  | .ok .done | .ok (.entries _) | .error _ => none

/-- What the calls that ask for a run's next number are answered, in order. -/
def numbers [Sha256] (runId : RunId) : InMemoryEventLedger → List Call → List (Option ℕ)
  | _, [] => []
  | ledger, call :: calls =>
    let rest := numbers runId (call.run ledger).2 calls
    if call.asks runId then number? (call.run ledger).1 :: rest else rest

/-! ## Steps -/

/-- What a call leaves of the entries: acknowledged ones stay as they are, and a pending one
has its attempts counted up or is acknowledged. -/
structure Advanced (before after : InMemoryEventLedger) : Prop where
  later : Later before after
  attempts : ∀ key pending, before.pending.get? key = some pending →
    (∃ now, after.pending.get? key = some now ∧ pending.attempts ≤ now.attempts) ∨
      ∃ acknowledgement, after.acknowledged.get? key = some acknowledgement

theorem Advanced.refl (ledger : InMemoryEventLedger) : Advanced ledger ledger :=
  ⟨.refl ledger, fun _ pending found => .inl ⟨pending, found, le_rfl⟩⟩

theorem Advanced.trans {first second third : InMemoryEventLedger}
    (earlier : Advanced first second) (later : Advanced second third) : Advanced first third where
  later := earlier.later.trans later.later
  attempts := by
    intro key pending found
    rcases earlier.attempts key pending found with ⟨now, found', grown⟩ | ⟨settled, found'⟩
    · rcases later.attempts key now found' with ⟨then_, found'', grown'⟩ | settled
      · exact .inl ⟨then_, found'', grown.trans grown'⟩
      · exact .inr settled
    · exact .inr ⟨settled, later.later.acknowledged key settled found'⟩

variable [Sha256] {ledger : InMemoryEventLedger}

theorem enqueue_advanced (event : RuntimeEvent) (sinkId : String) (context : RuntimeCallContext)
    (principal : RuntimePrincipal) :
    Advanced ledger (ledger.enqueue event sinkId context principal).2 := by
  have later := ledger.enqueue_later event sinkId context principal
  rcases ledger.enqueue_cases event sinkId context principal with
    ⟨error, equal⟩ | ⟨equal, -⟩ | ⟨absent, -, equal⟩
  · rw [equal]
    exact .refl ledger
  · rw [equal]
    exact .refl ledger
  · rw [equal] at later ⊢
    refine ⟨later, fun key pending found => .inl ⟨pending, ?_, le_rfl⟩⟩
    have distinct : (event.eventId, sinkId) ≠ key := by
      intro same
      rw [same, found] at absent
      cases absent
    exact (Dict.get?_set_of_ne _ distinct _).trans found

omit [Sha256] in
theorem markAttempt_advanced (eventId : EventId) (sinkId : String) (error : Option String) :
    Advanced ledger (ledger.markAttempt eventId sinkId error).2 := by
  have later := ledger.markAttempt_later eventId sinkId error
  rcases ledger.markAttempt_cases eventId sinkId error with equal | ⟨existing, found, equal⟩
  · rw [equal]
    exact .refl ledger
  · rw [equal] at later ⊢
    refine ⟨later, fun key pending found' => .inl ?_⟩
    by_cases hit : (eventId, sinkId) = key
    · subst hit
      rw [found] at found'
      cases found'
      exact ⟨_, Dict.get?_set_self _ _ _, Nat.le_succ _⟩
    · exact ⟨pending, (Dict.get?_set_of_ne _ hit _).trans found', le_rfl⟩

omit [Sha256] in
theorem acknowledge_advanced (acknowledgement : EventAcknowledgement) :
    Advanced ledger (ledger.acknowledge acknowledgement).2 := by
  have later := ledger.acknowledge_later acknowledgement
  rcases ledger.acknowledge_cases acknowledgement with
    ⟨error, equal⟩ | ⟨equal, -⟩ | ⟨existing, -, -, -, equal⟩
  · rw [equal]
    exact .refl ledger
  · rw [equal]
    exact .refl ledger
  · rw [equal] at later ⊢
    refine ⟨later, fun key pending found => ?_⟩
    by_cases hit : acknowledgement.key = key
    · subst hit
      exact .inr ⟨acknowledgement, Dict.get?_set_self _ _ _⟩
    · exact .inl ⟨pending, (Dict.get?_erase_of_ne _ hit).trans found, le_rfl⟩

theorem run_advanced (call : Call) : Advanced ledger (call.run ledger).2 := by
  cases call with
  | nextSequence runId =>
    exact ⟨⟨fun _ _ found => found, fun _ _ holds => holds⟩,
      fun _ pending found => .inl ⟨pending, found, le_rfl⟩⟩
  | enqueue event sinkId context principal => exact enqueue_advanced event sinkId context principal
  | markAttempt eventId sinkId error => exact markAttempt_advanced eventId sinkId error
  | acknowledge acknowledgement => exact acknowledge_advanced acknowledgement
  | pending limit => exact .refl ledger

theorem run_wellKept (kept : ledger.WellKept) (call : Call) : (call.run ledger).2.WellKept := by
  cases call with
  | nextSequence runId => exact kept
  | enqueue event sinkId context principal => exact enqueue_wellKept kept event sinkId context principal
  | markAttempt eventId sinkId error => exact markAttempt_wellKept kept eventId sinkId error
  | acknowledge acknowledgement => exact acknowledge_wellKept kept acknowledgement
  | pending limit => exact kept

/-- What is held after a call was held before, or is what the call enqueued. -/
theorem holds_of_run {call : Call} {key : OutboxKey} {digest : String}
    (holds : (call.run ledger).2.Holds key digest) :
    ledger.Holds key digest ∨ ∃ event sinkId context principal,
      call = .enqueue event sinkId context principal ∧
        (ledger.enqueue event sinkId context principal).1 = .ok () ∧
        key = (event.eventId, sinkId) ∧ digest = event.payloadDigest := by
  cases call with
  | nextSequence runId => exact .inl holds
  | enqueue event sinkId context principal =>
    change (ledger.enqueue event sinkId context principal).2.Holds key digest at holds
    cases accepted : (ledger.enqueue event sinkId context principal).1 with
    | ok done =>
      rcases holds_of_enqueue holds with held | ⟨named, same⟩
      · exact .inl held
      · exact .inr ⟨event, sinkId, context, principal, rfl, accepted, named, same⟩
    | error error =>
      left
      rcases ledger.enqueue_cases event sinkId context principal with
        ⟨_, equal⟩ | ⟨equal, -⟩ | ⟨-, -, equal⟩
      · rwa [equal] at holds
      · rw [equal] at accepted
        cases accepted
      · rw [equal] at accepted
        cases accepted
  | markAttempt eventId sinkId error => exact .inl (holds_of_markAttempt holds)
  | acknowledge acknowledgement => exact .inl (holds_of_acknowledge holds)
  | pending limit => exact .inl holds

/-- A call that raises changes nothing. -/
theorem run_raised {call : Call} {error : Raised} (raised : (call.run ledger).1 = .error error) :
    (call.run ledger).2 = ledger := by
  cases call with
  | nextSequence runId => cases raised
  | enqueue event sinkId context principal =>
    change Except.map _ (ledger.enqueue event sinkId context principal).1 = _ at raised
    change (ledger.enqueue event sinkId context principal).2 = ledger
    rcases ledger.enqueue_cases event sinkId context principal with
      ⟨_, equal⟩ | ⟨equal, -⟩ | ⟨-, -, equal⟩
    · rw [equal]
    · rw [equal]
    · rw [equal] at raised
      cases raised
  | markAttempt eventId sinkId error' =>
    change Except.map _ (ledger.markAttempt eventId sinkId error').1 = _ at raised
    change (ledger.markAttempt eventId sinkId error').2 = ledger
    rcases ledger.markAttempt_cases eventId sinkId error' with equal | ⟨pending, found, -⟩
    · exact equal
    · rw [markAttempt_ok (.inl ⟨pending, found, rfl⟩) error'] at raised
      cases raised
  | acknowledge acknowledgement =>
    change Except.map _ (ledger.acknowledge acknowledgement).1 = _ at raised
    change (ledger.acknowledge acknowledgement).2 = ledger
    rcases ledger.acknowledge_cases acknowledgement with
      ⟨_, equal⟩ | ⟨equal, -⟩ | ⟨_, -, -, -, equal⟩
    · rw [equal]
    · rw [equal]
    · rw [equal] at raised
      cases raised
  | pending limit => cases raised

/-! ## Histories -/

theorem after_append (calls more : List Call) :
    after (calls ++ more) = more.foldl (fun ledger call => (call.run ledger).2) (after calls) :=
  List.foldl_append

theorem after_snoc (calls : List Call) (call : Call) :
    after (calls ++ [call]) = (call.run (after calls)).2 := after_append calls [call]

theorem after_wellKept (calls : List Call) : (after calls).WellKept := by
  induction calls using List.reverseRecOn with
  | nil =>
    intro key pending found
    cases found
  | append_singleton calls call ih =>
    rw [after_snoc]
    exact run_wellKept ih call

theorem after_advanced (calls more : List Call) :
    Advanced (after calls) (after (calls ++ more)) := by
  induction more using List.reverseRecOn with
  | nil =>
    rw [List.append_nil]
    exact .refl _
  | append_singleton more call ih =>
    rw [← List.append_assoc, after_snoc]
    exact ih.trans (run_advanced call)

theorem Enqueued.append {calls : List Call} {key : OutboxKey} {digest : String}
    (enqueued : Enqueued calls key digest) (more : List Call) :
    Enqueued (calls ++ more) key digest := by
  obtain ⟨before, event, sinkId, context, principal, rest, rfl, accepted⟩ := enqueued
  exact ⟨before, event, sinkId, context, principal, rest ++ more, by simp, accepted⟩

theorem Enqueued.holds {calls : List Call} {key : OutboxKey} {digest : String}
    (enqueued : Enqueued calls key digest) : (after calls).Holds key digest := by
  obtain ⟨before, event, sinkId, context, principal, rest, rfl, accepted, rfl, rfl⟩ := enqueued
  have held := enqueue_holds accepted
  have split : before ++ Call.enqueue event sinkId context principal :: rest =
      (before ++ [.enqueue event sinkId context principal]) ++ rest := by simp
  rw [split]
  apply (after_advanced _ rest).later.holds
  rw [after_snoc]
  exact held

/-- An entry is held with the digest that it was enqueued with. -/
theorem holds_iff_enqueued (calls : List Call) (key : OutboxKey) (digest : String) :
    (after calls).Holds key digest ↔ Enqueued calls key digest := by
  constructor
  · intro holds
    induction calls using List.reverseRecOn with
    | nil => rcases holds with ⟨_, found, -⟩ | ⟨_, found, -⟩ <;> cases found
    | append_singleton calls call ih =>
      rw [after_snoc] at holds
      rcases holds_of_run holds with held | ⟨event, sinkId, context, principal, rfl, accepted⟩
      · exact (ih held).append [call]
      · exact ⟨calls, event, sinkId, context, principal, [], rfl, accepted⟩
  · exact Enqueued.holds

/-- Nothing is held with two digests. -/
theorem Holds.unique (kept : ledger.WellKept) {key : OutboxKey} {first second : String}
    (one : ledger.Holds key first) (two : ledger.Holds key second) : first = second := by
  rcases one with ⟨pending, found, rfl⟩ | ⟨settled, found, rfl⟩
  · rcases two with ⟨other, found', rfl⟩ | ⟨other, found', -⟩
    · rw [found] at found'
      cases found'
      rfl
    · rw [(kept key pending found).2.2] at found'
      cases found'
  · rcases two with ⟨other, found', -⟩ | ⟨other, found', rfl⟩
    · rw [(kept key other found').2.2] at found
      cases found
    · rw [found] at found'
      cases found'
      rfl

/-! ## Sequence numbers -/

/-- The count of a run. -/
def count (ledger : InMemoryEventLedger) (runId : RunId) : ℕ :=
  (ledger.sequences.get? runId).getD 0

variable (ledger) in
theorem run_asking {call : Call} {runId : RunId} (asks : call.asks runId = true) :
    number? (call.run ledger).1 = some (ledger.count runId + 1) ∧
      (call.run ledger).2.count runId = ledger.count runId + 1 := by
  cases call with
  | nextSequence other =>
    obtain rfl := of_decide_eq_true asks
    have next : (ledger.sequences.set other (ledger.count other + 1)).get? other =
        some (ledger.count other + 1) := Dict.get?_set_self _ _ _
    exact ⟨rfl, congrArg (Option.getD · 0) next⟩
  | enqueue event sinkId context principal => cases asks
  | markAttempt eventId sinkId error => cases asks
  | acknowledge acknowledgement => cases asks
  | pending limit => cases asks

variable (ledger) in
theorem run_not_asking {call : Call} {runId : RunId} (other : call.asks runId = false) :
    (call.run ledger).2.count runId = ledger.count runId := by
  cases call with
  | nextSequence asked =>
    have distinct : asked ≠ runId := of_decide_eq_false other
    exact congrArg (Option.getD · 0) (Dict.get?_set_of_ne _ distinct _)
  | enqueue event sinkId context principal =>
    change (ledger.enqueue event sinkId context principal).2.count runId = _
    rcases ledger.enqueue_cases event sinkId context principal with
      ⟨_, equal⟩ | ⟨equal, -⟩ | ⟨-, -, equal⟩
    · rw [equal]
    · rw [equal]
    · rw [equal]
      rfl
  | markAttempt eventId sinkId error =>
    change (ledger.markAttempt eventId sinkId error).2.count runId = _
    rcases ledger.markAttempt_cases eventId sinkId error with equal | ⟨_, -, equal⟩
    · rw [equal]
    · rw [equal]
      rfl
  | acknowledge acknowledgement =>
    change (ledger.acknowledge acknowledgement).2.count runId = _
    rcases ledger.acknowledge_cases acknowledgement with
      ⟨_, equal⟩ | ⟨equal, -⟩ | ⟨_, -, -, -, equal⟩
    · rw [equal]
    · rw [equal]
    · rw [equal]
      rfl
  | pending limit => rfl

/-- A run's numbers go on from its count, one for each call that asks. -/
theorem numbers_eq (ledger : InMemoryEventLedger) (runId : RunId) (calls : List Call) :
    numbers runId ledger calls =
      (List.range' (ledger.count runId + 1) (calls.countP (·.asks runId))).map some := by
  induction calls generalizing ledger with
  | nil => rfl
  | cons call calls ih =>
    cases asks : call.asks runId with
    | true =>
      obtain ⟨given, counted⟩ := run_asking ledger asks
      rw [numbers, if_pos asks, given, ih, counted, List.countP_cons_of_pos asks, List.range'_succ,
        List.map_cons]
    | false =>
      have kept := run_not_asking ledger asks
      have passed : ¬ call.asks runId = true := by simp [asks]
      rw [numbers, if_neg passed, ih, kept, List.countP_cons_of_neg passed]

/-! ## The invariant -/

/-- What holds of the ledger after some calls, and still after more. -/
structure LedgerInvariant (calls more : List Call) : Prop where
  exclusive : ∀ key, (after calls).pending.get? key = none ∨
    (after calls).acknowledged.get? key = none
  acknowledged : ∀ key acknowledgement,
    (after calls).acknowledged.get? key = some acknowledgement →
      (after (calls ++ more)).acknowledged.get? key = some acknowledgement ∧
        Enqueued calls key acknowledgement.payloadDigest
  digest : ∀ key digest, Enqueued calls key digest →
    ∀ other, (after (calls ++ more)).Holds key other ↔ other = digest
  attempts : ∀ key earlier now, (after calls).pending.get? key = some earlier →
    (after (calls ++ more)).pending.get? key = some now → earlier.attempts ≤ now.attempts
  raised : ∀ (call : Call) error, (call.run (after calls)).1 = .error error →
    (call.run (after calls)).2 = after calls
  sequences : ∀ runId, numbers runId .empty calls =
    (List.range' 1 (calls.countP (·.asks runId))).map some

theorem ledger_invariant (calls more : List Call) : LedgerInvariant calls more where
  exclusive := by
    intro key
    cases found : (after calls).pending.get? key with
    | none => exact .inl rfl
    | some pending => exact .inr (after_wellKept calls key pending found).2.2
  acknowledged := by
    intro key acknowledgement found
    have held : (after calls).Holds key acknowledgement.payloadDigest :=
      .inr ⟨acknowledgement, found, rfl⟩
    exact ⟨(after_advanced calls more).later.acknowledged key acknowledgement found,
      (holds_iff_enqueued calls key _).mp held⟩
  digest := by
    intro key digest enqueued other
    have held := (enqueued.append more).holds
    constructor
    · intro holds
      exact holds.unique (after_wellKept _) held
    · rintro rfl
      exact held
  attempts := by
    intro key earlier now found found'
    rcases (after_advanced calls more).attempts key earlier found with
      ⟨same, present, grown⟩ | ⟨settled, present⟩
    · rw [found'] at present
      cases present
      exact grown
    · rw [(after_wellKept _ key now found').2.2] at present
      cases present
  raised _ _ raised := run_raised raised
  sequences runId := numbers_eq .empty runId calls

end InMemoryEventLedger

end CongeriesCore
