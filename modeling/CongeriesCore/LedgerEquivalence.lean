import CongeriesCore.EventConfinement
import CongeriesCore.SqliteEventLedger
import Mathlib.Data.List.Forall2
import Mathlib.Data.List.Induction
import Mathlib.Data.List.Perm.Basic

/-! # The two event ledgers

The calls of a dispatcher on its ledger, made on the in-memory and on the SQLite ledger side
by side. The tables mirror the dictionaries after every sequence of calls; the answers agree
unless an attempt is marked on an acknowledged entry, or a limit is out of SQLite's range. -/

namespace CongeriesCore

/-- What a call to the SQLite ledger reads besides its arguments. -/
structure Moment where
  now : DateTime
  tail : ContextTail

/-- An attempt is marked with no error or with the code of one. -/
inductive LedgerCall
  | nextSequence (runId : RunId)
  | enqueue (event : RuntimeEvent) (sinkId : String) (context : RuntimeCallContext)
      (principal : RuntimePrincipal)
  | markAttempt (eventId : EventId) (sinkId : String) (error : Option ErrorDetail)
  | acknowledge (acknowledgement : EventAcknowledgement)
  | listPending (limit : ℕ) (positive : 1 ≤ limit)

namespace LedgerCall

abbrev Answer : LedgerCall → Type
  | .nextSequence _ => ℕ
  | .listPending _ _ => List PendingAuditDelivery
  | .enqueue _ _ _ _ | .markAttempt _ _ _ | .acknowledge _ => Unit

def onMemory [Sha256] : (call : LedgerCall) → InMemoryEventLedger →
    Except Raised call.Answer × InMemoryEventLedger
  | .nextSequence runId, ledger =>
    let (sequence, after) := ledger.nextSequence runId
    (.ok sequence, after)
  | .enqueue event sinkId context principal, ledger => ledger.enqueue event sinkId context principal
  | .markAttempt eventId sinkId error, ledger =>
    ledger.markAttempt eventId sinkId (error.map (·.code))
  | .acknowledge acknowledgement, ledger => ledger.acknowledge acknowledgement
  | .listPending limit _, ledger => (.ok (ledger.listPending limit), ledger)

def onSqlite [Sha256] (moment : Moment) : (call : LedgerCall) → SqliteEventLedger →
    Except Raised call.Answer × SqliteEventLedger
  | .nextSequence runId, ledger =>
    let (sequence, after) := ledger.nextSequence runId
    (.ok sequence, after)
  | .enqueue event sinkId context principal, ledger =>
    ledger.enqueue event sinkId context moment.tail principal moment.now
  | .markAttempt eventId sinkId error, ledger =>
    ledger.markAttempt eventId sinkId (error.map (·.code)) moment.now
  | .acknowledge acknowledgement, ledger => ledger.acknowledge acknowledgement
  | .listPending limit _, ledger => (ledger.listPending limit, ledger)

/-- The calls that both ledgers answer alike. -/
def Regular (ledger : InMemoryEventLedger) : LedgerCall → Prop
  | .markAttempt eventId sinkId _ => ledger.acknowledged.get? (eventId, sinkId) = none
  | .listPending limit _ => limit < 2 ^ 63
  | .nextSequence _ | .enqueue _ _ _ _ | .acknowledge _ => True

end LedgerCall

/-! ## Lists that match item by item -/

section Matching

variable {α β : Type} {R : α → β → Prop}

/-- Lists without repetition whose items match one to one match in the order of the second. -/
theorem exists_ordered {xs : List α} {ys : List β} (nodup : xs.Nodup) (distinct : ys.Nodup)
    (given : ∀ y ∈ ys, ∃ x ∈ xs, R x y) (covered : ∀ x ∈ xs, ∃ y ∈ ys, R x y)
    (left : ∀ x ∈ xs, ∀ x' ∈ xs, ∀ y, R x y → R x' y → x = x')
    (right : ∀ x, ∀ y ∈ ys, ∀ y' ∈ ys, R x y → R x y' → y = y') :
    ∃ ordered : List α, ordered.Perm xs ∧ List.Forall₂ R ordered ys := by
  induction ys generalizing xs with
  | nil =>
    have none : xs = [] := by
      apply List.eq_nil_iff_forall_not_mem.mpr
      intro x member
      obtain ⟨y, impossible, -⟩ := covered x member
      cases impossible
    exact ⟨[], none ▸ .refl _, .nil⟩
  | cons y ys ih =>
    rw [List.nodup_cons] at distinct
    obtain ⟨x, member, related⟩ := given y (List.mem_cons_self ..)
    obtain ⟨before, after, rfl⟩ := List.append_of_mem member
    have middle : (before ++ x :: after).Perm (x :: (before ++ after)) := List.perm_middle
    have rest : (x :: (before ++ after)).Nodup := middle.nodup_iff.mp nodup
    rw [List.nodup_cons] at rest
    have within : ∀ item ∈ before ++ after, item ∈ before ++ x :: after := fun item member =>
      middle.mem_iff.mpr (List.mem_cons_of_mem _ member)
    obtain ⟨ordered, order, pairs⟩ := ih rest.2 distinct.2
      (by
        intro y' later
        obtain ⟨x', present, related'⟩ := given y' (List.mem_cons_of_mem _ later)
        rcases List.mem_cons.mp (middle.mem_iff.mp present) with rfl | other
        · have same := right x' y (List.mem_cons_self ..) y' (List.mem_cons_of_mem _ later)
            related related'
          exact absurd (same ▸ later) distinct.1
        · exact ⟨x', other, related'⟩)
      (by
        intro x' present
        obtain ⟨y', found, related'⟩ := covered x' (within x' present)
        rcases List.mem_cons.mp found with rfl | later
        · have same := left x' (within x' present) x member y' related' related
          exact absurd (same ▸ present) rest.1
        · exact ⟨y', later, related'⟩)
      (fun x' present x'' present' => left x' (within x' present) x'' (within x'' present'))
      (fun x' y' later y'' later' =>
        right x' y' (List.mem_cons_of_mem _ later) y'' (List.mem_cons_of_mem _ later'))
    exact ⟨x :: ordered, (order.cons x).trans middle.symm, .cons related pairs⟩

theorem mapM_ok_of_forall₂ {ε : Type} {f : β → Except ε α} {same : α → α → Prop}
    {xs : List α} {ys : List β}
    (pairs : List.Forall₂ (fun x y => ∃ result, f y = .ok result ∧ same x result) xs ys) :
    ∃ results, ys.mapM f = .ok results ∧ List.Forall₂ same xs results := by
  induction pairs with
  | nil => exact ⟨[], rfl, .nil⟩
  | cons related rest ih =>
    obtain ⟨result, read, equal⟩ := related
    obtain ⟨results, reads, equals⟩ := ih
    refine ⟨result :: results, ?_, .cons equal equals⟩
    rw [List.mapM_cons, read]
    change (do return result :: (← List.mapM f _)) = _
    rw [reads]
    rfl

end Matching

/-! ## Equal answers -/

/-- Equal deliveries, the payload of the event up to the order of fields and keys. -/
structure SameEntry (first second : PendingAuditDelivery) : Prop where
  delivery : { second with event := first.event } = first
  event : SameEvent first.event second.event

/-- Errors that differ at most in their message. -/
def SameError : Raised → Raised → Prop
  | .core first, .core second => first.category = second.category ∧ first.code = second.code ∧
      first.retryable = second.retryable ∧ first.causeId = second.causeId ∧
      first.metadata = second.metadata
  | _, _ => False

def SameOutcome {α : Type} (same : α → α → Prop) : Except Raised α → Except Raised α → Prop
  | .ok first, .ok second => same first second
  | .error first, .error second => SameError first second
  | _, _ => False

/-- The listings give the first `limit` of the same entries, each in an order of its own. -/
def SameListing (entries : List PendingAuditDelivery) (limit : ℕ)
    (first second : List PendingAuditDelivery) : Prop :=
  first = entries.take limit ∧
    ∃ ordered : List PendingAuditDelivery, ordered.Perm entries ∧ List.Forall₂ SameEntry (ordered.take limit) second

def SameAnswer (ledger : InMemoryEventLedger) : (call : LedgerCall) →
    Except Raised call.Answer → Except Raised call.Answer → Prop
  | .listPending limit _ => SameOutcome (SameListing ledger.pending.values limit)
  | .nextSequence _ | .enqueue _ _ _ _ | .markAttempt _ _ _ | .acknowledge _ => SameOutcome Eq

/-! ## The tables mirror the dictionaries -/

/-- The row of a pending entry, from which the entry is read back. -/
structure Stores (sinkId : String) (pending : PendingAuditDelivery) (row : OutboxRow) : Prop where
  sink : pending.sinkId = sinkId
  status : row.status = .pending
  event : ∃ decoded, (jsonObject row.eventJson >>= RuntimeEvent.fromData) = .ok decoded ∧
    SameEvent pending.event decoded
  context : (jsonObject row.contextJson >>= RuntimeCallContext.fromData) = .ok pending.context
  principal : (jsonObject row.principalJson >>= RuntimePrincipal.fromData) = .ok pending.principal
  digest : row.payloadDigest = pending.payloadDigest
  attempts : row.attempts = pending.attempts
  lastError : row.lastError = pending.lastError
  coded : pending.lastError ≠ some ""

theorem Stores.readRow {key : RowKey} {row : OutboxRow}
    {pending : PendingAuditDelivery} (stores : Stores key.2 pending row) :
    ∃ result, SqliteEventLedger.readRow (key, row) = .ok result ∧ SameEntry pending result := by
  obtain ⟨event, readEvent, same⟩ := stores.event
  obtain ⟨eventData, eventObject, event_⟩ := bind_ok readEvent
  obtain ⟨contextData, contextObject, context⟩ := bind_ok stores.context
  obtain ⟨principalData, principalObject, principal⟩ := bind_ok stores.principal
  have kept : row.lastError.filter (· ≠ "") = pending.lastError := by
    rw [stores.lastError]
    cases last : pending.lastError with
    | none => rfl
    | some code =>
      have coded : code ≠ "" := fun empty => stores.coded (empty ▸ last)
      simp [Option.filter_some, coded]
  refine ⟨⟨event, key.2, pending.context, pending.principal, row.payloadDigest, row.attempts,
    row.lastError.filter (· ≠ "")⟩, ?_, ?_, same⟩
  · simp only [SqliteEventLedger.readRow, eventObject, contextObject, principalObject, event_,
      context, principal, bind, Except.bind, pure, Except.pure]
  · rw [kept, stores.digest, stores.attempts, ← stores.sink]

inductive MirrorsEntry (sinkId : String) : Option PendingAuditDelivery →
    Option EventAcknowledgement → Option OutboxRow → Prop
  | absent : MirrorsEntry sinkId none none none
  | pending {pending : PendingAuditDelivery} {row : OutboxRow} (stores : Stores sinkId pending row) :
      MirrorsEntry sinkId (some pending) none (some row)
  | acknowledged {acknowledgement : EventAcknowledgement} {row : OutboxRow}
      (status : row.status = .acknowledged)
      (digest : row.payloadDigest = acknowledgement.payloadDigest) :
      MirrorsEntry sinkId none (some acknowledgement) (some row)

structure Mirrors (memory : InMemoryEventLedger) (database : SqliteEventLedger) : Prop where
  sequences : ∀ runId : RunId,
    database.sequences.get? runId.value = memory.sequences.get? runId
  named : ∀ key row, database.outbox.get? key = some row → ∃ eventId : EventId, eventId.value = key.1
  entries : ∀ eventId sinkId, MirrorsEntry sinkId (memory.pending.get? (eventId, sinkId))
    (memory.acknowledged.get? (eventId, sinkId))
    (database.outbox.get? (eventId.value, sinkId))

namespace Mirrors

theorem empty : Mirrors .empty .empty :=
  ⟨fun _ => rfl, fun _ _ found => absurd found (by simp [SqliteEventLedger.empty]),
    fun _ _ => .absent⟩

variable {memory : InMemoryEventLedger} {database : SqliteEventLedger}

theorem rowKey_ne {eventId other : EventId} {sinkId otherSink : String}
    (distinct : (eventId, sinkId) ≠ (other, otherSink)) :
    (eventId.value, sinkId) ≠ (other.value, otherSink) := by
  intro same
  obtain ⟨value, sink⟩ := Prod.mk.inj same
  exact distinct (by rw [Identifier.ext_value value, sink])

/-- A call that changes one entry changes one row. -/
theorem update (mirrors : Mirrors memory database) {eventId : EventId} {sinkId : String}
    {row : OutboxRow} {pending : Dict OutboxKey PendingAuditDelivery}
    {acknowledged : Dict OutboxKey EventAcknowledgement}
    (others : ∀ key, (eventId, sinkId) ≠ key → pending.get? key = memory.pending.get? key ∧
      acknowledged.get? key = memory.acknowledged.get? key)
    (entry : MirrorsEntry sinkId (pending.get? (eventId, sinkId))
      (acknowledged.get? (eventId, sinkId)) (some row)) :
    Mirrors { memory with pending := pending, acknowledged := acknowledged }
      { database with outbox := database.outbox.set (eventId.value, sinkId) row } where
  sequences := mirrors.sequences
  named key found stored := by
    rw [Dict.get?_set] at stored
    split at stored
    · rename_i hit
      exact ⟨eventId, congrArg Prod.fst hit⟩
    · exact mirrors.named key found stored
  entries other otherSink := by
    by_cases hit : (eventId, sinkId) = (other, otherSink)
    · obtain ⟨rfl, rfl⟩ := Prod.mk.inj hit
      rw [Dict.get?_set_self]
      exact entry
    · rw [Dict.get?_set_of_ne _ (rowKey_ne hit), (others _ hit).1, (others _ hit).2]
      exact mirrors.entries other otherSink

/-! ## One call -/

theorem nextSequence (mirrors : Mirrors memory database) (runId : RunId) :
    (database.nextSequence runId).1 = (memory.nextSequence runId).1 ∧
      Mirrors (memory.nextSequence runId).2 (database.nextSequence runId).2 := by
  have same := mirrors.sequences runId
  have count : (database.nextSequence runId).1 = (memory.nextSequence runId).1 := by
    unfold SqliteEventLedger.nextSequence InMemoryEventLedger.nextSequence
    rw [same]
    cases memory.sequences.get? runId with
    | none => rfl
    | some last => rfl
  refine ⟨count, fun other => ?_, mirrors.named, mirrors.entries⟩
  change (database.sequences.set runId.value (database.nextSequence runId).1).get? other.value =
    (memory.sequences.set runId (memory.nextSequence runId).1).get? other
  rw [count, Dict.get?_set, Dict.get?_set, mirrors.sequences other]
  by_cases hit : runId = other
  · simp [hit]
  · have distinct : runId.value ≠ other.value := fun value => hit (Identifier.ext_value value)
    simp [hit, distinct]

/-- The row that `enqueue` writes stores the entry. -/
theorem stores_enqueued [Sha256] (event : RuntimeEvent) (sinkId : String)
    (context : RuntimeCallContext) (principal : RuntimePrincipal) (moment : Moment) :
    Stores sinkId ⟨event, sinkId, context, principal, event.payloadDigest, 0, none⟩ {
      eventJson := jsonDump event.toData
      contextJson := jsonDump (context.toData moment.tail)
      principalJson := jsonDump principal.toData
      payloadDigest := event.payloadDigest
      status := .pending
      attempts := 0
      lastError := none
      acknowledgementId := none
      createdAt := moment.now.isoformat
      updatedAt := moment.now.isoformat } where
  sink := rfl
  status := rfl
  event := event.fromData_dump
  context := context.fromData_dump moment.tail
  principal := principal.fromData_dump
  digest := rfl
  attempts := rfl
  lastError := rfl
  coded := by simp

theorem enqueue [Sha256] (mirrors : Mirrors memory database) (event : RuntimeEvent)
    (sinkId : String) (context : RuntimeCallContext) (principal : RuntimePrincipal)
    (moment : Moment) :
    SameOutcome Eq (memory.enqueue event sinkId context principal).1
        (database.enqueue event sinkId context moment.tail principal moment.now).1 ∧
      Mirrors (memory.enqueue event sinkId context principal).2
        (database.enqueue event sinkId context moment.tail principal moment.now).2 := by
  have entry := mirrors.entries event.eventId sinkId
  unfold InMemoryEventLedger.enqueue SqliteEventLedger.enqueue
  generalize pends : memory.pending.get? (event.eventId, sinkId) = pending at entry
  generalize acked : memory.acknowledged.get? (event.eventId, sinkId) = acknowledged at entry
  generalize stored : database.outbox.get? (event.eventId.value, sinkId) = row at entry
  cases entry with
  | absent =>
    simp only [pends, acked, Option.map_none, Option.or_none, Option.any_none, Option.isNone_none,
      Bool.and_self, Bool.false_eq_true, if_false, if_true]
    refine ⟨rfl, mirrors.update (fun key distinct => ⟨?_, rfl⟩) ?_⟩
    · exact Dict.get?_set_of_ne _ distinct _
    · rw [Dict.get?_set_self, acked]
      exact .pending (stores_enqueued event sinkId context principal moment)
  | pending stores =>
    rename_i pending row
    have digest := stores.digest
    by_cases same : pending.payloadDigest = event.payloadDigest
    · simp [pends, acked, digest, same, SameOutcome, mirrors]
    · simp [pends, acked, digest, same, SameOutcome, SameError, coreError, mirrors]
  | acknowledged status digest =>
    rename_i acknowledgement row
    by_cases same : acknowledgement.payloadDigest = event.payloadDigest
    · simp [pends, acked, digest, same, SameOutcome, mirrors]
    · simp [pends, acked, digest, same, SameOutcome, SameError, coreError, mirrors]

/-- An attempt is marked alike unless the entry is acknowledged. -/
theorem markAttempt (mirrors : Mirrors memory database) (eventId : EventId) (sinkId : String)
    {error : Option String} (coded : error ≠ some "") (now : DateTime) :
    (SameOutcome Eq (memory.markAttempt eventId sinkId error).1
        (database.markAttempt eventId sinkId error now).1 ↔
      memory.acknowledged.get? (eventId, sinkId) = none) ∧
      Mirrors (memory.markAttempt eventId sinkId error).2
        (database.markAttempt eventId sinkId error now).2 := by
  have entry := mirrors.entries eventId sinkId
  unfold InMemoryEventLedger.markAttempt SqliteEventLedger.markAttempt
  generalize pends : memory.pending.get? (eventId, sinkId) = pending at entry
  generalize acked : memory.acknowledged.get? (eventId, sinkId) = acknowledged at entry
  generalize stored : database.outbox.get? (eventId.value, sinkId) = row at entry
  cases entry with
  | absent =>
    simp [pends, acked, Dict.contains, SameOutcome, SameError, coreError, mirrors]
  | pending stores =>
    rename_i pending row
    simp only [pends, stores.status, Option.filter_some, decide_true, if_true]
    refine ⟨iff_of_true rfl trivial, mirrors.update (fun key distinct => ⟨?_, rfl⟩) ?_⟩
    · exact Dict.get?_set_of_ne _ distinct _
    · rw [Dict.get?_set_self, acked]
      exact .pending { stores with
        status := rfl
        attempts := congrArg (· + 1) stores.attempts
        lastError := rfl
        coded := coded }
  | acknowledged status digest =>
    rename_i acknowledgement row
    have settled : row.status ≠ .pending := by
      rw [status]
      decide
    simp [pends, acked, Option.filter_some, settled, Dict.contains, SameOutcome, mirrors]

theorem acknowledge (mirrors : Mirrors memory database) (acknowledgement : EventAcknowledgement) :
    SameOutcome Eq (memory.acknowledge acknowledgement).1
        (database.acknowledge acknowledgement).1 ∧
      Mirrors (memory.acknowledge acknowledgement).2 (database.acknowledge acknowledgement).2 := by
  have entry := mirrors.entries acknowledgement.eventId acknowledgement.sinkId
  unfold InMemoryEventLedger.acknowledge SqliteEventLedger.acknowledge
  rw [EventAcknowledgement.key]
  generalize pends : memory.pending.get? (acknowledgement.eventId, acknowledgement.sinkId) =
    pending at entry
  generalize acked : memory.acknowledged.get? (acknowledgement.eventId, acknowledgement.sinkId) =
    acknowledged at entry
  generalize stored : database.outbox.get? (acknowledgement.eventId.value,
    acknowledgement.sinkId) = row at entry
  cases entry with
  | absent => simp [stored, SameOutcome, SameError, coreError, mirrors]
  | pending stores =>
    rename_i pending row
    have digest := stores.digest
    by_cases same : pending.payloadDigest = acknowledgement.payloadDigest
    · have active : row.status ≠ .acknowledged := by
        rw [stores.status]
        decide
      simp only [stored, digest, same, ne_eq, not_true, if_false, Option.filter_some, decide_true,
        if_true, active]
      refine ⟨rfl, mirrors.update (fun key distinct => ⟨?_, ?_⟩) ?_⟩
      · exact Dict.get?_erase_of_ne _ distinct
      · exact Dict.get?_set_of_ne _ distinct _
      · rw [Dict.get?_erase_self, Dict.get?_set_self]
        exact .acknowledged rfl rfl
    · simp [stored, Option.filter_some, digest, same, SameOutcome, SameError, coreError, mirrors]
  | acknowledged status digest =>
    rename_i existing row
    by_cases same : existing.payloadDigest = acknowledgement.payloadDigest
    · simp [stored, Option.filter_some, digest, same, status, SameOutcome, mirrors]
    · simp [stored, Option.filter_some, digest, same, SameOutcome, SameError, coreError, mirrors]

/-- The pending rows store the pending entries, in the order of the query. -/
theorem pendingRows_stores (mirrors : Mirrors memory database) :
    ∃ ordered : List (OutboxKey × PendingAuditDelivery), ordered.Perm memory.pending.entries ∧
      List.Forall₂ (fun entry row => row.1 = (entry.1.1.value, entry.1.2) ∧
        Stores row.1.2 entry.2 row.2) ordered database.pendingRows := by
  have order : database.pendingRows.Perm
      (database.outbox.entries.filter fun entry => entry.2.status = .pending) :=
    List.mergeSort_perm _ _
  have listed : ∀ key row, (key, row) ∈ database.pendingRows ↔
      database.outbox.get? key = some row ∧ row.status = .pending := by
    intro key row
    rw [order.mem_iff, List.mem_filter, decide_eq_true_eq]
    exact and_congr_left fun _ => ⟨Dict.get?_of_mem, Dict.mem_of_get?⟩
  apply exists_ordered memory.pending.nodup.of_map
  · exact order.nodup_iff.mpr (database.outbox.nodup.of_map.filter _)
  · rintro ⟨key, row⟩ member
    obtain ⟨stored, status⟩ := (listed key row).mp member
    obtain ⟨eventId, named⟩ := mirrors.named key row stored
    have entry := mirrors.entries eventId key.2
    rw [named, stored] at entry
    generalize pends : memory.pending.get? (eventId, key.2) = pending at entry
    generalize acked : memory.acknowledged.get? (eventId, key.2) = acknowledged at entry
    cases entry with
    | pending stores => exact ⟨((eventId, key.2), _), Dict.mem_of_get? pends, by rw [named], stores⟩
    | acknowledged settled =>
      rw [status] at settled
      cases settled
  · rintro ⟨⟨eventId, sinkId⟩, pending⟩ member
    have entry := mirrors.entries eventId sinkId
    rw [Dict.get?_of_mem member] at entry
    generalize acked : memory.acknowledged.get? (eventId, sinkId) = acknowledged at entry
    generalize stored : database.outbox.get? (eventId.value, sinkId) = row at entry
    cases entry with
    | pending stores => exact ⟨_, (listed _ _).mpr ⟨stored, stores.status⟩, rfl, stores⟩
  · rintro ⟨⟨eventId, sinkId⟩, pending⟩ member ⟨⟨other, otherSink⟩, otherPending⟩ member' row
      ⟨key, -⟩ ⟨key', -⟩
    obtain ⟨value, rfl⟩ := Prod.mk.inj (key.symm.trans key')
    obtain rfl := Identifier.ext_value value
    have same := (Dict.get?_of_mem member).symm.trans (Dict.get?_of_mem member')
    rw [Option.some.inj same]
  · rintro entry ⟨key, row⟩ member ⟨key', row'⟩ member' ⟨named, -⟩ ⟨named', -⟩
    obtain rfl : key = key' := named.trans named'.symm
    have same := ((listed _ _).mp member).1.symm.trans ((listed _ _).mp member').1
    rw [Option.some.inj same]

/-- The listings agree unless the limit is out of SQLite's range. -/
theorem listPending (mirrors : Mirrors memory database) {limit : ℕ} (positive : 1 ≤ limit) :
    SameOutcome (SameListing memory.pending.values limit) (.ok (memory.listPending limit))
      (database.listPending limit) ↔ limit < 2 ^ 63 := by
  have enough : ¬ limit < 1 := by omega
  have listing : database.listPending limit = (do
      SqliteEventLedger.bindInteger limit
      (database.pendingRows.take limit).mapM SqliteEventLedger.readRow) := by
    rw [SqliteEventLedger.listPending, if_neg enough]
  rw [listing]
  unfold SqliteEventLedger.bindInteger
  by_cases range : limit < 2 ^ 63
  · obtain ⟨ordered, order, pairs⟩ := mirrors.pendingRows_stores
    have reads : List.Forall₂ (fun pending row => ∃ result,
        SqliteEventLedger.readRow row = .ok result ∧ SameEntry pending result)
        ((ordered.map Prod.snd).take limit) (database.pendingRows.take limit) := by
      apply List.forall₂_take
      rw [List.forall₂_map_left_iff]
      exact pairs.imp fun _ _ stored => stored.2.readRow
    obtain ⟨results, read, same⟩ := mapM_ok_of_forall₂ reads
    rw [if_pos range]
    change SameOutcome _ _ (List.mapM _ _) ↔ _
    rw [read]
    exact iff_of_true ⟨rfl, ordered.map Prod.snd, order.map Prod.snd, same⟩ range
  · rw [if_neg range]
    exact iff_of_false id range

/-- Any call keeps the mirror, and whether its answers agree can be told beforehand. -/
theorem call [Sha256] (mirrors : Mirrors memory database) (call : LedgerCall) (moment : Moment) :
    (SameAnswer memory call (call.onMemory memory).1 (call.onSqlite moment database).1 ↔
      call.Regular memory) ∧ Mirrors (call.onMemory memory).2 (call.onSqlite moment database).2 := by
  cases call with
  | nextSequence runId =>
    obtain ⟨count, kept⟩ := mirrors.nextSequence runId
    exact ⟨iff_of_true count.symm trivial, kept⟩
  | enqueue event sinkId context principal =>
    obtain ⟨same, kept⟩ := mirrors.enqueue event sinkId context principal moment
    exact ⟨iff_of_true same trivial, kept⟩
  | markAttempt eventId sinkId error =>
    have coded : error.map (·.code) ≠ some "" := by
      intro empty
      obtain ⟨detail, -, code⟩ := Option.map_eq_some_iff.mp empty
      exact detail.required.1 code
    exact mirrors.markAttempt eventId sinkId coded moment.now
  | acknowledge acknowledgement =>
    obtain ⟨same, kept⟩ := mirrors.acknowledge acknowledgement
    exact ⟨iff_of_true same trivial, kept⟩
  | listPending limit positive => exact ⟨mirrors.listPending positive, mirrors⟩

end Mirrors

/-! ## Sequences of calls -/

abbrev LedgerCalls := List (LedgerCall × Moment)

/-- The in-memory ledger after calls on a new one. -/
def memoryAfter [Sha256] (calls : LedgerCalls) : InMemoryEventLedger :=
  calls.foldl (fun ledger call => (call.1.onMemory ledger).2) .empty

/-- The SQLite ledger after calls on a new one. -/
def sqliteAfter [Sha256] (calls : LedgerCalls) : SqliteEventLedger :=
  calls.foldl (fun ledger call => (call.1.onSqlite call.2 ledger).2) .empty

theorem mirrors_after [Sha256] (calls : LedgerCalls) :
    Mirrors (memoryAfter calls) (sqliteAfter calls) := by
  induction calls using List.reverseRecOn with
  | nil => exact .empty
  | append_singleton calls call ih =>
    rw [memoryAfter, sqliteAfter, List.foldl_append, List.foldl_append]
    exact (ih.call call.1 call.2).2

/-- The two ledgers, used alike from the start, give the same answer to the next call. -/
def AnswersAgree [Sha256] (calls : LedgerCalls) (call : LedgerCall) (moment : Moment) : Prop :=
  SameAnswer (memoryAfter calls) call (call.onMemory (memoryAfter calls)).1
    (call.onSqlite moment (sqliteAfter calls)).1

/-- An entry acknowledged by some calls is enough for the answers to differ. -/
theorem answers_differ_of_acknowledged [Sha256] {calls : LedgerCalls} {eventId : EventId}
    {sinkId : String} (moment : Moment)
    (acknowledged : ((memoryAfter calls).acknowledged.get? (eventId, sinkId)).isSome = true) :
    ¬ ∀ calls call moment, AnswersAgree calls call moment := by
  intro agree
  have agrees := agree calls (.markAttempt eventId sinkId none) moment
  have regular : (memoryAfter calls).acknowledged.get? (eventId, sinkId) = none :=
    ((mirrors_after calls).call _ moment).1.mp agrees
  rw [regular] at acknowledged
  cases acknowledged

theorem RuntimeEvent.payloadDigest_ne_empty [Sha256] (event : RuntimeEvent) :
    event.payloadDigest ≠ "" := Sha256Digest.ne_empty _

namespace LedgerEquivalence

open EventConfinement SampleParameters

def sampleMoment : Moment := ⟨sampleTime, ⟨⟨"trace-1", by decide⟩, ⟨"span-1", by decide⟩, false⟩⟩

def sampleAcknowledgement : EventAcknowledgement where
  acknowledgementId := ⟨"acknowledgement-1", acknowledgement_checked⟩
  eventId := sampleEvent.eventId
  sinkId := "audit"
  payloadDigest := sampleEvent.payloadDigest
  acknowledgedAt := sampleTime
  required := ⟨by decide, RuntimeEvent.payloadDigest_ne_empty _⟩

/-- A publication that the sink acknowledges, and the start of the same publication again. -/
def republished : LedgerCalls :=
  [(.enqueue sampleEvent "audit" sampleContext samplePrincipal, sampleMoment),
    (.markAttempt sampleEvent.eventId "audit" none, sampleMoment),
    (.acknowledge sampleAcknowledgement, sampleMoment),
    (.enqueue sampleEvent "audit" sampleContext samplePrincipal, sampleMoment)]

theorem republished_acknowledged :
    ((memoryAfter republished).acknowledged.get? (sampleEvent.eventId, "audit")).isSome = true := by
  decide +kernel

end LedgerEquivalence

end CongeriesCore
