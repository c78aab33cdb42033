import CongeriesCore.EventDocuments
import CongeriesCore.EventLedger

/-! # The SQLite event ledger

The tables `event_sequences` and `audit_outbox` with the statements run on them. Each call is
one transaction; what it reads of the clock is an argument. The counters are unbounded: they
count calls. -/

namespace CongeriesCore

inductive OutboxStatus
  | pending
  | acknowledged
  deriving DecidableEq, Repr

/-- A row of `audit_outbox`, its primary key `(event_id, sink_id)` apart. -/
structure OutboxRow where
  eventJson : JsonText
  contextJson : JsonText
  principalJson : JsonText
  payloadDigest : String
  status : OutboxStatus
  attempts : ℕ
  lastError : Option String
  acknowledgementId : Option String
  createdAt : String
  updatedAt : String

abbrev RowKey := String × String

structure SqliteEventLedger where
  sequences : Dict String ℕ
  outbox : Dict RowKey OutboxRow

namespace SqliteEventLedger

def empty : SqliteEventLedger := ⟨.empty, .empty⟩

def nextSequence (ledger : SqliteEventLedger) (runId : RunId) : ℕ × SqliteEventLedger :=
  let sequence := match ledger.sequences.get? runId.value with
    | none => 1
    | some lastSequence => lastSequence + 1
  (sequence, { ledger with sequences := ledger.sequences.set runId.value sequence })

def enqueue [Sha256] (ledger : SqliteEventLedger) (event : RuntimeEvent) (sinkId : String)
    (context : RuntimeCallContext) (tail : ContextTail) (principal : RuntimePrincipal)
    (now : DateTime) : Except Raised Unit × SqliteEventLedger :=
  let digest := event.payloadDigest
  match ledger.outbox.get? (event.eventId.value, sinkId) with
  | some row =>
    if row.payloadDigest ≠ digest then
      (.error (coreError .conflict "event_identity_conflict"
        "Event identity was reused with a different payload"), ledger)
    else (.ok (), ledger)
  | none =>
    (.ok (), { ledger with
      outbox := ledger.outbox.set (event.eventId.value, sinkId) {
        eventJson := jsonDump event.toData
        contextJson := jsonDump (context.toData tail)
        principalJson := jsonDump principal.toData
        payloadDigest := digest
        status := .pending
        attempts := 0
        lastError := none
        acknowledgementId := none
        createdAt := now.isoformat
        updatedAt := now.isoformat } })

/-- The update finds a row only while its status is `pending`. -/
def markAttempt (ledger : SqliteEventLedger) (eventId : EventId) (sinkId : String)
    (error : Option String) (now : DateTime) : Except Raised Unit × SqliteEventLedger :=
  match (ledger.outbox.get? (eventId.value, sinkId)).filter (·.status = .pending) with
  | some row =>
    (.ok (), { ledger with
      outbox := ledger.outbox.set (eventId.value, sinkId)
        { row with
          attempts := row.attempts + 1
          lastError := error
          updatedAt := now.isoformat } })
  | none => (.error (coreError .invalidRequest "outbox_entry_not_found"
      "pending Audit delivery does not exist"), ledger)

def acknowledge (ledger : SqliteEventLedger) (acknowledgement : EventAcknowledgement) :
    Except Raised Unit × SqliteEventLedger :=
  let key := (acknowledgement.eventId.value, acknowledgement.sinkId)
  match (ledger.outbox.get? key).filter (·.payloadDigest = acknowledgement.payloadDigest) with
  | none => (.error (coreError .conflict "acknowledgement_conflict"
      "acknowledgement does not match the AuditOutbox payload"), ledger)
  | some row =>
    if row.status = .acknowledged then (.ok (), ledger)
    else (.ok (), { ledger with
      outbox := ledger.outbox.set key
        { row with
          status := .acknowledged
          acknowledgementId := some acknowledgement.acknowledgementId.value
          lastError := none
          updatedAt := acknowledgement.acknowledgedAt.isoformat } })

/-- `ORDER BY created_at, event_id, sink_id`. -/
def before (first second : RowKey × OutboxRow) : Bool :=
  if first.2.createdAt ≠ second.2.createdAt then first.2.createdAt < second.2.createdAt
  else if first.1.1 ≠ second.1.1 then first.1.1 < second.1.1
  else first.1.2 ≤ second.1.2

/-- The pending rows in the order of the query. -/
def pendingRows (ledger : SqliteEventLedger) : List (RowKey × OutboxRow) :=
  (ledger.outbox.entries.filter fun entry => entry.2.status = .pending).mergeSort before

/-- The body of the loop of `_pending_sync`; an empty `last_error` is `None`. -/
def readRow (entry : RowKey × OutboxRow) : Except Raised PendingAuditDelivery := do
  let eventData ← jsonObject entry.2.eventJson
  let contextData ← jsonObject entry.2.contextJson
  let principalData ← jsonObject entry.2.principalJson
  let event ← RuntimeEvent.fromData eventData
  let context ← RuntimeCallContext.fromData contextData
  let principal ← RuntimePrincipal.fromData principalData
  return {
    event := event
    sinkId := entry.1.2
    context := context
    principal := principal
    payloadDigest := entry.2.payloadDigest
    attempts := entry.2.attempts
    lastError := entry.2.lastError.filter (· ≠ "") }

/-- A parameter of a statement is a 64-bit integer. -/
def bindInteger (value : ℕ) : Except Raised Unit :=
  if value < 2 ^ 63 then .ok () else .error (.other "OverflowError")

def listPending (ledger : SqliteEventLedger) (limit : ℕ) :
    Except Raised (List PendingAuditDelivery) := do
  if limit < 1 then throw (.value "pending limit must be positive")
  bindInteger limit
  (ledger.pendingRows.take limit).mapM readRow

end SqliteEventLedger

end CongeriesCore
