import CongeriesCore.AsyncSystem
import CongeriesCore.EventDispatcher

/-! # The dispatcher's environment

The ledger computes; sinks, policy, clock and tokens answer as they choose. The record of
acknowledgements that sinks have returned is kept for the statements only. -/

namespace CongeriesCore

open AsyncProgram

structure ReturnedAcknowledgement where
  sink : EventSink
  event : RuntimeEvent
  acknowledgement : EventAcknowledgement

structure EventWorld where
  ledger : InMemoryEventLedger
  returned : List ReturnedAcknowledgement
  observations : List QueuedObservation
  diagnostics : List EventDiagnostic

def EventWorld.empty : EventWorld := ⟨.empty, [], [], []⟩

abbrev EventOp.Choice : EventOp → Type
  | .cancelled _ => Bool
  | .now => DateTime
  | .newToken => CancellationId
  | .authorize _ => Except Raised PolicyDecision
  | .deliver _ _ _ => Except Raised (Option EventAcknowledgement)
  | .enqueue _ _ _ _ | .markAttempt _ _ _ | .acknowledge _ | .listPending _ | .sleep _
  | .diagnose _ | .putNowait _ _ => Unit

variable [Sha256]

def EventWorld.withLedger {α : Type} (world : EventWorld)
    (result : Except Raised α × InMemoryEventLedger) : Except Raised α × EventWorld :=
  (result.1, { world with ledger := result.2 })

def EventWorld.recordReturn (world : EventWorld) (sink : EventSink) (event : RuntimeEvent) :
    Except Raised (Option EventAcknowledgement) → EventWorld
  | .ok (some acknowledgement) =>
    { world with returned := ⟨sink, event, acknowledgement⟩ :: world.returned }
  | _ => world

def eventAnswer : (op : EventOp) → op.Choice → EventWorld →
    Except Raised op.Answer × EventWorld
  | .cancelled _, cancelled, world => (.ok cancelled, world)
  | .now, now, world => (.ok now, world)
  | .newToken, token, world => (.ok token, world)
  | .authorize _, decision, world => (decision, world)
  | .deliver sink event _, outcome, world => (outcome, world.recordReturn sink event outcome)
  | .enqueue event sinkId context principal, _, world =>
    world.withLedger (world.ledger.enqueue event sinkId context principal)
  | .markAttempt eventId sinkId error, _, world =>
    world.withLedger (world.ledger.markAttempt eventId sinkId error)
  | .acknowledge acknowledgement, _, world =>
    world.withLedger (world.ledger.acknowledge acknowledgement)
  | .listPending limit, _, world => (.ok (world.ledger.listPending limit), world)
  | .sleep _, _, world => (.ok (), world)
  | .diagnose diagnostic, _, world =>
    (.ok (), { world with diagnostics := world.diagnostics ++ [diagnostic] })
  | .putNowait capacity queued, _, world =>
    if world.observations.length < capacity then
      (.ok true, { world with observations := world.observations ++ [queued] })
    else (.ok false, world)

/-- What a sink may return from a delivery, given the event, the sink and the state. -/
abbrev SinkCondition :=
  EventSink → RuntimeEvent → EventAcknowledgement → InMemoryEventLedger → Prop

def eventPermits (condition : SinkCondition) : (op : EventOp) → op.Choice → EventWorld → Prop
  | .deliver sink event _, .ok (some acknowledgement), world =>
    condition sink event acknowledgement world.ledger
  | _, _, _ => True

def eventEnvironment (condition : SinkCondition) : Environment EventInterface Raised EventWorld where
  Choice := EventOp.Choice
  permits := eventPermits condition
  answer := eventAnswer

/-- Publications and recoveries of one dispatcher, one at a time, from an empty ledger. -/
def EventDispatcher.system (dispatcher : EventDispatcher) (condition : SinkCondition) :
    Sequence EventInterface Raised Unit EventWorld where
  environment := eventEnvironment condition
  initial world := world = .empty
  starts before program start := start = before ∧
    ((∃ event context principal, program = dispatcher.publish event context principal) ∨
      ∃ limit, program = dispatcher.recoverPending limit >>= fun _ => pure ())

end CongeriesCore
