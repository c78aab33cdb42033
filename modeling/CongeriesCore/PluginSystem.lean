import CongeriesCore.AsyncSystem
import CongeriesCore.PluginManager
import CongeriesCore.RegistryHistory

/-! # A process of plugin operations

Load, activation, drain and unload of any number of Plugins, interleaved at every await. The
lifecycle records, the registry and the staged handles are what the operations make of them;
the policy, the audits, the loaders, the hooks and the leases answer as they please. -/

namespace CongeriesCore

open AsyncProgram

/-- What the process shares between operations. The lock of a Plugin is held by a thread. -/
structure PluginWorld (τ : Type) where
  records : Dict String PluginStateRecord
  history : RegistryHistory
  prepared : Dict String PreparedPlugin
  locks : Dict String ℕ
  publisher : τ

inductive PluginEventKind
  | requested
  | changed
  | failed (errorCode : String)
  deriving DecidableEq, Repr

/-- The arguments of one call of a `PluginEventPublisher`. -/
structure PluginEvent where
  kind : PluginEventKind
  plugin : PluginRef
  fromState : String
  toState : PluginLifecycleState
  operationId : String
  activeLeaseCount : ℕ
  context : RuntimeCallContext

/-- What publishing an event may do to the state of the publisher. -/
structure PluginEventPublisher (τ : Type) where
  publishes : PluginEvent → τ → Except Raised Unit → τ → Prop

/-- The lifecycle operations of a `PluginManager`. -/
inductive PluginCall
  | load (manifest : PluginManifest)
  | activate
  | drain (fuel : ℕ)
  | cancelDrain
  | unload (fuel : ℕ)

/-- One call of the manager of a Plugin. -/
structure PluginThread where
  manager : PluginManager
  call : PluginCall
  context : RuntimeCallContext
  principal : RuntimePrincipal
  named : ∀ manifest, call = .load manifest → manifest.ref.name = manager.pluginId

def PluginThread.plugin (thread : PluginThread) : String := thread.manager.pluginId

def PluginThread.run (thread : PluginThread) : PluginProgram PluginStateRecord :=
  match thread.call with
  | .load manifest => thread.manager.load manifest thread.context thread.principal
  | .activate => thread.manager.activate thread.context thread.principal
  | .drain fuel => thread.manager.drain fuel thread.context thread.principal
  | .cancelDrain => thread.manager.cancelDrain thread.context thread.principal
  | .unload fuel => thread.manager.unload fuel thread.context thread.principal

/-- The event an operation publishes. -/
def PluginOp.event? : PluginOp → Option PluginEvent
  | .transitionRequested plugin fromState toState operationId count context =>
    some ⟨.requested, plugin, fromState, toState, operationId, count, context⟩
  | .lifecycleChanged plugin fromState toState operationId count context =>
    some ⟨.changed, plugin, fromState, toState, operationId, count, context⟩
  | .lifecycleFailed plugin fromState toState operationId count error context =>
    some ⟨.failed error.code, plugin, fromState, toState, operationId, count, context⟩
  | _ => none

namespace PluginLifecycleController

/-- `_record`. -/
def known : Option PluginStateRecord → Except Raised PluginStateRecord
  | none => .error (retryableError .unavailable "plugin_not_loaded"
      "Plugin is not known to the lifecycle controller")
  | some record => .ok record

/-- What `transition` commits, from the record it finds. -/
def transitioned (current : Option PluginStateRecord) (target : PluginLifecycleState)
    (expectedVersion : ℕ) (receipt : Option RegistrationReceipt) (clearReceipt : Bool) :
    Except Raised PluginStateRecord := do
  let record ← known current
  checkTransition record target (some expectedVersion)
  return moved record target receipt clearReceipt

def hookMarked (current : Option PluginStateRecord) (hook : PluginHookName) :
    Except Raised PluginStateRecord := do
  return marked (← known current) hook

end PluginLifecycleController

namespace PluginWorld

open PluginLifecycleController

variable {τ : Type}

def empty (publisher : τ) : PluginWorld τ :=
  ⟨.empty, ⟨.empty, []⟩, .empty, .empty, publisher⟩

/-- A critical section of the lifecycle controller either raises or commits a record. -/
def recorded (world : PluginWorld τ) (plugin : String) (outcome : Except Raised PluginStateRecord) :
    Except Raised PluginStateRecord × PluginWorld τ :=
  match outcome with
  | .error error => (.error error, world)
  | .ok record => (.ok record, { world with records := world.records.set plugin record })

section Answer

variable [Sha256]

/-- What an operation of the thread does that calls for `plugin`. -/
def answer (world : PluginWorld τ) (plugin : String) (thread : ℕ) :
    (op : PluginOp) → Except Raised op.Answer × τ → Except Raised op.Answer × PluginWorld τ
  | .acquireOperationLock, _ => (.ok (), { world with locks := world.locks.set plugin thread })
  | .releaseOperationLock, _ => (.ok (), { world with locks := world.locks.erase plugin })
  | .getRecord, _ => (known (world.records.get? plugin), world)
  | .discover manifest, _ => world.recorded plugin
      (discovered (world.records.get? plugin) manifest)
  | .transition target expectedVersion receipt clearReceipt, _ => world.recorded plugin
      (transitioned (world.records.get? plugin) target expectedVersion receipt clearReceipt)
  | .markHook hook, _ => world.recorded plugin
      (hookMarked (world.records.get? plugin) hook)
  | .registrySnapshot, _ => (.ok world.history.registry, world)
  | .commitRegistration plan, _ =>
    ((world.history.registry.commit plan world.history.registry.version).1, { world with
      history := world.history.perform (.commit plan world.history.registry.version) })
  | .unregister receipt, _ =>
    ((world.history.registry.unregister receipt).1,
      { world with history := world.history.perform (.unregister receipt) })
  | .rollback receipt, _ =>
    ((world.history.registry.rollback receipt).1,
      { world with history := world.history.perform (.rollback receipt) })
  | .getPrepared, _ => (.ok (world.prepared.get? plugin), world)
  | .setPrepared prepared, _ =>
    (.ok (), { world with prepared := world.prepared.set plugin prepared })
  | .forgetPrepared, _ => (.ok (), { world with prepared := world.prepared.erase plugin })
  | .transitionRequested _ _ _ _ _ _, (outcome, publisher) => (outcome, { world with publisher })
  | .lifecycleChanged _ _ _ _ _ _, (outcome, publisher) => (outcome, { world with publisher })
  | .lifecycleFailed _ _ _ _ _ _ _, (outcome, publisher) => (outcome, { world with publisher })
  | _, (outcome, _) => (outcome, world)

/-- Tokens and the clock can always be read, and a lock only be taken while it is free. SHA-256
does not collide on the registrations of one process. -/
def allows (publisher : PluginEventPublisher τ) (world : PluginWorld τ) (plugin : String) :
    (op : PluginOp) → Except Raised op.Answer × τ → Prop
  | .cancelled _, (outcome, _) => ∃ isCancelled, outcome = .ok isCancelled
  | .now, (outcome, _) => ∃ time, outcome = .ok time
  | .newToken, (outcome, _) => ∃ token, outcome = .ok token
  | .acquireOperationLock, _ => world.locks.get? plugin = none
  | .commitRegistration plan, _ => SeparatesDigests
      (world.history.perform (.commit plan world.history.registry.version)).issued
  | .transitionRequested name fromState toState operationId count context, (outcome, next) =>
    publisher.publishes ⟨.requested, name, fromState, toState, operationId, count, context⟩
      world.publisher outcome next
  | .lifecycleChanged name fromState toState operationId count context, (outcome, next) =>
    publisher.publishes ⟨.changed, name, fromState, toState, operationId, count, context⟩
      world.publisher outcome next
  | .lifecycleFailed name fromState toState operationId count error context, (outcome, next) =>
    publisher.publishes ⟨.failed error.code, name, fromState, toState, operationId, count, context⟩
      world.publisher outcome next
  | _, _ => True

/-- No task is cancelled: whatever is raised, `except Exception` catches. -/
def permits (publisher : PluginEventPublisher τ) (world : PluginWorld τ) (plugin : String)
    (op : PluginOp) (choice : Except Raised op.Answer × τ) : Prop :=
  (∀ error, choice.1 = .error error → error.isException = true) ∧
    world.allows publisher plugin op choice

end Answer

end PluginWorld

variable {τ : Type} [Sha256]

def pluginEnvironment (publisher : PluginEventPublisher τ) (plugin : String) (thread : ℕ) :
    Environment PluginInterface Raised (PluginWorld τ) where
  Choice op := Except Raised op.Answer × τ
  permits op choice world := world.permits publisher plugin op choice
  answer op choice world := world.answer plugin thread op choice

end CongeriesCore
