import CongeriesCore.PluginSystem
import Mathlib.Logic.Function.Basic

/-! # What the lock of a plugin protects

A journal beside the process: for every Plugin what has been prepared, which hooks and which
cleanups have completed in time, and what record was committed last. The operation lock of a
Plugin protects its lifecycle record, its prepared handle, its live receipts and its journal;
a triple over these says what a coroutine makes of them while it holds the lock. -/

namespace CongeriesCore

open AsyncProgram

/-- A prepared handle, a hook or a cleanup that has completed. -/
inductive Progress
  | prepared (handle : ℕ)
  | hook (name : PluginHookName)
  | cleaned (handle : ℕ)
  deriving DecidableEq, Repr

/-- `checking` is the deadline of the latest completion while the call may still find it late.
`entered` is the record its operation has found. -/
structure PluginLog where
  progress : List Progress
  checking : Option (Option Deadline)
  committed : Option PluginStateRecord
  entered : Option PluginStateRecord

namespace PluginLog

def empty : PluginLog := ⟨[], none, none, none⟩

/-- The completion counts unless a check right after it finds it late. -/
def completes (log : PluginLog) (item : Progress) (context : RuntimeCallContext) : PluginLog :=
  { log with progress := item :: log.progress, checking := some context.deadline }

def settled (log : PluginLog) : PluginLog := { log with checking := none }

theorem settled_eq {log : PluginLog} (calm : log.checking = none) : log.settled = log := by
  obtain ⟨progress, checking, committed, entered⟩ := log
  cases calm
  rfl

/-- The latest completion was late. -/
def revoked (log : PluginLog) : PluginLog :=
  { log with progress := log.progress.tail, checking := none }

def tokenRead (log : PluginLog) (isCancelled : Bool) : PluginLog :=
  match log.checking with
  | none => log
  | some none => if isCancelled then log.revoked else log.settled
  | some (some _) => if isCancelled then log.revoked else log

def clockRead (log : PluginLog) (time : DateTime) : PluginLog :=
  match log.checking with
  | some (some deadline) => if deadline.at_ ≤ time then log.revoked else log.settled
  | _ => log.settled

def commits (log : PluginLog) (record : PluginStateRecord) : PluginLog :=
  { log with checking := none, committed := some record }

/-- The log after an operation of the Plugin that found `current`. -/
def after (log : PluginLog) (current : Option PluginStateRecord) :
    (op : PluginOp) → Except Raised op.Answer → PluginLog
  | .cancelled _, .ok isCancelled => log.tokenRead isCancelled
  | .now, .ok time => log.clockRead time
  | .prepare _ _, .ok prepared =>
    { log with progress := .prepared prepared.handle :: log.progress, checking := none }
  | .runHook _ hook context, .ok _ => log.completes (.hook hook) context
  | .cleanup prepared context, .ok _ => log.completes (.cleaned prepared.handle) context
  | .discover _, .ok record => log.commits record
  | .transition _ _ _ _, .ok record => log.commits record
  | .markHook _, .ok record => log.commits record
  | .acquireOperationLock, _ => { log with checking := none, entered := current }
  | _, _ => log.settled

end PluginLog

/-- The records that a finished operation has found and left. -/
structure OperationOutcome where
  found : Option PluginStateRecord
  left : Option PluginStateRecord

structure PluginJournal where
  logs : String → PluginLog
  outcomes : ℕ → Option OperationOutcome

def PluginJournal.empty : PluginJournal := ⟨fun _ => .empty, fun _ => none⟩

abbrev PluginState (τ : Type) := PluginWorld τ × PluginJournal

/-- The receipts a Plugin holds that are not retired. -/
def RegistryHistory.liveOf (history : RegistryHistory) (plugin : String) :
    List RegistrationReceipt :=
  history.issued.filter fun receipt => receipt.owner.name = plugin ∧
    receipt.registrationId ∉ history.registry.retiredReceipts

section System

variable {τ : Type} [Sha256]

/-- A loader prepares a handle that the Plugin has not had before. -/
def PluginJournal.allows (plugin : String) :
    (op : PluginOp) → Except Raised op.Answer × τ → PluginState τ → Prop
  | .prepare _ _, (outcome, _), state => ∀ prepared, outcome = .ok prepared →
      .prepared prepared.handle ∉ (state.2.logs plugin).progress
  | _, _, _ => True

def PluginJournal.finish (journal : PluginJournal) (plugin : String) (thread : ℕ)
    (left : Option PluginStateRecord) : PluginOp → ℕ → Option OperationOutcome
  | .releaseOperationLock => Function.update journal.outcomes thread
      (some ⟨(journal.logs plugin).entered, left⟩)
  | _ => journal.outcomes

def PluginJournal.record (plugin : String) (thread : ℕ) (op : PluginOp)
    (outcome : Except Raised op.Answer) (before _after : PluginWorld τ) (journal : PluginJournal) :
    PluginJournal where
  logs := Function.update journal.logs plugin
    ((journal.logs plugin).after (before.records.get? plugin) op outcome)
  outcomes := journal.finish plugin thread (before.records.get? plugin) op

def journaledEnvironment (publisher : PluginEventPublisher τ) (plugin : String) (thread : ℕ) :
    Environment PluginInterface Raised (PluginState τ) :=
  (pluginEnvironment publisher plugin thread).instrumented (PluginJournal.allows plugin)
    (PluginJournal.record plugin thread)

/-- Calls of plugin managers over one process, their steps interleaved. -/
def pluginPool (publisher : PluginEventPublisher τ) (initial : τ) (threads : ℕ → PluginThread) :
    Pool PluginInterface Raised PluginStateRecord (PluginState τ) where
  environment thread := journaledEnvironment publisher (threads thread).plugin thread
  initial state := state = (.empty initial, .empty)
  starts thread before program after := after = before ∧ program = (threads thread).run

end System

/-- What the operation lock of a Plugin protects. -/
structure PluginPart where
  record : Option PluginStateRecord
  prepared : Option PreparedPlugin
  receipts : List RegistrationReceipt
  log : PluginLog

/-- The part of the state that belongs to a Plugin. -/
def pluginPart {τ : Type} (plugin : String) (state : PluginState τ) : PluginPart where
  record := state.1.records.get? plugin
  prepared := state.1.prepared.get? plugin
  receipts := state.1.history.liveOf plugin
  log := state.2.logs plugin

end CongeriesCore
