import CongeriesCore.AsyncSystem
import CongeriesCore.AsyncTrace
import CongeriesCore.RuntimeContext

/-! # Waiting for providers

`await_provider` among the tasks of an event loop: the operation, the task that watches the
cancellation token, and the awaiting task itself, which others may cancel while it is suspended. -/

namespace AsyncProgram

/-- The environment whose operations have the effects of a relation. -/
def Environment.relational {I : Interface} {ε σ : Type}
    (effect : (op : I.Op) → σ → Except ε (I.Answer op) → σ → Prop) : Environment I ε σ where
  Choice op := Except ε (I.Answer op) × σ
  permits op choice before := effect op before choice.1 choice.2
  answer _ choice _ := choice

theorem Program.Safe.both {I : Interface} {ε α σ : Type} {E : Environment I ε σ} {C : Contract I σ}
    {state : σ} {first second : Except ε α → σ → Prop} {program : Program I ε α}
    (one : program.Safe E C first state) (two : program.Safe E C second state) :
    program.Safe E C (fun outcome after => first outcome after ∧ second outcome after) state := by
  induction program generalizing state with
  | ret value => exact ⟨one, two⟩
  | raise error => exact ⟨one, two⟩
  | await op resume ih =>
    intro current relied kept
    obtain ⟨needed, steps⟩ := one current relied kept
    refine ⟨needed, fun choice permitted => ?_⟩
    obtain ⟨keeps, guaranteed, later⟩ := steps choice permitted
    have other := ((two current relied kept).2 choice permitted).2.2
    exact ⟨keeps, guaranteed, ih _ later other⟩

end AsyncProgram

namespace CongeriesCore

open AsyncProgram Program

/-! ## Tasks -/

/-- A coroutine that nobody has scheduled, a task that may have been asked to cancel, or what it
came to. -/
inductive LoopTask (α : Type)
  | unscheduled
  | running (cancelling : Bool)
  | finished (outcome : Except Raised α)

namespace LoopTask

variable {α : Type}

/-- `task.done()`. -/
def isDone : LoopTask α → Bool
  | .finished _ => true
  | _ => false

def isRunning : LoopTask α → Bool
  | .running _ => true
  | _ => false

/-- `asyncio.ensure_future`; a task is taken as it is. -/
def ensureFuture : LoopTask α → LoopTask α
  | .unscheduled => .running false
  | task => task

/-- `task.cancel()`: asks, and does not wait. -/
def cancel : LoopTask α → LoopTask α
  | .running _ => .running true
  | task => task

theorem cancel_eq {task : LoopTask α} (rests : task.isRunning = false) : task.cancel = task := by
  cases task with
  | running => cases rests
  | _ => rfl

theorem not_running_of_isDone {task : LoopTask α} (done : task.isDone = true) :
    task.isRunning = false := by
  cases task with
  | finished outcome => rfl
  | _ => cases done

theorem isDone_iff {task : LoopTask α} :
    task.isDone = true ↔ ∃ outcome, task = .finished outcome := by
  cases task with
  | finished outcome => simp [isDone]
  | _ => simp [isDone]

end LoopTask

/-- What the awaiting task is suspended on: the future of `asyncio.wait`, or a task. -/
inductive Suspension
  | waiter
  | operation
  | watcher

structure LoopState (α : Type) where
  operation : LoopTask α
  watcher : LoopTask Unit
  tokenCancelled : Bool
  /-- The awaiting task is to raise `CancelledError` when it resumes. -/
  cancelling : Bool

namespace LoopState

variable {α : Type}

/-- Before `await_provider` has done anything. -/
def entered (operation : LoopTask α) (tokenCancelled cancelling : Bool) : LoopState α :=
  ⟨operation, .unscheduled, tokenCancelled, cancelling⟩

/-- `cancel()` of the awaiting task: a task that it waits for is cancelled in its place. -/
def cancelAwaiting (on : Suspension) (state : LoopState α) : LoopState α :=
  match on with
  | .waiter => { state with cancelling := true }
  | .operation =>
    if state.operation.isDone then { state with cancelling := true }
    else { state with operation := state.operation.cancel }
  | .watcher =>
    if state.watcher.isDone then { state with cancelling := true }
    else { state with watcher := state.watcher.cancel }

/-- What happens while the awaiting task is suspended. The operation may end in any way, whether it
was asked to cancel or not. -/
inductive Happens (on : Suspension) : LoopState α → LoopState α → Prop
  | token (state : LoopState α) : Happens on state { state with tokenCancelled := true }
  | operationEnds (state : LoopState α) (outcome : Except Raised α)
      (running : state.operation.isRunning = true) :
      Happens on state { state with operation := .finished outcome }
  | watcherWakes (state : LoopState α) (running : state.watcher.isRunning = true)
      (cancelled : state.tokenCancelled = true) :
      Happens on state { state with watcher := .finished (.ok ()) }
  | watcherCancelled (state : LoopState α) (asked : state.watcher = .running true) :
      Happens on state { state with watcher := .finished (.error .cancelledError) }
  | cancelAwaiting (state : LoopState α) : Happens on state (state.cancelAwaiting on)

abbrev Meanwhile (on : Suspension) : LoopState α → LoopState α → Prop :=
  Relation.ReflTransGen (Happens on)

/-- A cancellation that was asked for earlier reaches the task that is awaited now. -/
def deliver (on : Suspension) (state : LoopState α) : LoopState α :=
  if state.cancelling then cancelAwaiting on { state with cancelling := false } else state

/-- How the awaiting task resumes. -/
def Resumes {β : Type} (result : Except Raised β) (later : LoopState α) (answer : Except Raised β)
    (after : LoopState α) : Prop :=
  if later.cancelling then answer = .error .cancelledError ∧ after = { later with cancelling := false }
  else answer = result ∧ after = later

/-- `await task`: at once if it is done, and not before it is. -/
def Awaits {β : Type} (on : Suspension) (task : LoopState α → LoopTask β) (before : LoopState α)
    (answer : Except Raised β) (after : LoopState α) : Prop :=
  (task before = .finished answer ∧ after = before) ∨
    ((task before).isDone = false ∧ ∃ later result, Meanwhile on (before.deliver on) later ∧
      task later = .finished result ∧ Resumes result later answer after)

end LoopState

/-! ## Operations -/

inductive WaitOp
  | cancelled (token : CancellationId)
  | now
  | ensureFuture
  | watchToken
  | wait (timed : Bool)
  | operationDone
  | cancelOperation
  | awaitOperation
  | cancelWatcher
  | awaitWatcher

/-- Which tasks `asyncio.wait` found done. -/
structure DoneTasks where
  operation : Bool
  watcher : Bool

def waitInterface (α : Type) : Interface where
  Op := WaitOp
  Answer
    | .cancelled _ => Bool
    | .now => DateTime
    | .wait _ => DoneTasks
    | .operationDone => Bool
    | .awaitOperation => α
    | _ => Unit

abbrev WaitProgram (α β : Type) := Program (waitInterface α) Raised β

abbrev waitOp {α : Type} (op : WaitOp) : WaitProgram α ((waitInterface α).Answer op) :=
  @perform (waitInterface α) Raised op

instance {α : Type} : RuntimeControl (waitInterface α) where
  cancelled token := waitOp (.cancelled token)
  now := waitOp .now

/-- What the operations do. Another thread may cancel the token at any time; a clock may show any
time, or raise; the timer of the loop may fire at any time. -/
def waitEffect {α : Type} : (op : WaitOp) → LoopState α →
    Except Raised ((waitInterface α).Answer op) → LoopState α → Prop
  | .cancelled _, before, answer, after =>
    (after = before ∨ after = { before with tokenCancelled := true }) ∧
      answer = .ok after.tokenCancelled
  | .now, before, _, after => after = before
  | .ensureFuture, before, answer, after =>
    answer = .ok () ∧ after = { before with operation := before.operation.ensureFuture }
  | .watchToken, before, answer, after =>
    answer = .ok () ∧ after = { before with watcher := .running false }
  | .wait timed, before, answer, after =>
    ∃ later, LoopState.Meanwhile .waiter before later ∧
      (later.cancelling ||
        (timed || later.operation.isDone || later.watcher.isDone)) = true ∧
      LoopState.Resumes (.ok ⟨later.operation.isDone, later.watcher.isDone⟩) later answer after
  | .operationDone, before, answer, after =>
    answer = .ok before.operation.isDone ∧ after = before
  | .cancelOperation, before, answer, after =>
    answer = .ok () ∧ after = { before with operation := before.operation.cancel }
  | .awaitOperation, before, answer, after =>
    LoopState.Awaits .operation LoopState.operation before answer after
  | .cancelWatcher, before, answer, after =>
    answer = .ok () ∧ after = { before with watcher := before.watcher.cancel }
  | .awaitWatcher, before, answer, after =>
    LoopState.Awaits .watcher LoopState.watcher before answer after

/-! ## The function -/

namespace ProviderControl

variable {α β : Type}

/-- `_ignore_cancellation`. -/
def ignoreCancellation (task : WaitProgram α β) : WaitProgram α Unit :=
  task.andThen fun _ => .ret ()

/-- `_cancel_and_wait`. -/
def cancelAndWait : WaitProgram α Unit := do
  let done : Bool ← waitOp .operationDone
  if done then pure () else waitOp .cancelOperation
  ignoreCancellation (waitOp .awaitOperation)

/-- `CancellationToken.raise_if_cancelled`. -/
def raiseIfCancelled (context : RuntimeCallContext) : WaitProgram α Unit := do
  let cancelled : Bool ← waitOp (.cancelled context.cancellation)
  if cancelled then .raise callCancelled else pure ()

/-- The clock is read for the time that is left. -/
def timeout (context : RuntimeCallContext) : WaitProgram α Bool :=
  match context.deadline with
  | none => pure false
  | some _ => do
    let _ ← waitOp .now
    pure true

/-- The body of the `try`. -/
def waitForTasks (context : RuntimeCallContext) (timed : Bool) : WaitProgram α α := do
  let done ← waitOp (.wait timed)
  if DoneTasks.operation done then do
    let result ← waitOp .awaitOperation
    context.checkActive
    pure result
  else do
    cancelAndWait
    if DoneTasks.watcher done then raiseIfCancelled context else pure ()
    .raise deadlineExceeded

/-- The `finally`. -/
def stopWatching : WaitProgram α Unit := do
  waitOp .cancelWatcher
  ignoreCancellation (waitOp .awaitWatcher)

def awaitProvider (context : RuntimeCallContext) : WaitProgram α α := do
  context.checkActive
  waitOp .ensureFuture
  waitOp .watchToken
  let timed ← timeout context
  (waitForTasks context timed).finallyDo stopWatching

end ProviderControl

/-! ## Runs -/

/-- The event loop, with a trace of what the awaiting task did, where `allows` may rule steps out. -/
def eventLoop {α : Type} (allows : (op : WaitOp) →
      Except Raised ((waitInterface α).Answer op) × LoopState α → LoopState α → Prop) :
    Environment (waitInterface α) Raised (LoopState α × List (Event (waitInterface α) Raised)) :=
  @Environment.instrumented (waitInterface α) Raised (LoopState α) _
    (.relational waitEffect) (fun op choice state => allows op choice state.1)
    fun op answer _ _ trace => trace ++ [⟨op, answer⟩]

end CongeriesCore
