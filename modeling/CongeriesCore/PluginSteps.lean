import CongeriesCore.CapabilityRules
import CongeriesCore.PluginTriples

/-! # Triples of the steps of an operation

What the helpers of a `PluginManager` leave of the Plugin: events leave it alone, hooks are put
on record, and a state change is the commit of a record. -/

namespace CongeriesCore

open AsyncProgram PluginLifecycleController PluginManager

variable {τ : Type} [Sha256] {publisher : PluginEventPublisher τ} {threads : ℕ → PluginThread}
  {thread : ℕ} {part : PluginPart}

/-! ### Events -/

theorem runs_suppressed {program : PluginProgram Unit}
    (runs : Runs publisher threads thread program part (fun _ next => next = part) part.Unharmed) :
    Runs publisher threads thread (suppressException program) part (fun _ next => next = part)
      (fun _ _ => False) := by
  apply runs.catching
  intro error next lost
  obtain ⟨exception, rfl⟩ := lost
  rw [if_pos exception]
  exact Locking.triple_ret rfl

theorem runs_recoveryContext (context : RuntimeCallContext) (calm : part.log.checking = none)
    (coherent : part.Coherent) :
    Runs publisher threads thread (recoveryContext context) part (fun _ next => next = part)
      part.Unharmed := by
  have token : Runs publisher threads thread (pluginOp .newToken) part (fun _ next => next = part)
      part.Unharmed := runs_still rfl calm coherent
  apply token.bind
  intro _ next same
  exact Locking.triple_ret same

theorem runs_emitChanged (plugin : PluginRef) (fromState : String) (toState : PluginLifecycleState)
    (operationId : String) (context : RuntimeCallContext) (calm : part.log.checking = none)
    (coherent : part.Coherent) :
    Runs publisher threads thread (emitChanged plugin fromState toState operationId context) part
      (fun _ next => next = part) (fun _ _ => False) := by
  apply runs_suppressed
  have counted : Runs publisher threads thread (pluginOp .activeLeaseCount) part
      (fun _ next => next = part) part.Unharmed := runs_still rfl calm coherent
  apply counted.bind
  intro count next same
  subst same
  apply (runs_recoveryContext context calm coherent).bind
  intro recovery later same
  subst same
  exact runs_still rfl calm coherent

/-- The lease count of an event is read whatever is still being checked. -/
theorem runs_leaseCount (coherent : part.Coherent) :
    Runs publisher threads thread (pluginOp .activeLeaseCount) part
      (fun _ next => next = part.logged part.log.settled)
      (fun _ next => next = part.logged part.log.settled) := by
  have admits : part.Admits .activeLeaseCount := coherent
  apply runs_read rfl admits
  · intro world choice
    rfl
  · intro outcome
    rfl
  · intro world journal choice here permits allows
    obtain ⟨outcome, publisher⟩ := choice
    cases outcome with
    | ok count => rfl
    | error error => rfl

theorem runs_emitFailed (plugin : PluginRef) (fromState : String) (toState : PluginLifecycleState)
    (operationId : String) (error : ErrorDetail) (context : RuntimeCallContext)
    (coherent : part.Coherent) :
    Runs publisher threads thread (emitFailed plugin fromState toState operationId error context) part
      (fun _ next => next = part.logged part.log.settled)
      (fun _ next => next = part.logged part.log.settled) := by
  apply (runs_leaseCount coherent).bind
  intro count next same
  subst same
  have still : (part.logged part.log.settled).Coherent := coherent
  apply ((runs_recoveryContext context rfl still).weaken (fun _ _ same => same)
    fun _ _ lost => lost.2).bind
  intro recovery later same
  subst same
  exact (runs_still rfl rfl still).weaken (fun _ _ same => same) fun _ _ lost => lost.2

theorem runs_reportFailure {α : Type} {value : α → PluginPart → Prop} (target : PluginLifecycleState)
    (operationId : String) (detail : ErrorDetail) (context : RuntimeCallContext)
    (calm : part.log.checking = none) (coherent : part.Coherent) :
    Runs publisher threads thread (reportFailure target operationId detail context) part value
      (fun _ next => next = part) := by
  have quiet := PluginPart.logged_settled calm
  apply ((runs_getRecord calm coherent).weaken (fun _ _ given => given.2) fun _ _ same => same).bind
  intro record next same
  subst same
  apply ((runs_emitFailed record.manifest.ref record.state.value target operationId detail context
    coherent).weaken (fun _ _ same => same.trans quiet) fun _ _ same => same.trans quiet).bind
  intro _ later same
  exact Locking.triple_raise same

/-! ### Handles and hooks -/

theorem runs_preparedPlugin (calm : part.log.checking = none) (coherent : part.Coherent) :
    Runs publisher threads thread preparedPlugin part
      (fun prepared next => part.prepared = some prepared ∧ next = part)
      (fun _ next => next = part) := by
  apply ((runs_getPrepared calm coherent).weaken (fun _ _ given => given)
    fun _ _ lost => lost.elim).bind
  intro stored next given
  obtain ⟨rfl, rfl⟩ := given
  split
  · exact Locking.triple_raise rfl
  · rename_i prepared found
    exact Locking.triple_ret ⟨found, rfl⟩

/-- The part after a hook that the handle may lack. -/
def PluginPart.hooked (part : PluginPart) (prepared : PreparedPlugin) (hook : PluginHookName) :
    PluginPart :=
  if prepared.hooks hook = true then part.progressed (.hook hook) else part

theorem runs_runHook (prepared : PreparedPlugin) (hook : PluginHookName)
    (context : RuntimeCallContext) (calm : part.log.checking = none) (coherent : part.Coherent)
    (once : .hook hook ∉ part.log.progress)
    (withdrawn : hook = .onUnload → part.receipts = []) :
    Runs publisher threads thread (PluginManager.runHook prepared hook context) part
      (fun _ next => next = part.hooked prepared hook) (fun _ next => next = part) := by
  unfold PluginManager.runHook PluginPart.hooked
  split
  · exact runs_hook prepared hook context calm coherent once withdrawn
  · exact Locking.triple_ret rfl

/-- An operation has come from one settled part to another, in a given state. -/
structure PluginPart.Reaches (plugin : String) (target : PluginLifecycleState)
    (part next : PluginPart) (result : PluginStateRecord) : Prop where
  stands : next.Stands plugin result
  state : result.state = target
  prepared : next.prepared = part.prepared
  entered : next.log.entered = part.log.entered

namespace PluginPart

omit [Sha256]

variable {plugin : String} {record : PluginStateRecord}

theorem Stands.reaches (stands : part.Stands plugin record) :
    part.Reaches plugin record.state part record :=
  ⟨stands, rfl, rfl, rfl⟩

theorem Reaches.trans {first second : PluginLifecycleState} {middle last : PluginPart}
    {found result : PluginStateRecord} (one : part.Reaches plugin first middle found)
    (two : middle.Reaches plugin second last result) : part.Reaches plugin second last result :=
  ⟨two.stands, two.state, two.prepared.trans one.prepared, two.entered.trans one.entered⟩

end PluginPart

/-- A hook runs at most once in time, and is on record from then on. -/
theorem runs_completeHook {record : PluginStateRecord} {prepared : PreparedPlugin}
    (hook : PluginHookName) (context : RuntimeCallContext)
    (stands : part.Stands (threads thread).plugin record) (stored : part.prepared = some prepared)
    (staged : record.state.staged = true) (withdrawn : hook = .onUnload → part.receipts = []) :
    Runs publisher threads thread (completeHook prepared hook record context) part
      (fun result next => part.Reaches (threads thread).plugin record.state next result)
      (fun _ next => next = part) := by
  unfold completeHook
  split
  · exact Locking.triple_ret stands.reaches
  · rename_i unmarked
    have fits : prepared.Fits record.manifest := by
      obtain ⟨held, same, fits, -⟩ := stands.staged staged
      cases Option.some.inj (stored.symm.trans same)
      exact fits
    have once : .hook hook ∉ part.log.progress := fun done => unmarked (stands.marked hook done)
    apply (runs_runHook prepared hook context stands.calm stands.coherent once withdrawn).bind
    intro _ next same
    subst same
    unfold PluginPart.hooked markDeclared
    by_cases declared : hook ∈ record.manifest.lifecycle
    · rw [if_pos ((fits.hooks hook).mpr declared), if_pos declared]
      have found : (part.progressed (.hook hook)).record = some record := stands.found
      apply (runs_markHook hook found rfl stands.coherent).weaken
      · intro result later given
        obtain ⟨rfl, rfl⟩ := given
        have loaded : record.state.loading = false := by
          revert staged
          cases record.state <;> simp [PluginLifecycleState.staged, PluginLifecycleState.loading]
        exact ⟨stands.completes hook loaded, marked_state record hook, rfl, rfl⟩
      · intro error later lost
        exact lost.elim
    · rw [if_neg (fun has => declared ((fits.hooks hook).mp has)), if_neg declared]
      exact Locking.triple_ret stands.reaches

/-! ### State changes -/

/-- A transition under the lock succeeds, and its event changes nothing. -/
theorem runs_changeState {record : PluginStateRecord} (target : PluginLifecycleState)
    (clearReceipt : Bool) (operationId : String) (context : RuntimeCallContext)
    (found : part.record = some record) (allowed : target ∈ record.state.allowed)
    (calm : part.log.checking = none)
    (admits : part.Admits (.transition target record.stateVersion none clearReceipt))
    (coherent : (part.committing (moved record target none clearReceipt)).Coherent) :
    Runs publisher threads thread (changeState record target clearReceipt operationId context) part
      (fun result next => result = moved record target none clearReceipt ∧
        next = part.committing (moved record target none clearReceipt)) (fun _ _ => False) := by
  apply (runs_transition target none clearReceipt found allowed calm admits).bind
  intro changed next given
  obtain ⟨rfl, rfl⟩ := given
  apply (runs_emitChanged _ _ _ operationId context rfl coherent).bind
  intro _ later same
  exact Locking.triple_ret ⟨rfl, same⟩

/-- A transition between two settled states that publishes nothing. -/
theorem runs_moves {record : PluginStateRecord} (target : PluginLifecycleState)
    (operationId : String) (context : RuntimeCallContext)
    (stands : part.Stands (threads thread).plugin record) (allowed : target ∈ record.state.allowed)
    (published : target.published = record.state.published)
    (staged : target.staged = record.state.staged)
    (loading : target.loading = true → record.state.loading = true)
    (leaves : record.state ≠ target)
    (admits : part.Admits (.transition target record.stateVersion none false)) :
    Runs publisher threads thread (changeState record target false operationId context) part
      (fun result next => part.Reaches (threads thread).plugin target next result)
      (fun _ _ => False) := by
  have moved := stands.moves leaves published staged loading
  apply (runs_changeState target false operationId context stands.found allowed stands.calm admits
    moved.coherent).weaken
  · intro result next given
    obtain ⟨rfl, rfl⟩ := given
    exact ⟨moved, moved_state _ _ _ _, rfl, rfl⟩
  · intro error next lost
    exact lost

/-! ### Authorized calls -/

variable (publisher threads thread) in
/-- The policy, the audits and the clock leave the Plugin alone. -/
theorem pluginRoutine (authorization : PluginAuthorization) (calm : part.log.checking = none)
    (coherent : part.Coherent) {failed : PluginPart → Prop} (unharmed : failed part) :
    Routine ((pluginLocking publisher threads).environment thread)
      ((pluginLocking publisher threads).contract thread) authorization.dispatcher
      ((pluginLocking publisher threads).Holds (threads thread).plugin thread part)
      ((pluginLocking publisher threads).Holds (threads thread).plugin thread part)
      (fun state => ∃ next, failed next ∧
        (pluginLocking publisher threads).Holds (threads thread).plugin thread next state) := by
  have still : ∀ {op : PluginOp}, op.still = true → ∀ state,
      (pluginLocking publisher threads).Holds (threads thread).plugin thread part state →
      (pluginOp op).Safe ((pluginLocking publisher threads).environment thread)
        ((pluginLocking publisher threads).contract thread)
        (Ends (fun _ => (pluginLocking publisher threads).Holds (threads thread).plugin thread part)
          ((pluginLocking publisher threads).Holds (threads thread).plugin thread part)) state := by
    intro op quiet state held
    apply (runs_still quiet calm coherent state held).mono
    intro outcome after reached
    obtain ⟨next, made, holds⟩ := reached
    cases outcome with
    | ok result =>
      obtain rfl : next = part := made
      exact holds
    | error error =>
      obtain ⟨-, rfl⟩ := made
      exact holds
  have weaken : ∀ state, (pluginLocking publisher threads).Holds (threads thread).plugin thread part
      state → ∃ next, failed next ∧
        (pluginLocking publisher threads).Holds (threads thread).plugin thread next state :=
    fun state held => ⟨part, unharmed, held⟩
  refine ⟨?_, ?_, ?_, ?_, ?_, ?_, weaken, weaken⟩
  · intro token state held
    exact (still rfl state held).weaken (fun _ _ kept => kept) weaken
  · intro state held
    exact (still rfl state held).weaken (fun _ _ kept => kept) weaken
  · intro policy given request state held
    unfold PluginAuthorization.dispatcher at given
    split at given
    · cases given
      exact (still rfl state held).weaken (fun _ _ kept => kept) weaken
    · cases given
  · intro request decision state held
    exact still rfl state held
  · intro request grant state held
    exact still rfl state held
  · intro runId detail state held
    exact (still rfl state held).weaken (fun _ after kept => weaken after kept) weaken

theorem runs_dispatch {α : Type} {value : α → PluginPart → Prop} (failed : PluginPart → Prop)
    (authorization : PluginAuthorization) (request : AccessRequest)
    {operation : AuthorizedCall → PluginProgram α} (calm : part.log.checking = none)
    (coherent : part.Coherent) (unharmed : failed part)
    (run : ∀ call, Runs publisher threads thread (operation call) part value
      (fun _ next => failed next)) :
    Runs publisher threads thread (authorization.dispatcher.dispatch request operation) part value
      (fun _ next => failed next) := by
  have routine := pluginRoutine publisher threads thread authorization calm coherent unharmed
  apply Locking.triple_iff.mpr
  intro state held
  apply routine.dispatch request operation _ held
  intro grant current holds
  exact Locking.triple_iff.mp (run _) current holds

end CongeriesCore
