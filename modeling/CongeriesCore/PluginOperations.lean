import CongeriesCore.PluginSteps

/-! # The operations of a plugin manager

What each operation leaves of its Plugin, wherever it fails: a settled part, and a record from
which the same operation can be tried again. -/

namespace CongeriesCore

open AsyncProgram PluginLifecycleController PluginManager

/-- The lifecycle states from which an operation on a loaded Plugin is not refused. -/
def PluginCall.resumes : PluginCall → PluginLifecycleState → Bool
  | .activate, .loaded | .activate, .registered | .activate, .active => true
  | .drain _, .active | .drain _, .draining => true
  | .cancelDrain, .draining => true
  | .unload _, .active | .unload _, .draining | .unload _, .registered
  | .unload _, .unregistered | .unload _, .unloaded => true
  | _, _ => false

/-- The records for which an operation is not refused. A load asks for the same manifest. -/
def PluginCall.accepts : PluginCall → Option PluginStateRecord → Bool
  | .load _, none => true
  | .load manifest, some record => record.manifest == manifest
  | _, none => false
  | call, some record => call.resumes record.state

/-- How an operation that has started from `part` fails. -/
structure PluginPart.Leaves (plugin : String) (call : PluginCall) (part next : PluginPart) :
    Prop where
  settled : next.Settled plugin
  entered : next.log.entered = part.log.entered
  accepts : call.accepts part.record = true → call.accepts next.record = true

/-- What a load that has found `found` hands back: a Plugin that is loaded, or the record of one
that had been unloaded. -/
def HandsBack (found : Option PluginStateRecord) (record : PluginStateRecord) : Prop :=
  record.state.staged = true ∧ (∀ earlier, found = some earlier → earlier.state ≠ .unloaded) ∨
    found = some record ∧ record.state = .unloaded

/-- How a load that has started from `part` returns. -/
structure PluginPart.Loads (plugin : String) (part next : PluginPart) (result : PluginStateRecord) :
    Prop where
  stands : next.Stands plugin result
  entered : next.log.entered = part.log.entered
  handed : HandsBack part.record result

/-- How a handle has been staged. -/
structure PluginPart.Stages (plugin : String) (part next : PluginPart) (result : PluginStateRecord) :
    Prop where
  stands : next.Stands plugin result
  state : result.state = .loaded
  entered : next.log.entered = part.log.entered

variable {τ : Type} [Sha256] {publisher : PluginEventPublisher τ} {threads : ℕ → PluginThread}
  {thread : ℕ} {part next : PluginPart} {plugin : String} {call : PluginCall}
  {record : PluginStateRecord}

namespace PluginPart

omit [Sha256]

theorem Settled.leaves (settled : part.Settled plugin) : part.Leaves plugin call part :=
  ⟨settled, rfl, id⟩

theorem Stands.leaves (stands : part.Stands plugin record) : part.Leaves plugin call part :=
  stands.settled.leaves

/-- A load that fails leaves its own manifest on record. -/
theorem Stands.loads (stands : next.Stands plugin record)
    (entered : next.log.entered = part.log.entered) :
    part.Leaves plugin (.load record.manifest) next := by
  refine ⟨stands.settled, entered, fun _ => ?_⟩
  rw [stands.found]
  exact beq_self_eq_true _

end PluginPart

/-- What a handler does after the failure: it reads, publishes, and raises. -/
theorem runs_report {α : Type} {value : α → PluginPart → Prop} (target : PluginLifecycleState)
    (operationId : String) (detail : ErrorDetail) (context : RuntimeCallContext)
    (left : part.Leaves plugin call next) :
    Runs publisher threads thread (reportFailure target operationId detail context) next value
      (fun _ last => part.Leaves plugin call last) := by
  apply (runs_reportFailure target operationId detail context left.settled.calm
    left.settled.coherent).weaken (fun _ _ given => given)
  intro error last same
  subst same
  exact left

/-! ### Draining -/

theorem runs_waitForZero (context : RuntimeCallContext) (fuel : ℕ) (calm : part.log.checking = none)
    (coherent : part.Coherent) : Runs publisher threads thread (waitForZero context fuel) part
      (fun _ next => next = part) (fun _ next => next = part) := by
  induction fuel with
  | zero => exact Locking.triple_raise rfl
  | succ fuel ih =>
    unfold waitForZero
    have zero : Runs publisher threads thread (pluginOp .noLeases) part (fun _ next => next = part)
        (fun _ next => next = part) :=
      (runs_still rfl calm coherent).weaken (fun _ _ same => same) fun _ _ lost => lost.2
    apply zero.bind
    intro gone next same
    subst same
    split
    · exact Locking.triple_ret rfl
    · have changed : Runs publisher threads thread (context.awaitProvider (pluginOp .waitForChange))
          next (fun _ later => later = next) (fun _ later => later = next) := by
        unfold RuntimeCallContext.awaitProvider
        apply (runs_checkActive context calm coherent).bind
        intro _ first same
        subst same
        have waited : Runs publisher threads thread (pluginOp .waitForChange) first
            (fun _ later => later = first) (fun _ later => later = first) :=
          (runs_still rfl calm coherent).weaken (fun _ _ same => same) fun _ _ lost => lost.2
        apply waited.bind
        intro _ second same
        subst same
        apply (runs_checkActive context calm coherent).bind
        intro _ third same
        exact Locking.triple_ret same
      apply changed.bind
      intro _ later same
      subst same
      exact ih

omit [Sha256] in
theorem PluginPart.Reaches.leaves {target : PluginLifecycleState}
    (accepted : call.resumes target = true) (reaches : part.Reaches plugin target next record) :
    part.Leaves plugin call next := by
  have resumed : call.accepts (some record) = true := by
    rw [← reaches.state] at accepted
    cases call with
    | load manifest => cases accepted
    | activate => exact accepted
    | drain fuel => exact accepted
    | cancelDrain => exact accepted
    | unload fuel => exact accepted
  refine ⟨reaches.stands.settled, reaches.entered, fun _ => ?_⟩
  rw [reaches.stands.found]
  exact resumed

theorem runs_drainHook (context : RuntimeCallContext)
    (stands : part.Stands (threads thread).plugin record) :
    Runs publisher threads thread (do
      Program.ofExcept
        (ensure (record.state == .draining) (invalidState "drain requires ACTIVE or DRAINING"))
      let prepared ← preparedPlugin
      completeHook prepared .onDrain record context) part
      (fun result next => record.state = .draining ∧
        part.Reaches (threads thread).plugin .draining next result) (fun _ next => next = part) := by
  apply Locking.triple_guarded
  · intro error _
    rfl
  intro _ checked
  have draining : record.state = .draining := by simpa using checked
  apply (runs_preparedPlugin stands.calm stands.coherent).bind
  intro prepared next given
  obtain ⟨stored, rfl⟩ := given
  have staged : record.state.staged = true := by rw [draining]; rfl
  apply (runs_completeHook .onDrain context stands stored staged (by simp)).weaken
  · intro result later reaches
    rw [draining] at reaches
    exact ⟨draining, reaches⟩
  · intro error later same
    exact same

/-- Draining starts from ACTIVE or goes on from DRAINING; it fails there, or before it has
changed anything. -/
theorem runs_ensureDraining (operationId : String) (context : RuntimeCallContext)
    (stands : part.Stands (threads thread).plugin record) :
    Runs publisher threads thread (ensureDraining record operationId context) part
      (fun result next => (record.state = .active ∨ record.state = .draining) ∧
        part.Reaches (threads thread).plugin .draining next result)
      (fun _ next => next = part ∨ (record.state = .active ∧
        ∃ result, part.Reaches (threads thread).plugin .draining next result)) := by
  unfold ensureDraining beginDraining
  by_cases active : record.state = .active
  · rw [if_pos active]
    have moves : Runs publisher threads thread
        (changeState record .draining false operationId context) part
        (fun result next => part.Reaches (threads thread).plugin .draining next result)
        (fun _ next => next = part ∨ (record.state = .active ∧
          ∃ result, part.Reaches (threads thread).plugin .draining next result)) := by
      have admits : part.Admits (.transition .draining record.stateVersion none false) :=
        stands.coherent
      apply (runs_moves .draining operationId context stands (by rw [active]; decide)
        (by rw [active]; rfl) (by rw [active]; rfl) nofun (by rw [active]; nofun) admits).weaken
      · intro result next given
        exact given
      · intro error next lost
        exact lost.elim
    apply moves.bind
    intro result next drains
    apply (runs_drainHook context drains.stands).weaken
    · intro last later given
      exact ⟨.inl active, drains.trans given.2⟩
    · intro error later same
      subst same
      exact .inr ⟨active, result, drains⟩
  · rw [if_neg active]
    apply (runs_drainHook context stands).weaken
    · intro result next given
      exact ⟨.inr given.1, given.2⟩
    · intro error next same
      exact .inl same

/-- The reads and the audit before a lifecycle change, after which nothing has changed. -/
theorem runs_requested {α : Type} {value : α → PluginPart → Prop} (manager : PluginManager)
    (action : ActionRef) (target : PluginLifecycleState) (context : RuntimeCallContext)
    {rest : PluginStateRecord → String → PluginProgram α} (settled : part.Settled plugin)
    (continues : ∀ record operationId, part.Stands plugin record →
      Runs publisher threads thread (rest record operationId) part value
        (fun _ next => part.Leaves plugin call next)) :
    Runs publisher threads thread (do
      let record ← pluginOp .getRecord
      let operationId ← Program.ofExcept (manager.operationId context action)
      let count ← pluginOp .activeLeaseCount
      pluginOp (.transitionRequested record.manifest.ref record.state.value target operationId count
        context)
      rest record operationId) part value (fun _ next => part.Leaves plugin call next) := by
  have calm := settled.calm
  have coherent := settled.coherent
  have unharmed : ∀ (error : Raised) (next : PluginPart), part.Unharmed error next →
      part.Leaves plugin call next := by
    intro error next lost
    obtain ⟨-, rfl⟩ := lost
    exact settled.leaves
  have same : ∀ (_ : Raised) (next : PluginPart), next = part → part.Leaves plugin call next := by
    intro _ next same
    subst same
    exact settled.leaves
  apply ((runs_getRecord calm coherent).weaken (fun _ _ given => given) same).bind
  intro record next given
  obtain ⟨found, rfl⟩ := given
  apply Locking.triple_guarded (fun _ _ => settled.leaves)
  intro operationId _
  have counted : Runs publisher threads thread (pluginOp .activeLeaseCount) next
      (fun _ later => later = next) (fun _ later => next.Leaves plugin call later) :=
    (runs_still rfl calm coherent).weaken (fun _ _ same => same) unharmed
  apply counted.bind
  intro count later same
  subst same
  have requested : Runs publisher threads thread (pluginOp (.transitionRequested
      record.manifest.ref record.state.value target operationId count context)) later
      (fun _ last => last = later) (fun _ last => later.Leaves plugin call last) :=
    (runs_still rfl calm coherent).weaken (fun _ _ same => same) unharmed
  apply requested.bind
  intro _ last same
  subst same
  exact continues record operationId (settled.stands found)

/-- Draining with its wait: it ends in DRAINING, or fails there or before any change. -/
theorem runs_drained (fuel : ℕ) (operationId : String) (context : RuntimeCallContext)
    (stands : part.Stands (threads thread).plugin record) :
    Runs publisher threads thread (do
      let _ ← ensureDraining record operationId context
      waitForZero context fuel
      pluginOp .getRecord) part
      (fun result next => (record.state = .active ∨ record.state = .draining) ∧
        part.Reaches (threads thread).plugin .draining next result)
      (fun _ next => next = part ∨ (record.state = .active ∨ record.state = .draining) ∧
        ∃ result, part.Reaches (threads thread).plugin .draining next result) := by
  have ensured : Runs publisher threads thread (ensureDraining record operationId context) part
      (fun result next => (record.state = .active ∨ record.state = .draining) ∧
        part.Reaches (threads thread).plugin .draining next result)
      (fun _ next => next = part ∨ (record.state = .active ∨ record.state = .draining) ∧
        ∃ result, part.Reaches (threads thread).plugin .draining next result) := by
    apply (runs_ensureDraining operationId context stands).weaken (fun _ _ given => given)
    intro error next lost
    exact lost.imp_right fun drains => ⟨.inl drains.1, drains.2⟩
  apply ensured.bind
  intro result next given
  obtain ⟨entered, drains⟩ := given
  have stays : ∀ (_ : Raised) (last : PluginPart), last = next → last = part ∨
      (record.state = .active ∨ record.state = .draining) ∧
        ∃ result, part.Reaches (threads thread).plugin .draining last result := by
    intro _ last same
    subst same
    exact .inr ⟨entered, result, drains⟩
  apply ((runs_waitForZero context fuel drains.stands.calm drains.stands.coherent).weaken
    (fun _ _ same => same) stays).bind
  intro _ later same
  subst same
  apply (runs_getRecord drains.stands.calm drains.stands.coherent).weaken
  · intro found last given
    obtain ⟨current, rfl⟩ := given
    cases Option.some.inj (current.symm.trans drains.stands.found)
    exact ⟨entered, drains⟩
  · exact stays

theorem runs_drainFailure {α : Type} {value : α → PluginPart → Prop} (operationId : String)
    (context : RuntimeCallContext) (error : Raised) (left : part.Leaves plugin call next) :
    Runs publisher threads thread (drainFailure operationId context error) next value
      (fun _ last => part.Leaves plugin call last) := by
  unfold drainFailure
  split
  · exact runs_report _ operationId _ context left
  · exact Locking.triple_raise left
  · exact runs_report _ operationId _ context left

theorem runs_drainEffect (manager : PluginManager) (fuel : ℕ) (context : RuntimeCallContext)
    (settled : part.Settled (threads thread).plugin) :
    Runs publisher threads thread (manager.drainEffect fuel context) part
      (fun _ next => next.Settled (threads thread).plugin)
      (fun _ next => part.Leaves (threads thread).plugin (.drain fuel) next) := by
  apply runs_requested manager pluginDrainAction .draining context settled
  intro record operationId stands
  have failed : ∀ (_ : Raised) (next : PluginPart), (next = part ∨
      (record.state = .active ∨ record.state = .draining) ∧
        ∃ result, part.Reaches (threads thread).plugin .draining next result) →
      part.Leaves (threads thread).plugin (.drain fuel) next := by
    intro _ next lost
    rcases lost with rfl | ⟨-, result, drains⟩
    · exact settled.leaves
    · exact drains.leaves rfl
  apply ((runs_drained fuel operationId context stands).weaken
    (fun _ _ given => given.2.stands.settled) failed).catching
  intro error next left
  exact runs_drainFailure operationId context error left

/-! ### Cancelling a drain -/

theorem runs_cancelDrainEffect (manager : PluginManager) (context : RuntimeCallContext)
    (settled : part.Settled (threads thread).plugin) :
    Runs publisher threads thread (manager.cancelDrainEffect context) part
      (fun _ next => next.Settled (threads thread).plugin)
      (fun _ next => part.Leaves (threads thread).plugin .cancelDrain next) := by
  apply runs_requested manager pluginCancelDrainAction .active context settled
  intro record operationId stands
  apply Locking.triple_guarded
  · intro error _
    exact settled.leaves
  intro _ checked
  have draining : record.state = .draining := by simpa using checked
  apply Locking.triple_guarded
  · intro error _
    exact settled.leaves
  intro _ _
  have admits : part.Admits (.transition .active record.stateVersion none false) := stands.coherent
  apply (runs_moves .active operationId context stands (by rw [draining]; decide)
    (by rw [draining]; rfl) (by rw [draining]; rfl) nofun (by rw [draining]; nofun) admits).weaken
  · intro result next given
    exact given.stands.settled
  · intro error next lost
    exact lost.elim

/-! ### Unloading -/

/-- The capabilities go with their receipt; until the state is committed nothing else runs. -/
theorem runs_unregisterCapabilities (operationId : String) (context : RuntimeCallContext)
    (stands : part.Stands (threads thread).plugin record)
    (live : record.state = .draining ∨ record.state = .registered) :
    Runs publisher threads thread (unregisterCapabilities record operationId context) part
      (fun result next => part.Reaches (threads thread).plugin .unregistered next result)
      (fun _ next => next = part) := by
  have published : record.state.published = true := by
    rcases live with state | state <;> rw [state] <;> rfl
  obtain ⟨receipt, carried, -, held⟩ := stands.published published
  unfold unregisterCapabilities
  rw [if_pos live, carried]
  apply ((runs_unregister held stands.calm stands.coherent).weaken (fun _ _ same => same)
    fun _ _ lost => lost.elim).bind
  intro _ next same
  subst same
  have withdrawn := stands.unregisters published
  have allowed : PluginLifecycleState.unregistered ∈ record.state.allowed := by
    rcases live with state | state <;> rw [state] <;> decide
  have admits : ({ part with receipts := [] }).Admits
    (.transition .unregistered record.stateVersion none true) := trivial
  have found : ({ part with receipts := [] }).record = some record := stands.found
  apply (runs_changeState .unregistered true operationId context found allowed stands.calm admits
    withdrawn.coherent).weaken
  · intro result next given
    obtain ⟨rfl, rfl⟩ := given
    exact ⟨withdrawn, moved_state _ _ _ _, rfl, rfl⟩
  · intro error next lost
    exact lost.elim

theorem runs_drainFirst (fuel : ℕ) (operationId : String) (context : RuntimeCallContext)
    (stands : part.Stands (threads thread).plugin record) :
    Runs publisher threads thread (drainFirst fuel record operationId context) part
      (fun result next => ∃ state, part.Reaches (threads thread).plugin state next result ∧
        (state = record.state ∧ next = part ∨ state = .draining))
      (fun _ next => part.Leaves (threads thread).plugin (.unload fuel) next) := by
  unfold drainFirst
  split
  · apply (runs_drained fuel operationId context stands).weaken
    · intro result next given
      exact ⟨_, given.2, .inr rfl⟩
    · intro error next lost
      rcases lost with rfl | ⟨-, result, drains⟩
      · exact stands.leaves
      · exact drains.leaves rfl
  · exact Locking.triple_ret ⟨_, stands.reaches, .inl ⟨rfl, rfl⟩⟩

/-- The last steps: the unload hook and the cleanup run without capabilities, and what they
complete in time is not done again. -/
theorem runs_dispose {prepared : PreparedPlugin} (operationId : String)
    (context : RuntimeCallContext) (stands : part.Stands (threads thread).plugin record)
    (unregistered : record.state = .unregistered) (stored : part.prepared = some prepared) :
    Runs publisher threads thread (do
      let record ← completeHook prepared .onUnload record context
      context.awaitProvider (pluginOp (.cleanup prepared context))
      let unloaded ← pluginOp (.transition .unloaded record.stateVersion none false)
      pluginOp .forgetPrepared
      emitChanged unloaded.manifest.ref record.state.value unloaded.state operationId context
      return unloaded) part (fun _ next => next.Settled (threads thread).plugin)
      (fun _ next => ∃ result, part.Reaches (threads thread).plugin .unregistered next result) := by
  have staged : record.state.staged = true := by rw [unregistered]; rfl
  have hidden : record.state.published = false := by rw [unregistered]; rfl
  have here : part.Reaches (threads thread).plugin .unregistered part record := by
    rw [← unregistered]
    exact stands.reaches
  have hooked : Runs publisher threads thread (completeHook prepared .onUnload record context) part
      (fun result next => part.Reaches (threads thread).plugin .unregistered next result)
      (fun _ next => ∃ result, part.Reaches (threads thread).plugin .unregistered next result) := by
    apply (runs_completeHook .onUnload context stands stored staged
      fun _ => stands.withdrawn hidden).weaken
    · intro result next reaches
      rw [unregistered] at reaches
      exact reaches
    · intro error next same
      subst same
      exact ⟨record, here⟩
  apply hooked.bind
  intro result next reaches
  have standing := reaches.stands
  have coherent := standing.coherent
  have empty : next.receipts = [] := standing.withdrawn (by rw [reaches.state]; rfl)
  obtain ⟨held, same, -, known, uncleaned⟩ := standing.staged (by rw [reaches.state]; rfl)
  have kept : held = prepared := by
    rw [reaches.prepared, stored] at same
    exact (Option.some.inj same).symm
  subst kept
  have cleaned : Runs publisher threads thread
      (context.awaitProvider (pluginOp (.cleanup held context))) next
      (fun _ later => later = next.progressed (.cleaned held.handle))
      (fun _ last => ∃ result, part.Reaches (threads thread).plugin .unregistered last result) := by
    apply (runs_completing standing.calm coherent
      (runs_cleanup held context standing.calm coherent uncleaned empty)).weaken
        (fun _ _ same => same)
    intro error last same
    subst same
    exact ⟨result, reaches⟩
  apply cleaned.bind
  intro _ later same
  subst same
  have disposed := standing.unloads reaches.state known
  have found : (next.progressed (.cleaned held.handle)).record = some result := standing.found
  have admits : (next.progressed (.cleaned held.handle)).Admits
    (.transition .unloaded result.stateVersion none false) := coherent
  have allowed : PluginLifecycleState.unloaded ∈ result.state.allowed := by
    rw [reaches.state]
    decide
  apply ((runs_transition .unloaded none false found allowed rfl admits).weaken
    (fun _ _ given => given) fun _ _ lost => lost.elim).bind
  intro unloaded last given
  obtain ⟨rfl, rfl⟩ := given
  have committed : ((next.progressed (.cleaned held.handle)).committing
    (moved result .unloaded none false)).Coherent := disposed.coherent
  apply ((runs_forgetPrepared rfl committed).weaken (fun _ _ same => same)
    fun _ _ lost => lost.elim).bind
  intro _ final same
  subst same
  apply ((runs_emitChanged _ _ _ operationId context disposed.calm disposed.coherent).weaken
    (fun _ _ same => same) fun _ _ lost => lost.elim).bind
  intro _ ended same
  subst same
  exact Locking.triple_ret disposed.settled

theorem runs_unloadSteps {prepared : PreparedPlugin} (fuel : ℕ) (operationId : String)
    (context : RuntimeCallContext) (stands : part.Stands (threads thread).plugin record)
    (stored : part.prepared = some prepared) :
    Runs publisher threads thread (unloadSteps fuel prepared record operationId context) part
      (fun _ next => next.Settled (threads thread).plugin)
      (fun _ next => part.Leaves (threads thread).plugin (.unload fuel) next) := by
  unfold unloadSteps
  apply (runs_drainFirst fuel operationId context stands).bind
  intro drained next given
  obtain ⟨state, reaches, came⟩ := given
  have left : part.Leaves (threads thread).plugin (.unload fuel) next := by
    rcases came with ⟨-, rfl⟩ | rfl
    · exact stands.leaves
    · exact reaches.leaves rfl
  have withdrawn : Runs publisher threads thread
      (unregisterCapabilities drained operationId context) next
      (fun result later => part.Reaches (threads thread).plugin .unregistered later result ∨
        result = drained ∧ later = next)
      (fun _ later => part.Leaves (threads thread).plugin (.unload fuel) later) := by
    by_cases live : drained.state = .draining ∨ drained.state = .registered
    · apply (runs_unregisterCapabilities operationId context reaches.stands live).weaken
      · intro result later withdraws
        exact .inl (reaches.trans withdraws)
      · intro error later same
        subst same
        exact left
    · unfold unregisterCapabilities
      rw [if_neg live]
      exact Locking.triple_ret (.inr ⟨rfl, rfl⟩)
  apply withdrawn.bind
  intro result later given
  apply Locking.triple_guarded
  · intro error _
    rcases given with withdraws | ⟨-, rfl⟩
    · exact withdraws.leaves rfl
    · exact left
  intro _ checked
  have unregistered : result.state = .unregistered := by simpa using checked
  have last : part.Reaches (threads thread).plugin .unregistered later result := by
    rcases given with withdraws | ⟨rfl, rfl⟩
    · exact withdraws
    · rw [reaches.state] at unregistered
      rw [unregistered] at reaches
      exact reaches
  apply (runs_dispose operationId context last.stands unregistered
    (last.prepared.trans stored)).weaken (fun _ _ settled => settled)
  intro error final stuck
  obtain ⟨found, still⟩ := stuck
  exact (last.trans still).leaves rfl

theorem runs_unloadFailure {α : Type} {value : α → PluginPart → Prop} (operationId : String)
    (context : RuntimeCallContext) (error : Raised) (left : part.Leaves plugin call next) :
    Runs publisher threads thread (unloadFailure operationId context error) next value
      (fun _ last => part.Leaves plugin call last) := by
  unfold unloadFailure
  split
  · have same : ∀ (_ : Raised) (last : PluginPart), last = next → part.Leaves plugin call last := by
      intro _ last same
      subst same
      exact left
    apply ((runs_getRecord left.settled.calm left.settled.coherent).weaken
      (fun _ _ given => given.2) same).bind
    intro current last same
    subst same
    exact runs_report _ operationId _ context left
  · exact Locking.triple_raise left
  · exact runs_report _ operationId _ context left

theorem runs_unloadEffect (manager : PluginManager) (fuel : ℕ) (context : RuntimeCallContext)
    (settled : part.Settled (threads thread).plugin) :
    Runs publisher threads thread (manager.unloadEffect fuel context) part
      (fun _ next => next.Settled (threads thread).plugin)
      (fun _ next => part.Leaves (threads thread).plugin (.unload fuel) next) := by
  apply runs_requested manager pluginUnloadAction .unloaded context settled
  intro record operationId stands
  split
  · exact Locking.triple_ret settled
  · have handle : Runs publisher threads thread preparedPlugin part
        (fun prepared next => part.prepared = some prepared ∧ next = part)
        (fun _ next => part.Leaves (threads thread).plugin (.unload fuel) next) := by
      apply (runs_preparedPlugin settled.calm settled.coherent).weaken (fun _ _ given => given)
      intro error next same
      subst same
      exact settled.leaves
    apply handle.bind
    intro prepared next given
    obtain ⟨stored, rfl⟩ := given
    apply (runs_unloadSteps fuel operationId context stands stored).catching
    intro error last left
    exact runs_unloadFailure operationId context error left

/-! ### Activation -/

/-- Publication and its state commit, between which nothing can fail. -/
theorem runs_publishCapabilities {prepared : PreparedPlugin} (operationId : String)
    (context : RuntimeCallContext) (stands : part.Stands (threads thread).plugin record)
    (stored : part.prepared = some prepared) :
    Runs publisher threads thread (publishCapabilities prepared record operationId context) part
      (fun result next => part.Reaches (threads thread).plugin .registered next result ∨
        result = record ∧ next = part)
      (fun _ next => next = part) := by
  unfold publishCapabilities
  by_cases loaded : record.state = .loaded
  · rw [if_pos loaded]
    obtain ⟨held, same, fits, -⟩ := stands.staged (by rw [loaded]; rfl)
    cases Option.some.inj (stored.symm.trans same)
    apply Locking.triple_guarded
    · intro error _
      rfl
    intro plan planned
    have made : plan = ⟨record.manifest.ref, prepared.capabilities, fits.distinct⟩ := by
      rw [registrationPlan, dif_pos fits.distinct] at planned
      cases planned
      rfl
    have own : plan.owner.name = (threads thread).plugin := by
      rw [made]
      exact stands.named
    apply (runs_commitRegistration plan own stands.calm stands.coherent).bind
    intro receipt next given
    obtain ⟨owner, keys, rfl⟩ := given
    have covers : receipt.Covers record.manifest := by
      refine ⟨by rw [owner, made], fun key => ?_⟩
      rw [keys, plan.mem_keys, ← fits.keys, made, List.mem_map]
    have registered := stands.registers loaded covers
    have found : ({ part with receipts := receipt :: part.receipts }).record = some record :=
      stands.found
    have admits : ({ part with receipts := receipt :: part.receipts }).Admits
      (.transition .registered record.stateVersion (some receipt) false) := trivial
    have committed : Runs publisher threads thread (Program.catching
        (pluginOp (.transition .registered record.stateVersion (some receipt) false))
        (undoCommit receipt)) { part with receipts := receipt :: part.receipts }
        (fun result next => result = moved record .registered (some receipt) false ∧
          next = ({ part with receipts := receipt :: part.receipts }).committing
            (moved record .registered (some receipt) false)) (fun _ next => next = part) := by
      apply (runs_transition .registered (some receipt) false found (by rw [loaded]; decide)
        stands.calm admits).catching
      intro error next lost
      exact lost.elim
    apply committed.bind
    intro result next given
    obtain ⟨rfl, rfl⟩ := given
    apply ((runs_emitChanged _ _ _ operationId context registered.calm registered.coherent).weaken
      (fun _ _ same => same) fun _ _ lost => lost.elim).bind
    intro _ later same
    subst same
    exact Locking.triple_ret (.inl ⟨registered, moved_state _ _ _ _, rfl, rfl⟩)
  · rw [if_neg loaded]
    exact Locking.triple_ret (.inr ⟨rfl, rfl⟩)

/-- The permissions of the Plugin are decided without touching it. -/
theorem runs_authorizeActivation (manager : PluginManager) (manifest : PluginManifest)
    (context : RuntimeCallContext) (calm : part.log.checking = none) (coherent : part.Coherent) :
    Runs publisher threads thread (manager.authorizeActivation manifest context) part
      (fun _ next => next = part) (fun _ next => next = part) := by
  apply Locking.triple_guarded
  · intro error _
    rfl
  intro id _
  apply Locking.triple_guarded
  · intro error _
    rfl
  intro requests _
  apply Locking.triple_foldM
  intro _ request
  obtain ⟨permission, resource⟩ := request
  have dispatched : Runs publisher threads thread (manager.authorization.dispatcher.dispatch
      { principal := .core .plugin id
        action := permission.action
        resource := resource
        scope := context.scope
        context := context
        constraints := [] }
      (allowDeclaredPermission permission)) part (fun _ next => next = part)
      (fun _ next => next = part) := by
    apply runs_dispatch (fun next => next = part) manager.authorization _ calm coherent rfl
    intro call
    unfold allowDeclaredPermission
    cases ensure (permission.permits call.context.scope) _ with
    | ok done => exact Locking.triple_ret rfl
    | error error => exact Locking.triple_raise rfl
  apply dispatched.catching
  intro error next same
  exact Locking.triple_raise same

theorem runs_activateSteps (manager : PluginManager) {prepared : PreparedPlugin}
    (operationId : String) (context : RuntimeCallContext)
    (stands : part.Stands (threads thread).plugin record) (stored : part.prepared = some prepared) :
    Runs publisher threads thread (manager.activateSteps prepared record operationId context) part
      (fun _ next => next.Settled (threads thread).plugin)
      (fun _ next => part.Leaves (threads thread).plugin .activate next) := by
  unfold activateSteps
  have published : Runs publisher threads thread
      (publishCapabilities prepared record operationId context) part
      (fun result next => part.Reaches (threads thread).plugin .registered next result ∨
        result = record ∧ next = part)
      (fun _ next => part.Leaves (threads thread).plugin .activate next) := by
    apply (runs_publishCapabilities operationId context stands stored).weaken (fun _ _ given => given)
    intro error next same
    subst same
    exact stands.leaves
  apply published.bind
  intro result next given
  apply Locking.triple_guarded
  · intro error _
    rcases given with registers | ⟨-, rfl⟩
    · exact registers.leaves rfl
    · exact stands.leaves
  intro _ checked
  have registered : result.state = .registered := by simpa using checked
  have reaches : part.Reaches (threads thread).plugin .registered next result := by
    rcases given with registers | ⟨rfl, rfl⟩
    · exact registers
    · rw [← registered]
      exact stands.reaches
  have left : ∀ (_ : Raised) (later : PluginPart), later = next →
      part.Leaves (threads thread).plugin .activate later := by
    intro _ later same
    subst same
    exact reaches.leaves rfl
  apply ((runs_authorizeActivation manager result.manifest context reaches.stands.calm
    reaches.stands.coherent).weaken (fun _ _ same => same) left).bind
  intro _ later same
  subst same
  have staged : result.state.staged = true := by rw [registered]; rfl
  apply ((runs_completeHook .onActivate context reaches.stands (reaches.prepared.trans stored)
    staged (by simp)).weaken (fun _ _ given => given) left).bind
  intro activated last hooked
  have ready : activated.state = .registered := hooked.state.trans registered
  have admits : last.Admits (.transition .active activated.stateVersion none false) :=
    hooked.stands.coherent
  apply (runs_moves .active operationId context hooked.stands (by rw [ready]; decide)
    (by rw [ready]; rfl) (by rw [ready]; rfl) nofun (by rw [ready]; nofun) admits).weaken
  · intro changed final moves
    exact moves.stands.settled
  · intro error final lost
    exact lost.elim

theorem runs_activateFailure {α : Type} {value : α → PluginPart → Prop} (operationId : String)
    (context : RuntimeCallContext) (error : Raised) (left : part.Leaves plugin call next) :
    Runs publisher threads thread (activateFailure operationId context error) next value
      (fun _ last => part.Leaves plugin call last) := by
  unfold activateFailure
  split
  · exact runs_report _ operationId _ context left
  · exact Locking.triple_raise left
  · exact runs_report _ operationId _ context left

theorem runs_activateEffect (manager : PluginManager) (context : RuntimeCallContext)
    (settled : part.Settled (threads thread).plugin) :
    Runs publisher threads thread (manager.activateEffect context) part
      (fun _ next => next.Settled (threads thread).plugin)
      (fun _ next => part.Leaves (threads thread).plugin .activate next) := by
  apply runs_requested manager pluginActivateAction .active context settled
  intro record operationId stands
  split
  · exact Locking.triple_ret settled
  · have handle : Runs publisher threads thread preparedPlugin part
        (fun prepared next => part.prepared = some prepared ∧ next = part)
        (fun _ next => part.Leaves (threads thread).plugin .activate next) := by
      apply (runs_preparedPlugin settled.calm settled.coherent).weaken (fun _ _ given => given)
      intro error next same
      subst same
      exact settled.leaves
    apply handle.bind
    intro prepared next given
    obtain ⟨stored, rfl⟩ := given
    apply (runs_activateSteps manager operationId context stands stored).catching
    intro error last left
    exact runs_activateFailure operationId context error left

/-! ### Loading -/

omit [Sha256] in
theorem validatePrepared_ok {prepared : PreparedPlugin} {manifest : PluginManifest}
    (valid : validatePrepared prepared manifest = .ok ()) : prepared.Fits manifest := by
  obtain ⟨_, _, rest⟩ := bind_ok valid
  obtain ⟨_, keys, hooks⟩ := bind_ok rest
  simp only [ensure_eq_ok, sameKeys, Bool.and_eq_true, decide_eq_true_eq, List.all_eq_true,
    List.contains_iff_mem] at keys
  obtain ⟨⟨distinct, declared⟩, loaded⟩ := keys
  refine ⟨distinct, fun key => ⟨declared key, loaded key⟩, fun hook => ?_⟩
  simp only [ensure_eq_ok, List.all_eq_true, beq_iff_eq] at hooks
  have listed : hook ∈ hookNames := by cases hook <;> decide
  rw [hooks hook listed, List.contains_iff_mem]

/-- A staged handle is cleaned up at most once, as nothing has been published. -/
theorem runs_cleanupStaged {prepared : PreparedPlugin} (context : RuntimeCallContext)
    (stands : part.Stands plugin record) (hidden : record.state.published = false)
    (dropped : record.state.staged = false) (known : .prepared prepared.handle ∈ part.log.progress)
    (uncleaned : .cleaned prepared.handle ∉ part.log.progress) :
    Runs publisher threads thread (cleanupStaged (some prepared) context) part
      (fun _ next => next.Coherent ∧ (next.logged next.log.settled).Stands plugin record ∧
        next.log.entered = part.log.entered)
      (fun _ _ => False) := by
  have quiet : (part.logged part.log.settled).Stands plugin record := by
    rw [PluginPart.logged_settled stands.calm]
    exact stands
  have cleaned : Runs publisher threads thread (do
      let recovery ← recoveryContext context
      pluginOp (.cleanup prepared recovery)) part
      (fun _ next => next.Coherent ∧ (next.logged next.log.settled).Stands plugin record ∧
        next.log.entered = part.log.entered)
      part.Unharmed := by
    apply (runs_recoveryContext context stands.calm stands.coherent).bind
    intro recovery next same
    subst same
    apply (runs_cleanup prepared recovery stands.calm stands.coherent uncleaned
      (stands.withdrawn hidden)).weaken
    · intro _ later same
      subst same
      exact ⟨stands.coherent, stands.cleans dropped known, rfl⟩
    · intro error later lost
      exact lost
  apply cleaned.catching
  intro error next lost
  obtain ⟨exception, rfl⟩ := lost
  rw [if_pos exception]
  exact Locking.triple_ret ⟨stands.coherent, quiet, rfl⟩

/-- A failed load reports its failure, after it has cleaned up what it has staged. -/
theorem runs_reportLoadFailure {α : Type} {value : α → PluginPart → Prop}
    (prepared : Option PreparedPlugin) (manifest : PluginManifest) (operationId : String)
    (detail : ErrorDetail) (context : RuntimeCallContext) (stands : part.Stands plugin record)
    (hidden : record.state.published = false) (dropped : record.state.staged = false)
    (staged : ∀ held, prepared = some held → .prepared held.handle ∈ part.log.progress ∧
      .cleaned held.handle ∉ part.log.progress) :
    Runs publisher threads thread
      (reportLoadFailure prepared manifest operationId detail context) part value
      (fun _ next => next.Stands plugin record ∧ next.log.entered = part.log.entered) := by
  have quiet : (part.logged part.log.settled).Stands plugin record := by
    rw [PluginPart.logged_settled stands.calm]
    exact stands
  have cleaned : Runs publisher threads thread (cleanupStaged prepared context) part
      (fun _ next => next.Coherent ∧ (next.logged next.log.settled).Stands plugin record ∧
        next.log.entered = part.log.entered)
      (fun _ next => next.Stands plugin record ∧ next.log.entered = part.log.entered) := by
    cases prepared with
    | none => exact Locking.triple_ret ⟨stands.coherent, quiet, rfl⟩
    | some held =>
      obtain ⟨known, uncleaned⟩ := staged held rfl
      exact (runs_cleanupStaged context stands hidden dropped known uncleaned).weaken
        (fun _ _ given => given) fun _ _ lost => lost.elim
  apply cleaned.bind
  intro _ next given
  obtain ⟨coherent, standing, entered⟩ := given
  have ended : ∀ last, last = next.logged next.log.settled →
      last.Stands plugin record ∧ last.log.entered = part.log.entered := by
    intro last same
    subst same
    exact ⟨standing, entered⟩
  apply ((runs_emitFailed manifest.ref _ .loaded operationId detail context coherent).weaken
    (fun _ _ same => same) fun _ last same => ended last same).bind
  intro _ last same
  exact Locking.triple_raise (ended last same)

theorem runs_loadFailure {α : Type} {value : α → PluginPart → Prop}
    (prepared : Option PreparedPlugin) (manifest : PluginManifest) (operationId : String)
    (context : RuntimeCallContext) (error : Raised) (stands : part.Stands plugin record)
    (hidden : record.state.published = false) (dropped : record.state.staged = false)
    (staged : ∀ held, prepared = some held → .prepared held.handle ∈ part.log.progress ∧
      .cleaned held.handle ∉ part.log.progress) :
    Runs publisher threads thread (loadFailure prepared manifest operationId context error) part value
      (fun _ next => next.Stands plugin record ∧ next.log.entered = part.log.entered) := by
  unfold loadFailure
  split
  · exact runs_reportLoadFailure prepared manifest operationId _ context stands hidden dropped staged
  · exact Locking.triple_raise ⟨stands, rfl⟩
  · exact runs_reportLoadFailure prepared manifest operationId _ context stands hidden dropped staged

/-- The handle is kept and the loading committed, which cannot fail. -/
theorem runs_keepHandle {prepared : PreparedPlugin} (operationId : String)
    (context : RuntimeCallContext) (found : part.record = some record)
    (named : record.manifest.ref.name = (threads thread).plugin)
    (validated : record.state = .validated) (unpublished : part.receipts = [])
    (fits : prepared.Fits record.manifest)
    (known : .prepared prepared.handle ∈ part.log.progress)
    (uncleaned : .cleaned prepared.handle ∉ part.log.progress)
    (marked : ∀ hook, .hook hook ∈ part.log.progress → hook ∈ record.successfulHooks)
    (handles : ∀ handle, .cleaned handle ∈ part.log.progress →
      .prepared handle ∈ part.log.progress) (calm : part.log.checking = none) :
    Runs publisher threads thread (do
      pluginOp (.setPrepared prepared)
      changeState record .loaded false operationId context) part
      (fun result next => part.Stages (threads thread).plugin next result) (fun _ _ => False) := by
  have coherent : part.Coherent := by
    have hidden : record.state.published = false := by rw [validated]; rfl
    rw [PluginPart.Coherent, found]
    simpa [hidden] using unpublished
  apply (runs_setPrepared prepared calm coherent).bind
  intro _ next same
  have stored : next.prepared = some prepared := by rw [same]
  have loaded : (next.committing (moved record .loaded none false)).Stands (threads thread).plugin
      (moved record .loaded none false) := by
    subst same
    exact PluginPart.stands_loaded found named validated unpublished stored fits known uncleaned
      marked handles
  have current : next.record = some record := by rw [same]; exact found
  have settling : next.log.checking = none := by rw [same]; exact calm
  have admits : next.Admits (.transition .loaded record.stateVersion none false) := by
    rw [same]
    exact coherent
  apply (runs_changeState .loaded false operationId context current (by rw [validated]; decide)
    settling admits loaded.coherent).weaken
  · intro result last given
    obtain ⟨rfl, rfl⟩ := given
    exact ⟨loaded, moved_state _ _ _ _, by rw [same]; rfl⟩
  · intro error last lost
    exact lost

/-- A handle that matches its manifest is kept; else the Plugin is as it was. -/
theorem runs_stagePrepared {prepared : PreparedPlugin} {manifest : PluginManifest}
    (operationId : String) (context : RuntimeCallContext)
    (stands : part.Stands (threads thread).plugin record) (validated : record.state = .validated)
    (same : record.manifest = manifest) (known : .prepared prepared.handle ∈ part.log.progress)
    (uncleaned : .cleaned prepared.handle ∉ part.log.progress) :
    Runs publisher threads thread (stagePrepared prepared manifest record operationId context) part
      (fun result next => part.Stages (threads thread).plugin next result)
      (fun _ next => next = part) := by
  have unpublished : part.receipts = [] := stands.withdrawn (by rw [validated]; rfl)
  have unhooked := stands.loading (by rw [validated]; rfl)
  unfold stagePrepared
  apply Locking.triple_guarded
  · intro error _
    rfl
  intro _ valid
  have fits : prepared.Fits record.manifest := by
    rw [same]
    exact validatePrepared_ok valid
  apply (runs_runHook prepared .onLoad context stands.calm stands.coherent (unhooked .onLoad)
    (by simp)).bind
  intro _ next ran
  subst ran
  unfold PluginPart.hooked markDeclared
  by_cases declared : .onLoad ∈ record.manifest.lifecycle
  · rw [if_pos ((fits.hooks .onLoad).mpr declared), if_pos declared]
    have found : (part.progressed (.hook .onLoad)).record = some record := stands.found
    apply ((runs_markHook .onLoad found rfl stands.coherent).weaken (fun _ _ given => given)
      fun _ _ lost => lost.elim).bind
    intro result later given
    obtain ⟨rfl, rfl⟩ := given
    have bare : ((part.progressed (.hook .onLoad)).committing (marked record .onLoad)).receipts =
      [] := unpublished
    have recorded : ∀ hook, .hook hook ∈ ((part.progressed (.hook .onLoad)).committing
        (marked record .onLoad)).log.progress → hook ∈ (marked record .onLoad).successfulHooks := by
      intro hook done
      have either : hook = .onLoad ∨ .hook hook ∈ part.log.progress := by simpa using done
      exact mem_marked.mpr (either.imp_right (stands.marked hook))
    have prepares : ∀ handle, .cleaned handle ∈ ((part.progressed (.hook .onLoad)).committing
        (marked record .onLoad)).log.progress → .prepared handle ∈
          ((part.progressed (.hook .onLoad)).committing (marked record .onLoad)).log.progress := by
      intro handle done
      have earlier : .cleaned handle ∈ part.log.progress := by simpa using done
      simpa using stands.handles handle earlier
    exact (runs_keepHandle operationId context rfl (by simpa using stands.named)
      (by simpa using validated) bare (by simpa using fits) (by simpa using known)
      (by simpa using uncleaned) recorded prepares rfl).weaken
        (fun _ _ staged => ⟨staged.stands, staged.state, staged.entered⟩) fun _ _ lost => lost.elim
  · rw [if_neg (fun has => declared ((fits.hooks .onLoad).mp has)), if_neg declared]
    exact (runs_keepHandle operationId context stands.found stands.named validated unpublished fits
      known uncleaned stands.marked stands.handles stands.calm).weaken (fun _ _ staged => staged)
      fun _ _ lost => lost.elim

theorem runs_stage {manifest : PluginManifest} (operationId : String) (context : RuntimeCallContext)
    (stands : part.Stands (threads thread).plugin record) (validated : record.state = .validated)
    (same : record.manifest = manifest) :
    Runs publisher threads thread (stage manifest record operationId context) part
      (fun result next => part.Stages (threads thread).plugin next result)
      (fun _ next => next.Stands (threads thread).plugin record ∧
        next.log.entered = part.log.entered) := by
  have hidden : record.state.published = false := by rw [validated]; rfl
  have dropped : record.state.staged = false := by rw [validated]; rfl
  unfold stage
  apply (runs_prepare manifest context stands.calm stands.coherent).andThen
  · intro prepared next given
    obtain ⟨fresh, rfl⟩ := given
    have standing := stands.prepares prepared.handle
    have known : .prepared prepared.handle ∈
        (part.progressed (.prepared prepared.handle)).log.progress := .head _
    have uncleaned : .cleaned prepared.handle ∉
        (part.progressed (.prepared prepared.handle)).log.progress := by
      intro done
      have earlier : .cleaned prepared.handle ∈ part.log.progress := by simpa using done
      exact fresh (stands.handles _ earlier)
    have staged : Runs publisher threads thread
        (stagePrepared prepared manifest record operationId context)
        (part.progressed (.prepared prepared.handle))
        (fun result next => part.Stages (threads thread).plugin next result)
        (fun _ next => next = part.progressed (.prepared prepared.handle)) :=
      (runs_stagePrepared operationId context standing validated same known uncleaned).weaken
        (fun _ _ staged => ⟨staged.stands, staged.state, staged.entered⟩) fun _ _ same => same
    apply staged.catching
    intro error last unchanged
    subst unchanged
    apply runs_loadFailure (some prepared) manifest operationId context error standing hidden
      dropped
    intro held given
    cases given
    exact ⟨known, uncleaned⟩
  · intro error next lost
    have standing : next.Stands (threads thread).plugin record ∧
        next.log.entered = part.log.entered := by
      rcases lost with rfl | ⟨handle, rfl⟩
      · exact ⟨stands, rfl⟩
      · exact ⟨stands.prepares handle, rfl⟩
    rw [← standing.2]
    apply runs_loadFailure none manifest operationId context error standing.1 hidden dropped
    intro held given
    cases given

theorem runs_catalogSnapshot (calm : part.log.checking = none) (coherent : part.Coherent) :
    Runs publisher threads thread catalogSnapshot part (fun _ next => next = part)
      (fun _ next => next = part) := by
  have snapshot : Runs publisher threads thread (pluginOp .registrySnapshot) part
      (fun _ next => next = part) (fun _ next => next = part) :=
    (runs_still rfl calm coherent).weaken (fun _ _ same => same) fun _ _ lost => lost.2
  apply snapshot.bind
  intro registry next same
  subst same
  have plugins : Runs publisher threads thread (pluginOp .activePluginRefs) next
      (fun _ later => later = next) (fun _ later => later = next) :=
    (runs_still rfl calm coherent).weaken (fun _ _ same => same) fun _ _ lost => lost.2
  apply plugins.bind
  intro refs later same
  subst same
  dsimp only
  cases CapabilityCatalogSnapshot.make refs _ with
  | ok available => exact Locking.triple_ret rfl
  | error error => exact Locking.triple_raise rfl

theorem runs_checkLoad (manager : PluginManager) (manifest : PluginManifest)
    (calm : part.log.checking = none) (coherent : part.Coherent) :
    Runs publisher threads thread (manager.checkLoad manifest) part (fun _ next => next = part)
      (fun _ next => next = part) := by
  unfold checkLoad
  apply Locking.triple_guarded
  · intro error _
    rfl
  intro _ _
  apply (runs_catalogSnapshot calm coherent).bind
  intro available next same
  subst same
  apply Locking.triple_guarded
  · intro error _
    rfl
  intro _ _
  have snapshot : Runs publisher threads thread (pluginOp .registrySnapshot) next
      (fun _ later => later = next) (fun _ later => later = next) :=
    (runs_still rfl calm coherent).weaken (fun _ _ same => same) fun _ _ lost => lost.2
  apply snapshot.bind
  intro registry later same
  subst same
  cases ensure (!manifest.provides.any fun declaration =>
    registry.registrations.contains declaration.key) _ with
  | ok done => exact Locking.triple_ret rfl
  | error error => exact Locking.triple_raise rfl

/-- A record that is VALIDATED now, where there was none or one of a loading that was not over;
or the record that there was. -/
def Discovers (found : Option PluginStateRecord) (record : PluginStateRecord) : Prop :=
  record.state = .validated ∧ (∀ earlier, found = some earlier → earlier.state.loading = true) ∨
    found = some record ∧ record.state ≠ .discovered

/-- The record of the same manifest, or a first one, and VALIDATED where it was DISCOVERED. -/
theorem runs_discoverPlugin {manifest : PluginManifest} (operationId : String)
    (context : RuntimeCallContext) (settled : part.Settled (threads thread).plugin)
    (named : manifest.ref.name = (threads thread).plugin) :
    Runs publisher threads thread (discoverPlugin manifest operationId context) part
      (fun result next => next.Stands (threads thread).plugin result ∧ result.manifest = manifest ∧
        next.log.entered = part.log.entered ∧ Discovers part.record result)
      (fun _ next => next = part) := by
  unfold discoverPlugin
  have found : Runs publisher threads thread (pluginOp (.discover manifest)) part
      (fun result next => next.Stands (threads thread).plugin result ∧ result.manifest = manifest ∧
        next.log.entered = part.log.entered ∧
          (part.record = some result ∨ part.record = none ∧ result.state = .discovered))
      (fun _ next => next = part) := by
    apply (runs_discover manifest settled.calm settled.coherent).weaken
    · intro record next given
      obtain ⟨discovered, rfl⟩ := given
      cases current : part.record with
      | none =>
        rw [current] at discovered
        cases discovered
        exact ⟨settled.discovers current named, rfl, rfl, .inr ⟨rfl, rfl⟩⟩
      | some existing =>
        rw [current] at discovered
        unfold PluginLifecycleController.discovered at discovered
        dsimp only at discovered
        split at discovered
        · rename_i same
          cases discovered
          exact ⟨(settled.stands current).refreshes, same, rfl, .inl rfl⟩
        · cases discovered
    · intro error next same
      exact same
  apply found.bind
  intro record next given
  obtain ⟨stands, same, entered, came⟩ := given
  apply ((runs_emitChanged manifest.ref "absent" record.state operationId context stands.calm
    stands.coherent).weaken (fun _ _ kept => kept) fun _ _ lost => lost.elim).bind
  intro _ later kept
  subst kept
  split
  · rename_i discovered
    have begun : ∀ earlier, part.record = some earlier → earlier.state.loading = true := by
      intro earlier found
      rcases came with same | ⟨absent, -⟩
      · cases Option.some.inj (found.symm.trans same)
        rw [discovered]
        rfl
      · rw [absent] at found
        cases found
    have admits : later.Admits (.transition .validated record.stateVersion none false) :=
      stands.coherent
    have leaves : record.state ≠ .validated := by
      rw [discovered]
      exact nofun
    have validated := stands.moves leaves (by rw [discovered]; rfl) (by rw [discovered]; rfl)
      fun _ => by rw [discovered]; rfl
    apply (runs_changeState .validated false operationId context stands.found
      (by rw [discovered]; decide) stands.calm admits validated.coherent).weaken
    · intro result last given
      obtain ⟨rfl, rfl⟩ := given
      exact ⟨validated, (moved_manifest _ _ _ _).trans same, entered,
        .inl ⟨moved_state _ _ _ _, begun⟩⟩
    · intro error last lost
      exact lost.elim
  · rename_i begun
    have found : part.record = some record := came.resolve_right fun absent => begun absent.2
    exact Locking.triple_ret ⟨stands, same, entered, .inr ⟨found, begun⟩⟩

omit [Sha256] in
/-- A Plugin with a handle is loaded, and one without is not yet, or no longer. -/
theorem PluginPart.Settled.handle {plugin : String} (settled : part.Settled plugin)
    {record : PluginStateRecord} (found : part.record = some record) :
    part.prepared.isSome = record.state.staged := by
  have stands := settled.stands found
  cases staged : record.state.staged with
  | true =>
    obtain ⟨prepared, stored, -⟩ := stands.staged staged
    rw [stored]
    rfl
  | false =>
    rw [stands.unstaged staged]
    rfl

theorem runs_existingLoad {manifest : PluginManifest} {prepared : PreparedPlugin}
    (settled : part.Settled (threads thread).plugin) (stored : part.prepared = some prepared) :
    Runs publisher threads thread (existingLoad manifest) part
      (fun result next => part.Loads (threads thread).plugin next result)
      (fun _ next => next = part) := by
  apply (runs_getRecord settled.calm settled.coherent).bind
  intro record later given
  obtain ⟨found, rfl⟩ := given
  apply Locking.triple_guarded
  · intro error _
    rfl
  intro _ _
  have staged : record.state.staged = true := by
    rw [← settled.handle found, stored]
    rfl
  apply Locking.triple_ret
  refine ⟨settled.stands found, rfl, .inl ⟨staged, ?_⟩⟩
  intro earlier same unloaded
  cases Option.some.inj (found.symm.trans same)
  rw [unloaded] at staged
  cases staged

theorem runs_loadEffect (manager : PluginManager) (manifest : PluginManifest)
    (context : RuntimeCallContext) (settled : part.Settled (threads thread).plugin)
    (named : manifest.ref.name = (threads thread).plugin) :
    Runs publisher threads thread (manager.loadEffect manifest context) part
      (fun result next => part.Loads (threads thread).plugin next result)
      (fun _ next => part.Leaves (threads thread).plugin (.load manifest) next) := by
  have calm := settled.calm
  have coherent := settled.coherent
  have unchanged : ∀ (_ : Raised) (next : PluginPart), next = part →
      part.Leaves (threads thread).plugin (.load manifest) next := by
    intro _ next same
    subst same
    exact settled.leaves
  unfold loadEffect
  apply Locking.triple_guarded
  · intro error _
    exact settled.leaves
  intro operationId _
  apply ((runs_getPrepared calm coherent).weaken (fun _ _ given => given)
    fun _ _ lost => lost.elim).bind
  intro stored next given
  obtain ⟨held, rfl⟩ := given
  cases stored with
  | some prepared =>
    exact (runs_existingLoad settled held.symm).weaken (fun _ _ loads => loads) unchanged
  | none =>
    apply ((runs_checkLoad manager manifest calm coherent).weaken (fun _ _ same => same)
      unchanged).bind
    intro _ later same
    subst same
    have requested : Runs publisher threads thread (pluginOp (.transitionRequested manifest.ref
        "absent" .loaded operationId 0 context)) later (fun _ last => last = later)
        (fun _ last => later.Leaves (threads thread).plugin (.load manifest) last) :=
      (runs_still rfl calm coherent).weaken (fun _ _ same => same) fun error last lost =>
        unchanged error last lost.2
    apply requested.bind
    intro _ last same
    subst same
    apply ((runs_discoverPlugin operationId context settled named).weaken (fun _ _ given => given)
      unchanged).bind
    intro record final given
    obtain ⟨stands, rfl, entered, came⟩ := given
    split
    · rename_i validated
      have fresh : ∀ earlier, last.record = some earlier → earlier.state ≠ .unloaded := by
        intro earlier found unloaded
        rcases came with ⟨-, begun⟩ | ⟨same, -⟩
        · have first := begun earlier found
          rw [unloaded] at first
          cases first
        · cases Option.some.inj (found.symm.trans same)
          rw [validated] at unloaded
          cases unloaded
      apply (runs_stage operationId context stands validated rfl).weaken
      · intro result left staged
        refine ⟨staged.stands, staged.entered.trans entered, .inl ⟨?_, fresh⟩⟩
        rw [staged.state]
        rfl
      · intro error left lost
        exact lost.1.loads (lost.2.trans entered)
    · rename_i unvalidated
      obtain ⟨found, begun⟩ := came.resolve_left fun fresh => unvalidated fresh.1
      have unstaged : record.state.staged = false := by
        rw [← settled.handle found, ← held]
        rfl
      have unloaded : record.state = .unloaded := by
        revert unstaged unvalidated begun
        cases record.state <;> simp [PluginLifecycleState.staged]
      exact Locking.triple_ret ⟨stands, entered, .inr ⟨found, unloaded⟩⟩

end CongeriesCore
