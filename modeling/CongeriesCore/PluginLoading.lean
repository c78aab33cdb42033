import CongeriesCore.PluginCoherence

/-! # What a load hands back

A load that returns has loaded its Plugin, or has found it unloaded: the record of an unloaded
Plugin outlives its handle, and a load hands it back as it is. -/

namespace CongeriesCore

open AsyncProgram PluginManager

/-- The manager holds a handle of the Plugin, and the record is past the loading. -/
structure PluginWorld.Loaded {τ : Type} (world : PluginWorld τ) (plugin : String)
    (record : PluginStateRecord) : Prop where
  handle : ∃ prepared, world.prepared.get? plugin = some prepared
  state : record.state = .loaded ∨ record.state = .registered ∨ record.state = .active ∨
    record.state = .draining ∨ record.state = .unregistered

theorem PluginLifecycleState.staged_iff {state : PluginLifecycleState} : state.staged = true ↔
    state = .loaded ∨ state = .registered ∨ state = .active ∨ state = .draining ∨
      state = .unregistered := by
  cases state <;> simp [PluginLifecycleState.staged]

section Loading

variable {τ : Type} [Sha256] {publisher : PluginEventPublisher τ} {threads : ℕ → PluginThread}
  {thread : ℕ} {initial : τ}

/-- The lock is given back by the operation for that. -/
theorem freed_lock {world : PluginWorld τ} {plugin : String} {op : PluginOp}
    {choice : Except Raised op.Answer × τ} (held : world.locks.get? plugin = some thread)
    (freed : (world.answer plugin thread op choice).2.locks.get? plugin ≠ some thread) :
    op.releases = true := by
  have recorded : ∀ outcome : Except Raised PluginStateRecord,
      (world.recorded plugin outcome).2.locks = world.locks := by
    intro outcome
    cases outcome with
    | ok record => rfl
    | error error => rfl
  cases op with
  | releaseOperationLock => rfl
  | acquireOperationLock => exact absurd (Dict.get?_set_self _ _ _) freed
  | discover manifest => exact absurd held ((recorded _) ▸ freed)
  | transition target version receipt clear => exact absurd held ((recorded _) ▸ freed)
  | markHook hook => exact absurd held ((recorded _) ▸ freed)
  | _ => exact absurd held freed

omit [Sha256] in
/-- A call does not return at once. -/
theorem run_awaits (record : PluginStateRecord) : (threads thread).run ≠ .ret record := by
  unfold PluginThread.run PluginManager.load PluginManager.activate PluginManager.drain
    PluginManager.cancelDrain PluginManager.unload PluginManager.locked
  split <;> nofun

/-- The last step of a load, which gives the lock back. -/
theorem returned_step {before after : PluginState τ} {program : PluginProgram PluginStateRecord}
    {manifest : PluginManifest} {record : PluginStateRecord}
    (loads : (threads thread).call = .load manifest)
    (kept : (pluginLocking publisher threads).Kept before)
    (safe : program.Safe ((pluginLocking publisher threads).environment thread)
      ((pluginLocking publisher threads).contract thread)
      ((pluginLocking publisher threads).Finished (fun thread => (threads thread).Closes) thread)
      before)
    (step : Step ((pluginLocking publisher threads).environment thread) (program, before)
      (.ret record, after)) :
    (pluginPart (threads thread).plugin after).Stands (threads thread).plugin record ∧
      ∃ result, after.2.outcomes thread = some result ∧ HandsBack result.found record := by
  have reflexive : ∀ state, ((pluginLocking publisher threads).contract thread).rely state state :=
    Locking.Relies.refl _ _ _
  obtain ⟨keeps, -, free, closes⟩ := safe.step reflexive kept step
  obtain ⟨result, own, handed⟩ := closes.returns record rfl
  obtain ⟨left, handed⟩ := handed manifest loads
  refine ⟨?_, result, own, handed⟩
  generalize target : (Program.ret record, after) = last at step
  cases step with
  | @resume op resume _ choice permitted =>
    obtain ⟨-, rfl⟩ := Prod.mk.inj target
    rcases (safe before (reflexive before) kept).1 with ⟨held, -⟩ | ⟨-, rfl⟩
    · have releases := freed_lock held free
      cases op with
      | releaseOperationLock =>
        obtain ⟨released, part, outcome⟩ := releases_lock kept.shared choice
        have same := Option.some.inj (outcome.symm.trans own)
        have settled := keeps.settled (threads thread).plugin released.freed
        apply settled.stands
        rw [← left, ← same]
        have stored := congrArg PluginPart.record part
        exact stored
      | _ => cases releases
    · exact absurd (Dict.get?_set_self _ _ _) free

/-- What the step leaves with which a load returns: the lock is free again, over the record that
the load hands back. -/
theorem returned_load
    {before after : Configuration PluginInterface Raised PluginStateRecord (PluginState τ)}
    {manifest : PluginManifest} {record : PluginStateRecord}
    (reached : (pluginPool publisher initial threads).Reachable before)
    (moves : (pluginPool publisher initial threads).Moves before after)
    (loads : (threads thread).call = .load manifest)
    (running : before.threads[thread]? ≠ some (.ret record))
    (returned : after.threads[thread]? = some (.ret record)) :
    (pluginPart (threads thread).plugin after.state).Stands (threads thread).plugin record ∧
      ∃ result, after.state.2.outcomes thread = some result ∧ HandsBack result.found record := by
  have meets := plugin_meets publisher initial threads
  have starts := starts_empty publisher initial threads
  cases moves with
  | start begun =>
    obtain ⟨-, rfl⟩ := begun
    rw [List.getElem?_append] at returned
    split at returned
    · exact absurd returned running
    · have begins := List.mem_singleton.mp (List.mem_of_getElem? returned)
      exact absurd begins.symm (run_awaits record)
  | @step moved program rest state found step =>
    obtain rfl : moved = thread := by
      by_contra distinct
      rw [List.getElem?_set_ne distinct] at returned
      exact running returned
    rw [List.getElem?_set_self (List.getElem?_eq_some_iff.mp found).1] at returned
    obtain rfl := Option.some.inj returned
    obtain ⟨kept, safe⟩ := meets.reachable (starts.guarded reached)
    have suspended := safe moved program found
    exact returned_step loads kept suspended step

/-- A load that returns has loaded its Plugin exactly if it had not found it unloaded. -/
theorem load_returns_loaded_iff
    {before after : Configuration PluginInterface Raised PluginStateRecord (PluginState τ)}
    {manifest : PluginManifest} {record : PluginStateRecord}
    (reached : (pluginPool publisher initial threads).Reachable before)
    (moves : (pluginPool publisher initial threads).Moves before after)
    (loads : (threads thread).call = .load manifest)
    (running : before.threads[thread]? ≠ some (.ret record))
    (returned : after.threads[thread]? = some (.ret record)) :
    after.state.1.Loaded (threads thread).plugin record ↔
      ∀ result found, after.state.2.outcomes thread = some result → result.found = some found →
        found.state ≠ .unloaded := by
  obtain ⟨stands, own, kept, handed⟩ := returned_load reached moves loads running returned
  constructor
  · intro loaded result found given earlier
    have same : own = result := Option.some.inj (kept.symm.trans given)
    subst same
    rcases handed with ⟨-, fresh⟩ | ⟨-, unloaded⟩
    · exact fresh found earlier
    · have staged := PluginLifecycleState.staged_iff.mpr loaded.state
      rw [unloaded] at staged
      cases staged
  · intro fresh
    rcases handed with ⟨staged, -⟩ | ⟨same, unloaded⟩
    · obtain ⟨prepared, stored, -⟩ := stands.staged staged
      exact ⟨⟨prepared, stored⟩, PluginLifecycleState.staged_iff.mp staged⟩
    · exact absurd unloaded (fresh own record kept same)

end Loading

section Samples

open SampleParameters

/-- A manager that may unload its Plugin too. -/
def reloadManager : PluginManager where
  pluginId := "sample.plugin"
  authorization := ⟨[pluginLoadAction, pluginActivateAction, pluginUnloadAction], true⟩
  checkLocal _ := .ok ()

def reloadThread (key : IdempotencyKey) (call : PluginCall)
    (named : ∀ manifest, call = .load manifest → manifest.ref.name = "sample.plugin") :
    PluginThread where
  manager := reloadManager
  call := call
  context := keyedContext key
  principal := samplePrincipal
  named := named

/-- The Plugin is loaded, activated, unloaded, and loaded again. -/
def reloadThreads : ℕ → PluginThread
  | 0 => reloadThread ⟨"key-1", key_checked⟩ (.load toolManifest) (by rintro _ ⟨⟩; rfl)
  | 1 => reloadThread ⟨"key-2", secondKey_checked⟩ .activate nofun
  | 2 => reloadThread ⟨"key-3", by decide⟩ (.unload 1) nofun
  | _ => reloadThread ⟨"key-4", by decide⟩ (.load toolManifest) (by rintro _ ⟨⟩; rfl)

/-- Everything succeeds, and there are no leases. -/
def reloadChoice : (op : PluginOp) → Except Raised op.Answer × Unit
  | .noLeases => (.ok true, ())
  | .cleanup _ _ => (.ok (), ())
  | op => toolChoice op

def reloadPool : Pool PluginInterface Raised PluginStateRecord (PluginState Unit) :=
  pluginPool silentPublisher () reloadThreads

def reloadRun (schedule : List ℕ) :
    Configuration PluginInterface Raised PluginStateRecord (PluginState Unit) →
      Configuration PluginInterface Raised PluginStateRecord (PluginState Unit) :=
  reloadPool.execute (fun _ op _ => reloadChoice op) (fun _ op state => toolPermitted 0 state op)
    schedule

/-- The second load is about to give the lock back. -/
def reloading : Configuration PluginInterface Raised PluginStateRecord (PluginState Unit) :=
  reloadRun (List.replicate 60 0 ++ List.replicate 60 1 ++ List.replicate 60 2 ++
    List.replicate 12 3) ⟨(.empty (), .empty), (List.range 4).map fun thread =>
      (reloadThreads thread).run⟩

def reloaded : Configuration PluginInterface Raised PluginStateRecord (PluginState Unit) :=
  reloadRun [3] reloading

theorem reloadThreads_plugin (thread : ℕ) : (reloadThreads thread).plugin = "sample.plugin" := by
  match thread with
  | 0 | 1 | 2 | _ + 3 => rfl

theorem reloadChoice_permitted (thread : ℕ) (op : PluginOp) (state : PluginState Unit)
    (permitted : toolPermitted 0 state op = true) :
    (reloadPool.environment thread).permits op (reloadChoice op) state := by
  have tool := toolChoice_permitted 0 op state permitted
  change (journaledEnvironment silentPublisher (reloadThreads thread).plugin thread).permits op
    (reloadChoice op) state
  rw [reloadThreads_plugin]
  cases op with
  | noLeases => exact ⟨⟨nofun, trivial⟩, trivial⟩
  | cleanup prepared context => exact ⟨⟨nofun, trivial⟩, trivial⟩
  | _ => exact tool

theorem reloading_reachable : reloadPool.Reachable reloading := by
  have one : reloadPool.Reachable ⟨(.empty (), .empty), [(reloadThreads 0).run]⟩ :=
    .move (.initial rfl) (.start ⟨rfl, rfl⟩)
  have two : reloadPool.Reachable
      ⟨(.empty (), .empty), [(reloadThreads 0).run, (reloadThreads 1).run]⟩ :=
    .move one (.start ⟨rfl, rfl⟩)
  have three : reloadPool.Reachable ⟨(.empty (), .empty),
      [(reloadThreads 0).run, (reloadThreads 1).run, (reloadThreads 2).run]⟩ :=
    .move two (.start ⟨rfl, rfl⟩)
  have four : reloadPool.Reachable ⟨(.empty (), .empty),
      [(reloadThreads 0).run, (reloadThreads 1).run, (reloadThreads 2).run,
        (reloadThreads 3).run]⟩ :=
    .move three (.start ⟨rfl, rfl⟩)
  exact Pool.execute_reachable reloadChoice_permitted _ four

theorem reloading_moves : reloadPool.Moves reloading reloaded := by
  have advances : reloading.advances (fun _ op state => toolPermitted 0 state op) 3 = true := by
    decide +kernel
  exact Pool.execute_moves reloadChoice_permitted advances

/-- The state in which a thread has returned. -/
def returnedState (configuration : Configuration PluginInterface Raised PluginStateRecord
    (PluginState Unit)) (thread : ℕ) : Option PluginLifecycleState :=
  match configuration.threads[thread]? with
  | some (.ret record) => some record.state
  | _ => none

/-- Every load that returns has loaded its Plugin. -/
def LoadsReturnLoaded {τ : Type} [Sha256] (publisher : PluginEventPublisher τ) (initial : τ)
    (threads : ℕ → PluginThread) : Prop :=
  ∀ before after thread manifest record,
    (pluginPool publisher initial threads).Reachable before →
    (pluginPool publisher initial threads).Moves before after →
    (threads thread).call = .load manifest → before.threads[thread]? ≠ some (.ret record) →
    after.threads[thread]? = some (.ret record) →
    after.state.1.Loaded (threads thread).plugin record

theorem returnedState_some {configuration : Configuration PluginInterface Raised
    PluginStateRecord (PluginState Unit)} {thread : ℕ} {state : PluginLifecycleState}
    (returned : returnedState configuration thread = some state) :
    ∃ record, configuration.threads[thread]? = some (.ret record) ∧ record.state = state := by
  unfold returnedState at returned
  split at returned
  · rename_i record found
    exact ⟨record, found, Option.some.inj returned⟩
  · cases returned

/-- The second load returns the record of the Plugin that has been unloaded. -/
theorem reloading_returns : ∃ record, reloading.threads[3]? ≠ some (.ret record) ∧
    reloaded.threads[3]? = some (.ret record) ∧ record.state = .unloaded := by
  obtain ⟨record, returned, unloaded⟩ := returnedState_some
    (by decide +kernel : returnedState reloaded 3 = some .unloaded)
  refine ⟨record, ?_, returned, unloaded⟩
  intro early
  have running : returnedState reloading 3 = none := by decide +kernel
  rw [returnedState, early] at running
  cases running

theorem loads_return_unloaded : ¬ LoadsReturnLoaded silentPublisher () reloadThreads := by
  intro loads
  obtain ⟨record, running, returned, unloaded⟩ := reloading_returns
  have loaded := loads reloading reloaded 3 toolManifest record reloading_reachable
    reloading_moves rfl running returned
  have staged := PluginLifecycleState.staged_iff.mpr loaded.state
  rw [unloaded] at staged
  cases staged

/-- The second load above has found its Plugin unloaded. -/
theorem load_returns_loaded_sample : ∃ record, reloaded.threads[3]? = some (.ret record) ∧
    (reloaded.state.1.Loaded "sample.plugin" record ↔ ∀ result found,
      reloaded.state.2.outcomes 3 = some result → result.found = some found →
        found.state ≠ .unloaded) := by
  obtain ⟨record, running, returned, -⟩ := reloading_returns
  exact ⟨record, returned,
    load_returns_loaded_iff reloading_reachable reloading_moves rfl running returned⟩

end Samples

end CongeriesCore
