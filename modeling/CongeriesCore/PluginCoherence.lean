import CongeriesCore.PluginOperations

/-! # Registry and lifecycle in every state

Every call of a manager is safe under its lock. So in every state of a process the lock of a
Plugin is free over a settled part, or its operation is suspended where that part admits it. -/

namespace CongeriesCore

open AsyncProgram PluginManager

/-- The lock is taken: the journal notes the record that the operation finds. -/
def PluginPart.entering (part : PluginPart) : PluginPart :=
  part.logged { part.log with checking := none, entered := part.record }

/-- What the journal keeps of a finished operation. -/
def PluginPart.outcome (part : PluginPart) : OperationOutcome := ⟨part.log.entered, part.record⟩

/-- Where the operation was not refused at first, it is not refused again. -/
def PluginCall.Retryable (call : PluginCall) (outcome : OperationOutcome) : Prop :=
  call.accepts outcome.found = true → call.accepts outcome.left = true

/-- A call that has raised can be made again. -/
def PluginThread.Raises (thread : PluginThread) (outcome : Except Raised PluginStateRecord)
    (own : Option OperationOutcome) : Prop :=
  ∀ error, outcome = .error error → ∃ result, own = some result ∧ thread.call.Retryable result

/-- A load that returns has left the record it hands back. -/
def PluginThread.HandsBack (thread : PluginThread) (record : PluginStateRecord)
    (result : OperationOutcome) : Prop :=
  ∀ manifest, thread.call = .load manifest →
    result.left = some record ∧ CongeriesCore.HandsBack result.found record

/-- How a call ends. -/
structure PluginThread.Closes (thread : PluginThread) (outcome : Except Raised PluginStateRecord)
    (own : Option OperationOutcome) : Prop where
  raises : thread.Raises outcome own
  returns : ∀ record, outcome = .ok record → ∃ result, own = some result ∧
    thread.HandsBack record result

section Operations

variable {τ : Type} [Sha256] {publisher : PluginEventPublisher τ} {threads : ℕ → PluginThread}
  {thread : ℕ} {part next : PluginPart}

omit [Sha256] in
theorem PluginPart.Settled.entering {plugin : String} (settled : part.Settled plugin) :
    part.entering.Settled plugin :=
  ⟨settled.named, settled.coherent, settled.staged, settled.marked, settled.handles, rfl⟩

/-! ### The lock -/

theorem PluginShared.relogged {world after : PluginWorld τ} {journal next : PluginJournal}
    (shared : PluginShared (world, journal)) (records : after.records = world.records)
    (history : after.history = world.history)
    (logs : ∀ plugin, (next.logs plugin).committed = (journal.logs plugin).committed) :
    PluginShared (after, next) := by
  refine ⟨by rw [history]; exact shared.sound, by rw [history]; exact shared.separates, ?_⟩
  intro plugin
  change after.records.get? plugin = (next.logs plugin).committed
  rw [records, logs]
  exact shared.committed plugin

theorem journaled_answer {world after : PluginWorld τ} {journal : PluginJournal} {op : PluginOp}
    {choice : Except Raised op.Answer × τ} {outcome : Except Raised op.Answer}
    (answered : world.answer (threads thread).plugin thread op choice = (outcome, after)) :
    ((pluginLocking publisher threads).environment thread).answer op choice (world, journal) =
      (outcome, after,
        PluginJournal.record (threads thread).plugin thread op outcome world after journal) :=
  Environment.instrumented_answer answered

omit [Sha256] in
/-- The logs of other Plugins are untouched. -/
theorem logs_other {plugin other : String} {op : PluginOp} {outcome : Except Raised op.Answer}
    {world after : PluginWorld τ} {journal : PluginJournal} (distinct : other ≠ plugin) :
    (PluginJournal.record plugin thread op outcome world after journal).logs other =
      journal.logs other :=
  Function.update_of_ne distinct _ _

omit [Sha256] in
theorem logs_own {plugin : String} {op : PluginOp} {outcome : Except Raised op.Answer}
    {world after : PluginWorld τ} {journal : PluginJournal} :
    (PluginJournal.record plugin thread op outcome world after journal).logs plugin =
      (journal.logs plugin).after (world.records.get? plugin) op outcome :=
  Function.update_self _ _ _

theorem acquires_lock {world : PluginWorld τ} {journal : PluginJournal}
    (shared : PluginShared (world, journal))
    (free : world.locks.get? (threads thread).plugin = none) (choice : Except Raised Unit × τ) :
    (pluginLocking publisher threads).Acquires (threads thread).plugin thread (world, journal)
      (((pluginLocking publisher threads).environment thread).answer .acquireOperationLock choice
        (world, journal)).2 ∧
    pluginPart (threads thread).plugin
      (((pluginLocking publisher threads).environment thread).answer .acquireOperationLock choice
        (world, journal)).2 = (pluginPart (threads thread).plugin (world, journal)).entering := by
  have answered : world.answer (threads thread).plugin thread .acquireOperationLock choice =
    (.ok (), { world with locks := world.locks.set (threads thread).plugin thread }) := rfl
  rw [journaled_answer answered]
  refine ⟨⟨free, Dict.get?_set_self _ _ _, fun other distinct => ?_, fun other distinct => ?_,
    fun _ => rfl, ?_⟩, ?_⟩
  · exact Dict.get?_set_of_ne _ (Ne.symm distinct) _
  · change pluginPart other _ = pluginPart other _
    simp only [pluginPart, logs_other distinct]
  · have kept : ∀ other, ((PluginJournal.record (threads thread).plugin thread .acquireOperationLock
        (.ok ()) world { world with locks := world.locks.set (threads thread).plugin thread } journal).logs other).committed = (journal.logs other).committed := by
      intro other
      by_cases distinct : other = (threads thread).plugin
      · subst distinct
        rw [logs_own]
        rfl
      · rw [logs_other distinct]
    exact shared.relogged rfl rfl kept
  · simp only [pluginPart, logs_own]
    rfl

theorem releases_lock {world : PluginWorld τ} {journal : PluginJournal}
    (shared : PluginShared (world, journal)) (choice : Except Raised Unit × τ) :
    (pluginLocking publisher threads).Releases (threads thread).plugin thread (world, journal)
      (((pluginLocking publisher threads).environment thread).answer .releaseOperationLock choice
        (world, journal)).2 ∧
    pluginPart (threads thread).plugin
      (((pluginLocking publisher threads).environment thread).answer .releaseOperationLock choice
        (world, journal)).2 =
      (pluginPart (threads thread).plugin (world, journal)).logged
        (journal.logs (threads thread).plugin).settled ∧
    (((pluginLocking publisher threads).environment thread).answer .releaseOperationLock choice
        (world, journal)).2.2.outcomes thread =
      some (pluginPart (threads thread).plugin (world, journal)).outcome := by
  have answered : world.answer (threads thread).plugin thread .releaseOperationLock choice =
    (.ok (), { world with locks := world.locks.erase (threads thread).plugin }) := rfl
  rw [journaled_answer answered]
  refine ⟨⟨Dict.get?_erase_self _ _, fun other distinct => ?_, fun other distinct => ?_,
    fun other distinct => ?_, ?_⟩, ?_, Function.update_self _ _ _⟩
  · exact Dict.get?_erase_of_ne _ (Ne.symm distinct)
  · change pluginPart other _ = pluginPart other _
    simp only [pluginPart, logs_other distinct]
  · exact Function.update_of_ne distinct _ _
  · have kept : ∀ other, ((PluginJournal.record (threads thread).plugin thread .releaseOperationLock
        (.ok ()) world { world with locks := world.locks.erase (threads thread).plugin } journal).logs other).committed = (journal.logs other).committed := by
      intro other
      by_cases distinct : other = (threads thread).plugin
      · subst distinct
        rw [logs_own]
        rfl
      · rw [logs_other distinct]
    exact shared.relogged rfl rfl kept
  · simp only [pluginPart, logs_own]
    rfl

/-- A lock is taken by the thread that asks for it, and by no other operation. -/
theorem taken_locks {world : PluginWorld τ} {plugin key : String} {op : PluginOp} {other : ℕ}
    {choice : Except Raised op.Answer × τ}
    (held : (world.answer plugin thread op choice).2.locks.get? key = some other) :
    world.locks.get? key = some other ∨ other = thread := by
  have recorded : ∀ outcome : Except Raised PluginStateRecord,
      (world.recorded plugin outcome).2.locks = world.locks := by
    intro outcome
    cases outcome with
    | ok record => rfl
    | error error => rfl
  cases op with
  | acquireOperationLock =>
    by_cases same : key = plugin
    · subst same
      have taken : some thread = some other := (Dict.get?_set_self _ _ _).symm.trans held
      exact .inr (Option.some.inj taken).symm
    · exact .inl ((Dict.get?_set_of_ne _ (Ne.symm same) _).symm.trans held)
  | releaseOperationLock =>
    by_cases same : key = plugin
    · subst same
      have freed : none = some other := (Dict.get?_erase_self _ _).symm.trans held
      cases freed
    · exact .inl ((Dict.get?_erase_of_ne _ (Ne.symm same)).symm.trans held)
  | discover manifest => exact .inl (recorded _ ▸ held)
  | transition target version receipt clear => exact .inl (recorded _ ▸ held)
  | markHook hook => exact .inl (recorded _ ▸ held)
  | _ => exact .inl held

omit [Sha256] in
theorem settled_empty (plugin : String) : PluginPart.Settled plugin ⟨none, none, [], .empty⟩ where
  named _ found := by cases found
  coherent := rfl
  staged := rfl
  marked hook done := by cases done
  handles handle done := by cases done
  calm := rfl

theorem starts_empty (publisher : PluginEventPublisher τ) (initial : τ)
    (threads : ℕ → PluginThread) : (pluginLocking publisher threads).Starts
      fun state => state = (.empty initial, .empty) where
  free state start key := by
    subst start
    rfl
  settled state start key := by
    subst start
    exact settled_empty key
  shared state start := by
    subst start
    refine ⟨RegistryHistory.sound_initial, fun _ member => ?_, fun _ => rfl⟩
    cases member
  taken thread op choice before _ key other held := taken_locks held

/-! ### Whole calls -/

/-- How the lock of its Plugin is taken. -/
theorem safe_enter {state : PluginState τ}
    (unlocked : (pluginLocking publisher threads).holder (threads thread).plugin state ≠ some thread) :
    (pluginOp .acquireOperationLock).Safe ((pluginLocking publisher threads).environment thread)
      ((pluginLocking publisher threads).contract thread)
      (Ends (fun _ after => ∃ part : PluginPart, part.Settled (threads thread).plugin ∧
        (pluginLocking publisher threads).Holds (threads thread).plugin thread part.entering after)
        fun _ => False) state := by
  apply Locking.safe_acquire _ unlocked
  intro before shared choice permitted
  obtain ⟨⟨-, free⟩, -⟩ := permitted
  obtain ⟨acquires, entered⟩ := acquires_lock shared free choice
  exact ⟨⟨(), rfl⟩, acquires, entered⟩

/-- How it is given back. -/
theorem safe_leave {state : PluginState τ} (settled : part.Settled (threads thread).plugin)
    (held : (pluginLocking publisher threads).Holds (threads thread).plugin thread part state) :
    (pluginOp .releaseOperationLock).Safe ((pluginLocking publisher threads).environment thread)
      ((pluginLocking publisher threads).contract thread)
      (Ends (fun _ after =>
        (pluginLocking publisher threads).holder (threads thread).plugin after ≠ some thread ∧
        (pluginLocking publisher threads).own thread after = some part.outcome)
        fun _ => False) state := by
  have needed : (pluginLocking publisher threads).needs .releaseOperationLock part :=
    settled.coherent
  apply Locking.safe_release (fun part => some part.outcome) needed _ held
  intro before shared holds choice permitted
  obtain ⟨releases, left, own⟩ := releases_lock shared choice
  have here : pluginPart (threads thread).plugin before = part := holds.part
  have same : (pluginPart (threads thread).plugin before).logged
      (pluginPart (threads thread).plugin before).log.settled = part := by
    rw [here, PluginPart.logged_settled settled.calm]
  refine ⟨⟨(), rfl⟩, releases, ?_, ?_⟩
  · exact ((congrArg (PluginPart.Settled _) (left.trans same)).mpr settled)
  · exact own.trans (congrArg (fun part => some part.outcome) here)

/-- A call of the manager, with what its effect makes of a settled Plugin. -/
theorem safe_locked {manager : PluginManager} {action : ActionRef} {context : RuntimeCallContext}
    {principal : RuntimePrincipal} {effect : RuntimeCallContext → PluginProgram PluginStateRecord}
    (runs : ∀ (part : PluginPart) (call : RuntimeCallContext), part.Settled (threads thread).plugin →
      part.log.entered = part.record → Runs publisher threads thread (effect call) part
        (fun record next => next.Settled (threads thread).plugin ∧
          (threads thread).HandsBack record next.outcome)
        (fun _ next => part.Leaves (threads thread).plugin (threads thread).call next))
    {state : PluginState τ}
    (unlocked : (pluginLocking publisher threads).holder (threads thread).plugin state ≠ some thread) :
    (manager.locked action context principal effect).Safe
      ((pluginLocking publisher threads).environment thread)
      ((pluginLocking publisher threads).contract thread)
      ((pluginLocking publisher threads).Finished (fun thread => (threads thread).Closes)
        thread) state := by
  unfold PluginManager.locked
  apply (safe_enter unlocked).onward
  intro _ entered reached
  obtain ⟨part, settled, holds⟩ := reached
  have started := settled.entering
  have body : Runs publisher threads thread (do
      let resource ← Program.ofExcept (pluginResource manager.pluginId)
      manager.authorization.dispatcher.dispatch
        { principal, action, resource, scope := context.scope, context, constraints := [] }
        fun call => effect call.context) part.entering
      (fun record next => next.Settled (threads thread).plugin ∧
        (threads thread).HandsBack record next.outcome)
      (fun _ next => part.entering.Leaves (threads thread).plugin (threads thread).call next) := by
    apply Locking.triple_guarded
    · intro error _
      exact started.leaves
    intro resource _
    exact runs_dispatch _ manager.authorization _ started.calm started.coherent started.leaves
      fun call => runs _ _ started rfl
  apply (body entered holds).andThen
  intro outcome after ended
  obtain ⟨next, made, held⟩ := ended
  have left : next.Settled (threads thread).plugin ∧
      (threads thread).Closes outcome (some next.outcome) := by
    cases outcome with
    | ok record =>
      refine ⟨made.1, nofun, ?_⟩
      intro result returned
      cases returned
      exact ⟨_, rfl, made.2⟩
    | error error =>
      refine ⟨made.settled, fun _ _ => ⟨_, rfl, ?_⟩, nofun⟩
      intro accepted
      apply made.accepts
      have found : next.log.entered = part.entering.record := made.entered
      rwa [← found]
  apply (safe_leave left.1 held).bind
  · intro _ last released
    apply Program.safe_ofExcept
    refine ⟨released.1, ?_⟩
    rw [released.2]
    exact left.2
  · intro _ _ lost
    exact lost.elim

/-- The other operations hand back what they please. -/
theorem Runs.unloading {effect : PluginProgram PluginStateRecord}
    (other : ∀ manifest, (threads thread).call ≠ .load manifest)
    (runs : Runs publisher threads thread effect part
      (fun _ next => next.Settled (threads thread).plugin)
      (fun _ next => part.Leaves (threads thread).plugin (threads thread).call next)) :
    Runs publisher threads thread effect part
      (fun record next => next.Settled (threads thread).plugin ∧
        (threads thread).HandsBack record next.outcome)
      (fun _ next => part.Leaves (threads thread).plugin (threads thread).call next) :=
  Locking.Triple.weaken runs
    (fun _ _ settled => ⟨settled, fun manifest given => absurd given (other manifest)⟩)
    fun _ _ left => left

theorem safe_run {state : PluginState τ}
    (unlocked : (pluginLocking publisher threads).holder (threads thread).plugin state ≠ some thread) :
    (threads thread).run.Safe ((pluginLocking publisher threads).environment thread)
      ((pluginLocking publisher threads).contract thread)
      ((pluginLocking publisher threads).Finished (fun thread => (threads thread).Closes)
        thread) state := by
  unfold PluginThread.run
  split
  · rename_i manifest given
    apply safe_locked _ unlocked
    intro part call settled entered
    rw [given]
    apply (runs_loadEffect _ manifest call settled ((threads thread).named manifest given)).weaken
    · intro record next loads
      refine ⟨loads.stands.settled, fun _ _ => ⟨loads.stands.found, ?_⟩⟩
      have found : next.outcome.found = part.record := loads.entered.trans entered
      rw [found]
      exact loads.handed
    · intro error next left
      exact left
  · rename_i given
    apply safe_locked _ unlocked
    intro part call settled _
    apply Runs.unloading
    · rw [given]
      nofun
    · rw [given]
      exact runs_activateEffect _ call settled
  · rename_i fuel given
    apply safe_locked _ unlocked
    intro part call settled _
    apply Runs.unloading
    · rw [given]
      nofun
    · rw [given]
      exact runs_drainEffect _ fuel call settled
  · rename_i given
    apply safe_locked _ unlocked
    intro part call settled _
    apply Runs.unloading
    · rw [given]
      nofun
    · rw [given]
      exact runs_cancelDrainEffect _ call settled
  · rename_i fuel given
    apply safe_locked _ unlocked
    intro part call settled _
    apply Runs.unloading
    · rw [given]
      nofun
    · rw [given]
      exact runs_unloadEffect _ fuel call settled

theorem plugin_meets (publisher : PluginEventPublisher τ) (initial : τ)
    (threads : ℕ → PluginThread) :
    ((pluginLocking publisher threads).guardedPool (fun state => state = (.empty initial, .empty))
      fun thread => (threads thread).run).Meets (pluginLocking publisher threads).contract
        (pluginLocking publisher threads).Kept
        ((pluginLocking publisher threads).Finished fun thread => (threads thread).Closes) :=
  (starts_empty publisher initial threads).meets fun _ _ _ unlocked => safe_run unlocked

/-! ### Registry and lifecycle agree -/

/-- The commit that a registry effect waits for, or its undoing. -/
def PluginOp.window : PluginOp → Bool
  | .transition .registered _ _ _ | .transition .unregistered _ _ _ | .rollback _ => true
  | _ => false

omit [Sha256] in
theorem PluginPart.Admits.coherent {op : PluginOp} (admits : part.Admits op)
    (outside : op.window = false) : part.Coherent := by
  cases op with
  | transition target version receipt clear =>
    cases target with
    | registered => cases outside
    | unregistered => cases outside
    | _ => exact admits
  | rollback receipt => cases outside
  | runHook prepared hook context => exact admits.1
  | cleanup prepared context => exact admits.1
  | _ => exact admits

namespace PluginWorld

/-- The Plugin is REGISTERED, ACTIVE or DRAINING, and its record carries the receipt. -/
def Carries (world : PluginWorld τ) (plugin : String) (receipt : RegistrationReceipt) : Prop :=
  ∃ record, world.records.get? plugin = some record ∧
    (record.state = .registered ∨ record.state = .active ∨ record.state = .draining) ∧
    record.registrationReceipt = some receipt

/-- The manifest of the Plugin declares the capability. -/
def Declares (world : PluginWorld τ) (plugin : String) (key : CapabilityKey) : Prop :=
  ∃ record, world.records.get? plugin = some record ∧
    key ∈ record.manifest.provides.map CapabilityDeclaration.key

/-- Registry and lifecycle agree about a Plugin. -/
structure Agrees (world : PluginWorld τ) (plugin : String) : Prop where
  live : ∀ receipt, (world.history.Live receipt ∧ receipt.owner.name = plugin) ↔
    world.Carries plugin receipt
  registered : ∀ receipt ∈ world.history.issued, receipt.owner.name = plugin → ∀ key,
    world.history.registry.owns receipt key = true ↔
      world.Carries plugin receipt ∧ world.Declares plugin key
  owned : ∀ key registration, world.history.registry.registrations.get? key = some registration →
    registration.owner.name = plugin →
      ∃ receipt, world.Carries plugin receipt ∧ world.history.registry.owns receipt key = true

end PluginWorld

omit [Sha256] in
theorem PluginLifecycleState.published_iff {state : PluginLifecycleState} :
    state.published = true ↔ state = .registered ∨ state = .active ∨ state = .draining := by
  cases state <;> simp [PluginLifecycleState.published]

section Coherent

omit [Sha256]

/-- The live receipt of a coherent Plugin is the one its record carries. -/
theorem PluginPart.Coherent.mem_receipts (coherent : part.Coherent)
    {receipt : RegistrationReceipt} : receipt ∈ part.receipts ↔
      ∃ record, part.record = some record ∧ record.state.published = true ∧
        record.registrationReceipt = some receipt := by
  unfold PluginPart.Coherent at coherent
  cases found : part.record with
  | none =>
    rw [found] at coherent
    have unpublished : part.receipts = [] := coherent
    simp [unpublished]
  | some record =>
    rw [found] at coherent
    cases published : record.state.published with
    | true =>
      obtain ⟨carried, given, -, receipts⟩ : ∃ carried,
          record.registrationReceipt = some carried ∧ carried.Covers record.manifest ∧
            part.receipts = [carried] := by simpa [published] using coherent
      constructor
      · intro member
        rw [receipts, List.mem_singleton] at member
        exact ⟨record, rfl, published, by rw [given, member]⟩
      · rintro ⟨other, same, -, held⟩
        cases same
        rw [receipts, List.mem_singleton]
        exact Option.some.inj (held.symm.trans given)
    | false =>
      have unpublished : part.receipts = [] := by simpa [published] using coherent
      constructor
      · intro member
        rw [unpublished] at member
        cases member
      · rintro ⟨other, same, live, -⟩
        cases same
        rw [published] at live
        cases live

theorem PluginPart.Coherent.covers (coherent : part.Coherent) {record : PluginStateRecord}
    {receipt : RegistrationReceipt} (found : part.record = some record)
    (member : receipt ∈ part.receipts) : receipt.Covers record.manifest := by
  unfold PluginPart.Coherent at coherent
  rw [found] at coherent
  cases published : record.state.published with
  | true =>
    obtain ⟨carried, -, covers, receipts⟩ : ∃ carried,
        record.registrationReceipt = some carried ∧ carried.Covers record.manifest ∧
          part.receipts = [carried] := by simpa [published] using coherent
    rw [receipts, List.mem_singleton] at member
    rw [member]
    exact covers
  | false =>
    have unpublished : part.receipts = [] := by simpa [published] using coherent
    rw [unpublished] at member
    cases member

end Coherent

/-- A registration is its receipt's, and its receipt is live. -/
theorem RegistryHistory.Sound.owns_iff {history : RegistryHistory} (sound : history.Sound)
    (separates : SeparatesDigests history.issued) {receipt : RegistrationReceipt}
    (issued : receipt ∈ history.issued) {key : CapabilityKey} :
    history.registry.owns receipt key = true ↔
      history.Live receipt ∧ key ∈ receipt.capabilityKeys := by
  constructor
  · intro owns
    obtain ⟨registration, found, -, identity⟩ := CapabilityRegistry.owns_iff.mp owns
    obtain ⟨holder, live, member⟩ := sound.held key registration found
    obtain ⟨other, foundOther, -, otherIdentity⟩ :=
      CapabilityRegistry.owns_iff.mp (sound.published holder live key member)
    have same : registration = other := Option.some.inj (found.symm.trans foundOther)
    have identities : holder.registrationId = receipt.registrationId := by
      rw [← identity, ← otherIdentity, same]
    have equal := sound.identity separates live.1 issued identities
    subst equal
    exact ⟨live, member⟩
  · intro held
    exact sound.published receipt held.1 key held.2

theorem PluginShared.agrees {world : PluginWorld τ} {journal : PluginJournal} {plugin : String}
    (shared : PluginShared (world, journal))
    (coherent : (pluginPart plugin (world, journal)).Coherent) : world.Agrees plugin := by
  have sound : world.history.Sound := shared.sound
  have separates : SeparatesDigests world.history.issued := shared.separates
  have live : ∀ receipt, (world.history.Live receipt ∧ receipt.owner.name = plugin) ↔
      world.Carries plugin receipt := by
    intro receipt
    rw [← RegistryHistory.mem_liveOf]
    apply coherent.mem_receipts.trans
    simp only [PluginLifecycleState.published_iff]
    rfl
  refine ⟨live, ?_, ?_⟩
  · intro receipt issued named key
    rw [sound.owns_iff separates issued]
    constructor
    · intro held
      have listed := RegistryHistory.mem_liveOf.mpr ⟨held.1, named⟩
      obtain ⟨record, found, published, given⟩ := (live receipt).mp ⟨held.1, named⟩
      have covers := coherent.covers found listed
      exact ⟨⟨record, found, published, given⟩, record, found, (covers.keys key).mp held.2⟩
    · intro held
      obtain ⟨carries, record, found, declared⟩ := held
      obtain ⟨outstanding, -⟩ := (live receipt).mpr carries
      have listed := RegistryHistory.mem_liveOf.mpr ⟨outstanding, named⟩
      have covers := coherent.covers found listed
      exact ⟨outstanding, (covers.keys key).mpr declared⟩
  · intro key registration found named
    obtain ⟨receipt, outstanding, member⟩ := sound.held key registration found
    have owns := sound.published receipt outstanding key member
    obtain ⟨other, foundOther, owner, -⟩ := CapabilityRegistry.owns_iff.mp owns
    have same : registration = other := Option.some.inj (found.symm.trans foundOther)
    have held : receipt.owner.name = plugin := by
      rw [← owner, ← same]
      exact named
    exact ⟨receipt, (live receipt).mp ⟨outstanding, held⟩, owns⟩

/-- Nothing of the Plugin is published: its receipts are retired, and the registry holds no
registration that it owns. -/
def RegistryHistory.Withdrawn (history : RegistryHistory) (plugin : String) : Prop :=
  (∀ receipt ∈ history.issued, receipt.owner.name = plugin →
    receipt.registrationId ∈ history.registry.retiredReceipts) ∧
  ∀ key registration, history.registry.registrations.get? key = some registration →
    registration.owner.name ≠ plugin

theorem RegistryHistory.Sound.withdrawn {history : RegistryHistory} {plugin : String}
    (sound : history.Sound) (unpublished : history.liveOf plugin = []) :
    history.Withdrawn plugin := by
  have dead : ∀ receipt, ¬(history.Live receipt ∧ receipt.owner.name = plugin) := by
    intro receipt live
    have listed := mem_liveOf.mpr live
    rw [unpublished] at listed
    cases listed
  constructor
  · intro receipt issued named
    by_contra outstanding
    exact dead receipt ⟨⟨issued, outstanding⟩, named⟩
  · intro key registration found named
    obtain ⟨receipt, live, member⟩ := sound.held key registration found
    obtain ⟨other, foundOther, owner, -⟩ :=
      CapabilityRegistry.owns_iff.mp (sound.published receipt live key member)
    have same : registration = other := Option.some.inj (found.symm.trans foundOther)
    apply dead receipt
    refine ⟨live, ?_⟩
    rw [← owner, ← same]
    exact named

/-- The order of teardown, and what operations leave. -/
structure TearsDown (threads : ℕ → PluginThread)
    (configuration : Configuration PluginInterface Raised PluginStateRecord (PluginState τ)) :
    Prop where
  /-- A hook is not run again, and the unload hook only after everything is unregistered. -/
  hooks : ∀ thread prepared hook context resume,
    configuration.threads[thread]? = some (.await (.runHook prepared hook context) resume) →
      .hook hook ∉ (configuration.state.2.logs (threads thread).plugin).progress ∧
      (hook = .onUnload →
        configuration.state.1.history.Withdrawn (threads thread).plugin)
  /-- Neither is a handle cleaned up again, nor before everything is unregistered. -/
  cleanups : ∀ thread prepared context resume,
    configuration.threads[thread]? = some (.await (.cleanup prepared context) resume) →
      .cleaned prepared.handle ∉ (configuration.state.2.logs (threads thread).plugin).progress ∧
      configuration.state.1.history.Withdrawn (threads thread).plugin
  committed : ∀ plugin, configuration.state.1.records.get? plugin =
    (configuration.state.2.logs plugin).committed
  /-- A Plugin that nobody operates on has its handle where its state asks for one. -/
  staged : ∀ plugin, configuration.state.1.locks.get? plugin = none →
    (pluginPart plugin configuration.state).Staged
  failed : ∀ thread error, configuration.threads[thread]? = some (.raise error) →
    ∃ outcome, configuration.state.2.outcomes thread = some outcome ∧
      (threads thread).call.Retryable outcome

/-- A Plugin is torn down in order, makes progress, and can be operated on after any failure. -/
theorem tears_down {initial : τ}
    {configuration : Configuration PluginInterface Raised PluginStateRecord (PluginState τ)}
    (reached : (pluginPool publisher initial threads).Reachable configuration) :
    TearsDown threads configuration := by
  have meets := plugin_meets publisher initial threads
  have starts := starts_empty publisher initial threads
  have guarded := starts.guarded reached
  obtain ⟨kept, -⟩ := meets.reachable guarded
  refine ⟨?_, ?_, kept.shared.committed, ?_, ?_⟩
  · intro thread prepared hook context resume found
    rcases starts.suspended meets reached found with admits | waits
    · obtain ⟨-, fresh, unpublished⟩ := admits
      exact ⟨fresh, fun unload => kept.shared.sound.withdrawn (unpublished unload)⟩
    · cases waits
  · intro thread prepared context resume found
    rcases starts.suspended meets reached found with admits | waits
    · obtain ⟨-, fresh, unpublished⟩ := admits
      exact ⟨fresh, kept.shared.sound.withdrawn unpublished⟩
    · cases waits
  · intro plugin free
    exact (kept.settled plugin free).staged
  · intro thread error found
    exact (meets.raised guarded found).2.raises error rfl

end Operations

section Samples

open SampleParameters

/-- A Plugin of one tool, with a hook on its activation. -/
def toolManifest : PluginManifest :=
  ⟨⟨"sample.plugin", .release 1 0 0⟩, [sampleTool], [], [], [.onActivate], "", by decide, List.nodup_nil⟩

def toolManager : PluginManager where
  pluginId := "sample.plugin"
  authorization := ⟨[pluginLoadAction, pluginActivateAction], true⟩
  checkLocal _ := .ok ()

def keyedContext (key : IdempotencyKey) : RuntimeCallContext :=
  { sampleContext with idempotencyKey := some key }

/-- The Plugin is loaded by the first call and activated by the second. -/
def toolThreads : ℕ → PluginThread
  | 0 => {
      manager := toolManager
      call := .load toolManifest
      context := keyedContext ⟨"key-1", by decide⟩
      principal := samplePrincipal
      named := by
        intro manifest given
        cases given
        rfl }
  | _ => {
      manager := toolManager
      call := .activate
      context := keyedContext ⟨"key-2", by decide⟩
      principal := samplePrincipal
      named := nofun }

def silentPublisher : PluginEventPublisher Unit := ⟨fun _ _ _ _ => True⟩

/-- Everything succeeds. -/
def toolChoice : (op : PluginOp) → Except Raised op.Answer × Unit
  | .cancelled _ => (.ok false, ())
  | .now => (.ok sampleTime, ())
  | .newToken => (.ok ⟨"token-2", by decide⟩, ())
  | .authorize request => (.ok (allowing request), ())
  | .activeLeaseCount => (.ok 0, ())
  | .activePluginRefs => (.ok [], ())
  | .transitionRequested _ _ _ _ _ _ | .lifecycleChanged _ _ _ _ _ _ | .runHook _ _ _ => (.ok (), ())
  | .prepare manifest _ => (.ok ⟨1, manifest, manifest.provides, manifest.lifecycle.contains⟩, ())
  | _ => (.error (.value ""), ())

def toolPermitted (thread : ℕ) (state : PluginState Unit) : PluginOp → Bool
  | .acquireOperationLock => (state.1.locks.get? (toolThreads thread).plugin).isNone
  | .commitRegistration _ => state.1.history.issued.isEmpty
  | .prepare _ _ => decide (.prepared 1 ∉ (state.2.logs (toolThreads thread).plugin).progress)
  | .lifecycleFailed _ _ _ _ _ _ _ => false
  | _ => true

def toolPool : Pool PluginInterface Raised PluginStateRecord (PluginState Unit) :=
  pluginPool silentPublisher () toolThreads

def activated : Configuration PluginInterface Raised PluginStateRecord (PluginState Unit) :=
  toolPool.execute (fun _ op _ => toolChoice op) (fun thread op state => toolPermitted thread state op)
    (List.replicate 60 0 ++ List.replicate 60 1)
    ⟨(.empty (), .empty), [(toolThreads 0).run, (toolThreads 1).run]⟩

/-- Nothing collides on the first registration of a process. -/
theorem separatesDigests_first {history : RegistryHistory} (first : history.issued = [])
    (plan : CapabilityRegistrationPlan) :
    SeparatesDigests (history.perform (.commit plan history.registry.version)).issued := by
  intro one member two other _
  rcases history.perform_commit_cases plan history.registry.version with
    ⟨_, -, same⟩ | ⟨-, -, same⟩
  · rw [same, first] at member
    cases member
  · rw [same, RegistryHistory.committed, first] at member other
    rw [List.mem_singleton.mp member, List.mem_singleton.mp other]

theorem toolChoice_permitted (thread : ℕ) (op : PluginOp) (state : PluginState Unit)
    (permitted : toolPermitted thread state op = true) :
    (toolPool.environment thread).permits op (toolChoice op) state := by
  have exceptions : ∀ error, (toolChoice op).1 = .error error → error.isException = true := by
    intro error raised
    cases op <;> cases raised <;> rfl
  refine ⟨⟨exceptions, ?_⟩, ?_⟩
  · cases op with
    | cancelled token => exact ⟨_, rfl⟩
    | now => exact ⟨_, rfl⟩
    | newToken => exact ⟨_, rfl⟩
    | acquireOperationLock => exact Option.isNone_iff_eq_none.mp permitted
    | commitRegistration plan =>
      exact separatesDigests_first (List.isEmpty_iff.mp permitted) plan
    | _ => trivial
  · cases op with
    | prepare manifest context =>
      intro prepared given
      cases given
      exact of_decide_eq_true permitted
    | _ => trivial

theorem activated_reachable : toolPool.Reachable activated := by
  have started : toolPool.Reachable ⟨(.empty (), .empty), [(toolThreads 0).run]⟩ :=
    .move (.initial rfl) (.start ⟨rfl, rfl⟩)
  have both : toolPool.Reachable ⟨(.empty (), .empty), [(toolThreads 0).run, (toolThreads 1).run]⟩ :=
    .move started (.start ⟨rfl, rfl⟩)
  exact Pool.execute_reachable toolChoice_permitted _ both

/-- No call is suspended. -/
def atRest (threads : List (PluginProgram PluginStateRecord)) : Bool :=
  threads.all fun
    | .await _ _ => false
    | _ => true

theorem activated_outside (thread : ℕ) (op : PluginOp)
    (resume : Except Raised op.Answer → PluginProgram PluginStateRecord) :
    activated.threads[thread]? ≠ some (.await op resume) := by
  intro found
  have rests : atRest activated.threads = true := by decide +kernel
  have ended := List.all_eq_true.mp rests _ (List.mem_of_getElem? found)
  cases ended

theorem activated_tears_down : TearsDown toolThreads activated :=
  tears_down activated_reachable

end Samples

end CongeriesCore
