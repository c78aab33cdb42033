import CongeriesCore.PluginLocking

/-! # Triples of the plugin operations

One for each kind of operation: what it leaves of the Plugin whose lock the thread holds. -/

namespace CongeriesCore

open AsyncProgram PluginLifecycleController

variable {τ : Type} [Sha256] {publisher : PluginEventPublisher τ} {threads : ℕ → PluginThread}
  {plugin : String} {thread : ℕ} {part : PluginPart} {world : PluginWorld τ}
  {journal : PluginJournal}

namespace PluginWorld

theorem touches_publisher (shared : PluginShared (world, journal)) (next : τ) :
    world.Touches plugin { world with publisher := next } :=
  ⟨rfl, fun _ _ => rfl, fun _ _ => rfl, fun _ _ => rfl, shared.sound, shared.separates⟩

theorem touches_self (shared : PluginShared (world, journal)) : world.Touches plugin world :=
  ⟨rfl, fun _ _ => rfl, fun _ _ => rfl, fun _ _ => rfl, shared.sound, shared.separates⟩

theorem touches_records (shared : PluginShared (world, journal)) (record : PluginStateRecord) :
    world.Touches plugin { world with records := world.records.set plugin record } :=
  ⟨rfl, fun _ distinct => Dict.get?_set_of_ne _ (Ne.symm distinct) _, fun _ _ => rfl,
    fun _ _ => rfl, shared.sound, shared.separates⟩

theorem touches_prepared (shared : PluginShared (world, journal))
    {prepared : Dict String PreparedPlugin}
    (others : ∀ other, other ≠ plugin → prepared.get? other = world.prepared.get? other) :
    world.Touches plugin { world with prepared } :=
  ⟨rfl, fun _ _ => rfl, others, fun _ _ => rfl, shared.sound, shared.separates⟩

end PluginWorld

/-- An operation that leaves the Plugin as it is, whatever it answers. -/
def PluginOp.still : PluginOp → Bool
  | .cancelled _ | .now | .newToken | .authorize _ | .authorizationDenied _ _
  | .crossScopeGranted _ _ | .auditFailed _ _ | .activeLeaseCount | .noLeases | .waitForChange
  | .activePluginRefs | .registrySnapshot | .transitionRequested _ _ _ _ _ _
  | .lifecycleChanged _ _ _ _ _ _ | .lifecycleFailed _ _ _ _ _ _ _ => true
  | _ => false

namespace PluginOp

variable {op : PluginOp}

theorem answer_still (still : op.still = true) {choice : Except Raised op.Answer × τ}
    {outcome : Except Raised op.Answer} {after : PluginWorld τ}
    (answered : world.answer plugin thread op choice = (outcome, after)) :
    (∃ next, after = { world with publisher := next }) ∧
      ∀ error, outcome = .error error → choice.1 = .error error := by
  obtain ⟨first, second⟩ := choice
  cases op <;> first
    | exact (Bool.false_ne_true still).elim
    | (cases answered; exact ⟨⟨world.publisher, rfl⟩, fun _ failed => failed⟩)
    | (cases answered; exact ⟨⟨world.publisher, rfl⟩, fun _ failed => by cases failed⟩)
    | (cases answered; exact ⟨⟨second, rfl⟩, fun _ failed => failed⟩)

omit [Sha256] in
theorem log_still (still : op.still = true) {log : PluginLog} (calm : log.checking = none)
    (current : Option PluginStateRecord) (outcome : Except Raised op.Answer) :
    log.after current op outcome = log.settled := by
  obtain ⟨progress, checking, committed, entered⟩ := log
  cases calm
  cases op <;> first
    | exact (Bool.false_ne_true still).elim
    | rfl
    | (cases outcome <;> rfl)

omit [Sha256] in
theorem admits_still (still : op.still = true) (coherent : part.Coherent) : part.Admits op := by
  cases op <;> first
    | exact (Bool.false_ne_true still).elim
    | exact coherent

omit [Sha256] in
theorem releases_still (still : op.still = true) : op.releases = false := by
  cases op <;> first
    | exact (Bool.false_ne_true still).elim
    | rfl

end PluginOp

theorem runs_still {op : PluginOp} (still : op.still = true) (calm : part.log.checking = none)
    (coherent : part.Coherent) : Runs publisher threads thread (pluginOp op) part
      (fun _ next => next = part) part.Unharmed := by
  apply runs_op (PluginOp.releases_still still) (PluginOp.admits_still still coherent)
  intro world journal shared here choice permits _ outcome after answered
  obtain ⟨⟨next, rfl⟩, raised⟩ := PluginOp.answer_still still answered
  have kept : PluginWorld.partAfter { world with publisher := next } (threads thread).plugin part op
      outcome = part := by
    rw [PluginWorld.partAfter, PluginOp.log_still still calm, ← here]
    rw [← here] at calm
    exact PluginPart.logged_settled calm
  rw [kept]
  refine ⟨PluginWorld.touches_publisher shared next, ?_, ?_⟩
  · rw [← here]
    exact shared.committed _
  · cases outcome with
    | ok result => rfl
    | error error => exact ⟨permits.1 error (raised error rfl), rfl⟩

/-- An operation that only reads the world. -/
theorem runs_read {op : PluginOp} {value : op.Answer → PluginPart → Prop}
    {failed : Raised → PluginPart → Prop} (working : op.releases = false) (admits : part.Admits op)
    (reads : ∀ (world : PluginWorld τ) choice,
      (world.answer (threads thread).plugin thread op choice).2 = world)
    (uncommitted : ∀ outcome,
      (part.log.after part.record op outcome).committed = part.log.committed)
    (ends : ∀ (world : PluginWorld τ) journal choice,
      pluginPart (threads thread).plugin (world, journal) = part →
      world.permits publisher (threads thread).plugin op choice →
      PluginJournal.allows (threads thread).plugin op choice (world, journal) →
      Locking.Makes value failed (world.answer (threads thread).plugin thread op choice).1
        (part.logged (part.log.after part.record op
          (world.answer (threads thread).plugin thread op choice).1))) :
    Runs publisher threads thread (pluginOp op) part value failed := by
  apply runs_op working admits
  intro world journal shared here choice permits allows outcome after answered
  have same := reads world choice
  have ended := ends world journal choice here permits allows
  rw [answered] at same ended
  dsimp only at same ended
  subst same
  have kept : after.partAfter (threads thread).plugin part op outcome =
      part.logged (part.log.after part.record op outcome) := by
    rw [← here]
    rfl
  rw [kept]
  refine ⟨PluginWorld.touches_self shared, ?_, ended⟩
  change part.record = (part.log.after part.record op outcome).committed
  rw [uncommitted, ← here]
  exact shared.committed _

omit [Sha256] in
theorem PluginLog.tokenRead_committed (log : PluginLog) (isCancelled : Bool) :
    (log.tokenRead isCancelled).committed = log.committed := by
  unfold PluginLog.tokenRead
  split
  · rfl
  · split <;> rfl
  · split <;> rfl

omit [Sha256] in
theorem PluginLog.clockRead_committed (log : PluginLog) (time : DateTime) :
    (log.clockRead time).committed = log.committed := by
  unfold PluginLog.clockRead
  split
  · split <;> rfl
  · rfl

theorem runs_cancelled (token : CancellationId) (coherent : part.Coherent) :
    Runs publisher threads thread (pluginOp (.cancelled token)) part
      (fun isCancelled next => next = part.logged (part.log.tokenRead isCancelled))
      (fun _ _ => False) := by
  have admits : part.Admits (.cancelled token) := coherent
  apply runs_read rfl admits
  · intro world choice
    rfl
  · intro outcome
    cases outcome with
    | ok isCancelled => exact PluginLog.tokenRead_committed _ _
    | error error => rfl
  · intro world journal choice here permits allows
    obtain ⟨outcome, publisher⟩ := choice
    obtain ⟨-, isCancelled, rfl⟩ := permits
    rfl

theorem runs_now (coherent : part.Coherent) :
    Runs publisher threads thread (pluginOp .now) part
      (fun time next => next = part.logged (part.log.clockRead time)) (fun _ _ => False) := by
  have admits : part.Admits .now := coherent
  apply runs_read rfl admits
  · intro world choice
    rfl
  · intro outcome
    cases outcome with
    | ok time => exact PluginLog.clockRead_committed _ _
    | error error => rfl
  · intro world journal choice here permits allows
    obtain ⟨outcome, publisher⟩ := choice
    obtain ⟨-, time, rfl⟩ := permits
    rfl

/-! ### Provider calls -/

theorem runs_checkActive (context : RuntimeCallContext) (calm : part.log.checking = none)
    (coherent : part.Coherent) : Runs publisher threads thread context.checkActive part
      (fun _ next => next = part) (fun _ next => next = part) := by
  unfold RuntimeCallContext.checkActive
  have read : Runs publisher threads thread (RuntimeControl.cancelled context.cancellation) part
      (fun _ next => next = part) (fun _ next => next = part) :=
      (runs_still rfl calm coherent).weaken (fun _ _ same => same) fun _ _ lost => lost.2
  apply read.bind
  intro isCancelled next same
  subst same
  split
  · exact Locking.triple_raise rfl
  · split
    · exact Locking.triple_ret rfl
    · have clock : Runs publisher threads thread RuntimeControl.now next
          (fun _ later => later = next) (fun _ later => later = next) :=
      (runs_still rfl calm coherent).weaken (fun _ _ same => same) fun _ _ lost => lost.2
      apply clock.bind
      intro time later same
      subst same
      split
      · exact Locking.triple_raise rfl
      · exact Locking.triple_ret rfl

namespace PluginLog

variable {log : PluginLog} {item : Progress} {context : RuntimeCallContext}

omit [Sha256] in
theorem completes_cancelled (log : PluginLog) (item : Progress) (context : RuntimeCallContext)
    (calm : log.checking = none) : (log.completes item context).tokenRead true = log := by
  obtain ⟨progress, checking, committed, entered⟩ := log
  cases calm
  unfold tokenRead completes
  cases context.deadline <;> rfl

omit [Sha256] in
theorem completes_unbounded (log : PluginLog) (item : Progress) (unbounded : context.deadline = none) :
    (log.completes item context).tokenRead false =
      { log with progress := item :: log.progress, checking := none } := by
  unfold tokenRead completes
  rw [unbounded]
  rfl

omit [Sha256] in
theorem completes_bounded (log : PluginLog) (item : Progress) {deadline : Deadline}
    (bounded : context.deadline = some deadline) :
    (log.completes item context).tokenRead false = log.completes item context := by
  unfold tokenRead completes
  rw [bounded]
  rfl

omit [Sha256] in
theorem completes_late (log : PluginLog) (item : Progress) {deadline : Deadline} {time : DateTime}
    (calm : log.checking = none) (bounded : context.deadline = some deadline)
    (late : deadline.at_ ≤ time) : (log.completes item context).clockRead time = log := by
  obtain ⟨progress, checking, committed, entered⟩ := log
  cases calm
  unfold clockRead completes
  rw [bounded]
  exact if_pos late

omit [Sha256] in
theorem completes_early (log : PluginLog) (item : Progress) {deadline : Deadline} {time : DateTime}
    (bounded : context.deadline = some deadline) (early : ¬ deadline.at_ ≤ time) :
    (log.completes item context).clockRead time =
      { log with progress := item :: log.progress, checking := none } := by
  unfold clockRead completes
  rw [bounded]
  exact if_neg early

end PluginLog

/-- The check after a completion: the completion counts if the check passes. -/
theorem runs_checkCompletion (item : Progress) (context : RuntimeCallContext)
    (calm : part.log.checking = none) (coherent : part.Coherent) :
    Runs publisher threads thread context.checkActive
      (part.logged (part.log.completes item context))
      (fun _ next => next = part.progressed item) (fun _ next => next = part) := by
  have checked : (part.logged (part.log.completes item context)).Coherent := coherent
  unfold RuntimeCallContext.checkActive
  have read : Runs publisher threads thread (RuntimeControl.cancelled context.cancellation)
      (part.logged (part.log.completes item context)) (fun isCancelled next => next =
        part.logged ((part.log.completes item context).tokenRead isCancelled))
      (fun _ next => next = part) :=
    (runs_cancelled context.cancellation checked).weaken (fun _ _ same => same) fun _ _ lost => lost.elim
  apply read.bind
  intro isCancelled next same
  subst same
  cases isCancelled with
  | true =>
    rw [if_pos rfl, part.log.completes_cancelled item context calm]
    exact Locking.triple_raise rfl
  | false =>
    rw [if_neg (by simp)]
    split
    · rename_i unbounded
      rw [part.log.completes_unbounded item unbounded]
      exact Locking.triple_ret rfl
    · rename_i deadline bounded
      rw [part.log.completes_bounded item bounded]
      have clock : Runs publisher threads thread RuntimeControl.now
          (part.logged (part.log.completes item context)) (fun time next => next =
            part.logged ((part.log.completes item context).clockRead time))
          (fun _ next => next = part) :=
        (runs_now checked).weaken (fun _ _ same => same) fun _ _ lost => lost.elim
      apply clock.bind
      intro time next same
      subst same
      split
      · rename_i late
        rw [part.log.completes_late item calm bounded late]
        exact Locking.triple_raise rfl
      · rename_i early
        rw [part.log.completes_early item bounded early]
        exact Locking.triple_ret rfl

/-- A provider call whose completion is progress, if it is in time. -/
theorem runs_completing {op : PluginOp} {item : Progress} {context : RuntimeCallContext}
    (calm : part.log.checking = none) (coherent : part.Coherent)
    (operation : Runs publisher threads thread (pluginOp op) part
      (fun _ next => next = part.logged (part.log.completes item context)) part.Unharmed) :
    Runs publisher threads thread (context.awaitProvider (pluginOp op)) part
      (fun _ next => next = part.progressed item) (fun _ next => next = part) := by
  unfold RuntimeCallContext.awaitProvider
  apply (runs_checkActive context calm coherent).bind
  intro _ next same
  subst same
  apply (operation.weaken (fun _ _ same => same) fun _ _ lost => lost.2).bind
  intro _ later same
  subst same
  apply (runs_checkCompletion item context calm coherent).bind
  intro _ last same
  exact Locking.triple_ret same

/-- An operation of the loader or of a hook that answers, or raises and leaves no trace. -/
theorem runs_provider {op : PluginOp} {value : op.Answer → PluginPart → Prop}
    (working : op.releases = false) (admits : part.Admits op) (calm : part.log.checking = none)
    (reads : ∀ (world : PluginWorld τ) choice,
      world.answer (threads thread).plugin thread op choice = (choice.1, world))
    (unlogged : ∀ error, part.log.after part.record op (.error error) = part.log.settled)
    (uncommitted : ∀ result,
      (part.log.after part.record op (.ok result)).committed = part.log.committed)
    (values : ∀ (world : PluginWorld τ) journal choice result,
      pluginPart (threads thread).plugin (world, journal) = part → choice.1 = .ok result →
      PluginJournal.allows (threads thread).plugin op choice (world, journal) →
      value result (part.logged (part.log.after part.record op (.ok result)))) :
    Runs publisher threads thread (pluginOp op) part value part.Unharmed := by
  apply runs_read working admits
  · intro world choice
    rw [reads]
  · intro outcome
    cases outcome with
    | ok result => exact uncommitted result
    | error error => rw [unlogged]; rfl
  · intro world journal choice here permits allows
    rw [reads]
    obtain ⟨outcome, publisher⟩ := choice
    cases outcome with
    | ok result => exact values world journal _ result here rfl allows
    | error error =>
      refine ⟨permits.1 error rfl, ?_⟩
      rw [unlogged]
      exact PluginPart.logged_settled calm

theorem runs_hook (prepared : PreparedPlugin) (hook : PluginHookName) (context : RuntimeCallContext)
    (calm : part.log.checking = none) (coherent : part.Coherent)
    (once : .hook hook ∉ part.log.progress)
    (withdrawn : hook = .onUnload → part.receipts = []) :
    Runs publisher threads thread (context.awaitProvider (pluginOp (.runHook prepared hook context)))
      part (fun _ next => next = part.progressed (.hook hook)) (fun _ next => next = part) := by
  apply runs_completing calm coherent
  have admits : part.Admits (.runHook prepared hook context) := ⟨coherent, once, withdrawn⟩
  apply runs_provider rfl admits calm
  · intro world choice
    rfl
  · intro error
    rfl
  · intro result
    rfl
  · intro world journal choice result here answered allows
    rfl

/-- A cleanup that nothing checks afterwards. -/
theorem runs_cleanup (prepared : PreparedPlugin) (context : RuntimeCallContext)
    (calm : part.log.checking = none) (coherent : part.Coherent)
    (once : .cleaned prepared.handle ∉ part.log.progress) (withdrawn : part.receipts = []) :
    Runs publisher threads thread (pluginOp (.cleanup prepared context)) part
      (fun _ next => next =
        part.logged (part.log.completes (.cleaned prepared.handle) context))
      part.Unharmed := by
  have admits : part.Admits (.cleanup prepared context) := ⟨coherent, once, withdrawn⟩
  apply runs_provider rfl admits calm
  · intro world choice
    rfl
  · intro error
    rfl
  · intro result
    rfl
  · intro world journal choice result here answered allows
    rfl

/-- The handle is new, whether or not the call is in time for it. -/
theorem runs_prepare (manifest : PluginManifest) (context : RuntimeCallContext)
    (calm : part.log.checking = none) (coherent : part.Coherent) :
    Runs publisher threads thread (context.awaitProvider (pluginOp (.prepare manifest context))) part
      (fun prepared next => .prepared prepared.handle ∉ part.log.progress ∧
        next = part.progressed (.prepared prepared.handle))
      (fun _ next => next = part ∨ ∃ handle, next = part.progressed (.prepared handle)) := by
  unfold RuntimeCallContext.awaitProvider
  have admits : part.Admits (.prepare manifest context) := coherent
  have operation : Runs publisher threads thread (pluginOp (.prepare manifest context)) part
      (fun prepared next => .prepared prepared.handle ∉ part.log.progress ∧
        next = part.progressed (.prepared prepared.handle)) part.Unharmed := by
    apply runs_provider rfl admits calm
    · intro world choice
      rfl
    · intro error
      rfl
    · intro result
      rfl
    · intro world journal choice prepared here answered allows
      refine ⟨?_, rfl⟩
      rw [← here]
      exact allows prepared answered
  apply ((runs_checkActive context calm coherent).weaken (fun _ _ same => same)
    fun _ _ same => .inl same).bind
  intro _ next same
  subst same
  apply (operation.weaken (fun _ _ given => given) fun _ _ lost => .inl lost.2).bind
  intro prepared later given
  obtain ⟨fresh, rfl⟩ := given
  have checked : (next.progressed (.prepared prepared.handle)).Coherent := coherent
  apply ((runs_checkActive context rfl checked).weaken (fun _ _ same => same)
    fun _ _ same => .inr ⟨_, same⟩).bind
  intro _ last same
  exact Locking.triple_ret ⟨fresh, same⟩

/-! ### Records and handles -/

omit [Sha256] in
theorem pluginPart_fields (here : pluginPart plugin (world, journal) = part) :
    world.records.get? plugin = part.record ∧ world.prepared.get? plugin = part.prepared ∧
      world.history.liveOf plugin = part.receipts := by
  subst here
  exact ⟨rfl, rfl, rfl⟩

theorem runs_getRecord (calm : part.log.checking = none) (coherent : part.Coherent) :
    Runs publisher threads thread (pluginOp .getRecord) part
      (fun record next => part.record = some record ∧ next = part) (fun _ next => next = part) := by
  have admits : part.Admits .getRecord := coherent
  apply runs_read rfl admits
  · intro world choice
    rfl
  · intro outcome
    rfl
  · intro world journal choice here permits allows
    obtain ⟨records, -, -⟩ := pluginPart_fields here
    have same : part.logged part.log.settled = part := PluginPart.logged_settled calm
    change Locking.Makes _ _ (known (world.records.get? (threads thread).plugin)) (part.logged part.log.settled)
    rw [same, records]
    cases found : part.record with
    | none => rfl
    | some record => exact ⟨rfl, rfl⟩

theorem runs_getPrepared (calm : part.log.checking = none) (coherent : part.Coherent) :
    Runs publisher threads thread (pluginOp .getPrepared) part
      (fun prepared next => prepared = part.prepared ∧ next = part) (fun _ _ => False) := by
  have admits : part.Admits .getPrepared := coherent
  apply runs_read rfl admits
  · intro world choice
    rfl
  · intro outcome
    rfl
  · intro world journal choice here permits allows
    refine ⟨?_, PluginPart.logged_settled calm⟩
    rw [← here]
    rfl

theorem runs_setPrepared (prepared : PreparedPlugin) (calm : part.log.checking = none)
    (coherent : part.Coherent) : Runs publisher threads thread (pluginOp (.setPrepared prepared)) part
      (fun _ next => next = { part with prepared := some prepared }) (fun _ _ => False) := by
  have admits : part.Admits (.setPrepared prepared) := coherent
  apply runs_op rfl admits
  intro world journal shared here choice permits allows outcome after answered
  cases answered
  refine ⟨?_, ?_, ?_⟩
  · exact PluginWorld.touches_prepared shared fun other distinct =>
      Dict.get?_set_of_ne _ (Ne.symm distinct) _
  · rw [← here]
    exact shared.committed _
  · obtain ⟨records, -, live⟩ := pluginPart_fields here
    change PluginPart.mk _ _ _ part.log.settled = _
    rw [records, Dict.get?_set_self, live, PluginLog.settled_eq calm]

theorem runs_forgetPrepared (calm : part.log.checking = none) (coherent : part.Coherent) :
    Runs publisher threads thread (pluginOp .forgetPrepared) part
      (fun _ next => next = { part with prepared := none }) (fun _ _ => False) := by
  have admits : part.Admits .forgetPrepared := coherent
  apply runs_op rfl admits
  intro world journal shared here choice permits allows outcome after answered
  cases answered
  refine ⟨?_, ?_, ?_⟩
  · exact PluginWorld.touches_prepared shared fun other distinct =>
      Dict.get?_erase_of_ne _ (Ne.symm distinct)
  · rw [← here]
    exact shared.committed _
  · obtain ⟨records, -, live⟩ := pluginPart_fields here
    change PluginPart.mk _ _ _ part.log.settled = _
    rw [records, Dict.get?_erase_self, live, PluginLog.settled_eq calm]

/-- A critical section of the controller: what it decides from the record, and its commit. -/
theorem runs_recorded {op : PluginOp}
    (decide : Option PluginStateRecord → Except Raised PluginStateRecord)
    (decode : PluginStateRecord → op.Answer) (working : op.releases = false)
    (admits : part.Admits op) (calm : part.log.checking = none)
    (answers : ∀ (world : PluginWorld τ) choice,
      world.answer (threads thread).plugin thread op choice =
        (((decide (world.records.get? (threads thread).plugin)).map decode),
          (world.recorded (threads thread).plugin
            (decide (world.records.get? (threads thread).plugin))).2))
    (unlogged : ∀ error, part.log.after part.record op (.error error) = part.log.settled)
    (commits : ∀ record, part.log.after part.record op (.ok (decode record)) =
      part.log.commits record) :
    Runs publisher threads thread (pluginOp op) part
      (fun result next => ∃ record, decide part.record = .ok record ∧ result = decode record ∧
        next = part.committing record)
      (fun _ next => (∃ error, decide part.record = .error error) ∧ next = part) := by
  apply runs_op working admits
  intro world journal shared here choice permits allows outcome after answered
  obtain ⟨records, prepared, live⟩ := pluginPart_fields here
  rw [answers, records] at answered
  cases decided : decide part.record with
  | error error =>
    rw [decided] at answered
    cases answered
    have same : world.partAfter (threads thread).plugin part op (.error error) = part := by
      rw [PluginWorld.partAfter, unlogged, records, prepared, live, PluginLog.settled_eq calm]
    refine ⟨PluginWorld.touches_self shared, ?_, ⟨error, rfl⟩, same⟩
    change (world.partAfter (threads thread).plugin part op (.error error)).record =
      (world.partAfter (threads thread).plugin part op (.error error)).log.committed
    rw [same, ← here]
    exact shared.committed _
  | ok record =>
    rw [decided] at answered
    cases answered
    have same : PluginWorld.partAfter
        { world with records := world.records.set (threads thread).plugin record }
        (threads thread).plugin part op (.ok (decode record)) = part.committing record := by
      rw [PluginWorld.partAfter, commits, Dict.get?_set_self, prepared, live]
      rfl
    refine ⟨PluginWorld.touches_records shared record, ?_, ⟨record, rfl, rfl, same⟩⟩
    have tracked : (part.committing record).record = (part.committing record).log.committed := rfl
    rw [← same] at tracked
    exact tracked

theorem runs_discover (manifest : PluginManifest) (calm : part.log.checking = none)
    (coherent : part.Coherent) : Runs publisher threads thread (pluginOp (.discover manifest)) part
      (fun record next => discovered part.record manifest = .ok record ∧
        next = part.committing record) (fun _ next => next = part) := by
  have admits : part.Admits (.discover manifest) := coherent
  have critical : Runs publisher threads thread (pluginOp (.discover manifest)) part
      (fun result next => ∃ record,
        discovered part.record manifest = .ok record ∧ result = record ∧
          next = part.committing record)
      (fun _ next => (∃ error,
        discovered part.record manifest = .error error) ∧ next = part) := by
    apply runs_recorded (fun current => discovered current manifest) id rfl
      admits calm
    · intro world choice
      change world.recorded _ _ = _
      cases discovered _ manifest <;> rfl
    · intro error
      rfl
    · intro record
      rfl
  apply critical.weaken
  · intro result next given
    obtain ⟨record, found, rfl, same⟩ := given
    exact ⟨found, same⟩
  · intro error next given
    exact given.2

theorem runs_transition {record : PluginStateRecord} (target : PluginLifecycleState)
    (receipt : Option RegistrationReceipt) (clearReceipt : Bool)
    (found : part.record = some record) (allowed : target ∈ record.state.allowed)
    (calm : part.log.checking = none)
    (admits : part.Admits (.transition target record.stateVersion receipt clearReceipt)) :
    Runs publisher threads thread
      (pluginOp (.transition target record.stateVersion receipt clearReceipt)) part
      (fun result next =>
        result = moved record target receipt clearReceipt ∧
        next = part.committing (moved record target receipt clearReceipt))
      (fun _ _ => False) := by
  have checked : checkTransition record target (some record.stateVersion) = .ok () := by
    simp [checkTransition, ensure, allowed]
    rfl
  have decided : transitioned part.record target record.stateVersion receipt clearReceipt =
      .ok (moved record target receipt clearReceipt) := by
    rw [found]
    change (checkTransition record target (some record.stateVersion) >>= fun _ => _) = _
    rw [checked]
    rfl
  have critical : Runs publisher threads thread
      (pluginOp (.transition target record.stateVersion receipt clearReceipt)) part
      (fun result next => ∃ changed, transitioned part.record target record.stateVersion receipt
        clearReceipt = .ok changed ∧ result = changed ∧ next = part.committing changed)
      (fun _ next => (∃ error, transitioned part.record target record.stateVersion receipt
        clearReceipt = .error error) ∧ next = part) := by
    apply runs_recorded (fun current => transitioned current target record.stateVersion receipt
      clearReceipt) id rfl admits calm
    · intro world choice
      change world.recorded _ _ = _
      cases transitioned _ target record.stateVersion receipt clearReceipt <;> rfl
    · intro error
      rfl
    · intro record
      rfl
  rw [decided] at critical
  apply critical.weaken
  · intro result next given
    obtain ⟨changed, same, rfl, kept⟩ := given
    cases same
    exact ⟨rfl, kept⟩
  · intro error next given
    obtain ⟨⟨error, impossible⟩, -⟩ := given
    cases impossible

theorem runs_markHook {record : PluginStateRecord} (hook : PluginHookName)
    (found : part.record = some record) (calm : part.log.checking = none)
    (coherent : part.Coherent) :
    Runs publisher threads thread (pluginOp (.markHook hook)) part
      (fun result next => result = marked record hook ∧ next = part.committing (marked record hook))
      (fun _ _ => False) := by
  have admits : part.Admits (.markHook hook) := coherent
  have critical : Runs publisher threads thread (pluginOp (.markHook hook)) part
      (fun result next => ∃ changed, hookMarked part.record hook = .ok changed ∧ result = changed ∧
        next = part.committing changed)
      (fun _ next => (∃ error, hookMarked part.record hook = .error error) ∧ next = part) := by
    apply runs_recorded (fun current => hookMarked current hook) id rfl admits calm
    · intro world choice
      change world.recorded _ _ = _
      cases hookMarked _ hook <;> rfl
    · intro error
      rfl
    · intro record
      rfl
  rw [found] at critical
  apply critical.weaken
  · intro result next given
    obtain ⟨changed, same, rfl, kept⟩ := given
    cases same
    exact ⟨rfl, kept⟩
  · intro error next given
    obtain ⟨⟨error, impossible⟩, -⟩ := given
    cases impossible

/-! ### The registry -/

namespace RegistryHistory

variable {history : RegistryHistory} {receipt : RegistrationReceipt}

omit [Sha256] in
theorem mem_liveOf : receipt ∈ history.liveOf plugin ↔
    history.Live receipt ∧ receipt.owner.name = plugin := by
  simp only [liveOf, List.mem_filter, decide_eq_true_eq, Live]
  tauto

theorem liveOf_committed (sound : history.Sound) {plan : CapabilityRegistrationPlan}
    (separates : SeparatesDigests (history.committed plan).issued) :
    (history.committed plan).liveOf plugin =
      if plan.owner.name = plugin then
        plan.receipt (history.registry.version + 1) :: history.liveOf plugin
      else history.liveOf plugin := by
  have unretired := sound.unretired separates
  have kept : ∀ receipts : List RegistrationReceipt, receipts.filter (fun receipt =>
      receipt.owner.name = plugin ∧
        receipt.registrationId ∉ (history.committed plan).registry.retiredReceipts) =
      receipts.filter (fun receipt => receipt.owner.name = plugin ∧
        receipt.registrationId ∉ history.registry.retiredReceipts) := fun _ => rfl
  rw [liveOf, kept]
  change List.filter _ (plan.receipt (history.registry.version + 1) :: history.issued) = _
  rw [List.filter_cons]
  have owner : (plan.receipt (history.registry.version + 1)).owner = plan.owner := rfl
  simp only [owner, unretired, not_false_eq_true, and_true, decide_eq_true_eq]
  rfl

theorem liveOf_withdrawn_other (sound : history.Sound)
    (separates : SeparatesDigests history.issued) (live : history.Live receipt)
    (other : receipt.owner.name ≠ plugin) :
    liveOf ⟨history.registry.withdrawn receipt, history.issued⟩ plugin =
      history.liveOf plugin := by
  apply List.filter_congr
  intro holder member
  have distinct : holder.owner.name = plugin → holder.registrationId ≠ receipt.registrationId := by
    intro named same
    have equal := sound.identity separates member live.1 same
    exact other (equal ▸ named)
  simp only [CapabilityRegistry.withdrawn, List.mem_cons, not_or, decide_eq_decide]
  tauto

omit [Sha256] in
theorem liveOf_withdrawn (live : history.liveOf plugin = [receipt]) :
    liveOf ⟨history.registry.withdrawn receipt, history.issued⟩ plugin = [] := by
  apply List.filter_eq_nil_iff.mpr
  intro holder member
  simp only [CapabilityRegistry.withdrawn, List.mem_cons, not_or, decide_eq_true_eq]
  rintro ⟨named, distinct, unretired⟩
  have listed : holder ∈ history.liveOf plugin := mem_liveOf.mpr ⟨⟨member, unretired⟩, named⟩
  rw [live, List.mem_singleton] at listed
  exact distinct (listed ▸ rfl)

end RegistryHistory

/-- A commit is refused, or its receipt is live from now on. -/
theorem runs_commitRegistration (plan : CapabilityRegistrationPlan)
    (own : plan.owner.name = (threads thread).plugin) (calm : part.log.checking = none)
    (coherent : part.Coherent) :
    Runs publisher threads thread (pluginOp (.commitRegistration plan)) part
      (fun receipt next => receipt.owner = plan.owner ∧ receipt.capabilityKeys = plan.keys ∧
        next = { part with receipts := receipt :: part.receipts }) (fun _ next => next = part) := by
  have admits : part.Admits (.commitRegistration plan) := coherent
  apply runs_op rfl admits
  intro world journal shared here choice permits allows outcome after answered
  obtain ⟨records, prepared, live⟩ := pluginPart_fields here
  have separates : SeparatesDigests
    (world.history.perform (.commit plan world.history.registry.version)).issued := permits.2
  have quiet : part.log.settled = part.log := PluginLog.settled_eq calm
  rcases world.history.perform_commit_cases plan world.history.registry.version with
    ⟨error, refused, kept⟩ | ⟨absent, committed, kept⟩
  · have unchanged : world.answer (threads thread).plugin thread (.commitRegistration plan) choice =
        (.error error, world) := by
      change ((world.history.registry.commit plan world.history.registry.version).1,
        { world with history := world.history.perform _ }) = _
      rw [refused, kept]
    rw [unchanged] at answered
    cases answered
    have same : world.partAfter (threads thread).plugin part (.commitRegistration plan)
        (.error error) = part := by
      change PluginPart.mk _ _ _ part.log.settled = _
      rw [records, prepared, live, quiet]
    refine ⟨PluginWorld.touches_self shared, ?_, same⟩
    rw [same, ← here]
    exact shared.committed _
  · rw [kept] at separates
    have published : world.answer (threads thread).plugin thread (.commitRegistration plan) choice =
        (.ok (plan.receipt (world.history.registry.version + 1)),
          { world with history := world.history.committed plan }) := by
      change ((world.history.registry.commit plan world.history.registry.version).1,
        { world with history := world.history.perform _ }) = _
      rw [committed, kept]
    rw [published] at answered
    cases answered
    have same : PluginWorld.partAfter { world with history := world.history.committed plan }
        (threads thread).plugin part (.commitRegistration plan)
        (.ok (plan.receipt (world.history.registry.version + 1))) =
        { part with
          receipts := plan.receipt (world.history.registry.version + 1) :: part.receipts } := by
      change PluginPart.mk _ _ _ part.log.settled = _
      rw [records, prepared, quiet, RegistryHistory.liveOf_committed shared.sound separates,
        if_pos own, live]
    refine ⟨?_, ?_, rfl, rfl, same⟩
    · refine ⟨rfl, fun _ _ => rfl, fun _ _ => rfl, fun other distinct => ?_,
        shared.sound.commit absent separates, separates⟩
      change (world.history.committed plan).liveOf other = _
      rw [RegistryHistory.liveOf_committed shared.sound separates, if_neg]
      intro named
      exact distinct (named.symm.trans own)
    · rw [same, ← here]
      exact shared.committed _

/-- Unregistering the one live receipt. -/
theorem runs_unregister {receipt : RegistrationReceipt} (held : part.receipts = [receipt])
    (calm : part.log.checking = none) (coherent : part.Coherent) :
    Runs publisher threads thread (pluginOp (.unregister receipt)) part
      (fun _ next => next = { part with receipts := [] }) (fun _ _ => False) := by
  have admits : part.Admits (.unregister receipt) := coherent
  apply runs_op rfl admits
  intro world journal shared here choice permits allows outcome after answered
  obtain ⟨records, prepared, live⟩ := pluginPart_fields here
  have sound : world.history.Sound := shared.sound
  have separates : SeparatesDigests world.history.issued := shared.separates
  rw [held] at live
  have listed : receipt ∈ world.history.liveOf (threads thread).plugin := by
    rw [live]
    exact List.mem_singleton_self _
  obtain ⟨outstanding, own⟩ := RegistryHistory.mem_liveOf.mp listed
  have withdrawn := RegistryHistory.unregister_eq sound outstanding
  have unregistered : world.answer (threads thread).plugin thread (.unregister receipt) choice =
      (.ok (), { world with
        history := ⟨world.history.registry.withdrawn receipt, world.history.issued⟩ }) := by
    change ((world.history.registry.unregister receipt).1, { world with
      history := ⟨(world.history.registry.unregister receipt).2, world.history.issued⟩ }) = _
    rw [withdrawn]
  rw [unregistered] at answered
  cases answered
  have same : PluginWorld.partAfter { world with
        history := ⟨world.history.registry.withdrawn receipt, world.history.issued⟩ }
      (threads thread).plugin part (.unregister receipt) (.ok ()) =
      { part with receipts := [] } := by
    change PluginPart.mk _ _ _ part.log.settled = _
    rw [records, prepared, PluginLog.settled_eq calm, RegistryHistory.liveOf_withdrawn live]
  refine ⟨?_, ?_, same⟩
  · refine ⟨rfl, fun _ _ => rfl, fun _ _ => rfl, fun other distinct => ?_,
      sound.withdraw separates outstanding, separates⟩
    apply RegistryHistory.liveOf_withdrawn_other sound separates outstanding
    intro named
    exact distinct (named.symm.trans own)
  · rw [same, ← here]
    exact shared.committed _

end CongeriesCore
