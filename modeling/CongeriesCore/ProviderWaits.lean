import CongeriesCore.ProviderControl
import CongeriesCore.SampleParameters

/-! # What a wait for a provider leaves behind

An operation that has ended stays as it is. In a run in which the awaiting task is not cancelled
while it waits for an unfinished operation, and in which nothing fails around a running one, the
operation has ended when the wait has. -/

namespace CongeriesCore

open AsyncProgram Program

namespace LoopState

variable {α β : Type} {on : Suspension} {before after later : LoopState α}

theorem cancelAwaiting_operation (rests : before.operation.isRunning = false) :
    (before.cancelAwaiting on).operation = before.operation := by
  cases on with
  | waiter => rfl
  | operation =>
    simp only [cancelAwaiting]
    split
    · rfl
    · exact LoopTask.cancel_eq rests
  | watcher =>
    simp only [cancelAwaiting]
    split
    · rfl
    · rfl

theorem Happens.operation_eq (happens : Happens on before after)
    (rests : before.operation.isRunning = false) : after.operation = before.operation := by
  cases happens with
  | operationEnds outcome running =>
    rw [rests] at running
    cases running
  | cancelAwaiting => exact cancelAwaiting_operation rests
  | token => rfl
  | watcherWakes => rfl
  | watcherCancelled => rfl

theorem meanwhile_operation (meanwhile : Meanwhile on before after)
    (rests : before.operation.isRunning = false) : after.operation = before.operation := by
  induction meanwhile with
  | refl => rfl
  | tail _ happens ih =>
    rw [← ih]
    apply happens.operation_eq
    rw [ih]
    exact rests

theorem deliver_operation (rests : before.operation.isRunning = false) :
    (before.deliver on).operation = before.operation := by
  unfold deliver
  split
  · exact @cancelAwaiting_operation _ on { before with cancelling := false } rests
  · rfl

theorem Resumes.operation_eq {result answer : Except Raised β}
    (resumes : Resumes result later answer after) : after.operation = later.operation := by
  unfold Resumes at resumes
  split at resumes
  · rw [resumes.2]
  · rw [resumes.2]

theorem Awaits.operation_eq {task : LoopState α → LoopTask β} {answer : Except Raised β}
    (awaits : Awaits on task before answer after) (rests : before.operation.isRunning = false) :
    after.operation = before.operation := by
  rcases awaits with ⟨-, same⟩ | ⟨-, later, result, meanwhile, -, resumes⟩
  · rw [same]
  · have delivered : (before.deliver on).operation = before.operation := deliver_operation rests
    rw [resumes.operation_eq, meanwhile_operation meanwhile (by rw [delivered, rests]), delivered]

/-- However the awaiting task resumes, what it waited for is done. -/
theorem Awaits.isDone {answer : Except Raised α}
    (awaits : Awaits .operation operation before answer after) :
    after.operation.isDone = true := by
  rcases awaits with ⟨done, rfl⟩ | ⟨-, later, result, -, done, resumes⟩
  · rw [done]
    rfl
  · rw [resumes.operation_eq, done]
    rfl

theorem Awaits.of_isDone {task : LoopState α → LoopTask β} {answer : Except Raised β}
    (awaits : Awaits on task before answer after) (done : (task before).isDone = true) :
    task before = .finished answer ∧ after = before := by
  rcases awaits with ended | ⟨pending, -⟩
  · exact ended
  · rw [done] at pending
    cases pending

end LoopState

/-- Nothing but scheduling it changes an operation that is not running. -/
theorem waitEffect_operation {α : Type} {op : WaitOp} {before after : LoopState α}
    {answer : Except Raised ((waitInterface α).Answer op)} (effect : waitEffect op before answer after)
    (scheduled : op ≠ .ensureFuture) (rests : before.operation.isRunning = false) :
    after.operation = before.operation := by
  cases op with
  | cancelled token =>
    rcases effect.1 with rfl | rfl
    · rfl
    · rfl
  | now =>
    obtain rfl : after = before := effect
    rfl
  | ensureFuture => exact absurd rfl scheduled
  | watchToken => rw [effect.2]
  | wait timed =>
    obtain ⟨later, meanwhile, -, resumes⟩ := effect
    rw [resumes.operation_eq, LoopState.meanwhile_operation meanwhile rests]
  | operationDone => rw [effect.2]
  | cancelOperation =>
    rw [effect.2]
    exact LoopTask.cancel_eq rests
  | awaitOperation => exact LoopState.Awaits.operation_eq effect rests
  | cancelWatcher => rw [effect.2]
  | awaitWatcher => exact LoopState.Awaits.operation_eq effect rests

/-! ## Rules -/

namespace ProviderControl

variable {α β : Type}

abbrev Trace (α : Type) := List (Event (waitInterface α) Raised)

/-- Nothing is assumed of the loop but its operations. -/
def idle : Contract (waitInterface α) (LoopState α × Trace α) :=
  .alone (fun _ => True) (fun _ _ => True) fun _ _ => True

variable {allows : (op : WaitOp) → Except Raised ((waitInterface α).Answer op) × LoopState α →
    LoopState α → Prop} {state : LoopState α × Trace α}

theorem safe_waitOp {op : WaitOp}
    {post : Except Raised ((waitInterface α).Answer op) → LoopState α × Trace α → Prop}
    (done : ∀ answer after, waitEffect op state.1 answer after → allows op (answer, after) state.1 →
      post answer (after, state.2 ++ [⟨op, answer⟩])) :
    (waitOp op).Safe (eventLoop allows) idle post state := by
  refine safe_perform_alone fun _ => ⟨trivial, fun choice permitted => ?_⟩
  exact ⟨trivial, trivial, done choice.1 choice.2 permitted.1 permitted.2⟩

/-- An operation that does not raise. -/
theorem safe_answered {op : WaitOp}
    (answers : ∀ before answer after, @waitEffect α op before answer after →
      ∃ value, answer = .ok value) :
    (waitOp op).Safe (eventLoop allows) idle (Ends (fun _ _ => True) fun _ => False) state := by
  refine safe_waitOp fun answer after effect _ => ?_
  obtain ⟨value, rfl⟩ := answers _ _ _ effect
  trivial

theorem safe_any {program : WaitProgram α β} :
    program.Safe (eventLoop allows) idle (fun _ _ => True) state := by
  induction program generalizing state with
  | ret value => trivial
  | raise error => trivial
  | await op resume ih =>
    intro current same _
    exact ⟨trivial, fun choice permitted => ⟨trivial, trivial, ih _⟩⟩

/-- What comes after the operation has ended leaves it as it is. -/
theorem safe_rest {program : WaitProgram α β} (only : program.Only (· ≠ WaitOp.ensureFuture))
    (rests : state.1.operation.isRunning = false) :
    program.Safe (eventLoop allows) idle
      (fun _ after => after.1.operation = state.1.operation ∧ state.2 <+: after.2) state := by
  induction program generalizing state with
  | ret value => exact ⟨rfl, List.prefix_refl _⟩
  | raise error => exact ⟨rfl, List.prefix_refl _⟩
  | await op resume ih =>
    intro current same _
    obtain rfl : state = current := same
    refine ⟨trivial, fun choice permitted => ⟨trivial, trivial, ?_⟩⟩
    have kept := waitEffect_operation permitted.1 only.1 rests
    have later := @ih choice.1 (choice.2, state.2 ++ [⟨op, choice.1⟩]) (only.2 _)
      (by rw [kept]; exact rests)
    refine later.mono fun outcome after reached => ⟨?_, ?_⟩
    · rw [reached.1]
      exact kept
    · exact (List.prefix_append _ _).trans reached.2

theorem only_checkActive (context : RuntimeCallContext) :
    (context.checkActive : WaitProgram α Unit).Only (· ≠ WaitOp.ensureFuture) := by
  unfold RuntimeCallContext.checkActive
  refine Only.bind (only_perform.mpr WaitOp.noConfusion) fun cancelled => ?_
  refine only_ite (fun _ => trivial) fun _ => ?_
  cases context.deadline with
  | none => trivial
  | some deadline =>
    refine Only.bind (only_perform.mpr WaitOp.noConfusion) fun time => ?_
    exact only_ite (fun _ => trivial) fun _ => trivial

theorem only_ignoreCancellation {program : WaitProgram α β}
    (only : program.Only (· ≠ WaitOp.ensureFuture)) :
    (ignoreCancellation program).Only (· ≠ WaitOp.ensureFuture) :=
  only.andThen fun _ => trivial

theorem only_stopWatching : (stopWatching : WaitProgram α Unit).Only (· ≠ WaitOp.ensureFuture) := by
  refine Only.bind (only_perform.mpr WaitOp.noConfusion) fun _ => ?_
  exact only_ignoreCancellation (only_perform.mpr WaitOp.noConfusion)

theorem only_raiseIfCancelled (context : RuntimeCallContext) :
    (raiseIfCancelled context : WaitProgram α Unit).Only (· ≠ WaitOp.ensureFuture) := by
  unfold raiseIfCancelled
  refine Only.bind (only_perform.mpr WaitOp.noConfusion) fun cancelled => ?_
  exact only_ite (fun _ => only_raise) fun _ => only_pure

/-! ## The operation ends -/

/-- What a run needs: the awaiting task is not cancelled in `asyncio.wait` while the operation is
unfinished, a task that was running before is let in by the first checks, and the clock shows the
time while the operation runs. -/
def Undisturbed (context : RuntimeCallContext) : (op : WaitOp) →
    Except Raised ((waitInterface α).Answer op) × LoopState α → LoopState α → Prop
  | .cancelled _, choice, before => before.operation.isRunning = true → choice.1 = .ok false
  | .now, choice, before => before.operation.isRunning = true → ∃ time, choice.1 = .ok time ∧
      (before.watcher = .unscheduled → ∀ deadline ∈ context.deadline, ¬ deadline.at_ ≤ time)
  | .wait _, choice, _ =>
    choice.1 = .error .cancelledError → choice.2.operation.isRunning = false
  | _, _, _ => True

def Rests (state : LoopState α × Trace α) : Prop := state.1.operation.isRunning = false

/-- Once the operation has ended, whatever follows ends with it ended. -/
theorem safe_rests {program : WaitProgram α β} (only : program.Only (· ≠ WaitOp.ensureFuture))
    (rests : Rests state) : program.Safe (eventLoop allows) idle (fun _ => Rests) state := by
  refine (safe_rest only rests).mono fun outcome after reached => ?_
  rw [Rests, reached.1]
  exact rests

/-- The token is read as cancelled only if the operation does not run. -/
theorem safe_readToken {context : RuntimeCallContext} (entered : state.1.watcher = .unscheduled) :
    (RuntimeControl.cancelled context.cancellation : WaitProgram α Bool).Safe
      (eventLoop (Undisturbed context)) idle
      (fun outcome current => current.1.watcher = .unscheduled ∧
        (outcome ≠ .ok false → Rests current)) state := by
  refine safe_waitOp fun answer after effect undisturbed => ?_
  have same : after.operation = state.1.operation ∧ after.watcher = .unscheduled := by
    rcases effect.1 with rfl | rfl
    · exact ⟨rfl, entered⟩
    · exact ⟨rfl, entered⟩
  refine ⟨same.2, fun refused => ?_⟩
  rw [Rests, same.1]
  by_contra running
  exact refused (undisturbed (eq_true_of_ne_false running))

/-- The clock fails, or shows a time past the deadline at the entry, only if the operation does not
run. -/
theorem safe_readClock {context : RuntimeCallContext} :
    (RuntimeControl.now : WaitProgram α DateTime).Safe (eventLoop (Undisturbed context)) idle
      (fun outcome current => Rests current ∨ ∃ time, outcome = .ok time ∧
        (state.1.watcher = .unscheduled → ∀ deadline ∈ context.deadline, ¬ deadline.at_ ≤ time))
      state := by
  refine safe_waitOp fun answer after effect undisturbed => ?_
  obtain rfl : after = state.1 := effect
  by_cases running : state.1.operation.isRunning = true
  · exact .inr (undisturbed running)
  · exact .inl (eq_false_of_ne_true running)

theorem safe_entry {context : RuntimeCallContext} (entered : state.1.watcher = .unscheduled) :
    (context.checkActive : WaitProgram α Unit).Safe (eventLoop (Undisturbed context)) idle
      (Ends (fun _ _ => True) Rests) state := by
  unfold RuntimeCallContext.checkActive
  refine (safe_readToken entered).bind (fun cancelled current reached => ?_)
    fun error current reached => reached.2 nofun
  obtain ⟨unwatched, refused⟩ := reached
  cases cancelled with
  | true => exact refused (by simp)
  | false =>
    rw [if_neg (by simp)]
    cases given : context.deadline with
    | none => trivial
    | some deadline =>
      refine safe_readClock.bind (fun time later reached => ?_) fun error later reached => ?_
      · rcases reached with rests | ⟨shown, same, early⟩
        · split
          · exact rests
          · trivial
        · obtain rfl : time = shown := Except.ok.inj same
          rw [if_neg (early unwatched deadline given)]
          trivial
      · rcases reached with rests | ⟨shown, same, -⟩
        · exact rests
        · cases same

theorem safe_timeout {context : RuntimeCallContext} :
    (timeout context : WaitProgram α Bool).Safe (eventLoop (Undisturbed context)) idle
      (Ends (fun _ _ => True) Rests) state := by
  unfold timeout
  cases context.deadline with
  | none => trivial
  | some deadline =>
    refine safe_readClock.bind (fun time later _ => trivial) fun error later reached => ?_
    rcases reached with rests | ⟨shown, same, -⟩
    · exact rests
    · cases same

theorem safe_cancelAndWait :
    (cancelAndWait : WaitProgram α Unit).Safe (eventLoop allows) idle (Ends (fun _ => Rests) Rests)
      state := by
  have joined {current : LoopState α × Trace α} :
      (ignoreCancellation (waitOp .awaitOperation) : WaitProgram α Unit).Safe (eventLoop allows) idle
        (Ends (fun _ => Rests) Rests) current := by
    have awaited : (waitOp .awaitOperation : WaitProgram α α).Safe (eventLoop allows) idle
        (fun _ => Rests) current :=
      safe_waitOp fun answer after effect _ =>
        LoopTask.not_running_of_isDone (LoopState.Awaits.isDone effect)
    exact awaited.andThen fun outcome after rests => rests
  have looked : (waitOp .operationDone : WaitProgram α Bool).Safe (eventLoop allows) idle
      (Ends (fun _ _ => True) fun _ => False) state := safe_answered fun _ _ _ effect => ⟨_, effect.1⟩
  have asked {current : LoopState α × Trace α} :
      (waitOp .cancelOperation : WaitProgram α Unit).Safe (eventLoop allows) idle
        (Ends (fun _ _ => True) fun _ => False) current := safe_answered fun _ _ _ effect => ⟨(), effect.1⟩
  refine looked.onward fun done current _ => ?_
  cases done with
  | true => exact joined
  | false => exact asked.onward fun _ _ _ => joined

theorem safe_waitForTasks {context : RuntimeCallContext} {timed : Bool} :
    (waitForTasks context timed : WaitProgram α α).Safe (eventLoop (Undisturbed context)) idle
      (fun _ => Rests) state := by
  have waited : (waitOp (.wait timed) : WaitProgram α DoneTasks).Safe
      (eventLoop (Undisturbed context)) idle
      (Ends (fun done current => done.operation = true → Rests current) Rests) state := by
    refine safe_waitOp fun answer after effect undisturbed => ?_
    obtain ⟨later, -, -, resumes⟩ := effect
    unfold LoopState.Resumes at resumes
    split at resumes
    · obtain ⟨rfl, -⟩ := resumes
      exact undisturbed rfl
    · obtain ⟨rfl, rfl⟩ := resumes
      exact LoopTask.not_running_of_isDone
  refine waited.bind (fun done current reached => ?_) fun error current rests => rests
  split
  · rename_i operationDone
    have rests := reached operationDone
    refine safe_rests (Only.bind (only_perform.mpr WaitOp.noConfusion) fun result => ?_) rests
    exact (only_checkActive context).bind fun _ => only_pure
  · refine safe_cancelAndWait.bind (fun _ later rests => ?_) fun error later rests => rests
    apply safe_rests _ rests
    dsimp only
    split
    · exact (only_raiseIfCancelled context).bind fun _ => only_raise
    · exact only_raise

/-- In an undisturbed run the operation has ended when the wait has. -/
theorem safe_awaitProvider {context : RuntimeCallContext} (entered : state.1.watcher = .unscheduled) :
    (awaitProvider context : WaitProgram α α).Safe (eventLoop (Undisturbed context)) idle
      (fun _ => Rests) state := by
  have scheduled {current : LoopState α × Trace α} :
      (waitOp .ensureFuture : WaitProgram α Unit).Safe (eventLoop (Undisturbed context)) idle
        (Ends (fun _ _ => True) fun _ => False) current :=
    safe_answered fun _ _ _ effect => ⟨(), effect.1⟩
  have watched {current : LoopState α × Trace α} :
      (waitOp .watchToken : WaitProgram α Unit).Safe (eventLoop (Undisturbed context)) idle
        (Ends (fun _ _ => True) fun _ => False) current :=
    safe_answered fun _ _ _ effect => ⟨(), effect.1⟩
  refine (safe_entry entered).bind (fun _ current _ => ?_) fun error current rests => rests
  refine scheduled.onward fun _ current _ => watched.onward fun _ current _ => ?_
  refine safe_timeout.bind (fun timed current _ => ?_) fun error current rests => rests
  refine safe_waitForTasks.andThen fun outcome later rests => ?_
  have stopped : ((stopWatching : WaitProgram α Unit).bind fun _ =>
      ofExcept outcome).Only (· ≠ WaitOp.ensureFuture) :=
    only_stopWatching.bind fun _ => only_ofExcept
  exact safe_rests stopped rests

/-! ## What is returned -/

/-- The token was not cancelled, and the clock showed a time before the deadline. -/
def ShowsActive (context : RuntimeCallContext) (checks : Trace α) : Prop :=
  match context.deadline with
  | none => checks = [⟨.cancelled context.cancellation, .ok false⟩]
  | some deadline => ∃ time, ¬ deadline.at_ ≤ time ∧
      checks = [⟨.cancelled context.cancellation, .ok false⟩, ⟨.now, .ok time⟩]

/-- The operation came to the value, and the context was then found active. -/
def CompletedWith (context : RuntimeCallContext) (value : α) (state : LoopState α × Trace α) : Prop :=
  state.1.operation = .finished (.ok value) ∧ ∃ earlier checks closing : Trace α,
    state.2 = earlier ++ ⟨.awaitOperation, .ok value⟩ :: checks ++ closing ∧
      ShowsActive context checks

theorem safe_checks {context : RuntimeCallContext} :
    (context.checkActive : WaitProgram α Unit).Safe (eventLoop allows) idle
      (Ends (fun _ after => ∃ checks, after.2 = state.2 ++ checks ∧ ShowsActive context checks)
        fun _ => True) state := by
  have readToken : (RuntimeControl.cancelled context.cancellation : WaitProgram α Bool).Safe
      (eventLoop allows) idle (fun outcome after =>
        after.2 = state.2 ++ [⟨.cancelled context.cancellation, outcome⟩]) state :=
    safe_waitOp fun _ _ _ _ => rfl
  have readClock {current : LoopState α × Trace α} :
      (RuntimeControl.now : WaitProgram α DateTime).Safe (eventLoop allows) idle
        (fun outcome after => after.2 = current.2 ++ [⟨.now, outcome⟩]) current :=
    safe_waitOp fun _ _ _ _ => rfl
  unfold RuntimeCallContext.checkActive
  refine readToken.bind (fun cancelled current recorded => ?_) fun _ _ _ => trivial
  cases cancelled with
  | true => trivial
  | false =>
    rw [if_neg (by simp)]
    cases given : context.deadline with
    | none =>
      refine ⟨_, recorded, ?_⟩
      simp only [ShowsActive, given]
      rfl
    | some deadline =>
      refine readClock.bind (fun time later shown => ?_) fun _ _ _ => trivial
      split
      · trivial
      · rename_i early
        refine ⟨[⟨.cancelled context.cancellation, .ok false⟩, ⟨.now, .ok time⟩], ?_, ?_⟩
        · rw [shown, recorded, List.append_assoc]
          rfl
        · simp only [ShowsActive, given]
          exact ⟨time, early, rfl⟩

theorem safe_completed {context : RuntimeCallContext} {timed : Bool} :
    (waitForTasks context timed : WaitProgram α α).Safe (eventLoop allows) idle
      (Ends (CompletedWith context) fun _ => True) state := by
  have waited : (waitOp (.wait timed) : WaitProgram α DoneTasks).Safe (eventLoop allows) idle
      (Ends (fun done current => done.operation = current.1.operation.isDone) fun _ => True)
      state := by
    refine safe_waitOp fun answer after effect _ => ?_
    obtain ⟨later, -, -, resumes⟩ := effect
    unfold LoopState.Resumes at resumes
    split at resumes
    · obtain ⟨rfl, -⟩ := resumes
      trivial
    · obtain ⟨rfl, rfl⟩ := resumes
      rfl
  have awaited {current : LoopState α × Trace α} (done : current.1.operation.isDone = true) :
      (waitOp .awaitOperation : WaitProgram α α).Safe (eventLoop allows) idle
        (Ends (fun result after => after.1.operation = .finished (.ok result) ∧
          after.2 = current.2 ++ [⟨.awaitOperation, .ok result⟩]) fun _ => True) current := by
    refine safe_waitOp fun answer after effect _ => ?_
    obtain ⟨ended, rfl⟩ := LoopState.Awaits.of_isDone effect done
    cases answer with
    | ok result => exact ⟨ended, rfl⟩
    | error error => trivial
  refine waited.next fun done current same => ?_
  split
  · rename_i operationDone
    rw [operationDone] at same
    refine (awaited same.symm).next fun result later reached => ?_
    have rests : later.1.operation.isRunning = false := by
      rw [reached.1]
      rfl
    refine ((safe_rest (only_checkActive context) rests).both safe_checks).bind
      (fun _ after checked => ?_) fun _ _ _ => trivial
    obtain ⟨⟨kept, -⟩, checks, recorded, active⟩ := checked
    refine ⟨by rw [kept, reached.1], current.2, checks, [], ?_, active⟩
    rw [recorded, reached.2]
    simp
  · refine Safe.bind safe_any (fun _ later _ => ?_) fun _ _ _ => trivial
    dsimp only
    split
    · exact Safe.bind safe_any (fun _ _ _ => trivial) fun _ _ _ => trivial
    · trivial

theorem safe_returned {context : RuntimeCallContext} :
    (awaitProvider context : WaitProgram α α).Safe (eventLoop allows) idle
      (Ends (CompletedWith context) fun _ => True) state := by
  refine Safe.bind safe_any (fun _ current _ => ?_) fun _ _ _ => trivial
  refine Safe.bind safe_any (fun _ current _ => ?_) fun _ _ _ => trivial
  refine Safe.bind safe_any (fun _ current _ => ?_) fun _ _ _ => trivial
  refine Safe.bind safe_any (fun timed current _ => ?_) fun _ _ _ => trivial
  refine safe_completed.andThen fun outcome later completed => ?_
  cases outcome with
  | error error => exact Safe.bind safe_any (fun _ _ _ => trivial) fun _ _ _ => trivial
  | ok value =>
    obtain ⟨ended, earlier, checks, closing, recorded, active⟩ := completed
    have rests : later.1.operation.isRunning = false := by
      rw [ended]
      rfl
    refine Safe.bind (safe_rest only_stopWatching rests) (fun _ after reached => ?_)
      fun _ _ _ => trivial
    obtain ⟨kept, added, grown⟩ := reached
    refine ⟨by rw [kept, ended], earlier, checks, closing ++ added, ?_, active⟩
    rw [← grown, recorded, List.append_assoc]

theorem loopStep {op : WaitOp}
    {resume : Except Raised ((waitInterface α).Answer op) → WaitProgram α β}
    {before after : LoopState α} {answer : Except Raised ((waitInterface α).Answer op)}
    {trace : Trace α} {target : WaitProgram α β × (LoopState α × Trace α)}
    (effect : waitEffect op before answer after) (allowed : allows op (answer, after) before)
    (rest : Steps (eventLoop allows) β (resume answer, (after, trace ++ [⟨op, answer⟩])) target) :
    Steps (eventLoop allows) β (.await op resume, (before, trace)) target :=
  .given ⟨(answer, after), ⟨effect, allowed⟩, rfl⟩ rest

/-- A run in which some steps are ruled out is a run. -/
theorem unrestricted {source target : WaitProgram α β × (LoopState α × Trace α)}
    (steps : Steps (eventLoop allows) β source target) :
    Steps (eventLoop fun _ _ _ => True) β source target := by
  induction steps with
  | refl => exact .refl
  | tail _ last ih =>
    cases last with
    | @resume op resume state choice permitted =>
      exact ih.tail (@Step.resume _ _ _ _ (eventLoop fun _ _ _ => True) op resume state choice
        ⟨permitted.1, trivial⟩)

end ProviderControl

open ProviderControl

/-- Where the awaiting task is not cancelled while it waits for an unfinished operation, and nothing
fails around a running one, the operation is not running when the wait has ended. A value that is
returned is what the operation came to, and the context was active after that. -/
theorem await_provider_ends {α : Type} (context : RuntimeCallContext) (operation : LoopTask α)
    (tokenCancelled cancelling : Bool) :
    (∀ outcome after, Steps (eventLoop (Undisturbed context)) α
      (awaitProvider context, (LoopState.entered operation tokenCancelled cancelling, []))
      (ofExcept outcome, after) → after.1.operation.isRunning = false) ∧
    ∀ value after, Steps (eventLoop fun _ _ _ => True) α
      (awaitProvider context, (LoopState.entered operation tokenCancelled cancelling, []))
      (.ret value, after) → CompletedWith context value after := by
  constructor
  · intro outcome after steps
    exact (safe_awaitProvider rfl).ended (fun _ => rfl) trivial steps
  · intro value after steps
    exact @Safe.ended _ _ _ _ _ _ _ _ _ _ (.ok value) (fun _ => rfl) trivial safe_returned steps

open SampleParameters in
/-- The awaiting task is cancelled while it waits, and leaves the operation running. -/
theorem await_provider_leaves_running : ¬ ∀ (α : Type) (context : RuntimeCallContext)
    (operation : LoopTask α) (tokenCancelled cancelling : Bool) (outcome : Except Raised α)
    (after : LoopState α × Trace α), Steps (eventLoop fun _ _ _ => True) α
      (awaitProvider context, (LoopState.entered operation tokenCancelled cancelling, []))
      (ofExcept outcome, after) → after.1.operation.isRunning = false := by
  intro ends
  let waiting : LoopState Unit := ⟨.running false, .running false, false, false⟩
  let stopped : LoopState Unit := ⟨.running false, .finished (.error .cancelledError), false, false⟩
  have left := ends Unit sampleContext .unscheduled false false (.error .cancelledError) (stopped, _)
    (loopStep ⟨.inl rfl, rfl⟩ trivial <| loopStep ⟨rfl, rfl⟩ trivial <|
      loopStep ⟨rfl, rfl⟩ trivial <|
      loopStep ⟨_, .single (.cancelAwaiting waiting), rfl, rfl, rfl⟩ trivial <|
      loopStep ⟨rfl, rfl⟩ trivial <|
      loopStep (.inr ⟨rfl, _, _, .single (.watcherCancelled _ rfl), rfl, rfl, rfl⟩) trivial .refl)
  cases left

open SampleParameters in
/-- The operation ends while the awaiting task waits for it. -/
theorem await_provider_ends_done : ∃ after : LoopState Unit × Trace Unit,
    after.1.operation.isRunning = false ∧ CompletedWith sampleContext () after := by
  let done : LoopState Unit := ⟨.finished (.ok ()), .finished (.error .cancelledError), false, false⟩
  have steps : Steps (eventLoop (Undisturbed sampleContext)) Unit
      (awaitProvider sampleContext, (LoopState.entered .unscheduled false false, []))
      (.ret (), (done, _)) :=
    loopStep ⟨.inl rfl, rfl⟩ nofun <| loopStep ⟨rfl, rfl⟩ trivial <|
      loopStep ⟨rfl, rfl⟩ trivial <|
      loopStep ⟨_, .single (.operationEnds _ (.ok ()) rfl), rfl, rfl, rfl⟩ nofun <|
      loopStep (.inl ⟨rfl, rfl⟩) trivial <| loopStep ⟨.inl rfl, rfl⟩ nofun <|
      loopStep ⟨rfl, rfl⟩ trivial <|
      loopStep (.inr ⟨rfl, _, _, .single (.watcherCancelled _ rfl), rfl, rfl, rfl⟩) trivial .refl
  have whole := await_provider_ends sampleContext (.unscheduled : LoopTask Unit) false false
  exact ⟨_, whole.1 (.ok ()) _ steps, whole.2 () _ (unrestricted steps)⟩

end CongeriesCore
