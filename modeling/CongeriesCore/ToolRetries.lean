import CongeriesCore.ToolExecution

/-! # The retries of a Tool

What is raised of an output is caught as what the executor raises is, so an output can be followed
by one more run of the executor. Where no output is refused with an exception that the loop goes on
after, only failures of the executor are. -/

namespace CongeriesCore

open AsyncProgram AsyncProgram.Program GatewayDispatch LeasedCapability

namespace ToolGateway

/-- The clock and the token answer, and a wait expires only under a deadline. -/
def toolAnswers : (op : ToolGatewayOp) → Except Raised op.Answer → Prop
  | .now, outcome => ∃ time, outcome = .ok time
  | .cancelled _, outcome => ∃ isCancelled, outcome = .ok isCancelled
  | .call (.act (.waitExecution context)), outcome => outcome = .error .cancelledError ∨
      ∃ ended, outcome = .ok ended ∧ (ended = .expired → context.deadline.isSome = true)
  | _, _ => True

/-- The moment that has passed at an event: what the clock shows, or the deadline of a wait. -/
def passed : ToolEvent → Option DateTime
  | ⟨.now, .ok time⟩ => some time
  | ⟨.call (.act (.waitExecution context)), .ok .expired⟩ => context.deadline.map Deadline.at_
  | _ => none

/-- The clock shows no moment before one that has passed. -/
def Forward (trace : ToolTrace) : Prop :=
  ∀ before time after, trace = before ++ (⟨.now, .ok time⟩ : ToolEvent) :: after →
    ∀ event ∈ before, ∀ moment ∈ passed event, moment ≤ time

/-- No output is refused with an exception that the loop goes on after. -/
def Judged (gateway : ToolGateway) (call : ToolCall) (trace : ToolTrace) : Prop :=
  ∀ descriptor startedAt executed context output error, Entry gateway call descriptor startedAt trace →
    (⟨.call (.act (.execute executed context)), .ok output⟩ : ToolEvent) ∈ trace →
    judge gateway descriptor output = .error error → retried error = false

structure Orderly (gateway : ToolGateway) (call : ToolCall) (trace : ToolTrace) : Prop where
  forward : Forward trace
  judged : Judged gateway call trace

/-- Each run of the executor has failed with an exception that the loop goes on after. -/
def Failed (trace : ToolTrace) : Prop :=
  ∀ executed context outcome,
    (⟨.call (.act (.execute executed context)), outcome⟩ : ToolEvent) ∈ trace →
      ∃ error, outcome = .error error ∧ retried error = true

/-- The deadline of the attempts has passed. -/
def Late (context : RuntimeCallContext) (trace : ToolTrace) : Prop :=
  ∃ deadline ∈ context.deadline, ∃ event ∈ trace, ∃ moment ∈ passed event, deadline.at_ ≤ moment

/-- The operation is not a run of the executor. -/
def Unexecuting : ToolGatewayOp → Prop
  | .call (.act (.execute _ _)) => False
  | _ => True

/-- What has to hold of the trace at an operation. -/
def RetryNeeds (gateway : ToolGateway) (call : ToolCall) : (op : ToolGatewayOp) → ToolTrace → Prop
  | .call (.act (.execute _ _)), trace => Orderly gateway call trace → Failed trace
  | _, _ => True

/-- The loop may go on. -/
def Retrying (gateway : ToolGateway) (call : ToolCall) (context : RuntimeCallContext)
    (trace : ToolTrace) : Prop :=
  Orderly gateway call trace → Failed trace ∨ Late context trace

section Later

variable {gateway : ToolGateway} {call : ToolCall} {context : RuntimeCallContext}
  {trace after : ToolTrace} {allowed : ToolGatewayOp → Prop}

theorem needs_of_unexecuting (op : ToolGatewayOp) (after : ToolTrace)
    (unexecuting : Unexecuting op) : RetryNeeds gateway call op after := by
  cases op with
  | call op =>
    cases op with
    | act op =>
      cases op with
      | execute executed context => exact absurd unexecuting id
      | _ => trivial
    | _ => trivial
  | _ => trivial

theorem executed_of_isExecution {event : ToolEvent} (executes : isExecution event = true) :
    ∃ executed context outcome,
      event = ⟨.call (.act (.execute executed context)), outcome⟩ := by
  obtain ⟨op, outcome⟩ := event
  cases op with
  | call op =>
    cases op with
    | act op =>
      cases op with
      | execute executed context => exact ⟨executed, context, outcome, rfl⟩
      | _ => cases executes
    | _ => cases executes
  | _ => cases executes

/-- What is orderly has been so before. -/
theorem Orderly.earlier (orderly : Orderly gateway call after) (grown : Grown allowed trace after) :
    Orderly gateway call trace := by
  have kept := grown
  obtain ⟨added, rfl, -⟩ := grown
  constructor
  · intro before time rest split
    apply orderly.forward before time (rest ++ added)
    simp [split]
  · intro descriptor startedAt executed context output error entry returned
    exact orderly.judged descriptor startedAt executed context output error (entry.later kept)
      (kept.subset returned)

theorem Failed.later (failed : Failed trace) (grown : Grown Unexecuting trace after) :
    Failed after := by
  intro executed context outcome member
  exact failed executed context outcome (grown.mem member id)

theorem Late.later (late : Late context trace) (grown : Grown allowed trace after) :
    Late context after := by
  obtain ⟨deadline, own, event, member, rest⟩ := late
  exact ⟨deadline, own, event, grown.subset member, rest⟩

theorem Retrying.later (retrying : Retrying gateway call context trace)
    (grown : Grown Unexecuting trace after) : Retrying gateway call context after := by
  intro orderly
  rcases retrying (orderly.earlier grown) with failed | late
  · exact .inl (failed.later grown)
  · exact .inr (late.later grown)

/-- A moment that the clock shows after the deadline has passed is not before it. -/
theorem Late.not_before {time : DateTime} (late : Late context trace)
    (forward : Forward (trace ++ [(⟨.now, .ok time⟩ : ToolEvent)])) :
    ∃ deadline ∈ context.deadline, deadline.at_ ≤ time := by
  obtain ⟨deadline, own, event, member, moment, isPassed, reached⟩ := late
  have shown := forward trace time [] rfl event member moment isPassed
  exact ⟨deadline, own, Nat.le_trans reached shown⟩

theorem late_of_now {deadline : Deadline} {time : DateTime} (own : context.deadline = some deadline)
    (reached : deadline.at_ ≤ time) : Late context (trace ++ [(⟨.now, .ok time⟩ : ToolEvent)]) :=
  ⟨deadline, own, _, List.mem_append_right _ (List.mem_singleton.mpr rfl), time, rfl, reached⟩

end Later

/-! ## An attempt -/

section Attempt

variable {gateway : ToolGateway} {call : ToolCall} {context : RuntimeCallContext}
  {descriptor : ToolDescriptor} {startedAt : DateTime} {identity : IdempotencyKey}
  {trace : ToolTrace}

/-- A part of an execution, from the events `trace`. -/
abbrev Retries {α : Type} (gateway : ToolGateway) (call : ToolCall) (program : ToolProgram α)
    (post : Except Raised α → ToolTrace → Prop) (trace : ToolTrace) : Prop :=
  Guards toolAnswers (RetryNeeds gateway call) program post trace

/-- A check that ends well shows the clock before the deadline, and one that fails so that the loop
goes on shows that it has passed. -/
def Checked (context : RuntimeCallContext) (trace : ToolTrace) (outcome : Except Raised Unit)
    (after : ToolTrace) : Prop :=
  Grown Unexecuting trace after ∧ match outcome with
    | .ok _ => Forward after → ¬Late context trace
    | .error error => retried error = true → Late context after

theorem retries_checkActive : Retries gateway call context.checkActive (Checked context trace)
    trace := by
  have asks : RetryNeeds gateway call (.cancelled context.cancellation) trace := trivial
  have asked : ∀ outcome : Except Raised Bool, Grown Unexecuting trace
      (trace ++ [(⟨.cancelled context.cancellation, outcome⟩ : ToolEvent)]) := fun outcome =>
    @Grown.event (gatewayInterface (leasedInterface toolInterface ToolDescriptor)) Raised _ _
      (.cancelled context.cancellation) trivial outcome
  apply safe_perform_bind asks
  · intro isCancelled _
    split
    · refine ⟨asked _, ?_⟩
      intro impossible
      cases impossible
    · split
      · rename_i none
        refine ⟨asked _, ?_⟩
        intro _ late
        obtain ⟨deadline, own, -⟩ := late
        rw [none] at own
        cases own
      · rename_i deadline own
        have reads : RetryNeeds gateway call .now
            (trace ++ [(⟨.cancelled context.cancellation, .ok isCancelled⟩ : ToolEvent)]) := trivial
        apply safe_perform_bind reads
        · intro time _
          have read : Grown Unexecuting
              (trace ++ [(⟨.cancelled context.cancellation, .ok isCancelled⟩ : ToolEvent)])
              (trace ++ [(⟨.cancelled context.cancellation, .ok isCancelled⟩ : ToolEvent)] ++
                [(⟨.now, .ok time⟩ : ToolEvent)]) :=
            @Grown.event (gatewayInterface (leasedInterface toolInterface ToolDescriptor)) Raised _ _
              .now trivial _
          by_cases reached : deadline.at_ ≤ time
          · rw [if_pos reached]
            exact ⟨(asked _).trans read, fun _ => late_of_now own reached⟩
          · rw [if_neg reached]
            refine ⟨(asked _).trans read, ?_⟩
            intro forward late
            obtain ⟨other, own', late⟩ := (late.later (asked _)).not_before forward
            rw [own] at own'
            cases own'
            exact reached late
        · intro error permitted
          obtain ⟨time, impossible⟩ := permitted
          cases impossible
  · intro error permitted
    obtain ⟨isCancelled, impossible⟩ := permitted
    cases impossible

theorem retries_readTimeout : Retries gateway call context.readTimeout
    (fun outcome after => outcome = .ok () ∧ Grown Unexecuting trace after) trace := by
  have reads : RetryNeeds gateway call .now trace := trivial
  unfold RuntimeCallContext.readTimeout
  split
  · apply safe_perform_bind reads
    · intro time _
      exact ⟨rfl, @Grown.event (gatewayInterface (leasedInterface toolInterface ToolDescriptor))
        Raised _ _ .now trivial _⟩
    · intro error permitted
      obtain ⟨time, impossible⟩ := permitted
      cases impossible
  · exact ⟨rfl, .refl trace⟩

/-- What an attempt has come to: an output of the executor, or an exception after which the loop may
go on. -/
def Tried (gateway : ToolGateway) (call : ToolCall) (context : RuntimeCallContext)
    (trace : ToolTrace) (outcome : Except Raised Foreign) (after : ToolTrace) : Prop :=
  Grown (fun _ => True) trace after ∧ match outcome with
    | .ok output => (⟨.call (.act (.execute call context)), .ok output⟩ : ToolEvent) ∈ after
    | .error error => retried error = true → Retrying gateway call context after

theorem grown_wait {start : ToolTrace} {outcome : Except Raised TaskEnd} : Grown Unexecuting start
    (start ++ [(⟨.call (.act (.waitExecution context)), outcome⟩ : ToolEvent)]) :=
  @Grown.event (gatewayInterface (leasedInterface toolInterface ToolDescriptor)) Raised _ _
    (.call (.act (.waitExecution context))) trivial _

theorem late_of_expired {start : ToolTrace} (deadline : context.deadline.isSome = true) :
    Late context (start ++ [(⟨.call (.act (.waitExecution context)), .ok .expired⟩ : ToolEvent)]) := by
  obtain ⟨deadline, own⟩ := Option.isSome_iff_exists.mp deadline
  refine ⟨deadline, own, _, List.mem_append_right _ (List.mem_singleton.mpr rfl), deadline.at_, ?_,
    DateTime.le_refl _⟩
  simp [passed, own]

/-- A run of the executor that fails so that the loop goes on leaves only failures. -/
theorem Failed.executed {start : ToolTrace} {error : Raised} (failed : Failed start)
    (goes : retried error = true) : Failed (start ++
      [(⟨.call (.act (.execute call context)), .error error⟩ : ToolEvent)]) := by
  intro executed other outcome member
  rcases List.mem_append.mp member with early | last
  · exact failed executed other outcome early
  · cases List.mem_singleton.mp last
    exact ⟨error, rfl, goes⟩

/-- A wait after the executor has run, in an attempt before which it had only failed. -/
theorem retries_finishTask {outcome : Except Raised Foreign} {start : ToolTrace}
    (failed : Orderly gateway call start → Failed start) :
    Retries gateway call (context.finishTask (toolOp (.act (.waitExecution context))) outcome)
      (Tried gateway call context start)
      (start ++ [(⟨.call (.act (.execute call context)), outcome⟩ : ToolEvent)]) := by
  have run : Grown (fun _ => True) start
      (start ++ [(⟨.call (.act (.execute call context)), outcome⟩ : ToolEvent)]) :=
    @Grown.event (gatewayInterface (leasedInterface toolInterface ToolDescriptor)) Raised _ _
      (.call (.act (.execute call context))) trivial _
  have waits : RetryNeeds gateway call (.call (.act (.waitExecution context)))
      (start ++ [(⟨.call (.act (.execute call context)), outcome⟩ : ToolEvent)]) := trivial
  apply safe_perform_bind waits
  · intro ended permitted
    have wait := @grown_wait context
      (start ++ [(⟨.call (.act (.execute call context)), outcome⟩ : ToolEvent)]) (.ok ended)
    have waited := run.trans (wait.mono fun _ _ => trivial)
    cases ended with
    | done =>
      apply safe_ofExcept_bind
      · intro output same
        subst same
        apply retries_checkActive.bind
        · intro _ after checked
          refine ⟨waited.trans (checked.1.mono fun _ _ => trivial), ?_⟩
          exact checked.1.subset (grown_wait.subset (by simp))
        · intro error after checked
          refine ⟨waited.trans (checked.1.mono fun _ _ => trivial), ?_⟩
          intro goes _
          exact .inr (checked.2 goes)
      · intro error same
        subst same
        refine ⟨waited, ?_⟩
        intro goes orderly
        exact .inl (((failed (orderly.earlier waited)).executed goes).later grown_wait)
    | expired =>
      refine ⟨waited, ?_⟩
      intro _ _
      rcases permitted with impossible | ⟨ended, same, limited⟩
      · cases impossible
      · cases same
        exact .inr (late_of_expired (limited rfl))
    | cancelled =>
      refine ⟨waited, ?_⟩
      intro impossible
      cases impossible
  · intro error permitted
    refine ⟨run.trans (grown_wait.mono fun _ _ => trivial), ?_⟩
    rcases permitted with same | ⟨ended, impossible, -⟩
    · cases same
      intro impossible
      cases impossible
    · cases impossible

/-- An attempt while the loop may go on. -/
theorem retries_executeAttempt (retrying : Retrying gateway call context trace) :
    Retries gateway call (executeAttempt call context) (Tried gateway call context trace) trace := by
  have creates : RetryNeeds gateway call (.call (.act (.createExecution call context))) trace :=
    trivial
  have created : ∀ outcome : Except Raised Unit, Grown Unexecuting trace
      (trace ++ [(⟨.call (.act (.createExecution call context)), outcome⟩ : ToolEvent)]) :=
    fun outcome => @Grown.event (gatewayInterface (leasedInterface toolInterface ToolDescriptor))
      Raised _ _ (.call (.act (.createExecution call context))) trivial _
  apply safe_perform_bind creates
  · intro answer _
    have made := created (.ok answer)
    apply retries_checkActive.bind
    · intro _ checked reached
      obtain ⟨shown, inTime⟩ := reached
      apply retries_readTimeout.bind
      · intro _ start ready
        have grown := made.trans (shown.trans ready.2)
        have failed : Orderly gateway call start → Failed start := by
          intro orderly
          have early := orderly.earlier ready.2
          rcases (retrying.later made) (early.earlier shown) with failed | late
          · exact (failed.later shown).later ready.2
          · exact absurd late (inTime early.forward)
        have executes : RetryNeeds gateway call (.call (.act (.execute call context))) start := failed
        have executed : Retries gateway call (toolOp (.act (.execute call context)))
            (fun outcome after => after = start ++
              [(⟨.call (.act (.execute call context)), outcome⟩ : ToolEvent)]) start :=
          safe_perform_traced executes fun outcome _ => rfl
        apply executed.andThen
        intro outcome after same
        subst same
        apply (retries_finishTask failed).mono
        intro outcome after tried
        exact ⟨(grown.mono fun _ _ => trivial).trans tried.1, tried.2⟩
      · intro error after ready
        cases ready.1
    · intro error after reached
      obtain ⟨shown, late⟩ := reached
      refine ⟨(made.trans shown).mono fun _ _ => trivial, ?_⟩
      intro goes _
      exact .inr (late goes)
  · intro error _
    refine ⟨(created (.error error)).mono fun _ _ => trivial, ?_⟩
    intro _
    exact retrying.later (created (.error error))

/-- After an attempt that fails so that the loop goes on, it may. -/
theorem retries_attempt {made : ℕ} (entry : Entry gateway call descriptor startedAt trace)
    (retrying : Retrying gateway call context trace) :
    Retries gateway call (gateway.attempt descriptor call context identity made)
      (fun outcome after => Entry gateway call descriptor startedAt after ∧
        ∀ error, outcome = .error error → retried error = true →
          Retrying gateway call context after) trace := by
  apply (retries_executeAttempt retrying).bind
  · intro output after tried
    have entered := entry.later tried.1
    apply safe_ofExcept_bind
    · intro normalized _
      refine ⟨entered, ?_⟩
      intro error impossible
      cases impossible
    · intro error refused
      refine ⟨entered, ?_⟩
      intro error' same goes orderly
      cases same
      have final := orderly.judged descriptor startedAt call context output error entered tried.2
        refused
      rw [final] at goes
      cases goes
  · intro error after tried
    refine ⟨entry.later tried.1, ?_⟩
    intro error' same goes
    cases same
    exact tried.2 goes

theorem retries_attempts {made left : ℕ} (entry : Entry gateway call descriptor startedAt trace)
    (retrying : Retrying gateway call context trace) :
    Retries gateway call (gateway.attempts descriptor call context identity made left)
      (fun _ _ => True) trace := by
  induction left generalizing made trace with
  | zero =>
    apply (retries_attempt entry retrying).catching
    · intro result after _
      trivial
    · intro error after _
      trivial
  | succ left ih =>
    apply (retries_attempt entry retrying).catching
    · intro result after _
      trivial
    · intro error after reached
      split
      · rename_i goes
        exact ih reached.1 (reached.2 error rfl goes)
      · trivial

end Attempt

/-! ## The execution -/

section Execution

variable {gateway : ToolGateway} {call : ToolCall} {context : RuntimeCallContext}

theorem failed_of_unexecuted {trace : ToolTrace} (unexecuted : trace.countP isExecution = 0) :
    Failed trace := by
  intro executed context outcome member
  have none := List.countP_eq_zero.mp unexecuted _ member
  exact absurd rfl none

theorem retries_operation {descriptor : ToolDescriptor} {startedAt : DateTime}
    {identity : IdempotencyKey} {published : PublishedCapability ToolDescriptor}
    {authorized : AuthorizedCall} {start : ToolTrace}
    (operating : Operating gateway call context descriptor startedAt authorized start) :
    Retries gateway call
      (gateway.operation descriptor call identity startedAt published authorized)
      (fun _ _ => True) start := by
  apply safe_ofExcept_bind
  · intro limits _
    obtain ⟨timeoutMs, maxAttempts⟩ := limits
    dsimp only
    cases published.implementation with
    | none => trivial
    | some implementation =>
      apply safe_ofExcept_bind
      · intro effectiveContext _
        apply retries_attempts operating.entry
        intro _
        exact .inl (failed_of_unexecuted operating.unexecuted)
      · intro error _
        trivial
  · intro error _
    trivial

theorem retries_execute : Retries gateway call (gateway.execute call context) (fun _ _ => True)
    [] := by
  apply guards_execute
  · intro op after idle _
    apply needs_of_unexecuting
    cases op with
    | call op =>
      cases op with
      | act op => exact absurd idle id
      | _ => trivial
    | _ => trivial
  · intro access after _
    trivial
  · intro error after
    trivial
  · intro result final after _ _
    trivial
  · intro descriptor startedAt identity published authorized start operating
    exact retries_operation operating

end Execution

end ToolGateway

open ToolGateway

/-- While no output is refused with an exception that the loop goes on after, and the clock goes
forward, the executor runs only after runs of it that have all failed with such an exception. -/
theorem tool_retries_follow_failures {gateway : ToolGateway} {call : ToolCall}
    {context : RuntimeCallContext} {program : ToolProgram ToolResult} {trace : ToolTrace}
    (steps : Steps (recording toolAnswers) ToolResult (gateway.execute call context, [])
      (program, trace))
    (orderly : Orderly gateway call trace) :
    ∀ before executed attemptContext outcome after, trace = before ++
      (⟨.call (.act (.execute executed attemptContext)), outcome⟩ : ToolEvent) :: after →
        ToolGateway.Failed before := by
  intro before executed attemptContext outcome after split
  obtain ⟨-, added, grown, needs⟩ := retries_execute.traced steps
  have same : added = trace := by
    rw [grown]
    rfl
  have needed : RetryNeeds gateway call (.call (.act (.execute executed attemptContext))) before :=
    (needs before _ after (same.trans split)).1
  apply needed
  exact orderly.earlier (Grown.of_split split)

/-! ## Samples -/

namespace SampleParameters

theorem sampleExecution_answers (outcome : Except Raised Foreign) :
    Steps (recording toolAnswers) ToolResult
      (sampleToolGateway.execute sampleToolCall sampleInvocationContext, [])
      (sampleExecution outcome) := by
  unfold sampleExecution
  apply answering_permitted
  intro op
  cases op with
  | now => exact ⟨sampleTime, rfl⟩
  | cancelled token => exact ⟨false, rfl⟩
  | call op =>
    cases op with
    | act op =>
      cases op with
      | waitExecution context =>
        refine .inr ⟨.done, rfl, ?_⟩
        intro impossible
        cases impossible
      | _ => trivial
    | _ => trivial
  | _ => trivial

/-- Not a run of the executor that has come to something else. -/
def cameTo (returned : Bool) (event : ToolEvent) : Bool :=
  match event with
  | ⟨.call (.act (.execute _ _)), .ok _⟩ => returned
  | ⟨.call (.act (.execute _ _)), .error _⟩ => !returned
  | _ => true

/-- No moment passes but the one of the sample. -/
def stands (event : ToolEvent) : Bool := (passed event).all fun moment => moment == sampleTime

theorem forward_of_stands {trace : ToolTrace} (still : trace.all stands = true) : Forward trace := by
  have all : ∀ event ∈ trace, ∀ moment ∈ passed event, moment = sampleTime := by
    intro event member moment shown
    have stood := List.all_eq_true.mp still event member
    unfold stands at stood
    rw [Option.mem_def.mp shown] at stood
    exact eq_of_beq stood
  intro before time after split event member moment shown
  have now : time = sampleTime := by
    apply all (⟨.now, .ok time⟩ : ToolEvent) _ time rfl
    rw [split]
    simp
  have earlier : moment = sampleTime := by
    apply all event _ moment shown
    rw [split]
    exact List.mem_append_left _ member
  rw [now, earlier]
  exact DateTime.le_refl _

theorem judged_of_failed {gateway : ToolGateway} {call : ToolCall} {trace : ToolTrace}
    (failed : trace.all (cameTo false) = true) : Judged gateway call trace := by
  intro descriptor startedAt executed context output error _ returned _
  have came := List.all_eq_true.mp failed _ returned
  cases came

end SampleParameters

open SampleParameters

/-- The executor of the sample fails twice: its second run follows a failure. -/
theorem tool_retries_follow_failures_sample : ∃ program trace,
    Steps (recording toolAnswers) ToolResult
      (sampleToolGateway.execute sampleToolCall sampleInvocationContext, []) (program, trace) ∧
    trace.countP isExecution = 2 ∧
    ∀ before executed attemptContext outcome after, trace = before ++
      (⟨.call (.act (.execute executed attemptContext)), outcome⟩ : ToolEvent) :: after →
        ToolGateway.Failed before := by
  have steps := sampleExecution_answers (.error (.value "no reply"))
  have twice : (sampleExecution (.error (.value "no reply"))).2.countP isExecution = 2 := by
    decide +kernel
  have failed : (sampleExecution (.error (.value "no reply"))).2.all (cameTo false) = true := by
    decide +kernel
  have still : (sampleExecution (.error (.value "no reply"))).2.all stands = true := by
    decide +kernel
  generalize sampleExecution (.error (.value "no reply")) = reached at *
  exact ⟨reached.1, reached.2, steps, twice,
    tool_retries_follow_failures steps ⟨forward_of_stands still, judged_of_failed failed⟩⟩

/-- The executor has returned what is not a JSON value, and runs again. -/
theorem tool_output_retried : ∃ program trace, Steps (recording toolAnswers) ToolResult
      (sampleToolGateway.execute sampleToolCall sampleInvocationContext, []) (program, trace) ∧
    Forward trace ∧
    ¬∀ before executed attemptContext outcome after, trace = before ++
      (⟨.call (.act (.execute executed attemptContext)), outcome⟩ : ToolEvent) :: after →
        ToolGateway.Failed before := by
  have steps := sampleExecution_answers (.ok (.invalid "must be valid JSON data"))
  have twice : (sampleExecution (.ok (.invalid "must be valid JSON data"))).2.countP isExecution = 2 := by
    decide +kernel
  have returned : (sampleExecution (.ok (.invalid "must be valid JSON data"))).2.all
      (cameTo true) = true := by
    decide +kernel
  have still : (sampleExecution (.ok (.invalid "must be valid JSON data"))).2.all stands = true := by
    decide +kernel
  generalize sampleExecution (.ok (.invalid "must be valid JSON data")) = reached at *
  refine ⟨reached.1, reached.2, steps, forward_of_stands still, ?_⟩
  intro follows
  have once : reached.2.countP isExecution ≤ 1 := by
    apply countP_le_one
    intro before event after split executes
    obtain ⟨executed, context, outcome, rfl⟩ := executed_of_isExecution executes
    have failed := follows before executed context outcome after split
    apply List.countP_eq_zero.mpr
    intro earlier member executes'
    obtain ⟨executed', context', outcome', rfl⟩ := executed_of_isExecution executes'
    obtain ⟨error, same, -⟩ := failed executed' context' outcome' member
    have inside : (⟨.call (.act (.execute executed' context')), outcome'⟩ : ToolEvent) ∈ reached.2 := by
      rw [split]
      exact List.mem_append_left _ member
    have came := List.all_eq_true.mp returned _ inside
    rw [same] at came
    cases came
  omega

end CongeriesCore
