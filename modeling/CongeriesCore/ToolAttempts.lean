import CongeriesCore.ToolExecution
import CongeriesCore.ToolGrants

/-! # The attempts of a Tool

Whatever the registry, the policy, the lifecycle and the executor answer: the grant bounds how
often and until when a Tool is attempted, and its result says how often it was. -/

namespace CongeriesCore

open AsyncProgram AsyncProgram.Program GatewayDispatch LeasedCapability

namespace ToolGateway

/-! ## What an attempt needs -/

/-- The policy has granted the execution, and leaves this timeout and so many attempts. -/
def Granted (descriptor : ToolDescriptor) (timeoutMs : Option ℕ) (maxAttempts : ℕ)
    (trace : ToolTrace) : Prop :=
  ∃ access decision grant, (⟨.authorize access, .ok decision⟩ : ToolEvent) ∈ trace ∧
    decision.grant = some grant ∧ Leaves descriptor grant.constraints timeoutMs maxAttempts

/-- No later than the deadline of the caller, and than the timeout after the execution began. -/
def Timed (context : RuntimeCallContext) (startedAt : DateTime) (timeoutMs : Option ℕ)
    (attemptContext : RuntimeCallContext) : Prop :=
  (∀ own ∈ context.deadline, ∃ deadline ∈ attemptContext.deadline, deadline.at_ ≤ own.at_) ∧
    ∀ milliseconds ∈ timeoutMs, ∃ limit, startedAt.addMilliseconds milliseconds = .ok limit ∧
      ∃ deadline ∈ attemptContext.deadline, deadline.at_ ≤ limit

/-- What has happened before an attempt, or a run of the executor, after so many others. -/
def Bounded (gateway : ToolGateway) (call : ToolCall) (context attemptContext : RuntimeCallContext)
    (made : ℕ) (trace : ToolTrace) : Prop :=
  ∃ descriptor startedAt timeoutMs maxAttempts, Entry gateway call descriptor startedAt trace ∧
    Granted descriptor timeoutMs maxAttempts trace ∧
    Timed context startedAt timeoutMs attemptContext ∧ made < maxAttempts

theorem Granted.later {descriptor : ToolDescriptor} {timeoutMs : Option ℕ} {maxAttempts : ℕ}
    {trace after : ToolTrace} {allowed : ToolGatewayOp → Prop}
    (granted : Granted descriptor timeoutMs maxAttempts trace)
    (grown : Grown allowed trace after) : Granted descriptor timeoutMs maxAttempts after := by
  obtain ⟨access, decision, grant, asked, rest⟩ := granted
  exact ⟨access, decision, grant, grown.subset asked, rest⟩

/-- A context that takes a deadline keeps none that is later. -/
theorem narrow_deadline {context narrowed : RuntimeCallContext} {deadline : Deadline}
    (taken : context.narrow none (some deadline) = .ok narrowed) :
    narrowed.deadline = some deadline := by
  unfold RuntimeCallContext.narrow at taken
  obtain ⟨_, _, taken⟩ := bind_ok taken
  dsimp only at taken
  split at taken
  · split at taken
    · cases taken
    · cases taken
      rfl
  · cases taken
    rfl

/-- The context of the attempts has the deadline that is left. -/
theorem withTimeout_timed {context narrowed : RuntimeCallContext} {timeoutMs : Option ℕ}
    {startedAt : DateTime} (limited : withTimeout context timeoutMs startedAt = .ok narrowed) :
    Timed context startedAt timeoutMs narrowed := by
  cases timeoutMs with
  | none =>
    cases limited
    refine ⟨fun own given => ⟨own, given, DateTime.le_refl _⟩, ?_⟩
    intro milliseconds impossible
    cases impossible
  | some milliseconds =>
    obtain ⟨limit, reached, limited⟩ := bind_ok limited
    cases ends : context.deadline with
    | none =>
      rw [ends] at limited
      have taken := narrow_deadline limited
      refine ⟨?_, ?_⟩
      · intro own impossible
        rw [ends] at impossible
        cases impossible
      · intro other same
        cases same
        exact ⟨limit, reached, ⟨limit⟩, taken, DateTime.le_refl _⟩
    | some own =>
      rw [ends] at limited
      by_cases sooner : own.at_ ≤ limit
      · have kept : context = narrowed := by
          simp only [if_pos sooner] at limited
          exact Except.ok.inj limited
        subst kept
        refine ⟨fun own given => ⟨own, given, DateTime.le_refl _⟩, ?_⟩
        intro other same
        cases same
        exact ⟨limit, reached, own, ends, sooner⟩
      · simp only [if_neg sooner] at limited
        have taken := narrow_deadline limited
        refine ⟨?_, ?_⟩
        · intro other given
          rw [ends] at given
          cases given
          exact ⟨⟨limit⟩, taken, (Nat.le_total own.at_.rank limit.rank).resolve_left sooner⟩
        · intro other same
          cases same
          exact ⟨limit, reached, ⟨limit⟩, taken, DateTime.le_refl _⟩

/-- What has to hold of the trace at an operation. -/
def AttemptNeeds (gateway : ToolGateway) (call : ToolCall) (context : RuntimeCallContext) :
    (op : ToolGatewayOp) → ToolTrace → Prop
  | .call (.act (.createExecution created attemptContext)), trace => created = call ∧
      Bounded gateway call context attemptContext (trace.countP isAttempt) trace
  | .call (.act (.execute executed attemptContext)), trace => executed = call ∧
      Bounded gateway call context attemptContext (trace.countP isExecution) trace
  | .authorize _, trace => trace.countP isAuthorize = 0
  | _, _ => True

section Needs

variable {gateway : ToolGateway} {call : ToolCall} {context attemptContext : RuntimeCallContext}
  {descriptor : ToolDescriptor} {startedAt : DateTime} {timeoutMs : Option ℕ}
  {made maxAttempts : ℕ} {identity : IdempotencyKey} {trace after : ToolTrace}
  {permits : (op : ToolGatewayOp) → Except Raised op.Answer → Prop}

theorem attemptNeeds_free (op : ToolGatewayOp) (after : ToolTrace) (idle : LeasedCapability.Idle op)
    (other : ∀ access, op ≠ .authorize access) : AttemptNeeds gateway call context op after := by
  cases op with
  | call op =>
    cases op with
    | act op => exact absurd idle id
    | _ => trivial
  | authorize access => exact absurd rfl (other access)
  | _ => trivial

theorem attemptNeeds_trailing (op : ToolGatewayOp) (after : ToolTrace) (trailing : Trailing op) :
    AttemptNeeds gateway call context op after := by
  cases op with
  | call op =>
    cases op with
    | act op =>
      cases op with
      | waitExecution context => trivial
      | _ => exact absurd trailing id
    | _ => trivial
  | authorize access => exact absurd trailing id
  | _ => trivial

/-- The loop after so many attempts; the executor need not have run in each. -/
structure Attempting (gateway : ToolGateway) (call : ToolCall) (context : RuntimeCallContext)
    (descriptor : ToolDescriptor) (startedAt : DateTime) (timeoutMs : Option ℕ) (maxAttempts : ℕ)
    (attemptContext : RuntimeCallContext) (made : ℕ) (trace : ToolTrace) : Prop where
  entry : Entry gateway call descriptor startedAt trace
  granted : Granted descriptor timeoutMs maxAttempts trace
  timed : Timed context startedAt timeoutMs attemptContext
  attempts : trace.countP isAttempt = made
  executions : trace.countP isExecution ≤ made

namespace Attempting

theorem later (attempting : Attempting gateway call context descriptor startedAt timeoutMs
      maxAttempts attemptContext made trace) (grown : Grown Trailing trace after) :
    Attempting gateway call context descriptor startedAt timeoutMs maxAttempts attemptContext made
      after := by
  obtain ⟨entry, granted, timed, attempts, executions⟩ := attempting
  refine ⟨entry.later grown, granted.later grown, timed, ?_, ?_⟩
  · rw [grown.countP_eq isAttempt_of_trailing, attempts]
  · rw [grown.countP_eq isExecution_of_trailing]
    exact executions

/-- One attempt more, which has not come to its executor. -/
theorem created (attempting : Attempting gateway call context descriptor startedAt timeoutMs
      maxAttempts attemptContext made trace) (outcome : Except Raised Unit) :
    Attempting gateway call context descriptor startedAt timeoutMs maxAttempts attemptContext
        (made + 1)
        (trace ++ [(⟨.call (.act (.createExecution call attemptContext)), outcome⟩ : ToolEvent)]) ∧
      (trace ++ [(⟨.call (.act (.createExecution call attemptContext)), outcome⟩ :
        ToolEvent)]).countP isExecution ≤ made := by
  obtain ⟨entry, granted, timed, attempts, executions⟩ := attempting
  have grown : Grown (fun _ => True) trace
      (trace ++ [(⟨.call (.act (.createExecution call attemptContext)), outcome⟩ : ToolEvent)]) :=
    @Grown.event (gatewayInterface (leasedInterface toolInterface ToolDescriptor)) Raised _ _
      (.call (.act (.createExecution call attemptContext))) trivial _
  have same : (trace ++ [(⟨.call (.act (.createExecution call attemptContext)), outcome⟩ :
      ToolEvent)]).countP isExecution = trace.countP isExecution := by
    rw [List.countP_append]
    rfl
  refine ⟨⟨entry.later grown, granted.later grown, timed, ?_, ?_⟩, ?_⟩
  · rw [List.countP_append, attempts]
    rfl
  · omega
  · omega

/-- The executor has run in the last attempt too. -/
theorem executed (attempting : Attempting gateway call context descriptor startedAt timeoutMs
      maxAttempts attemptContext (made + 1) trace) (fewer : trace.countP isExecution ≤ made)
    (outcome : Except Raised Foreign) :
    Attempting gateway call context descriptor startedAt timeoutMs maxAttempts attemptContext
      (made + 1)
      (trace ++ [(⟨.call (.act (.execute call attemptContext)), outcome⟩ : ToolEvent)]) := by
  obtain ⟨entry, granted, timed, attempts, -⟩ := attempting
  have grown : Grown (fun _ => True) trace
      (trace ++ [(⟨.call (.act (.execute call attemptContext)), outcome⟩ : ToolEvent)]) :=
    @Grown.event (gatewayInterface (leasedInterface toolInterface ToolDescriptor)) Raised _ _
      (.call (.act (.execute call attemptContext))) trivial _
  refine ⟨entry.later grown, granted.later grown, timed, ?_, ?_⟩
  · rw [List.countP_append, attempts]
    rfl
  · have one : [(⟨.call (.act (.execute call attemptContext)), outcome⟩ : ToolEvent)].countP
        isExecution = 1 := rfl
    rw [List.countP_append, one]
    omega

end Attempting

/-! ## The loop -/

/-- An attempt of the loop leaves it with one attempt more. -/
theorem guards_executeAttempt (left : made < maxAttempts)
    (attempting : Attempting gateway call context descriptor startedAt timeoutMs maxAttempts
      attemptContext made trace) :
    Guards permits (AttemptNeeds gateway call context) (executeAttempt call attemptContext)
      (fun _ after => Attempting gateway call context descriptor startedAt timeoutMs maxAttempts
        attemptContext (made + 1) after) trace := by
  have creates : AttemptNeeds gateway call context
      (.call (.act (.createExecution call attemptContext))) trace := by
    refine ⟨rfl, descriptor, startedAt, timeoutMs, maxAttempts, attempting.entry,
      attempting.granted, attempting.timed, ?_⟩
    rw [attempting.attempts]
    exact left
  apply safe_perform_bind creates
  · intro answer _
    obtain ⟨made_, fewer⟩ := attempting.created (.ok answer)
    have waits : (toolOp (.act (.waitExecution attemptContext)) : ToolProgram TaskEnd).Only
        Trailing := only_perform.mpr trivial
    apply guards_awaitTask trailing_of_quiet attemptNeeds_trailing waits
    · intro error after grown
      exact made_.later (grown.mono trailing_of_quiet)
    · intro start grown
      have quiet := grown.mono trailing_of_quiet
      have begun := made_.later quiet
      have unexecuted : start.countP isExecution ≤ made := by
        rw [quiet.countP_eq isExecution_of_trailing]
        exact fewer
      have executes : AttemptNeeds gateway call context
          (.call (.act (.execute call attemptContext))) start :=
        ⟨rfl, descriptor, startedAt, timeoutMs, maxAttempts, begun.entry, begun.granted,
          begun.timed, by omega⟩
      exact safe_perform_traced executes fun outcome _ => begun.executed unexecuted outcome
    · intro value final after reached closed
      exact reached.later closed
    · intro outcome final error after reached closed
      exact reached.later closed
  · intro error _
    exact (attempting.created (.error error)).1

/-- An attempt that returns says how many have been made. -/
theorem guards_attempt (left : made < maxAttempts)
    (attempting : Attempting gateway call context descriptor startedAt timeoutMs maxAttempts
      attemptContext made trace) :
    Guards permits (AttemptNeeds gateway call context)
      (gateway.attempt descriptor call attemptContext identity made)
      (fun outcome after => Attempting gateway call context descriptor startedAt timeoutMs
          maxAttempts attemptContext (made + 1) after ∧
        ∀ result, outcome = .ok result → result.attempts = made + 1) trace := by
  apply (guards_executeAttempt left attempting).bind
  · intro output after reached
    apply safe_ofExcept_bind
    · intro normalized _
      refine ⟨reached, ?_⟩
      intro result same
      cases same
      rfl
    · intro error _
      refine ⟨reached, ?_⟩
      intro result impossible
      cases impossible
  · intro error after reached
    refine ⟨reached, ?_⟩
    intro result impossible
    cases impossible

/-- A result says how often the Tool was attempted, as its grant allows. -/
def Attempted (gateway : ToolGateway) (call : ToolCall) (outcome : Except Raised ToolResult)
    (trace : ToolTrace) : Prop :=
  ∀ result, outcome = .ok result → result.attempts = trace.countP isAttempt ∧
    ∃ descriptor startedAt timeoutMs maxAttempts, Entry gateway call descriptor startedAt trace ∧
      Granted descriptor timeoutMs maxAttempts trace

theorem attempted_error {error : Raised} : Attempted gateway call (.error error) trace := by
  intro result impossible
  cases impossible

theorem Attempting.attempted {outcome : Except Raised ToolResult}
    (attempting : Attempting gateway call context descriptor startedAt timeoutMs maxAttempts
      attemptContext made trace) (counted : ∀ result, outcome = .ok result →
        result.attempts = made) : Attempted gateway call outcome trace := by
  intro result same
  refine ⟨?_, descriptor, startedAt, timeoutMs, maxAttempts, attempting.entry,
    attempting.granted⟩
  rw [counted result same, attempting.attempts]

/-- The loop, with so many attempts left after the next one. -/
theorem guards_attempts {left : ℕ} (within : made + left < maxAttempts)
    (attempting : Attempting gateway call context descriptor startedAt timeoutMs maxAttempts
      attemptContext made trace) :
    Guards permits (AttemptNeeds gateway call context)
      (gateway.attempts descriptor call attemptContext identity made left)
      (Attempted gateway call) trace := by
  induction left generalizing made trace with
  | zero =>
    apply (guards_attempt (by omega) attempting).catching
    · intro result after reached
      exact reached.1.attempted reached.2
    · intro error after reached
      exact attempted_error
  | succ left ih =>
    apply (guards_attempt (by omega) attempting).catching
    · intro result after reached
      exact reached.1.attempted reached.2
    · intro error after reached
      split
      · exact ih (by omega) reached.1
      · exact attempted_error

/-! ## The execution -/

/-- The operation of an execution, which starts with the call that was granted. -/
theorem guards_operation {authorized : AuthorizedCall} {published : PublishedCapability ToolDescriptor}
    {start : ToolTrace}
    (operating : Operating gateway call context descriptor startedAt authorized start) :
    Guards permits (AttemptNeeds gateway call context)
      (gateway.operation descriptor call identity startedAt published authorized)
      (Attempted gateway call) start := by
  obtain ⟨access, decision, asked, given⟩ := operating.granted
  apply safe_ofExcept_bind
  · intro limits validated
    obtain ⟨timeoutMs, maxAttempts⟩ := limits
    have leaves := validateGrant_iff.mp validated
    dsimp only
    cases published.implementation with
    | none => exact attempted_error
    | some implementation =>
      apply safe_ofExcept_bind
      · intro effectiveContext limited
        have timed : Timed context startedAt timeoutMs effectiveContext := by
          have timed := withTimeout_timed limited
          unfold Timed at timed
          rw [operating.inContext] at timed
          exact timed
        have attempting : Attempting gateway call context descriptor startedAt timeoutMs maxAttempts
            effectiveContext 0 start :=
          ⟨operating.entry, ⟨access, decision, authorized.grant, asked, given, leaves⟩, timed,
            operating.unattempted, operating.unexecuted.le⟩
        have positive := leaves.positive
        exact guards_attempts (by omega) attempting
      · intro error _
        exact attempted_error
  · intro error _
    exact attempted_error

/-- An execution, from its first event. -/
theorem guards_bounded (gateway : ToolGateway) (call : ToolCall) (context : RuntimeCallContext) :
    Guards permits (AttemptNeeds gateway call context) (gateway.execute call context)
      (Attempted gateway call) [] := by
  apply guards_execute attemptNeeds_free
  · intro access after unasked
    exact unasked
  · intro error after
    exact attempted_error
  · intro result final after attempted grown returned same
    obtain ⟨counted, descriptor, startedAt, timeoutMs, maxAttempts, entry, granted⟩ :=
      attempted returned same
    refine ⟨?_, descriptor, startedAt, timeoutMs, maxAttempts, entry.later grown,
      granted.later grown⟩
    rw [counted, grown.countP_eq isAttempt_of_idle]
  · intro descriptor startedAt identity published authorized start operating
    exact guards_operation operating

end Needs

/-! ## The execution as a whole -/

section Whole

variable {gateway : ToolGateway} {call : ToolCall} {context : RuntimeCallContext}
  {descriptor : ToolDescriptor} {startedAt : DateTime} {timeoutMs : Option ℕ} {maxAttempts : ℕ}
  {permits : (op : ToolGatewayOp) → Except Raised op.Answer → Prop}
  {program : ToolProgram ToolResult} {trace before after : ToolTrace} {event : ToolEvent}

theorem attempt_needed (steps : Steps (recording permits) ToolResult
      (gateway.execute call context, []) (program, trace))
    (split : trace = before ++ event :: after) :
    AttemptNeeds gateway call context event.1 before := by
  obtain ⟨-, added, grown, needs⟩ := (guards_bounded gateway call context).traced steps
  have same : added = trace := by
    rw [grown]
    rfl
  exact (needs before event after (same.trans split)).1

theorem authorize_once (steps : Steps (recording permits) ToolResult
      (gateway.execute call context, []) (program, trace)) : trace.countP isAuthorize ≤ 1 := by
  apply countP_le
  intro before event after split asks
  have needed := attempt_needed steps split
  obtain ⟨op, outcome⟩ := event
  cases op with
  | authorize access =>
    have none : before.countP isAuthorize = 0 := needed
    omega
  | _ => cases asks

/-- Attempts before each of which there had been fewer are at most so many. -/
theorem attempts_le (steps : Steps (recording permits) ToolResult
      (gateway.execute call context, []) (program, trace)) {most : ℕ}
    (fewer : ∀ before made attemptContext, Grown (fun _ => True) before trace →
      Bounded gateway call context attemptContext made before → made < most) :
    trace.countP isAttempt ≤ most ∧ trace.countP isExecution ≤ most := by
  constructor
  · apply countP_le
    intro before event after split attempted
    have needed := attempt_needed steps split
    obtain ⟨op, outcome⟩ := event
    cases op with
    | call op =>
      cases op with
      | act op =>
        cases op with
        | createExecution created attemptContext =>
          exact fewer before _ attemptContext (Grown.of_split split) needed.2
        | _ => cases attempted
      | _ => cases attempted
    | _ => cases attempted
  · apply countP_le
    intro before event after split executed
    have needed := attempt_needed steps split
    obtain ⟨op, outcome⟩ := event
    cases op with
    | call op =>
      cases op with
      | act op =>
        cases op with
        | execute given attemptContext =>
          exact fewer before _ attemptContext (Grown.of_split split) needed.2
        | _ => cases executed
      | _ => cases executed
    | _ => cases executed

/-- What precedes an attempt is granted in the whole run. -/
theorem granted_of_bounded {attemptContext : RuntimeCallContext} {made : ℕ}
    (entry : Entry gateway call descriptor startedAt trace)
    (grown : Grown (fun _ => True) before trace)
    (bounded : Bounded gateway call context attemptContext made before) :
    ∃ timeoutMs maxAttempts, Granted descriptor timeoutMs maxAttempts trace ∧
      made < maxAttempts := by
  obtain ⟨descriptor', startedAt', timeoutMs, maxAttempts, entry', granted, -, fewer⟩ := bounded
  obtain ⟨rfl, -⟩ := entry.unique (entry'.later grown)
  exact ⟨timeoutMs, maxAttempts, granted.later grown, fewer⟩

/-- A run has one grant. -/
theorem Granted.leaves {access : AccessRequest} {decision : PolicyDecision} {grant : Grant}
    (granted : Granted descriptor timeoutMs maxAttempts trace)
    (steps : Steps (recording permits) ToolResult (gateway.execute call context, [])
      (program, trace))
    (asked : (⟨.authorize access, .ok decision⟩ : ToolEvent) ∈ trace)
    (given : decision.grant = some grant) :
    Leaves descriptor grant.constraints timeoutMs maxAttempts := by
  obtain ⟨access', decision', grant', asked', given', leaves⟩ := granted
  have same := eq_of_countP_le_one (authorize_once steps) asked asked' rfl rfl
  cases same
  obtain rfl : grant = grant' := Option.some.inj (given.symm.trans given')
  exact leaves

/-- The attempts of a run are those that its grant leaves. -/
theorem attempts_within (steps : Steps (recording permits) ToolResult
      (gateway.execute call context, []) (program, trace))
    (entry : Entry gateway call descriptor startedAt trace)
    (granted : Granted descriptor timeoutMs maxAttempts trace) :
    trace.countP isAttempt ≤ maxAttempts ∧ trace.countP isExecution ≤ maxAttempts := by
  apply attempts_le steps
  intro before made attemptContext grown bounded
  obtain ⟨access, decision, grant, asked, given, leaves⟩ := granted
  obtain ⟨timeoutMs', maxAttempts', granted', fewer⟩ := granted_of_bounded entry grown bounded
  obtain ⟨-, rfl⟩ := leaves.unique (granted'.leaves steps asked given)
  exact fewer

/-- An operation whose grant leaves nothing denies at once. -/
theorem operation_denies {authorized : AuthorizedCall} {identity : IdempotencyKey}
    (refuses : ∀ timeoutMs maxAttempts,
      ¬Leaves descriptor authorized.grant.constraints timeoutMs maxAttempts)
    (published : PublishedCapability ToolDescriptor) : ∃ error, InvalidGrant error ∧
      gateway.operation descriptor call identity startedAt published authorized = .raise error := by
  cases validated : validateGrant descriptor authorized.grant.constraints with
  | ok limits => exact absurd (validateGrant_iff.mp validated) (refuses limits.1 limits.2)
  | error error =>
    refine ⟨error, validateGrant_invalid error validated, ?_⟩
    unfold operation
    rw [validated]
    rfl

end Whole

end ToolGateway

open ToolGateway

/-- Every attempt of a Tool, and every run of its executor, is one of those that the grant leaves of
the declared ones, under a deadline that is no later than that of the caller and the one that the
granted timeout sets. A grant that leaves nothing is denied before any. A result says how many
attempts there were. -/
theorem tool_attempts_bounded {gateway : ToolGateway} {call : ToolCall}
    {context : RuntimeCallContext}
    {permits : (op : ToolGatewayOp) → Except Raised op.Answer → Prop}
    {program : ToolProgram ToolResult} {trace : ToolTrace}
    (steps : Steps (recording permits) ToolResult (gateway.execute call context, [])
      (program, trace)) :
    (∀ before after created attemptContext outcome, trace = before ++
      (⟨.call (.act (.createExecution created attemptContext)), outcome⟩ : ToolEvent) :: after →
        created = call ∧
          Bounded gateway call context attemptContext (before.countP isAttempt) before) ∧
      (∀ before after executed attemptContext outcome, trace = before ++
        (⟨.call (.act (.execute executed attemptContext)), outcome⟩ : ToolEvent) :: after →
          executed = call ∧
            Bounded gateway call context attemptContext (before.countP isExecution) before) ∧
      (∀ descriptor startedAt timeoutMs maxAttempts, Entry gateway call descriptor startedAt trace →
        ToolGateway.Granted descriptor timeoutMs maxAttempts trace →
          trace.countP isAttempt ≤ maxAttempts ∧ trace.countP isExecution ≤ maxAttempts ∧
          maxAttempts ≤ descriptor.executionPolicy.maxAttempts ∧
          ∀ most ∈ descriptor.executionPolicy.timeoutMs, ∃ milliseconds ∈ timeoutMs,
            milliseconds ≤ most) ∧
      (∀ access decision grant descriptor startedAt, Entry gateway call descriptor startedAt trace →
        (⟨.authorize access, .ok decision⟩ : ToolEvent) ∈ trace → decision.grant = some grant →
        (∀ timeoutMs maxAttempts,
          ¬ToolGateway.Leaves descriptor grant.constraints timeoutMs maxAttempts) →
          (∀ identity published authorized, authorized.grant = grant → ∃ error,
            InvalidGrant error ∧ gateway.operation descriptor call identity startedAt published
              authorized = .raise error) ∧
          trace.countP isAttempt = 0 ∧ trace.countP isExecution = 0 ∧
          ∀ result, program ≠ .ret result) ∧
      ∀ result, program = .ret result → result.attempts = trace.countP isAttempt := by
  have attempted : ∀ result, program = .ret result → Attempted gateway call (.ok result) trace := by
    intro result returned
    subst returned
    exact ((guards_bounded gateway call context).traced steps).1
  refine ⟨?_, ?_, ?_, ?_, ?_⟩
  · intro before after created attemptContext outcome split
    exact attempt_needed steps split
  · intro before after executed attemptContext outcome split
    exact attempt_needed steps split
  · intro descriptor startedAt timeoutMs maxAttempts entry granted
    have within := attempts_within steps entry granted
    obtain ⟨access, decision, grant, -, -, leaves⟩ := granted
    exact ⟨within.1, within.2, leaves.le, leaves.timeout_le⟩
  · intro access decision grant descriptor startedAt entry asked given refuses
    have none : trace.countP isAttempt ≤ 0 ∧ trace.countP isExecution ≤ 0 := by
      apply attempts_le steps
      intro before made attemptContext grown bounded
      obtain ⟨timeoutMs, maxAttempts, granted, -⟩ := granted_of_bounded entry grown bounded
      exact absurd (granted.leaves steps asked given) (refuses timeoutMs maxAttempts)
    refine ⟨?_, by omega, by omega, ?_⟩
    · intro identity published authorized same
      subst same
      exact operation_denies refuses published
    · intro result returned
      obtain ⟨-, descriptor', startedAt', timeoutMs, maxAttempts, entry', granted⟩ :=
        attempted result returned result rfl
      obtain ⟨rfl, -⟩ := entry.unique entry'
      exact refuses timeoutMs maxAttempts (granted.leaves steps asked given)
  · intro result returned
    exact (attempted result returned result rfl).1

open SampleParameters in
/-- The sample Tool is attempted once, and says so. -/
theorem tool_attempts_bounded_sample : ∃ result,
    (sampleExecution (.ok (.json .null))).1 = .ret result ∧
    result.attempts = (sampleExecution (.ok (.json .null))).2.countP isAttempt ∧ result.attempts = 1 := by
  have returned : (sampleExecution (.ok (.json .null))).1.returned = true := by decide +kernel
  have once : (sampleExecution (.ok (.json .null))).2.countP isAttempt = 1 := by decide +kernel
  obtain ⟨result, same⟩ := Program.exists_of_returned returned
  have steps : Steps (recording fun _ _ => True) ToolResult
      (sampleToolGateway.execute sampleToolCall sampleInvocationContext, [])
      (sampleExecution (.ok (.json .null))) := answering_steps _ 60 _
  generalize sampleExecution (.ok (.json .null)) = reached at *
  have bounded := tool_attempts_bounded steps
  have counted := bounded.2.2.2.2 result same
  exact ⟨result, same, counted, counted.trans once⟩

end CongeriesCore
