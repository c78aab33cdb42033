import CongeriesCore.ToolGateway

/-! # The execution of a Tool

An execution comes to its operation once, under a lease and with the call that the policy has
granted; what has to hold of its attempts is left to the operation. -/

namespace CongeriesCore

open AsyncProgram AsyncProgram.Program GatewayDispatch LeasedCapability

abbrev ToolGatewayOp := GatewayOp (leasedInterface toolInterface ToolDescriptor)

abbrev ToolEvent := Event (gatewayInterface (leasedInterface toolInterface ToolDescriptor)) Raised

abbrev ToolTrace := LeasedTrace toolInterface ToolDescriptor

namespace ToolGateway

/-! ## What has happened -/

/-- An attempt is made: its task is created. -/
def isAttempt : ToolEvent → Bool := isAct fun op =>
  match op with
  | .createExecution _ _ => true
  | _ => false

/-- The executor runs. -/
def isExecution : ToolEvent → Bool := isAct fun op =>
  match op with
  | .execute _ _ => true
  | _ => false

theorem isAttempt_of_idle (event : ToolEvent) (idle : LeasedCapability.Idle event.1) :
    isAttempt event = false := isAct_of_idle event idle

theorem isExecution_of_idle (event : ToolEvent) (idle : LeasedCapability.Idle event.1) :
    isExecution event = false := isAct_of_idle event idle

/-- An execution begins with the clock, and with the registry resolving the Tool. -/
def Entry (gateway : ToolGateway) (call : ToolCall) (descriptor : ToolDescriptor)
    (startedAt : DateTime) (trace : ToolTrace) : Prop :=
  ∃ published rest, trace = (⟨.now, .ok startedAt⟩ : ToolEvent) ::
    (⟨.call (.getCapability call.tool.registrationKey), .ok published⟩ : ToolEvent) :: rest ∧
      ToolRegistry.checkTool gateway call.tool published = .ok descriptor

section Entry

variable {gateway : ToolGateway} {call : ToolCall} {descriptor : ToolDescriptor}
  {startedAt : DateTime} {trace after : ToolTrace} {allowed : ToolGatewayOp → Prop}

theorem Entry.later (entry : Entry gateway call descriptor startedAt trace)
    (grown : Grown allowed trace after) : Entry gateway call descriptor startedAt after := by
  obtain ⟨published, rest, rfl, checked⟩ := entry
  obtain ⟨added, rfl, -⟩ := grown
  exact ⟨published, rest ++ added, rfl, checked⟩

/-- An execution resolves its Tool once. -/
theorem Entry.unique {descriptor' : ToolDescriptor} {startedAt' : DateTime}
    (entry : Entry gateway call descriptor startedAt trace)
    (entry' : Entry gateway call descriptor' startedAt' trace) :
    descriptor = descriptor' ∧ startedAt = startedAt' := by
  obtain ⟨published, rest, same, checked⟩ := entry
  obtain ⟨published', rest', same', checked'⟩ := entry'
  rw [same] at same'
  cases same'
  exact ⟨Except.ok.inj (checked.symm.trans checked'), rfl⟩

end Entry

/-- The operation comes after the executor, in the task of an attempt. -/
def Trailing : ToolGatewayOp → Prop
  | .call (.act (.waitExecution _)) => True
  | .call _ => False
  | .authorize _ => False
  | _ => True

theorem trailing_of_quiet (op : ToolGatewayOp) (quiet : op.quiet) : Trailing op := by
  cases op with
  | call op => exact absurd quiet id
  | authorize request => exact absurd quiet id
  | _ => trivial

theorem isAttempt_of_trailing (event : ToolEvent) (trailing : Trailing event.1) :
    isAttempt event = false := by
  obtain ⟨op, outcome⟩ := event
  cases op with
  | call op =>
    cases op with
    | act op =>
      cases op with
      | waitExecution context => rfl
      | _ => exact absurd trailing id
    | _ => rfl
  | _ => rfl

theorem isExecution_of_trailing (event : ToolEvent) (trailing : Trailing event.1) :
    isExecution event = false := by
  obtain ⟨op, outcome⟩ := event
  cases op with
  | call op =>
    cases op with
    | act op =>
      cases op with
      | waitExecution context => rfl
      | _ => exact absurd trailing id
    | _ => rfl
  | _ => rfl

/-! ## The way to the operation -/

section Guards

variable {gateway : ToolGateway} {call : ToolCall} {context : RuntimeCallContext}
  {descriptor : ToolDescriptor} {startedAt : DateTime} {identity : IdempotencyKey}
  {trace : ToolTrace} {permits : (op : ToolGatewayOp) → Except Raised op.Answer → Prop}
  {need : (op : ToolGatewayOp) → ToolTrace → Prop}
  {post : Except Raised ToolResult → ToolTrace → Prop}

/-- What has happened when the operation of an execution starts. -/
structure Operating (gateway : ToolGateway) (call : ToolCall) (context : RuntimeCallContext)
    (descriptor : ToolDescriptor) (startedAt : DateTime) (authorized : AuthorizedCall)
    (trace : ToolTrace) : Prop where
  entry : Entry gateway call descriptor startedAt trace
  granted : ∃ access decision, (⟨.authorize access, .ok decision⟩ : ToolEvent) ∈ trace ∧
    decision.grant = some authorized.grant
  inContext : authorized.context.deadline = context.deadline
  unattempted : trace.countP isAttempt = 0
  unexecuted : trace.countP isExecution = 0

/-- Nothing has been attempted, nor asked. -/
structure Entered (gateway : ToolGateway) (call : ToolCall) (descriptor : ToolDescriptor)
    (startedAt : DateTime) (trace : ToolTrace) : Prop where
  entry : Entry gateway call descriptor startedAt trace
  unattempted : trace.countP isAttempt = 0
  unexecuted : trace.countP isExecution = 0
  unasked : trace.countP isAuthorize = 0

theorem Entered.later {after : ToolTrace} (entered : Entered gateway call descriptor startedAt trace)
    (grown : Grown Aside trace after) : Entered gateway call descriptor startedAt after := by
  obtain ⟨entry, unattempted, unexecuted, unasked⟩ := entered
  refine ⟨entry.later grown, ?_, ?_, ?_⟩
  · rw [grown.countP_eq fun event aside => isAttempt_of_idle event aside.idle, unattempted]
  · rw [grown.countP_eq fun event aside => isExecution_of_idle event aside.idle, unexecuted]
  · rw [grown.countP_eq isAuthorize_of_aside, unasked]

theorem operating_of_leasing {authorized : AuthorizedCall}
    {published : PublishedCapability ToolDescriptor} {start : ToolTrace}
    (entered : Entered gateway call descriptor startedAt trace)
    (inContext : authorized.context.deadline = context.deadline)
    (leasing : Leasing (invocation descriptor call context) published authorized.grant trace start) :
    Operating gateway call context descriptor startedAt authorized start := by
  obtain ⟨decision, given, asked⟩ := leasing.granted
  refine ⟨entered.entry.later leasing.grown, ⟨_, decision, asked, given⟩, inContext, ?_, ?_⟩
  · rw [leasing.grown.countP_eq fun event opening => isAttempt_of_idle event opening.idle,
      entered.unattempted]
  · rw [leasing.grown.countP_eq fun event opening => isExecution_of_idle event opening.idle,
      entered.unexecuted]

variable (free : ∀ op after, LeasedCapability.Idle op → (∀ access, op ≠ .authorize access) →
    need op after)
  (asks : ∀ access after, after.countP isAuthorize = 0 → need (.authorize access) after)
  (raises : ∀ error after, post (.error error) after)
  (later : ∀ result final after, post (.ok result) final → Grown LeasedCapability.Idle final after →
    post (.ok result) after)
  (operates : ∀ descriptor startedAt identity published authorized start,
    Operating gateway call context descriptor startedAt authorized start →
      Guards permits need (gateway.operation descriptor call identity startedAt published authorized)
        post start)

include free in
theorem need_of_aside (op : ToolGatewayOp) (after : ToolTrace) (aside : Aside op)
    (_ : Grown Aside trace after) : need op after := by
  apply free op after aside.idle
  intro access same
  subst same
  exact aside

include free asks raises later operates in
/-- The `try` of an execution. -/
theorem guards_executeTool (entered : Entered gateway call descriptor startedAt trace) :
    Guards permits need (gateway.executeTool descriptor call context identity startedAt) post
      trace := by
  have invoked : Guards permits need
      (invoke gateway.authorization (invocation descriptor call context)
        (gateway.operation descriptor call identity startedAt)) post trace := by
    apply guards_invoke free
    · intro after same
      exact asks _ after (same.trans entered.unasked)
    · intro error after _
      exact raises error after
    · intro published permission authorized start _ granted leasing
      have inContext : authorized.context.deadline = context.deadline := by
        rw [granted.inContext]
        rfl
      exact operates descriptor startedAt identity published authorized start
        (operating_of_leasing entered inContext leasing)
    · intro value final after reached closed
      exact later value final after reached (closed.mono fun _ => Closing.idle)
    · intro outcome final error after _ _
      exact raises error after
  apply Safe.bind invoked
  · intro result final reached
    apply only_clock.safe_bind (need_of_aside free)
    · intro _ read grown
      apply (only_emit _ _ _).safe_bind (need_of_aside free)
      · intro _ emitted grown'
        exact later result final emitted reached ((grown.trans grown').mono fun _ => Aside.idle)
      · intro error after _
        exact raises error after
    · intro error after _
      exact raises error after
  · intro error after _
    exact raises error after

include free in
theorem guards_emitFailure {error : ErrorDetail} : Guards permits need
    (emitFailure call context error) (fun _ _ => True) trace := by
  have only : (emitFailure call context error).Only Aside :=
    only_clock.bind fun _ => only_emit _ _ _
  exact (only.safe_grown (need_of_aside free)).mono fun _ _ _ => trivial

include free asks raises later operates in
theorem guards_executeResolved (entered : Entered gateway call descriptor startedAt trace) :
    Guards permits need (gateway.executeResolved descriptor call context identity startedAt) post
      trace := by
  apply safe_ofExcept_bind
  · intro _ _
    apply (only_emit _ _ _).safe_bind (need_of_aside free)
    · intro _ emitted grown
      have tries := @guards_executeTool gateway call context descriptor startedAt identity emitted
        permits need post free asks raises later operates (entered.later grown)
      apply tries.catching
      · intro result after reached
        exact reached
      · intro error after _
        cases error with
        | core detail =>
          apply (guards_emitFailure free).bind
          · intro _ after _
            exact raises _ after
          · intro error after _
            exact raises error after
        | value | assertion | key | other | cancelledError => exact raises _ after
    · intro error after _
      exact raises error after
  · intro error _
    exact raises error trace

/-- What resolving a Tool leaves of an execution that began then. -/
def Resolved (gateway : ToolGateway) (call : ToolCall) (startedAt : DateTime)
    (outcome : Except Raised ToolDescriptor) (trace : ToolTrace) : Prop :=
  ∀ descriptor, outcome = .ok descriptor → Entered gateway call descriptor startedAt trace

include free in
theorem guards_resolve (gateway : ToolGateway) (startedAt : DateTime) :
    Guards permits need (ToolRegistry.resolve gateway call.tool)
      (Resolved gateway call startedAt) [⟨.now, .ok startedAt⟩] := by
  have refused : ∀ (error : Raised) after, Resolved gateway call startedAt (.error error) after := by
    intro error after descriptor impossible
    cases impossible
  have needed : need (.call (.getCapability call.tool.registrationKey))
      [⟨.now, .ok startedAt⟩] :=
    free (.call (.getCapability call.tool.registrationKey)) _ trivial (by intro _ same; cases same)
  apply safe_ofExcept_bind
  · intro _ _
    apply safe_ofExcept_bind
    · intro _ _
      apply safe_perform_bind needed
      · intro published _
        apply safe_ofExcept
        intro descriptor checked
        exact ⟨⟨published, [], rfl, checked⟩, rfl, rfl, rfl⟩
      · intro error _
        exact refused error _
    · intro error _
      exact refused error _
  · intro error _
    exact refused error _

include free asks raises later operates in
/-- An execution, from its first event. -/
theorem guards_execute : Guards permits need (gateway.execute call context) post [] := by
  have reads : need .now [] := free .now [] trivial (by intro _ same; cases same)
  apply safe_perform_bind reads
  · intro startedAt _
    split
    · exact raises _ _
    · apply (guards_resolve free gateway startedAt).bind
      · intro descriptor after resolved
        exact guards_executeResolved free asks raises later operates (resolved descriptor rfl)
      · intro error after _
        exact raises error after
  · intro error _
    exact raises error _

end Guards

end ToolGateway

/-! ## A sample -/

namespace SampleParameters

def sampleToolRef : CapabilityRef :=
  ⟨"core", "tool", ⟨"tool-1", by decide⟩, "plugin-1", "1", by decide⟩

def sampleToolSchema : SchemaRef := ⟨"core", "value", "1", by decide⟩

def sampleToolAction : ActionRef := ⟨"core", "tool.execute", "1", by decide⟩

/-- Two attempts, in five seconds. -/
def sampleToolDescriptor : ToolDescriptor where
  ref := sampleToolRef
  inputSchema := sampleToolSchema
  outputSchema := sampleToolSchema
  action := sampleToolAction
  executionPolicy := ⟨some 5000, 2, by decide⟩
  sideEffect := .none
  idempotency := .notApplicable
  valid := by unfold CapabilityRef.isTool; decide

def sampleTools : PublishedCapability ToolDescriptor where
  registration := sampleRegistration .tool "tool-1" sampleToolAction
  implementation := some sampleToolDescriptor

/-- Every value is of the sample schema. -/
def sampleToolGateway : ToolGateway where
  actions := [sampleToolAction]
  schemas := ⟨⟨[(sampleToolSchema, fun _ => .ok ())], by decide⟩⟩
  authorization := ⟨[sampleToolAction], true⟩

def sampleToolCall : ToolCall := ⟨sampleToolRef, .obj [], by unfold CapabilityRef.isTool; decide⟩

/-- An executor that always comes to this. -/
def sampleExecutor (outcome : Except Raised Foreign) : (op : ToolOp) → Except Raised op.Answer
  | .createExecution _ _ => .ok ()
  | .execute _ _ => outcome
  | .waitExecution _ => .ok .done

def sampleExecution (outcome : Except Raised Foreign) : ToolProgram ToolResult × ToolTrace :=
  answering (sampleSurroundings sampleTools (sampleExecutor outcome)) 60
    (sampleToolGateway.execute sampleToolCall sampleInvocationContext)

end SampleParameters

end CongeriesCore
