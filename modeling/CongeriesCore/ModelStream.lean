import CongeriesCore.ModelRuns

/-! # The grammar of a model stream

What the consumer of a stream observes, whatever the provider yields or raises and whenever the
call is cancelled or late. -/

namespace CongeriesCore

open AsyncProgram AsyncProgram.Program

abbrev ModelTrace := List (Event (gatewayInterface modelInterface) Raised)

/-- What a provider does: the exceptions of `stream` itself, of an iteration step and of the closing
of its iterator, and whether it may yield something else than an event. -/
structure ModelBehaviour where
  opens : Raised → Prop
  steps : Raised → Prop
  closes : Raised → Prop
  foreign : Prop
  /-- Selectors of a provider and a model whose names do not fit one resource identifier, but
  under which a request may be made. -/
  odd : ModelSelector → Prop
  real : ∀ error, opens error ∨ steps error ∨ closes error → error ≠ outOfFuel

/-- The events that a consumer has taken. -/
def observed (trace : ModelTrace) : List ModelEvent :=
  trace.filterMap fun event => match event.1 with
    | .call (.yield_ event) => some event
    | _ => none

/-- The provider behaves so, a consumer takes each event, and the publisher of the gateway's own
events raises ordinary exceptions only. -/
def streamAnswers (behaviour : ModelBehaviour) : (op : ModelOp) → Except Raised op.Answer → Prop
  | .emit _ _ _, outcome => Within (fun error => error.isException = true) outcome
  | .generate _ _ _, _ => True
  | .stream _ _ _, outcome => Within behaviour.opens outcome
  | .anext, outcome => Within (fun error => error = stopAsyncIteration ∨ behaviour.steps error)
      outcome ∧ (outcome = .ok .malformed → behaviour.foreign)
  | .aclose, outcome => Within behaviour.closes outcome
  | .yield_ _, outcome => outcome = .ok ()

/-- Around the provider, nothing but `CoreError` is raised. -/
abbrev consumerAnswers (behaviour : ModelBehaviour) :
    (op : GatewayOp modelInterface) → Except Raised op.Answer → Prop :=
  gatewayAnswers (fun error => error.isCore = true) (streamAnswers behaviour)

/-- Non-terminal events, the first of which is START. -/
def Opening (events : List ModelEvent) : Prop :=
  (∀ event ∈ events, event.terminal = false) ∧ ∀ first ∈ events.head?, first.isStart = true

/-- An opening and one terminal event, which is last. -/
def Complete (events : List ModelEvent) : Prop :=
  ∃ opening last, events = opening ++ [last] ∧ Opening opening ∧ last.terminal = true

/-- The schema validators report an invalid value, or raise a `CoreError`. -/
def ModelGateway.Regular (gateway : ModelGateway) : Prop :=
  ∀ entry ∈ gateway.schemas.validators.entries, ∀ value,
    Within (fun error => error.isTypeOrValueError = true ∨ error.isCore = true) (entry.2 value)

/-- Each stream of a registered provider that is iterated to its end is complete, and ends without
an exception; and of a stream that has not ended, what is observed is an opening or complete. -/
def StreamsComplete (behaviour : ModelBehaviour) : Prop :=
  ∀ gateway : ModelGateway, gateway.Regular →
    ∀ (request : ModelRequest) (context : RuntimeCallContext) (fuel : ℕ),
      request.selector.providerId ∈ gateway.providers →
      request.selector.Identified ∨ behaviour.odd request.selector →
      ∀ (rest : ModelProgram Unit) (trace : ModelTrace),
        Steps (recording (consumerAnswers behaviour)) Unit
          (gateway.stream request context fuel, []) (rest, trace) →
        (Opening (observed trace) ∨ Complete (observed trace)) ∧
          ∀ outcome, rest = .ofExcept outcome → outcome ≠ .error outOfFuel →
            outcome = .ok () ∧ Complete (observed trace)

/-- The provider's iterator is opened or refused with a `CoreError`, its steps raise ordinary
exceptions only, it yields events, and it can be closed. -/
structure ModelBehaviour.Tame (behaviour : ModelBehaviour) : Prop where
  opens : ∀ error, behaviour.opens error → error.isCore = true
  steps : ∀ error, behaviour.steps error → error.isException = true
  closes : ∀ error, ¬behaviour.closes error
  yields : ¬behaviour.foreign
  identified : ∀ selector, behaviour.odd selector → selector.Identified

/-- An opening goes on with any event that is not terminal. -/
theorem Opening.snoc {events : List ModelEvent} {event : ModelEvent} (opening : Opening events)
    (started : events ≠ []) (plain : event.terminal = false) : Opening (events ++ [event]) := by
  constructor
  · intro other member
    rcases List.mem_append.mp member with earlier | last
    · exact opening.1 other earlier
    · rw [List.mem_singleton.mp last]
      exact plain
  · intro first head
    obtain ⟨head', tail, rfl⟩ := List.exists_cons_of_ne_nil started
    cases head
    exact opening.2 _ rfl

theorem Opening.closed {events : List ModelEvent} {last : ModelEvent} (opening : Opening events)
    (terminal : last.terminal = true) : Complete (events ++ [last]) :=
  ⟨events, last, rfl, opening, terminal⟩

namespace ModelStream

open GatewayDispatch

variable {behaviour : ModelBehaviour}

@[simp] theorem observed_append (first second : ModelTrace) :
    observed (first ++ second) = observed first ++ observed second :=
  List.filterMap_append

@[simp] theorem observed_nil : observed [] = [] := rfl

theorem opening_nil : Opening [] := by
  constructor
  · intro event member
    cases member
  · intro first head
    cases head

theorem opening_start (event : ModelEvent) (starts : event.isStart = true) : Opening [event] := by
  constructor
  · intro other member
    rw [List.mem_singleton.mp member]
    cases event with
    | start => rfl
    | _ => cases starts
  · intro first head
    cases head
    exact starts

/-! ### What is observed -/

/-- What an operation of the stream needs of the trace: a consumer takes an event only after an
opening, which the event continues or closes. -/
def Needs : (op : GatewayOp modelInterface) → ModelTrace → Prop
  | .call (.yield_ event), trace => Opening (observed trace) ∧
      (event.terminal = true ∨ Opening (observed trace ++ [event]))
  | _, _ => True

abbrev Runs {α : Type} (behaviour : ModelBehaviour) (program : ModelProgram α)
    (post : Except Raised α → ModelTrace → Prop) (trace : ModelTrace) : Prop :=
  program.Safe (recording (consumerAnswers behaviour)) (.traced Needs) post trace

/-- The operation yields nothing to the consumer. -/
def Silent : GatewayOp modelInterface → Prop
  | .call (.yield_ _) => False
  | _ => True

theorem needs_silent {op : GatewayOp modelInterface} (silent : Silent op) (trace : ModelTrace) :
    Needs op trace := by
  match op, silent with
  | .cancelled _, _ | .now, _ | .authorize _, _ | .authorizationDenied _ _, _
  | .crossScopeGranted _ _, _ | .handleAuditFailure _ _, _ | .call (.emit _ _ _), _
  | .call (.generate _ _ _), _ | .call (.stream _ _ _), _ | .call .anext, _
  | .call .aclose, _ => trivial

theorem observed_silent {op : GatewayOp modelInterface} (silent : Silent op)
    (outcome : Except Raised op.Answer) : observed [⟨op, outcome⟩] = [] := by
  match op, silent with
  | .cancelled _, _ | .now, _ | .authorize _, _ | .authorizationDenied _ _, _
  | .crossScopeGranted _ _, _ | .handleAuditFailure _ _, _ | .call (.emit _ _ _), _
  | .call (.generate _ _ _), _ | .call (.stream _ _ _), _ | .call .anext, _
  | .call .aclose, _ => rfl

/-- A coroutine that yields nothing leaves what is observed. -/
theorem runs_silent {α : Type} {program : ModelProgram α} {post : Except Raised α → Prop}
    {events : List ModelEvent} {trace : ModelTrace} (only : program.Only Silent)
    (yields : program.Yields (consumerAnswers behaviour) post) (before : observed trace = events) :
    Runs behaviour program (fun outcome after => post outcome ∧ observed after = events) trace := by
  induction program generalizing trace with
  | ret value => exact ⟨yields, before⟩
  | raise error => exact ⟨yields, before⟩
  | await op resume ih =>
    intro current relied _
    obtain rfl : trace = current := relied
    refine ⟨needs_silent only.1 trace, fun answer permitted => ⟨trivial, trivial, ?_⟩⟩
    let outcome : Except Raised op.Answer := answer
    have quiet : observed [⟨op, outcome⟩] = [] := observed_silent only.1 outcome
    have same : observed (trace ++ [⟨op, outcome⟩]) = events := by
      rw [observed_append, quiet, List.append_nil, before]
    exact ih outcome (only.2 outcome) (yields outcome permitted) same

/-- Whatever a run has come to, what is observed is an opening or complete. -/
theorem observed_of_needs {trace : ModelTrace}
    (needs : ∀ before event later, trace = before ++ event :: later → Needs event.1 before) :
    Opening (observed trace) ∨ Complete (observed trace) := by
  induction trace using List.reverseRecOn with
  | nil => exact .inl opening_nil
  | append_singleton trace event ih =>
    have earlier := ih fun before other later split =>
      needs before other (later ++ [event]) (by simp [split])
    have needed := needs trace event [] rfl
    obtain ⟨op, outcome⟩ := event
    by_cases silent : Silent op
    · have quiet : observed [⟨op, outcome⟩] = [] := observed_silent silent outcome
      rw [observed_append, quiet, List.append_nil]
      exact earlier
    · match op, silent with
      | .call (.yield_ event), _ =>
        obtain ⟨opening, continues⟩ := needed
        rcases continues with terminal | opening'
        · right
          have taken : observed [⟨.call (.yield_ event), outcome⟩] = [event] := rfl
          rw [observed_append, taken]
          exact opening.closed terminal
        · left
          have taken : observed [⟨.call (.yield_ event), outcome⟩] = [event] := rfl
          rw [observed_append, taken]
          exact opening'
      | .cancelled _, silent | .now, silent | .authorize _, silent
      | .authorizationDenied _ _, silent | .crossScopeGranted _ _, silent
      | .handleAuditFailure _ _, silent | .call (.emit _ _ _), silent
      | .call (.generate _ _ _), silent | .call (.stream _ _ _), silent | .call .anext, silent
      | .call .aclose, silent => exact absurd trivial silent

/-! ### The parts of a stream -/

theorem only_now : (RuntimeControl.now : ModelProgram DateTime).Only Silent :=
  only_perform.mpr trivial

theorem only_checkActive (context : RuntimeCallContext) :
    (context.checkActive : ModelProgram Unit).Only Silent :=
  RuntimeCallContext.only_checkActive (fun _ => only_perform.mpr trivial) only_now context

theorem only_emit {eventType : String} {context : RuntimeCallContext}
    {payload : List (String × JsonValue)} :
    (ModelGateway.emit eventType context payload).Only Silent := by
  apply Only.catching
  · exact only_perform.mpr trivial
  · intro error
    apply only_ite
    · intro _
      trivial
    · intro _
      trivial

variable (behaviour) in
theorem yields_now : (RuntimeControl.now : ModelProgram DateTime).Yields
    (consumerAnswers behaviour) (fun outcome => ∃ time, outcome = .ok time) :=
  yields_perform fun _ answered => answered

theorem yields_emit {eventType : String} {context : RuntimeCallContext}
    {payload : List (String × JsonValue)} :
    (ModelGateway.emit eventType context payload).Yields (consumerAnswers behaviour)
      (· = .ok ()) := by
  have emitted : (modelOp (.emit eventType context payload)).Yields (consumerAnswers behaviour)
      (Within fun error : Raised => error.isException = true) :=
    yields_perform fun _ answered => answered
  apply Yields.catching emitted
  · intro _ _
    rfl
  · intro error within
    rw [if_pos (within error rfl)]
    rfl

/-- The clock is read and an event is published. -/
theorem runs_report {eventType : String} {context : RuntimeCallContext}
    {payload : List (String × JsonValue)} {events : List ModelEvent} {trace : ModelTrace}
    (before : observed trace = events) :
    Runs behaviour (do
      let _ ← (RuntimeControl.now : ModelProgram DateTime)
      ModelGateway.emit eventType context payload)
      (fun outcome after => outcome = .ok () ∧ observed after = events) trace := by
  apply runs_silent _ _ before
  · exact only_now.bind fun _ => only_emit
  · apply Yields.bind (yields_now behaviour)
    · intro _ _
      exact yields_emit
    · intro error impossible
      obtain ⟨_, impossible⟩ := impossible
      cases impossible

theorem runs_yield {event : ModelEvent} {trace : ModelTrace} (opening : Opening (observed trace))
    (continues : event.terminal = true ∨ Opening (observed trace ++ [event])) :
    Runs behaviour (modelOp (.yield_ event))
      (fun outcome after => outcome = .ok () ∧ observed after = observed trace ++ [event])
      trace := by
  apply safe_perform_traced ⟨opening, continues⟩
  intro outcome answered
  have taken : outcome = .ok () := answered
  subst taken
  exact ⟨rfl, observed_append _ _⟩

/-- Where a stream that has yielded its terminal event stands. -/
def Closed (outcome : Except Raised Unit) (trace : ModelTrace) : Prop :=
  outcome = .ok () ∧ Complete (observed trace)

/-- The last event is published and taken. -/
theorem runs_last {event : ModelEvent} {report : ModelProgram Unit} {trace : ModelTrace}
    (opening : Opening (observed trace)) (terminal : event.terminal = true)
    (reports : Runs behaviour report
      (fun outcome after => outcome = .ok () ∧ observed after = observed trace) trace) :
    Runs behaviour (do
      report
      modelOp (.yield_ event)) Closed trace := by
  apply Safe.bind reports
  · intro _ between ended
    have still : Opening (observed between) := ended.2 ▸ opening
    apply (runs_yield still (.inl terminal)).mono
    intro outcome after taken
    exact ⟨taken.1, taken.2 ▸ still.closed terminal⟩
  · intro error between impossible
    cases impossible.1

theorem runs_yieldFailure {context : RuntimeCallContext} {detail : ErrorDetail} {trace : ModelTrace}
    (opening : Opening (observed trace)) :
    Runs behaviour (ModelGateway.yieldFailure context detail) Closed trace :=
  runs_last opening rfl (runs_report rfl)

theorem runs_closing {program : ModelProgram Unit} {trace : ModelTrace}
    (closes : Runs behaviour program Closed trace) :
    Runs behaviour (ModelGateway.closing program) Closed trace := by
  apply Safe.catching closes
  · intro value after ended
    exact ended
  · intro error after impossible
    cases impossible.1

/-- Where the body of a stream ends: closed, or with a `CoreError` or without fuel while it is
open. -/
def Pumped (outcome : Except Raised Unit) (trace : ModelTrace) : Prop :=
  Closed outcome trace ∨ ∃ error, outcome = .error error ∧ Opening (observed trace) ∧
    (error.isCore = true ∨ error = outOfFuel)

theorem pumped_closed {program : ModelProgram Unit} {trace : ModelTrace}
    (closes : Runs behaviour program Closed trace) : Runs behaviour program Pumped trace :=
  closes.mono fun _ _ ended => .inl ended

theorem validate_core {gateway : ModelGateway} (regular : gateway.Regular) (schema : SchemaRef)
    (value : JsonValue) :
    Within (fun error => error.isCore = true) (gateway.schemas.validate schema value) := by
  intro error raised
  unfold SchemaRegistry.validate at raised
  split at raised
  · cases raised
    rfl
  · rename_i validator registered
    have member := Dict.mem_of_get? registered
    split at raised
    · cases raised
    · rename_i failure failed
      split at raised
      · cases raised
        rfl
      · cases raised
        rename_i other
        rcases regular _ member value _ failed with converted | core
        · exact absurd converted other
        · exact core

theorem validateResponse_core {gateway : ModelGateway} (regular : gateway.Regular)
    (request : ModelRequest) (response : ModelResponse) :
    Within (fun error => error.isCore = true)
      (validateModelResponse gateway.schemas request response) := by
  have structured : Within (fun error => error.isCore = true)
      (validateStructuredOutput gateway.schemas request response) := by
    unfold validateStructuredOutput
    split
    · exact within_ok
    · exact within_bind ensure_core fun _ _ => validate_core regular _ _
  exact within_bind ensure_core fun _ _ => within_bind structured fun _ _ =>
    within_bind ensure_core fun _ _ => within_bind ensure_core fun _ _ =>
      within_bind ensure_core fun _ _ => ensure_core

/-! ### The loop -/

theorem isException_of_isCore {error : Raised} (core : error.isCore = true) :
    error.isException = true := by
  cases error with
  | core detail => rfl
  | value | assertion | key | other | cancelledError => cases core

theorem isCore_of_dispatchRaises {error : Raised}
    (raises : DispatchRaises (fun error => error.isCore = true) error) : error.isCore = true := by
  rcases raises with core | ⟨detail, rfl, -⟩
  · exact core
  · rfl

/-- What a step of a tame provider's iterator comes to. -/
def Stepped (outcome : Except Raised (Returned ModelEvent)) : Prop :=
  Within (fun error => error.isException = true) outcome ∧ outcome ≠ .ok .malformed

theorem yields_step (tame : behaviour.Tame) (context : RuntimeCallContext) :
    (context.awaitProvider (modelOp .anext)).Yields (consumerAnswers behaviour) Stepped := by
  apply yields_awaitProvider
  · intro error raises
    constructor
    · exact within_error (isException_of_isCore (isCore_of_dispatchRaises raises))
    · nofun
  · apply yields_perform
    intro outcome answered
    obtain ⟨within, foreign⟩ := answered
    constructor
    · intro error raised
      rcases within error raised with rfl | stepped
      · rfl
      · exact tame.steps error stepped
    · intro malformed
      exact tame.yields (foreign malformed)

theorem only_awaitProvider {α : Type} {operation : ModelProgram α} {context : RuntimeCallContext}
    (operates : operation.Only Silent) : (context.awaitProvider operation).Only Silent := by
  apply (only_checkActive context).bind
  intro _
  apply operates.bind
  intro _
  apply (only_checkActive context).bind
  intro _
  trivial

/-- The body of the loop keeps an opening, and leaves it closed or open behind an exception. -/
theorem runs_pump (tame : behaviour.Tame) {gateway : ModelGateway} (regular : gateway.Regular)
    (request : ModelRequest) (context : RuntimeCallContext) (fuel : ℕ) (started : Bool)
    {trace : ModelTrace} (opening : Opening (observed trace))
    (begun : started = true ↔ observed trace ≠ []) :
    Runs behaviour (gateway.pump request context fuel started) Pumped trace := by
  induction fuel generalizing started trace with
  | zero => exact .inr ⟨outOfFuel, rfl, opening, .inr rfl⟩
  | succ fuel ih =>
    have asks : (modelOp .anext).Only Silent := only_perform.mpr trivial
    have stepped := runs_silent (only_awaitProvider asks) (yields_step tame context)
      (Eq.refl (observed trace))
    apply Safe.andThen stepped
    intro outcome between ended
    obtain ⟨⟨within, typed⟩, same⟩ := ended
    have still : Opening (observed between) := same ▸ opening
    match outcome with
    | .error error =>
      have failed : ∀ detail, Runs behaviour (ModelGateway.yieldFailure context detail)
          Pumped between := fun detail => pumped_closed (runs_yieldFailure still)
      dsimp only
      split
      · exact failed _
      · split
        · exact failed _
        · split
          · exact failed _
          · exact absurd (within error rfl) ‹_›
    | .ok .malformed => exact absurd rfl typed
    | .ok (.typed event) =>
      dsimp only
      split
      · exact pumped_closed (runs_yieldFailure still)
      · rename_i goesOn
        split
        · rename_i response
          cases validated : validateModelResponse gateway.schemas request response with
          | error error =>
            have core := validateResponse_core regular request response error validated
            exact .inr ⟨error, rfl, still, .inl core⟩
          | ok done =>
            exact pumped_closed (runs_closing (runs_last still rfl (runs_report rfl)))
        · exact pumped_closed (runs_closing (runs_last still rfl (runs_report rfl)))
        · rename_i completes fails
          have plain : event.terminal = false := by
            cases event with
            | completion response => exact absurd rfl (completes response)
            | failure error => exact absurd rfl (fails error)
            | start | contentDelta | structuredDelta | toolRequest | usageUpdate => rfl
          have continued : Opening (observed between ++ [event]) := by
            by_cases empty : observed between = []
            · have first : started = false := by
                cases started with
                | false => rfl
                | true => exact absurd (same ▸ empty) (begun.mp rfl)
              subst first
              rw [empty]
              exact opening_start event (by simpa using goesOn)
            · exact still.snoc empty plain
          apply Safe.bind (runs_yield still (.inr continued))
          · intro _ after taken
            apply ih true
            · rw [taken.2]
              exact continued
            · simp [taken.2]
          · intro error after impossible
            cases impossible.1

/-- An exception that leaves the loop while the stream is open closes it. -/
theorem runs_failing {context : RuntimeCallContext} {program : ModelProgram Unit}
    {trace : ModelTrace} (pumped : Runs behaviour program Pumped trace) :
    Runs behaviour (ModelGateway.failing context program)
      (fun outcome after => Closed outcome after ∨ outcome = .error outOfFuel ∧
        Opening (observed after)) trace := by
  apply Safe.catching pumped
  · intro value after ended
    rcases ended with closed | ⟨error, impossible, -⟩
    · exact .inl closed
    · cases impossible
  · intro error after ended
    rcases ended with impossible | ⟨raised, same, opening, core⟩
    · cases impossible.1
    · cases same
      rcases core with core | rfl
      · cases error with
        | core detail => exact (runs_yieldFailure opening).mono fun _ _ closed => .inl closed
        | value | assertion | key | other | cancelledError => cases core
      · exact .inr ⟨rfl, opening⟩

/-- Opening the provider's iterator yields nothing, and raises a `CoreError` if anything. -/
theorem runs_openStream (tame : behaviour.Tame) {gateway : ModelGateway} {request : ModelRequest}
    {access : AccessRequest} {trace : ModelTrace} (unobserved : observed trace = []) :
    Runs behaviour (gateway.openStream request access)
      (fun outcome after => Within (fun error => error.isCore = true) outcome ∧
        observed after = []) trace := by
  apply runs_silent _ _ unobserved
  · apply only_dispatch
    · intro op own
      cases op with
      | call op => cases own
      | cancelled | now | authorize | authorizationDenied | crossScopeGranted
      | handleAuditFailure => trivial
    · intro call
      apply only_ofExcept.bind
      intro constrained
      exact only_perform.mpr trivial
  · apply yields_dispatch
    · intro error raises
      exact within_error (isCore_of_dispatchRaises raises)
    · intro call _
      apply Yields.bind (yields_ofExcept (constrainModelRequest_core request _))
      · intro constrained _
        apply yields_perform
        intro outcome answered error raised
        exact tame.opens error (answered error raised)
      · intro error within
        exact within_error (within error rfl)

/-- How a stream ends, but for its fuel. -/
def Finished (outcome : Except Raised Unit) (trace : ModelTrace) : Prop :=
  Closed outcome trace ∨ outcome = .error outOfFuel ∧ Opening (observed trace)

theorem runs_aclose (tame : behaviour.Tame) (closable : Bool) {trace : ModelTrace} :
    Runs behaviour (if closable then modelOp .aclose else pure ())
      (fun outcome after => outcome = .ok () ∧ observed after = observed trace) trace := by
  cases closable with
  | false => exact ⟨rfl, rfl⟩
  | true =>
    have asks : (modelOp .aclose).Only Silent := only_perform.mpr trivial
    have closes : (modelOp .aclose).Yields (consumerAnswers behaviour) (· = .ok ()) := by
      apply yields_perform
      intro outcome answered
      cases outcome with
      | ok done => rfl
      | error error => exact absurd (answered error rfl) (tame.closes error)
    exact runs_silent asks closes rfl

/-- A stream whose provider is registered, and identified. -/
theorem runs_stream (tame : behaviour.Tame) {gateway : ModelGateway} (regular : gateway.Regular)
    {request : ModelRequest} {context : RuntimeCallContext} (fuel : ℕ)
    (registered : request.selector.providerId ∈ gateway.providers)
    (identified : request.selector.Identified) :
    Runs behaviour (gateway.stream request context fuel) Finished [] := by
  obtain ⟨access, accessed, -⟩ := modelAccess_identified identified context modelStreamAction
    (modelConstraints request)
  have found : gateway.checkProvider request.selector.providerId = .ok () := by
    apply ensure_ok
    simpa using registered
  have read := runs_silent only_now (yields_now behaviour) observed_nil
  apply Safe.bind read
  · intro time between ended
    apply safe_passed found
    apply safe_passed accessed
    apply Safe.andThen (runs_openStream tame ended.2)
    intro outcome opened ended
    obtain ⟨core, unobserved⟩ := ended
    have opening : Opening (observed opened) := unobserved ▸ opening_nil
    cases outcome with
    | error error =>
      apply runs_failing
      exact .inr ⟨error, rfl, opening, .inl (core error rfl)⟩
    | ok closable =>
      have pumped : Runs behaviour (do
          ModelGateway.emitStarted request context .stream
          gateway.pump request context fuel false) Pumped opened := by
        apply Safe.bind (runs_silent only_emit yields_emit unobserved)
        · intro _ announced ended
          apply runs_pump tame regular
          · exact ended.2 ▸ opening_nil
          · simp [ended.2]
        · intro error after impossible
          cases impossible.1
      apply Safe.andThen (runs_failing pumped)
      intro outcome after ended
      apply Safe.bind (runs_aclose tame closable)
      · intro _ closed ended'
        apply safe_ofExcept
        unfold Finished Closed
        rw [ended'.2]
        exact ended
      · intro error after impossible
        cases impossible.1
  · intro error after impossible
    obtain ⟨⟨_, impossible⟩, -⟩ := impossible
    cases impossible

theorem streamsComplete_of_tame (tame : behaviour.Tame) : StreamsComplete behaviour := by
  intro gateway regular request context fuel registered named rest trace steps
  have identified : request.selector.Identified := by
    rcases named with identified | odd
    · exact identified
    · exact tame.identified _ odd
  obtain ⟨safe, added, grown, needs⟩ :=
    (runs_stream tame regular fuel registered identified).traced steps
  constructor
  · apply observed_of_needs
    intro before event later split
    exact (needs before event later (by simpa [grown] using split)).1
  · intro outcome ended fuelled
    subst ended
    have finished : Finished outcome trace := by
      cases outcome with
      | ok done => exact safe
      | error error => exact safe
    rcases finished with closed | ⟨exhausted, -⟩
    · exact closed
    · exact absurd exhausted fuelled

/-! ### Streams of untamed providers -/

open SampleParameters

theorem calm_consumer : ModelGateway.Calm (consumerAnswers behaviour) where
  active := uncancelled_answers
  now := ⟨sampleTime, rfl⟩
  emits _ _ _ := within_ok

/-- The policy may leave the request as it is. -/
theorem leaves_own (request : ModelRequest) : ModelGateway.Leaves (consumerAnswers behaviour) request
    (request.narrowed (some (request.tools.map resourceName)) request.budget)
    (modelConstraints request) where
  grants access := grants_answers access (modelConstraints request)
  effective := constrainModelRequest_own request

section Untamed

variable {gateway : ModelGateway} {request : ModelRequest} {context : RuntimeCallContext}

abbrev Authorized (gateway : ModelGateway) (request : ModelRequest)
    (context : RuntimeCallContext) : Prop :=
  gateway.Authorized request modelStreamAction context

theorem can_stream {fuel : ℕ} {outcome : Except Raised Bool} {post : Except Raised Unit → Prop}
    (authorized : Authorized gateway request context) (opens : Within behaviour.opens outcome)
    (rest : (gateway.streaming request context fuel outcome).Can (consumerAnswers behaviour) post) :
    (gateway.stream request context fuel).Can (consumerAnswers behaviour) post :=
  ModelGateway.can_stream calm_consumer authorized (leaves_own request) (fun _ => opens) rest

/-- A first step that raises, or is no event, ends the loop. -/
theorem can_pump {fuel : ℕ} {outcome : Except Raised (Returned ModelEvent)} {error : Raised}
    (authorized : Authorized gateway request context)
    (steps : streamAnswers behaviour .anext outcome)
    (escapes : outcome = .error error ∧ error.isException = false ∨
      outcome = .ok .malformed ∧ error = .other "AttributeError") :
    (gateway.pump request context (fuel + 1) false).Can (consumerAnswers behaviour)
      (· = .error error) := by
  have asked : (modelOp .anext).Can (consumerAnswers behaviour) (· = outcome) :=
    can_perform steps rfl
  rcases escapes with ⟨rfl, unexceptional⟩ | ⟨rfl, rfl⟩
  · apply (can_awaitProvider_raises uncancelled_answers authorized.endless asked).andThen
    intro outcome ended
    subst ended
    cases error with
    | cancelledError => rfl
    | core | value | assertion | key | other => cases unexceptional
  · apply (can_awaitProvider uncancelled_answers authorized.endless asked).andThen
    intro outcome ended
    subst ended
    rfl

theorem can_escape {fuel : ℕ} {error : Raised} (authorized : Authorized gateway request context)
    (uncaught : error.isCore = false)
    (escapes : (gateway.pump request context fuel false).Can (consumerAnswers behaviour)
      (· = .error error)) :
    (gateway.stream request context fuel).Can (consumerAnswers behaviour) (· = .error error) := by
  have opens : Within behaviour.opens (.ok false) := within_ok
  apply can_stream authorized opens
  have pumped : (do
      ModelGateway.emitStarted request context .stream
      gateway.pump request context fuel false : ModelProgram Unit).Can (consumerAnswers behaviour)
        (· = .error error) := (ModelGateway.can_emit calm_consumer).bind escapes
  have fails : (ModelGateway.failing context do
      ModelGateway.emitStarted request context .stream
      gateway.pump request context fuel false).Can (consumerAnswers behaviour)
        (· = .error error) := by
    apply pumped.andThen
    intro outcome ended
    subst ended
    cases error with
    | core detail => cases uncaught
    | value | assertion | key | other | cancelledError => rfl
  apply fails.andThen
  intro outcome ended
  subst ended
  rfl

/-- A stream that is closed after it has ended. -/
theorem can_close {fuel : ℕ} {error : Raised} (authorized : Authorized gateway request context)
    (closes : behaviour.closes error) :
    (gateway.stream request context (fuel + 1)).Can (consumerAnswers behaviour)
      (· = .error error) := by
  have opens : Within behaviour.opens (.ok true) := within_ok
  have stops : streamAnswers behaviour .anext (.error stopAsyncIteration) :=
    ⟨within_error (.inl rfl), nofun⟩
  have asked : (modelOp .anext).Can (consumerAnswers behaviour)
      (· = .error stopAsyncIteration) := can_perform stops rfl
  have taken : ∀ event, (modelOp (.yield_ event)).Can (consumerAnswers behaviour) (· = .ok ()) :=
    fun event => can_perform rfl rfl
  have closed : (modelOp .aclose).Can (consumerAnswers behaviour) (· = .error error) :=
    can_perform (within_error closes) rfl
  have ends : (gateway.pump request context (fuel + 1) false).Can (consumerAnswers behaviour)
      (· = .ok ()) := by
    apply (can_awaitProvider_raises uncancelled_answers authorized.endless asked).andThen
    intro outcome ended
    subst ended
    dsimp only
    rw [if_pos rfl]
    exact (ModelGateway.can_emitFailure calm_consumer).bind (taken _)
  apply can_stream authorized opens
  have passes : (ModelGateway.failing context do
      ModelGateway.emitStarted request context .stream
      gateway.pump request context (fuel + 1) false).Can (consumerAnswers behaviour)
        (· = .ok ()) := by
    apply ((ModelGateway.can_emit calm_consumer).bind ends).andThen
    intro outcome ended
    subst ended
    rfl
  apply passes.andThen
  intro outcome ended
  subst ended
  exact closed.raises rfl

end Untamed

/-- A gateway with one provider and no schemas, and a request of text under no limit. -/
def gatewayOf (providerId : ProviderId) : ModelGateway :=
  ⟨[providerId], ⟨.empty⟩, ⟨[modelStreamAction], true⟩⟩

def requestOf (selector : ModelSelector) : ModelRequest where
  selector := selector
  input := [⟨.text, .str "hello", none, none, .inr ⟨"hello", rfl⟩, nofun, nofun⟩]
  instructions := []
  contextEntries := []
  tools := []
  outputSchema := none
  policy := ⟨false, false⟩
  budget := ⟨none, none, unlimited⟩
  valid := ⟨nofun, List.nodup_nil⟩

def sampleSelector : ModelSelector := ⟨⟨"provider-1", provider_checked⟩, ⟨"model-1", model_checked⟩⟩

theorem regular_gatewayOf (providerId : ProviderId) : (gatewayOf providerId).Regular := by
  intro entry member
  cases member

theorem authorized_of {selector : ModelSelector} (identified : selector.Identified) :
    Authorized (gatewayOf selector.providerId) (requestOf selector) sampleContext :=
  ⟨.head _, identified, rfl, .head _, rfl⟩

/-- A stream that can end with an exception is no complete one. -/
theorem not_complete {selector : ModelSelector} {fuel : ℕ} {error : Raised}
    (named : selector.Identified ∨ behaviour.odd selector) (fuelled : error ≠ outOfFuel)
    (raises : ((gatewayOf selector.providerId).stream (requestOf selector) sampleContext fuel).Can
      (consumerAnswers behaviour) (· = .error error)) : ¬StreamsComplete behaviour := by
  intro complete
  obtain ⟨outcome, trace, same, steps⟩ := raises.ended []
  subst same
  obtain ⟨-, ends⟩ := complete (gatewayOf selector.providerId) (regular_gatewayOf _)
    (requestOf selector) sampleContext fuel (.head _) named _ trace steps
  have impossible := (ends (.error error) rfl fun same => fuelled (Except.error.inj same)).1
  cases impossible

theorem identified_sample : sampleSelector.Identified := by
  unfold ModelSelector.Identified
  decide

theorem tame_of_streamsComplete (complete : StreamsComplete behaviour) : behaviour.Tame := by
  have named : sampleSelector.Identified ∨ behaviour.odd sampleSelector := .inl identified_sample
  have authorized := authorized_of identified_sample
  have foreign : Raised.other "AttributeError" ≠ outOfFuel := by decide
  constructor
  · intro error opens
    by_contra uncaught
    have opening : Within behaviour.opens (.error error : Except Raised Bool) := within_error opens
    have raises : ((gatewayOf sampleSelector.providerId).stream (requestOf sampleSelector)
        sampleContext 0).Can (consumerAnswers behaviour) (· = .error error) := by
      apply can_stream authorized opening
      cases error with
      | core detail => exact absurd rfl uncaught
      | value | assertion | key | other | cancelledError => rfl
    exact not_complete named (behaviour.real error (.inl opens)) raises complete
  · intro error steps
    by_contra unexceptional
    have unexceptional : error.isException = false := by simpa using unexceptional
    have uncaught : error.isCore = false := by
      cases error with
      | core detail => cases unexceptional
      | value | assertion | key | other | cancelledError => rfl
    have stepping : streamAnswers behaviour .anext (.error error) :=
      ⟨within_error (.inr steps), nofun⟩
    have pumps : ((gatewayOf sampleSelector.providerId).pump (requestOf sampleSelector)
        sampleContext 1 false).Can (consumerAnswers behaviour) (· = .error error) :=
      can_pump authorized stepping (.inl ⟨rfl, unexceptional⟩)
    have raises := can_escape authorized uncaught pumps
    exact not_complete named (behaviour.real error (.inr (.inl steps))) raises complete
  · intro error closes
    have raises : ((gatewayOf sampleSelector.providerId).stream (requestOf sampleSelector)
        sampleContext 1).Can (consumerAnswers behaviour) (· = .error error) :=
      can_close authorized closes
    exact not_complete named (behaviour.real error (.inr (.inr closes))) raises complete
  · intro yields
    have stepping : streamAnswers behaviour .anext (.ok .malformed) :=
      ⟨within_ok, fun _ => yields⟩
    have pumps : ((gatewayOf sampleSelector.providerId).pump (requestOf sampleSelector)
        sampleContext 1 false).Can (consumerAnswers behaviour)
        (· = .error (.other "AttributeError")) :=
      can_pump authorized stepping (.inr ⟨rfl, rfl⟩)
    have raises := can_escape authorized rfl pumps
    exact not_complete named foreign raises complete
  · intro selector odd
    by_contra unidentified
    obtain ⟨message, refused⟩ := modelAccess_unidentified unidentified sampleContext
      modelStreamAction (modelConstraints (requestOf selector))
    have fuelled : Raised.value message ≠ outOfFuel := nofun
    have registered : (gatewayOf selector.providerId).checkProvider
        (requestOf selector).selector.providerId = .ok () := by
      apply ensure_ok
      simp [gatewayOf, requestOf]
    have raises : ((gatewayOf selector.providerId).stream (requestOf selector) sampleContext
        0).Can (consumerAnswers behaviour) (· = .error (.value message)) := by
      apply (ModelGateway.can_now calm_consumer).bind
      apply can_passed registered
      exact can_failed refused rfl
    exact not_complete (.inr odd) fuelled raises complete

end ModelStream

/-- The streams of a provider are complete, and end without an exception, exactly where `stream`
raises at most a `CoreError`, the steps of its iterator raise ordinary exceptions only and yield
events, the iterator can be closed, and the provider and the model have one resource identifier. -/
theorem streams_complete_iff (behaviour : ModelBehaviour) :
    StreamsComplete behaviour ↔ behaviour.Tame :=
  ⟨ModelStream.tame_of_streamsComplete, ModelStream.streamsComplete_of_tame⟩

/-- A provider whose `stream` raises nothing but `error`, and may or may not yield foreign values. -/
def behaviourOpening (error : Raised) (fuelled : error ≠ outOfFuel) (foreign : Prop) :
    ModelBehaviour where
  opens raised := raised = error
  steps _ := False
  closes _ := False
  foreign := foreign
  odd _ := False
  real := by
    intro raised opened
    rcases opened with rfl | impossible | impossible
    · exact fuelled
    · cases impossible
    · cases impossible

open ModelStream SampleParameters in
/-- A provider whose `stream` raises a `RuntimeError`, which the consumer then sees instead of an
event, and one that yields something else than an event. -/
theorem streams_not_complete :
    ¬StreamsComplete (behaviourOpening (.other "RuntimeError") (by decide) False) ∧
    ¬StreamsComplete (behaviourOpening callCancelled (by decide) True) ∧
    ∃ trace, Steps
      (recording (consumerAnswers (behaviourOpening (.other "RuntimeError") (by decide) False))) Unit
      ((gatewayOf sampleSelector.providerId).stream (requestOf sampleSelector) sampleContext 1, [])
      (.raise (.other "RuntimeError"), trace) := by
  refine ⟨?_, ?_, ?_⟩
  · intro complete
    have core := (tame_of_streamsComplete complete).opens _ rfl
    cases core
  · intro complete
    exact (tame_of_streamsComplete complete).yields trivial
  · have authorized := authorized_of identified_sample
    have opening : Within (behaviourOpening (.other "RuntimeError") (by decide) False).opens
        (.error (.other "RuntimeError") : Except Raised Bool) := GatewayDispatch.within_error rfl
    have raises : ((gatewayOf sampleSelector.providerId).stream (requestOf sampleSelector)
        sampleContext 1).Can
          (consumerAnswers (behaviourOpening (.other "RuntimeError") (by decide) False))
          (· = .error (.other "RuntimeError")) := can_stream authorized opening rfl
    obtain ⟨outcome, trace, same, steps⟩ := raises.ended []
    subst same
    exact ⟨trace, steps⟩

end CongeriesCore
