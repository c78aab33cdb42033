import CongeriesCore.AuthorizationResources
import CongeriesCore.GatewayTraces
import CongeriesCore.PluginInvocation

/-! # Capabilities behind a lease

How a gateway reaches the implementation of a capability that a Plugin has published: by way of
the registry, through an authorized dispatch, under an execution lease and in a task of its own.
`C` is what the implementation does, and `Impl` what the gateway knows of it. -/

namespace CongeriesCore

open AsyncProgram AsyncProgram.Program

/-- A registration with its implementation, which is `none` where it is not of the type that the
gateway asks for. -/
structure PublishedCapability (Impl : Type) where
  registration : CapabilityRegistration
  implementation : Option Impl

/-- How a wait for a task ends: the task is done, or it has been cancelled because of the deadline
or of the token. -/
inductive TaskEnd
  | done
  | expired
  | cancelled
  deriving DecidableEq, Repr

inductive LeasedOp (C : Interface) (Impl : Type)
  | emit (eventType : String) (context : RuntimeCallContext) (payload : List (String × JsonValue))
  | getCapability (key : CapabilityKey)
  | acquire (key : CapabilityKey) (runId : RunId) (invocation : String)
  | waitOperation (context : RuntimeCallContext)
  | release (lease : ExecutionLease)
  | act (op : C.Op)

abbrev LeasedOp.Answer {C : Interface} {Impl : Type} : LeasedOp C Impl → Type
  | .emit _ _ _ => Unit
  | .getCapability _ => PublishedCapability Impl
  | .acquire _ _ _ => ExecutionLease
  | .waitOperation _ => TaskEnd
  | .release _ => Unit
  | .act op => C.Answer op

abbrev leasedInterface (C : Interface) (Impl : Type) : Interface :=
  ⟨LeasedOp C Impl, LeasedOp.Answer⟩

/-- `CapabilityRef.registration_key`. Of the texts that `str.isdigit` accepts only those of ASCII
digits are known here. -/
def CapabilityRef.registrationKey (ref : CapabilityRef) : CapabilityKey :=
  let digits := ref.contractVersion != "" && ref.contractVersion.toList.all Char.isDigit
  (ref.kind, ref.id.value,
    if digits then ref.contractVersion ++ ".0.0" else ref.contractVersion)

/-- `CapabilityRef.resource`. -/
def CapabilityRef.resource (ref : CapabilityRef) : ResourceRef :=
  ⟨ref.namespace_, ref.kind, ref.id, some ref.owningExtension, ref.valid.1, ref.valid.2.1,
    by simpa using ref.valid.2.2.1⟩

namespace RuntimeCallContext

variable {P : Interface} {α : Type}

/-- The clock is read for the time that is left. -/
def readTimeout (context : RuntimeCallContext) : GatewayProgram P Unit :=
  if context.deadline.isSome then do
    let _ ← RuntimeControl.now
    pure ()
  else pure ()

/-- What a task has come to counts where it was done in time. -/
def finishTask (context : RuntimeCallContext) (wait : GatewayProgram P TaskEnd)
    (outcome : Except Raised α) : GatewayProgram P α := do
  match ← wait with
  | .done =>
    let result ← ofExcept outcome
    context.checkActive
    pure result
  | .expired => .raise deadlineExceeded
  | .cancelled => .raise callCancelled

/-- `await_provider` of a task of several operations. A task that is cut off is waited for, and what
it came to is dropped. -/
def awaitTask (context : RuntimeCallContext) (operation : GatewayProgram P α)
    (wait : GatewayProgram P TaskEnd) : GatewayProgram P α := do
  context.checkActive
  context.readTimeout
  operation.andThen (context.finishTask wait)

end RuntimeCallContext

namespace LeasedCapability

variable {C : Interface} {Impl α : Type}

abbrev leasedOp (op : LeasedOp C Impl) : GatewayProgram (leasedInterface C Impl) op.Answer :=
  @providerOp (leasedInterface C Impl) op

/-- `_emit`. -/
def emit (eventType : String) (context : RuntimeCallContext) (payload : List (String × JsonValue)) :
    GatewayProgram (leasedInterface C Impl) Unit :=
  suppressException (leasedOp (.emit eventType context payload))

def accessRequest (invocation : Invocation) : AccessRequest where
  principal := invocation.principal
  action := invocation.action
  resource := invocation.resource
  scope := invocation.context.scope
  context := invocation.context
  constraints := invocation.constraints

theorem missingKey_given : "Plugin capability invocation requires an idempotency key" ≠ "" := by
  decide

/-- `PluginLifecycleController.acquire`. -/
def acquire (capabilityKey : CapabilityKey) (context : RuntimeCallContext) :
    GatewayProgram (leasedInterface C Impl) ExecutionLease :=
  match context.idempotencyKey with
  | none => .raise (missingInvocationIdentity
      "Plugin capability invocation requires an idempotency key" missingKey_given)
  | some invocation => leasedOp (.acquire capabilityKey context.runId invocation.value)

theorem outsideScope_required : "permission_denied" ≠ "" ∧
    "Capability invocation Scope is outside its declaration" ≠ "" := by decide

/-- `authorized` of `PluginCapabilityInvoker.invoke`. -/
def authorized (invocation : Invocation) (permission : PluginPermission)
    (published : PublishedCapability Impl)
    (operation : PublishedCapability Impl → AuthorizedCall → GatewayProgram (leasedInterface C Impl) α)
    (call : AuthorizedCall) : GatewayProgram (leasedInterface C Impl) α := do
  ofExcept (ensure (permission.permits call.context.scope) (coreError .denied
    "permission_denied" "Capability invocation Scope is outside its declaration"
    outsideScope_required))
  let lease ← acquire invocation.capabilityKey call.context
  (call.context.awaitTask (operation published call)
    (leasedOp (.waitOperation call.context))).finallyDo (leasedOp (.release lease))

/-- `PluginCapabilityInvoker.invoke`. -/
def invoke (authorization : GatewayAuthorization) (invocation : Invocation)
    (operation : PublishedCapability Impl → AuthorizedCall → GatewayProgram (leasedInterface C Impl) α) :
    GatewayProgram (leasedInterface C Impl) α := do
  let published ← leasedOp (.getCapability invocation.capabilityKey)
  let permission ← ofExcept
    (PluginCapabilityInvoker.checkInvocation invocation published.registration)
  authorization.dispatcher.dispatch (accessRequest invocation)
    (authorized invocation permission published operation)

/-! ## What has happened -/

abbrev LeasedTrace (C : Interface) (Impl : Type) := GatewayDispatch.GatewayTrace (leasedInterface C Impl)

/-- The operation is not one of the implementation. -/
def Idle : GatewayOp (leasedInterface C Impl) → Prop
  | .call (.act _) => False
  | _ => True

/-- The operation comes before the lease, or is the one that acquires it. -/
def Opening : GatewayOp (leasedInterface C Impl) → Prop
  | .call (.getCapability _) => True
  | .call (.acquire _ _ _) => True
  | .call _ => False
  | _ => True

/-- The operation comes after the task, or is the one that releases its lease. -/
def Closing : GatewayOp (leasedInterface C Impl) → Prop
  | .call (.waitOperation _) => True
  | .call (.release _) => True
  | .call _ => False
  | .authorize _ => False
  | _ => True

/-- The operation is one around an invocation: an event is emitted, or a quiet operation happens. -/
def Aside : GatewayOp (leasedInterface C Impl) → Prop
  | .call (.emit _ _ _) => True
  | .call _ => False
  | .authorize _ => False
  | _ => True

theorem Opening.idle {op : GatewayOp (leasedInterface C Impl)} (opening : Opening op) : Idle op := by
  cases op with
  | call op =>
    cases op with
    | act op => exact opening
    | _ => trivial
  | _ => trivial

theorem Closing.idle {op : GatewayOp (leasedInterface C Impl)} (closing : Closing op) : Idle op := by
  cases op with
  | call op =>
    cases op with
    | act op => exact closing
    | _ => trivial
  | _ => trivial

theorem Aside.idle {op : GatewayOp (leasedInterface C Impl)} (aside : Aside op) : Idle op := by
  cases op with
  | call op =>
    cases op with
    | act op => exact aside
    | _ => trivial
  | _ => trivial

theorem aside_of_quiet {op : GatewayOp (leasedInterface C Impl)} (quiet : op.quiet) : Aside op := by
  cases op with
  | call op => exact absurd quiet id
  | authorize request => exact absurd quiet id
  | _ => trivial

theorem only_emit (eventType : String) (context : RuntimeCallContext)
    (payload : List (String × JsonValue)) :
    (emit eventType context payload :
      GatewayProgram (leasedInterface C Impl) Unit).Only Aside := by
  have emits : (leasedOp (.emit eventType context payload) :
      GatewayProgram (leasedInterface C Impl) Unit).Only Aside := only_perform.mpr trivial
  apply emits.catching
  intro error
  apply only_ite
  · intro _
    trivial
  · intro _
    trivial

theorem opening_of_own {op : GatewayOp (leasedInterface C Impl)} (own : op.own) : Opening op := by
  cases op with
  | call op => exact absurd own id
  | _ => trivial

theorem closing_of_quiet {op : GatewayOp (leasedInterface C Impl)} (quiet : op.quiet) :
    Closing op := by
  cases op with
  | call op => exact absurd quiet id
  | authorize request => exact absurd quiet id
  | _ => trivial

abbrev LeasedEvent (C : Interface) (Impl : Type) :=
  Event (gatewayInterface (leasedInterface C Impl)) Raised

/-- An operation of the implementation of such a kind. -/
def isAct (kind : C.Op → Bool) (event : LeasedEvent C Impl) : Bool :=
  match event.1 with
  | .call (.act op) => kind op
  | _ => false

def isRelease (event : LeasedEvent C Impl) : Bool :=
  match event.1 with
  | .call (.release _) => true
  | _ => false

theorem isAct_of_idle {kind : C.Op → Bool} (event : LeasedEvent C Impl) (idle : Idle event.1) :
    isAct kind event = false := by
  obtain ⟨op, outcome⟩ := event
  cases op with
  | call op =>
    cases op with
    | act op => exact absurd idle id
    | _ => rfl
  | _ => rfl

theorem isRelease_of_opening (event : LeasedEvent C Impl) (opening : Opening event.1) :
    isRelease event = false := by
  obtain ⟨op, outcome⟩ := event
  cases op with
  | call op =>
    cases op with
    | release lease => exact absurd opening id
    | _ => rfl
  | _ => rfl

theorem isRelease_of_aside (event : LeasedEvent C Impl) (aside : Aside event.1) :
    isRelease event = false := by
  obtain ⟨op, outcome⟩ := event
  cases op with
  | call op =>
    cases op with
    | release lease => exact absurd aside id
    | _ => rfl
  | _ => rfl

theorem isAuthorize_of_aside (event : LeasedEvent C Impl) (aside : Aside event.1) :
    GatewayDispatch.isAuthorize event = false := by
  obtain ⟨op, outcome⟩ := event
  cases op with
  | authorize request => exact absurd aside id
  | _ => rfl

theorem only_clock :
    (RuntimeControl.now : GatewayProgram (leasedInterface C Impl) DateTime).Only Aside :=
  GatewayDispatch.only_now fun _ quiet => aside_of_quiet quiet

/-- What has happened when the operation of an invocation starts. -/
structure Leasing (invocation : Invocation) (published : PublishedCapability Impl) (grant : Grant)
    (trace after : LeasedTrace C Impl) : Prop where
  found : (⟨.call (.getCapability invocation.capabilityKey), .ok published⟩ :
    Event (gatewayInterface (leasedInterface C Impl)) Raised) ∈ after
  granted : ∃ decision, decision.grant = some grant ∧
    (⟨.authorize (accessRequest invocation), .ok decision⟩ :
      Event (gatewayInterface (leasedInterface C Impl)) Raised) ∈ after
  held : ∃ runId identity lease,
    (⟨.call (.acquire invocation.capabilityKey runId identity), .ok lease⟩ :
      Event (gatewayInterface (leasedInterface C Impl)) Raised) ∈ after
  grown : Grown Opening trace after
  asked : after.countP GatewayDispatch.isAuthorize = trace.countP GatewayDispatch.isAuthorize + 1

section Guards

open GatewayDispatch

variable {β : Type} {permits : (op : GatewayOp (leasedInterface C Impl)) → Except Raised op.Answer → Prop}
  {need : (op : GatewayOp (leasedInterface C Impl)) → LeasedTrace C Impl → Prop}
  {trace : LeasedTrace C Impl}

section Tasks

variable {allowed : GatewayOp (leasedInterface C Impl) → Prop} {context : RuntimeCallContext}
  {wait : GatewayProgram (leasedInterface C Impl) TaskEnd}

theorem guards_finishTask {outcome : Except Raised α}
    {post : Except Raised α → LeasedTrace C Impl → Prop}
    (includes : ∀ op : GatewayOp (leasedInterface C Impl), op.quiet → allowed op)
    (needs : ∀ op after, allowed op → need op after) (waits : wait.Only allowed)
    (returns : ∀ value after, outcome = .ok value → Grown allowed trace after →
      post (.ok value) after)
    (raises : ∀ error after, Grown allowed trace after → post (.error error) after) :
    Guards permits need (context.finishTask wait outcome) post trace := by
  have active := only_active includes context
  apply waits.safe_bind fun op after allows _ => needs op after allows
  · intro ended waited grown
    cases ended with
    | done =>
      apply safe_ofExcept_bind
      · intro value same
        apply active.safe_bind fun op after allows _ => needs op after allows
        · intro _ after grown'
          exact returns value after same (grown.trans grown')
        · intro error after grown'
          exact raises error after (grown.trans grown')
      · intro error _
        exact raises error _ grown
    | expired => exact raises _ _ grown
    | cancelled => exact raises _ _ grown
  · intro error after grown
    exact raises error after grown

theorem only_readTimeout (context : RuntimeCallContext) :
    (context.readTimeout : GatewayProgram (leasedInterface C Impl) Unit).Only GatewayOp.quiet := by
  unfold RuntimeCallContext.readTimeout
  apply only_ite
  · intro _
    exact (only_now fun _ isQuiet => isQuiet).bind fun _ => trivial
  · intro _
    trivial

/-- A task that is waited for ends as its operation did, or raises. -/
theorem guards_awaitTask {operation : GatewayProgram (leasedInterface C Impl) α}
    {post middle : Except Raised α → LeasedTrace C Impl → Prop}
    (includes : ∀ op : GatewayOp (leasedInterface C Impl), op.quiet → allowed op)
    (needs : ∀ op after, allowed op → need op after) (waits : wait.Only allowed)
    (refused : ∀ error after, Grown GatewayOp.quiet trace after → post (.error error) after)
    (operates : ∀ after, Grown GatewayOp.quiet trace after →
      Guards permits need operation middle after)
    (returns : ∀ value final after, middle (.ok value) final → Grown allowed final after →
      post (.ok value) after)
    (raises : ∀ outcome final error after, middle outcome final → Grown allowed final after →
      post (.error error) after) :
    Guards permits need (context.awaitTask operation wait) post trace := by
  have quiets : ∀ (start : LeasedTrace C Impl) op after, GatewayOp.quiet op →
      Grown GatewayOp.quiet start after → need op after :=
    fun _ op after isQuiet _ => needs op after (includes op isQuiet)
  have active := only_active (fun (_ : GatewayOp (leasedInterface C Impl)) isQuiet => isQuiet)
    context
  apply active.safe_bind (quiets trace)
  · intro _ checked entered
    apply (only_readTimeout context).safe_bind (quiets checked)
    · intro _ start grown
      apply Safe.andThen (operates start (entered.trans grown))
      intro outcome final reached
      apply guards_finishTask includes needs waits
      · intro value after same closed
        subst same
        exact returns value final after reached closed
      · intro error after closed
        exact raises outcome final error after reached closed
    · intro error after grown
      exact refused error after (entered.trans grown)
  · intro error after grown
    exact refused error after grown

end Tasks

/-- A lease is released whatever its holder came to. -/
theorem guards_release {program : GatewayProgram (leasedInterface C Impl) α} {lease : ExecutionLease}
    {post middle : Except Raised α → LeasedTrace C Impl → Prop}
    (closes : ∀ op after, Closing op → need op after)
    (runs : Guards permits need program middle trace)
    (ends : ∀ outcome final after, middle outcome final → Grown Closing final after →
      post outcome after)
    (raises : ∀ outcome final error after, middle outcome final → Grown Closing final after →
      post (.error error) after) :
    Guards permits need (program.finallyDo (leasedOp (.release lease))) post trace := by
  apply Safe.andThen runs
  intro outcome final reached
  have release : ∀ ended, Grown Closing final
      (final ++ [(⟨.call (.release lease), ended⟩ :
        Event (gatewayInterface (leasedInterface C Impl)) Raised)]) := fun ended =>
    @Grown.event (gatewayInterface (leasedInterface C Impl)) Raised Closing final
      (.call (.release lease)) trivial ended
  have needed : need (.call (.release lease)) final := closes (.call (.release lease)) final trivial
  apply safe_perform_bind needed
  · intro _ _
    exact safe_ofExcept (ends outcome final _ reached (release _))
  · intro error _
    exact raises outcome final error _ reached (release _)

variable {invocation : Invocation} {authorization : GatewayAuthorization}
  {operation : PublishedCapability Impl → AuthorizedCall →
    GatewayProgram (leasedInterface C Impl) α}

theorem opening_acquire {key : CapabilityKey} {runId : RunId} {identity : String}
    (outcome : Except Raised ExecutionLease) : Grown Opening trace
      (trace ++ [(⟨.call (.acquire key runId identity), outcome⟩ :
        Event (gatewayInterface (leasedInterface C Impl)) Raised)]) :=
  @Grown.event (gatewayInterface (leasedInterface C Impl)) Raised Opening trace
    (.call (.acquire key runId identity)) trivial outcome

theorem opening_getCapability {key : CapabilityKey}
    (outcome : Except Raised (PublishedCapability Impl)) : Grown Opening trace
      (trace ++ [(⟨.call (.getCapability key), outcome⟩ :
        Event (gatewayInterface (leasedInterface C Impl)) Raised)]) :=
  @Grown.event (gatewayInterface (leasedInterface C Impl)) Raised Opening trace
    (.call (.getCapability key)) trivial outcome

/-- What holds at an end, and goes on holding until the lease has been released. -/
def Ending (post : Except Raised α → LeasedTrace C Impl → Prop) (outcome : Except Raised α)
    (final : LeasedTrace C Impl) : Prop :=
  ∀ later, Grown Closing final later → post outcome later ∧ ∀ error, post (.error error) later

/-- The registry has answered, the policy has granted, and a lease has been acquired. -/
theorem leasing_of {published : PublishedCapability Impl} {grant : Grant} {identity : String}
    {runId : RunId} {lease : ExecutionLease} {found granted held start : LeasedTrace C Impl}
    (got : Grown Opening trace found)
    (granting : Granting (accessRequest invocation) grant found granted)
    (acquired : Grown Opening granted held) (grown : Grown GatewayOp.quiet held start)
    (answered : found = trace ++ [⟨.call (.getCapability invocation.capabilityKey), .ok published⟩])
    (leased : held = granted ++
      [⟨.call (.acquire invocation.capabilityKey runId identity), .ok lease⟩]) :
    Leasing invocation published grant trace start := by
  have own : ∀ op : GatewayOp (leasedInterface C Impl), op.own → Opening op :=
    fun _ => opening_of_own
  have quiet : ∀ op : GatewayOp (leasedInterface C Impl), op.quiet → Opening op :=
    fun _ isQuiet => opening_of_own (GatewayOp.own_of_quiet isQuiet)
  have later : Grown Opening granted start := acquired.trans (grown.mono quiet)
  obtain ⟨decision, allowed, asked⟩ := granting.mem
  constructor
  · apply later.subset
    apply granting.grown.subset
    rw [answered]
    simp
  · exact ⟨decision, allowed, later.subset asked⟩
  · refine ⟨runId, identity, lease, grown.subset ?_⟩
    rw [leased]
    simp
  · exact got.trans ((granting.grown.mono own).trans later)
  · rw [grown.countP_eq isAuthorize_of_quiet, leased, List.countP_append, granting.countP, answered,
      List.countP_append]
    rfl

/-- The operation of an invocation runs under a lease, for a call that the policy has granted and
with the implementation that the registry gave. -/
theorem guards_invoke {post middle : Except Raised α → LeasedTrace C Impl → Prop}
    (free : ∀ op after, Idle op → (∀ request, op ≠ .authorize request) → need op after)
    (asks : ∀ after, after.countP isAuthorize = trace.countP isAuthorize →
      need (.authorize (accessRequest invocation)) after)
    (refused : ∀ error after, Grown Idle trace after → post (.error error) after)
    (operates : ∀ published permission call after,
      PluginCapabilityInvoker.checkInvocation invocation published.registration = .ok permission →
      Granted (accessRequest invocation) call →
      Leasing invocation published call.grant trace after →
      Guards permits need (operation published call) middle after)
    (returns : ∀ value final after, middle (.ok value) final → Grown Closing final after →
      post (.ok value) after)
    (raises : ∀ outcome final error after, middle outcome final → Grown Closing final after →
      post (.error error) after) :
    Guards permits need (invoke authorization invocation operation) post trace := by
  have idle : ∀ op : GatewayOp (leasedInterface C Impl), Opening op → Idle op :=
    fun _ opening => opening.idle
  have own : ∀ op : GatewayOp (leasedInterface C Impl), op.own → Opening op :=
    fun _ => opening_of_own
  have closes : ∀ op after, Closing op → need op after := by
    intro op after closing
    apply free op after closing.idle
    intro request same
    subst same
    exact closing
  have quiet : ∀ op after, GatewayOp.quiet op → need op after :=
    fun op after isQuiet => closes op after (closing_of_quiet isQuiet)
  have gets : need (.call (.getCapability invocation.capabilityKey)) trace :=
    free (.call (.getCapability invocation.capabilityKey)) trace trivial (by intro _ same; cases same)
  apply safe_perform_bind gets
  · intro published _
    have got := @opening_getCapability C Impl trace invocation.capabilityKey (.ok published)
    apply safe_ofExcept_bind
    · intro permission checked
      apply guards_dispatch quiet
      · intro after grown
        apply asks
        rw [grown.countP_eq isAuthorize_of_quiet, List.countP_append]
        rfl
      · intro error after grown
        exact refused error after ((got.trans (grown.mono own)).mono idle)
      · intro call after granted granting
        have before := got.trans (granting.grown.mono own)
        apply safe_ofExcept_bind
        · intro _ _
          unfold acquire
          split
          · exact refused _ _ (before.mono idle)
          · rename_i identity _
            have acquires : need (.call (.acquire invocation.capabilityKey call.context.runId
                identity.value)) after :=
              free (.call (.acquire invocation.capabilityKey call.context.runId identity.value))
                after trivial (by intro _ same; cases same)
            apply safe_perform_bind acquires
            · intro lease _
              have acquired := @opening_acquire C Impl after invocation.capabilityKey
                call.context.runId identity.value (.ok lease)
              let held := after ++ [(⟨.call (.acquire invocation.capabilityKey call.context.runId
                identity.value), .ok lease⟩ :
                  Event (gatewayInterface (leasedInterface C Impl)) Raised)]
              have kept : Grown Opening trace held := before.trans acquired
              have lost : ∀ final error, Grown Closing held final → post (.error error) final := by
                intro final error closed
                exact refused error final ((kept.mono idle).trans (closed.mono fun _ => Closing.idle))
              have task : Guards permits need (call.context.awaitTask (operation published call)
                  (leasedOp (.waitOperation call.context))) (Ending post) held := by
                have waits : (leasedOp (.waitOperation call.context) :
                    GatewayProgram (leasedInterface C Impl) TaskEnd).Only Closing :=
                  only_perform.mpr trivial
                apply guards_awaitTask (fun _ => closing_of_quiet) closes waits
                · intro error final grown later closed
                  have ended := (grown.mono fun _ => closing_of_quiet).trans closed
                  exact ⟨lost later error ended, fun other => lost later other ended⟩
                · intro start grown
                  apply operates published permission call start checked granted
                  exact leasing_of got granting acquired grown rfl rfl
                · intro value final later reached closed last closed'
                  have ended := closed.trans closed'
                  exact ⟨returns value final last reached ended, fun error =>
                    raises (.ok value) final error last reached ended⟩
                · intro outcome final error later reached closed last closed'
                  have ended := closed.trans closed'
                  exact ⟨raises outcome final error last reached ended, fun other =>
                    raises outcome final other last reached ended⟩
              apply guards_release closes task
              · intro outcome final later reached closed
                exact (reached later closed).1
              · intro outcome final error later reached closed
                exact (reached later closed).2 error
            · intro error _
              exact refused error _ ((before.trans (opening_acquire _)).mono idle)
        · intro error _
          exact refused error after (before.mono idle)
    · intro error _
      exact refused error _ (got.mono idle)
  · intro error _
    exact refused error _ ((opening_getCapability _).mono idle)

end Guards

end LeasedCapability

namespace SampleParameters

def samplePlugin : PluginRef := ⟨"plugin-1", .release 1 0 0⟩

def sampleLease (key : CapabilityKey) (runId : RunId) (identity : String) : ExecutionLease :=
  ⟨"lease-1", samplePlugin, 1, key, runId, identity, sampleTime⟩

/-- The context of a call with an invocation identity. -/
def sampleInvocationContext : RuntimeCallContext :=
  { sampleContext with idempotencyKey := some ⟨"invocation-1", by decide⟩ }

/-- A declaration of version 1 with one permission in every workspace. -/
def sampleDeclaration (type : CapabilityType) (capabilityId : String) (action : ActionRef) :
    CapabilityDeclaration where
  type := type
  capabilityId := capabilityId
  contractVersion := .release 1 0 0
  permissions := [⟨action, "core", "workspace", "*"⟩]

def sampleRegistration (type : CapabilityType) (capabilityId : String) (action : ActionRef) :
    CapabilityRegistration :=
  ⟨"registration-1", samplePlugin, sampleDeclaration type capabilityId action⟩

/-- Surroundings in which nothing goes wrong. -/
def sampleSurroundings {C : Interface} {Impl : Type} (published : PublishedCapability Impl)
    (acts : (op : C.Op) → Except Raised (C.Answer op)) :
    (op : GatewayOp (leasedInterface C Impl)) → Except Raised op.Answer
  | .cancelled _ => .ok false
  | .now => .ok sampleTime
  | .authorize request => .ok (allowing request)
  | .authorizationDenied _ _ => .ok ()
  | .crossScopeGranted _ _ => .ok ()
  | .handleAuditFailure _ _ => .ok ()
  | .call (.emit _ _ _) => .ok ()
  | .call (.getCapability _) => .ok published
  | .call (.acquire key runId identity) => .ok (sampleLease key runId identity)
  | .call (.waitOperation _) => .ok .done
  | .call (.release _) => .ok ()
  | .call (.act op) => acts op

end SampleParameters

end CongeriesCore
