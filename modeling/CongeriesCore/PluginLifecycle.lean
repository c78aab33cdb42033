import CongeriesCore.PluginModel

/-! # Plugin lifecycle and execution leases

The state of one Plugin under its condition variable. Every critical section runs without
suspending, so each of them is one function here. -/

namespace CongeriesCore

structure PluginStateRecord where
  manifest : PluginManifest
  state : PluginLifecycleState
  stateVersion : ℕ
  registrationReceipt : Option RegistrationReceipt
  activationEpoch : ℕ
  successfulHooks : List PluginHookName
  deriving DecidableEq, Repr

structure ExecutionLease where
  leaseId : String
  plugin : PluginRef
  activationEpoch : ℕ
  capabilityKey : CapabilityKey
  runId : RunId
  invocationIdentity : String
  acquiredAt : DateTime
  deriving DecidableEq, Repr

/-- The leases by invocation identity, and the identities of those released. -/
structure PluginLifecycleController where
  record : PluginStateRecord
  leases : Dict String ExecutionLease
  released : List String

namespace PluginLifecycleController

def illegalMessage (current target : PluginLifecycleState) : String :=
  "Cannot transition Plugin from " ++ current.value ++ " to " ++ target.value

theorem illegalMessage_ne_empty (current target : PluginLifecycleState) :
    illegalMessage current target ≠ "" := by
  intro empty
  have first := (String.append_eq_empty_iff.mp empty).1
  have second := (String.append_eq_empty_iff.mp first).1
  exact absurd (String.append_eq_empty_iff.mp second).1 (by decide)

/-- `discover`: the record of the same manifest, or a first one. -/
def discovered (existing : Option PluginStateRecord) (manifest : PluginManifest) :
    Except Raised PluginStateRecord :=
  match existing with
  | none => .ok ⟨manifest, .discovered, 0, none, 0, []⟩
  | some record =>
    if record.manifest = manifest then .ok record
    else .error (registrationIdentityConflict
      "Plugin identity is already associated with another manifest")

def checkTransition (record : PluginStateRecord) (target : PluginLifecycleState)
    (expectedVersion : Option ℕ) : Except Raised Unit := do
  ensure (expectedVersion.all fun version => record.stateVersion == version)
    (coreError .conflict "lifecycle_state_conflict" "Plugin lifecycle state version is stale")
  ensure (record.state == target || record.state.allowed.contains target)
    (coreError .conflict "invalid_lifecycle_transition" (illegalMessage record.state target)
      ⟨by decide, illegalMessage_ne_empty record.state target⟩)

/-- A transition to the current state hands the record back. -/
def moved (record : PluginStateRecord) (target : PluginLifecycleState)
    (receipt : Option RegistrationReceipt) (clearReceipt : Bool) : PluginStateRecord :=
  if record.state = target then record
  else { record with
    state := target
    stateVersion := record.stateVersion + 1
    registrationReceipt := if clearReceipt then none else receipt <|> record.registrationReceipt
    activationEpoch :=
      if target = .active then record.activationEpoch + 1 else record.activationEpoch }

def transition (controller : PluginLifecycleController) (target : PluginLifecycleState)
    (expectedVersion : Option ℕ) (receipt : Option RegistrationReceipt) (clearReceipt : Bool) :
    Except Raised PluginStateRecord × PluginLifecycleController :=
  match checkTransition controller.record target expectedVersion with
  | .error error => (.error error, controller)
  | .ok () =>
    let record := moved controller.record target receipt clearReceipt
    (.ok record, { controller with record })

def marked (record : PluginStateRecord) (hook : PluginHookName) : PluginStateRecord :=
  if hook ∈ record.successfulHooks then record
  else { record with
    stateVersion := record.stateVersion + 1
    successfulHooks := hook :: record.successfulHooks }

def markHook (controller : PluginLifecycleController) (hook : PluginHookName) :
    PluginStateRecord × PluginLifecycleController :=
  let record := marked controller.record hook
  (record, { controller with record })

def leaseConflict : Raised :=
  coreError .conflict "lease_identity_conflict"
    "Execution lease identity conflicts with existing state"

def leaseId [Sha256] (plugin : PluginRef) (activationEpoch : ℕ) (capabilityKey : CapabilityKey)
    (runId : RunId) (invocation : String) : String :=
  "plugin-lease:" ++ (Sha256.text (String.intercalate "\x1f" [plugin.name, plugin.version.text,
    toString activationEpoch, capabilityKey.1, capabilityKey.2.1, capabilityKey.2.2, runId.value,
    invocation])).value

def checkAdmission (record : PluginStateRecord) : Except Raised Unit := do
  ensure (record.state != .draining) (retryableError .unavailable "plugin_draining"
    "Plugin is draining and rejects new execution leases")
  ensure (record.state == .active) (coreError .conflict "invalid_lifecycle_transition"
    "Execution leases are available only while Plugin is ACTIVE")

/-- Whether a lease is the one of the same Run and capability. -/
def sameInvocation (lease : ExecutionLease) (capabilityKey : CapabilityKey) (runId : RunId) : Bool :=
  lease.capabilityKey == capabilityKey && lease.runId == runId

/-- A lease that no invocation holds yet. -/
def newLease [Sha256] (controller : PluginLifecycleController) (capabilityKey : CapabilityKey)
    (runId : RunId) (invocation : String) (now : DateTime) : Except Raised ExecutionLease := do
  checkAdmission controller.record
  let record := controller.record
  let leaseId := leaseId record.manifest.ref record.activationEpoch capabilityKey runId invocation
  ensure (!controller.released.contains leaseId) leaseConflict
  return ⟨leaseId, record.manifest.ref, record.activationEpoch, capabilityKey, runId, invocation, now⟩

/-- `acquire`: an in-flight retry of the same Run and capability gets the original lease. -/
def acquire [Sha256] (controller : PluginLifecycleController) (capabilityKey : CapabilityKey)
    (runId : RunId) (invocation : String) (now : DateTime) :
    Except Raised ExecutionLease × PluginLifecycleController :=
  match controller.leases.get? invocation with
  | some active =>
    if sameInvocation active capabilityKey runId then (.ok active, controller)
    else (.error leaseConflict, controller)
  | none =>
    match controller.newLease capabilityKey runId invocation now with
    | .error error => (.error error, controller)
    | .ok lease =>
      (.ok lease, { controller with leases := controller.leases.set invocation lease })

/-- `release`: idempotent by lease identity. -/
def release (controller : PluginLifecycleController) (lease : ExecutionLease) :
    Except Raised Unit × PluginLifecycleController :=
  if controller.released.contains lease.leaseId then (.ok (), controller)
  else if controller.leases.get? lease.invocationIdentity = some lease then
    (.ok (), { controller with
      leases := controller.leases.erase lease.invocationIdentity
      released := lease.leaseId :: controller.released })
  else (.error leaseConflict, controller)

def noLeases (controller : PluginLifecycleController) : Bool := controller.leases.entries.isEmpty

def leaseCount (controller : PluginLifecycleController) : ℕ := controller.leases.entries.length

/-! ### What the critical sections do -/

variable {controller : PluginLifecycleController}

@[simp] theorem moved_state (record : PluginStateRecord) (target : PluginLifecycleState)
    (receipt : Option RegistrationReceipt) (clearReceipt : Bool) :
    (moved record target receipt clearReceipt).state = target := by
  unfold moved
  split
  · assumption
  · rfl

@[simp] theorem marked_state (record : PluginStateRecord) (hook : PluginHookName) :
    (marked record hook).state = record.state := by
  unfold marked
  split
  · rfl
  · rfl

@[simp] theorem moved_manifest (record : PluginStateRecord) (target : PluginLifecycleState)
    (receipt : Option RegistrationReceipt) (clearReceipt : Bool) :
    (moved record target receipt clearReceipt).manifest = record.manifest := by
  unfold moved
  split
  · rfl
  · rfl

@[simp] theorem moved_successfulHooks (record : PluginStateRecord) (target : PluginLifecycleState)
    (receipt : Option RegistrationReceipt) (clearReceipt : Bool) :
    (moved record target receipt clearReceipt).successfulHooks = record.successfulHooks := by
  unfold moved
  split
  · rfl
  · rfl

theorem moved_registrationReceipt {record : PluginStateRecord} {target : PluginLifecycleState}
    (leaves : record.state ≠ target) (receipt : Option RegistrationReceipt) (clearReceipt : Bool) :
    (moved record target receipt clearReceipt).registrationReceipt =
      if clearReceipt then none else receipt <|> record.registrationReceipt := by
  rw [moved, if_neg leaves]

@[simp] theorem marked_manifest (record : PluginStateRecord) (hook : PluginHookName) :
    (marked record hook).manifest = record.manifest := by
  unfold marked
  split
  · rfl
  · rfl

@[simp] theorem marked_registrationReceipt (record : PluginStateRecord) (hook : PluginHookName) :
    (marked record hook).registrationReceipt = record.registrationReceipt := by
  unfold marked
  split
  · rfl
  · rfl

theorem mem_marked {record : PluginStateRecord} {hook other : PluginHookName} :
    other ∈ (marked record hook).successfulHooks ↔
      other = hook ∨ other ∈ record.successfulHooks := by
  unfold marked
  split
  · rename_i done
    refine ⟨.inr, fun either => ?_⟩
    rcases either with rfl | earlier
    · exact done
    · exact earlier
  · exact List.mem_cons

end PluginLifecycleController

end CongeriesCore
