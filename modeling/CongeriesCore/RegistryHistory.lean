import CongeriesCore.PluginRegistry
import CongeriesCore.SampleParameters
import Mathlib.Data.List.Nodup

/-! # Histories of the capability registry

Any sequence of commits and of unregistrations with receipts that the registry has returned:
the snapshot, the retired receipts and the outstanding ones stay in agreement. -/

namespace CongeriesCore

section History

variable [Sha256]

inductive RegistryCall
  | commit (plan : CapabilityRegistrationPlan) (expectedVersion : ℤ)
  | unregister (receipt : RegistrationReceipt)
  | rollback (receipt : RegistrationReceipt)

/-- The registry and every receipt it has returned. -/
structure RegistryHistory where
  registry : CapabilityRegistry
  issued : List RegistrationReceipt

namespace RegistryHistory

def perform (history : RegistryHistory) : RegistryCall → RegistryHistory
  | .commit plan expectedVersion =>
    match history.registry.commit plan expectedVersion with
    | (.ok receipt, registry) => ⟨registry, receipt :: history.issued⟩
    | (.error _, registry) => ⟨registry, history.issued⟩
  | .unregister receipt => ⟨(history.registry.unregister receipt).2, history.issued⟩
  | .rollback receipt => ⟨(history.registry.rollback receipt).2, history.issued⟩

/-- Receipts are those returned earlier, fresh, stale or repeated. -/
def Admits (history : RegistryHistory) : RegistryCall → Prop
  | .commit _ _ => True
  | .unregister receipt | .rollback receipt => receipt ∈ history.issued

inductive Reachable : RegistryHistory → Prop
  | initial : Reachable ⟨.empty, []⟩
  | call {history : RegistryHistory} (call : RegistryCall) :
      Reachable history → history.Admits call → Reachable (history.perform call)

/-- An unretired receipt. -/
def Live (history : RegistryHistory) (receipt : RegistrationReceipt) : Prop :=
  receipt ∈ history.issued ∧ receipt.registrationId ∉ history.registry.retiredReceipts

/-- Snapshot, retired set and receipts agree. -/
structure Coherent (history : RegistryHistory) : Prop where
  owned : ∀ key registration, history.registry.registrations.get? key = some registration →
    ∃! receipt, history.Live receipt ∧ key ∈ receipt.capabilityKeys
  published : ∀ receipt, history.Live receipt → ∀ key ∈ receipt.capabilityKeys,
    history.registry.owns receipt key = true
  identities : (history.issued.map RegistrationReceipt.registrationId).Nodup

end RegistryHistory

/-- What a commit of `plan` does to `registry`: nothing where it fails; otherwise it publishes
the whole plan and no more, in a way that unregistering undoes. -/
structure CommitEffect (registry : CapabilityRegistry) (plan : CapabilityRegistrationPlan)
    (result : Except Raised RegistrationReceipt × CapabilityRegistry) : Prop where
  failed : ∀ error, result.1 = .error error → result.2 = registry
  version : ∀ receipt, result.1 = .ok receipt → registry.version < result.2.version
  published : ∀ receipt, result.1 = .ok receipt → ∀ declaration ∈ plan.capabilities,
    result.2.registrations.get? declaration.key =
      some ⟨receipt.registrationId, plan.owner, declaration⟩
  kept : ∀ receipt, result.1 = .ok receipt → ∀ key, key ∉ plan.capabilities.map (·.key) →
    result.2.registrations.get? key = registry.registrations.get? key
  restored : ∀ receipt, result.1 = .ok receipt → (result.2.unregister receipt).1 = .ok () ∧
    ∀ key, (result.2.unregister receipt).2.registrations.get? key = registry.registrations.get? key

/-- What unregistering an issued receipt does: nothing once it is retired; otherwise it
succeeds and removes exactly the keys of the receipt. -/
structure UnregisterEffect (registry : CapabilityRegistry) (receipt : RegistrationReceipt)
    (result : Except Raised Unit × CapabilityRegistry) : Prop where
  failed : ∀ error, result.1 = .error error → result.2 = registry
  retired : receipt.registrationId ∈ registry.retiredReceipts → result = (.ok (), registry)
  succeeds : receipt.registrationId ∉ registry.retiredReceipts → result.1 = .ok ()
  version : receipt.registrationId ∉ registry.retiredReceipts →
    registry.version < result.2.version
  retires : receipt.registrationId ∈ result.2.retiredReceipts
  removed : receipt.registrationId ∉ registry.retiredReceipts → ∀ key,
    result.2.registrations.get? key =
      if key ∈ receipt.capabilityKeys then none else registry.registrations.get? key

def RegistryHistory.Effect (history : RegistryHistory) : RegistryCall → Prop
  | .commit plan expectedVersion =>
    CommitEffect history.registry plan (history.registry.commit plan expectedVersion)
  | .unregister receipt =>
    UnregisterEffect history.registry receipt (history.registry.unregister receipt)
  | .rollback receipt =>
    UnregisterEffect history.registry receipt (history.registry.rollback receipt)

/-- SHA-256 does not collide on the documents of these receipts. -/
def SeparatesDigests (receipts : List RegistrationReceipt) : Prop :=
  ∀ first ∈ receipts, ∀ second ∈ receipts,
    first.document.sha256 = second.document.sha256 →
      first.document.canonical = second.document.canonical

theorem SeparatesDigests.of_cons {receipt : RegistrationReceipt}
    {receipts : List RegistrationReceipt} (separates : SeparatesDigests (receipt :: receipts)) :
    SeparatesDigests receipts := by
  intro first one second two same
  exact separates first (.tail _ one) second (.tail _ two) same

theorem registrationId_document {owner other : PluginRef} {keys otherKeys : List CapabilityKey}
    {version otherVersion : ℕ}
    (same : registrationId owner keys version = registrationId other otherKeys otherVersion) :
    (registrationDocument owner keys version).sha256 =
      (registrationDocument other otherKeys otherVersion).sha256 := by
  have digests := (String.append_right_inj _).mp same
  generalize (registrationDocument owner keys version).sha256 = first at digests ⊢
  generalize (registrationDocument other otherKeys otherVersion).sha256 = second at digests ⊢
  cases first
  cases second
  cases digests
  rfl

namespace RegistryHistory

variable {history : RegistryHistory}

/-- What every call keeps. -/
structure Sound (history : RegistryHistory) : Prop where
  held : ∀ key registration, history.registry.registrations.get? key = some registration →
    ∃ receipt, history.Live receipt ∧ key ∈ receipt.capabilityKeys
  published : ∀ receipt, history.Live receipt → ∀ key ∈ receipt.capabilityKeys,
    history.registry.owns receipt key = true
  named : ∀ receipt ∈ history.issued, receipt.registrationId =
    registrationId receipt.owner receipt.capabilityKeys receipt.registryVersion
  versions : (history.issued.map RegistrationReceipt.registryVersion).Nodup
  bounded : ∀ receipt ∈ history.issued, receipt.registryVersion ≤ history.registry.version
  retired : ∀ identity ∈ history.registry.retiredReceipts,
    ∃ receipt ∈ history.issued, receipt.registrationId = identity

theorem Sound.identity (sound : history.Sound) (separates : SeparatesDigests history.issued)
    {first second : RegistrationReceipt} (one : first ∈ history.issued)
    (two : second ∈ history.issued) (same : first.registrationId = second.registrationId) :
    first = second := by
  rw [sound.named first one, sound.named second two] at same
  have documents := separates first one second two (registrationId_document same)
  exact List.inj_on_of_nodup_map sound.versions one two (registrationDocument_version documents)

theorem Sound.coherent (sound : history.Sound) (separates : SeparatesDigests history.issued) :
    history.Coherent where
  owned key registration found := by
    obtain ⟨receipt, live, member⟩ := sound.held key registration found
    refine ⟨receipt, ⟨live, member⟩, fun other owner => ?_⟩
    obtain ⟨otherLive, otherMember⟩ := owner
    obtain ⟨one, foundOne, -, idOne⟩ :=
      CapabilityRegistry.owns_iff.mp (sound.published receipt live key member)
    obtain ⟨two, foundTwo, -, idTwo⟩ :=
      CapabilityRegistry.owns_iff.mp (sound.published other otherLive key otherMember)
    have same : one = two := Option.some.inj (foundOne.symm.trans foundTwo)
    have ids : other.registrationId = receipt.registrationId := by rw [← idOne, ← idTwo, same]
    exact sound.identity separates otherLive.1 live.1 ids
  published := sound.published
  identities := by
    have receipts : history.issued.Nodup := sound.versions.of_map _
    apply List.Nodup.map_on _ receipts
    intro first one second two same
    exact sound.identity separates one two same

theorem sound_initial : Sound ⟨.empty, []⟩ where
  held key registration found := by cases found
  published receipt live := by cases live.1
  named receipt member := by cases member
  versions := List.nodup_nil
  bounded receipt member := by cases member
  retired identity member := by cases member

/-- The history after a commit that was not refused. -/
def committed (history : RegistryHistory) (plan : CapabilityRegistrationPlan) : RegistryHistory where
  registry := { history.registry with
    version := history.registry.version + 1
    registrations := history.registry.publish plan }
  issued := plan.receipt (history.registry.version + 1) :: history.issued

/-- The next generation's identity is nobody's: its document has a version of its own. -/
theorem Sound.fresh (sound : history.Sound) {plan : CapabilityRegistrationPlan}
    (separates : SeparatesDigests (history.committed plan).issued) :
    ∀ receipt ∈ history.issued,
      receipt.registrationId ≠ (plan.receipt (history.registry.version + 1)).registrationId := by
  intro receipt member same
  rw [sound.named receipt member] at same
  have documents := separates receipt (.tail _ member) _ (.head _) (registrationId_document same)
  have equal : receipt.registryVersion = history.registry.version + 1 :=
    registrationDocument_version documents
  have bound := sound.bounded receipt member
  omega

theorem Sound.unretired (sound : history.Sound) {plan : CapabilityRegistrationPlan}
    (separates : SeparatesDigests (history.committed plan).issued) :
    (plan.receipt (history.registry.version + 1)).registrationId ∉
      history.registry.retiredReceipts := by
  intro retired
  obtain ⟨receipt, member, same⟩ := sound.retired _ retired
  exact sound.fresh separates receipt member same

theorem owns_published {registry : CapabilityRegistry} {plan : CapabilityRegistrationPlan}
    {key : CapabilityKey} (member : key ∈ plan.keys) :
    { registry with version := registry.version + 1, registrations := registry.publish plan
      : CapabilityRegistry }.owns (plan.receipt (registry.version + 1)) key = true := by
  obtain ⟨declaration, declared, rfl⟩ := plan.mem_keys.mp member
  rw [CapabilityRegistry.owns_iff]
  exact ⟨_, CapabilityRegistry.get?_publish_of_mem declared, rfl, rfl⟩

theorem Sound.commit (sound : history.Sound) {plan : CapabilityRegistrationPlan}
    (absent : ∀ key ∈ plan.keys, history.registry.registrations.get? key = none)
    (separates : SeparatesDigests (history.committed plan).issued) :
    (history.committed plan).Sound where
  held key registration found := by
    by_cases declared : key ∈ plan.keys
    · exact ⟨_, ⟨.head _, sound.unretired separates⟩, declared⟩
    · have before : history.registry.registrations.get? key = some registration :=
        (CapabilityRegistry.get?_publish_of_not_mem declared).symm.trans found
      obtain ⟨receipt, live, member⟩ := sound.held key registration before
      exact ⟨receipt, ⟨.tail _ live.1, live.2⟩, member⟩
  published receipt live key member := by
    rcases List.mem_cons.mp live.1 with rfl | earlier
    · exact owns_published member
    · have owned := sound.published receipt ⟨earlier, live.2⟩ key member
      obtain ⟨registration, found, owner, identity⟩ := CapabilityRegistry.owns_iff.mp owned
      have undeclared : key ∉ plan.keys := by
        intro declared
        rw [absent key declared] at found
        cases found
      have kept := (CapabilityRegistry.get?_publish_of_not_mem undeclared).trans found
      exact CapabilityRegistry.owns_iff.mpr ⟨registration, kept, owner, identity⟩
  named receipt member := by
    rcases List.mem_cons.mp member with rfl | earlier
    · rfl
    · exact sound.named receipt earlier
  versions := by
    have unused : history.registry.version + 1 ∉
        history.issued.map RegistrationReceipt.registryVersion := by
      intro used
      obtain ⟨receipt, member, same⟩ := List.mem_map.mp used
      have bound := sound.bounded receipt member
      omega
    exact List.nodup_cons.mpr ⟨unused, sound.versions⟩
  bounded receipt member := by
    rcases List.mem_cons.mp member with rfl | earlier
    · exact Nat.le_refl _
    · exact Nat.le_succ_of_le (sound.bounded receipt earlier)
  retired identity member := by
    obtain ⟨receipt, earlier, same⟩ := sound.retired identity member
    exact ⟨receipt, .tail _ earlier, same⟩

/-- A live receipt takes its own keys away and retires; every other one is untouched. -/
theorem Sound.withdraw (sound : history.Sound) (separates : SeparatesDigests history.issued)
    {receipt : RegistrationReceipt} (live : history.Live receipt) :
    Sound ⟨history.registry.withdrawn receipt, history.issued⟩ where
  held key registration found := by
    change (history.registry.withdrawn receipt).registrations.get? key = _ at found
    rw [CapabilityRegistry.get?_withdrawn] at found
    split at found
    · cases found
    · rename_i other
      obtain ⟨holder, held, member⟩ := sound.held key registration found
      have distinct : holder.registrationId ≠ receipt.registrationId := by
        intro same
        cases sound.identity separates held.1 live.1 same
        exact other member
      exact ⟨holder, ⟨held.1, by
        simpa [CapabilityRegistry.withdrawn, distinct] using held.2⟩, member⟩
  published holder held key member := by
    have unretired : holder.registrationId ≠ receipt.registrationId ∧
        holder.registrationId ∉ history.registry.retiredReceipts := by
      simpa [CapabilityRegistry.withdrawn] using held.2
    have owned := sound.published holder ⟨held.1, unretired.2⟩ key member
    obtain ⟨registration, found, owner, identity⟩ := CapabilityRegistry.owns_iff.mp owned
    have other : key ∉ receipt.capabilityKeys := by
      intro shared
      have owned := sound.published receipt live key shared
      obtain ⟨same, found', -, identity'⟩ := CapabilityRegistry.owns_iff.mp owned
      cases Option.some.inj (found.symm.trans found')
      exact unretired.1 (identity.symm.trans identity')
    refine CapabilityRegistry.owns_iff.mpr ⟨registration, ?_, owner, identity⟩
    rw [CapabilityRegistry.get?_withdrawn, if_neg other, found]
  named := sound.named
  versions := sound.versions
  bounded holder member := Nat.le_succ_of_le (sound.bounded holder member)
  retired identity member := by
    rcases List.mem_cons.mp member with rfl | earlier
    · exact ⟨receipt, live.1, rfl⟩
    · exact sound.retired identity earlier

theorem unregister_eq (sound : history.Sound) {receipt : RegistrationReceipt}
    (live : history.Live receipt) :
    history.registry.unregister receipt = (.ok (), history.registry.withdrawn receipt) :=
  CapabilityRegistry.unregister_live live.2 (sound.published receipt live)

theorem Sound.unregister (sound : history.Sound) (separates : SeparatesDigests history.issued)
    {receipt : RegistrationReceipt} (returned : receipt ∈ history.issued) :
    Sound ⟨(history.registry.unregister receipt).2, history.issued⟩ := by
  by_cases retired : receipt.registrationId ∈ history.registry.retiredReceipts
  · rw [CapabilityRegistry.unregister_retired retired]
    exact sound
  · rw [unregister_eq sound ⟨returned, retired⟩]
    exact sound.withdraw separates ⟨returned, retired⟩

theorem perform_commit_cases (plan : CapabilityRegistrationPlan) (expectedVersion : ℤ) :
    (∃ error, history.registry.commit plan expectedVersion = (.error error, history.registry) ∧
      history.perform (.commit plan expectedVersion) = history) ∨
    ((∀ key ∈ plan.keys, history.registry.registrations.get? key = none) ∧
      history.registry.commit plan expectedVersion =
        (.ok (plan.receipt (history.registry.version + 1)), (history.committed plan).registry) ∧
      history.perform (.commit plan expectedVersion) = history.committed plan) := by
  unfold perform
  rcases history.registry.commit_cases plan expectedVersion with ⟨error, refused⟩ | ⟨absent, done⟩
  · simp only [refused]
    exact .inl ⟨error, rfl, trivial⟩
  · simp only [done]
    exact .inr ⟨absent, rfl, rfl⟩

theorem issued_perform (call : RegistryCall) (separates : SeparatesDigests (history.perform call).issued) :
    SeparatesDigests history.issued := by
  cases call with
  | commit plan expectedVersion =>
    rcases history.perform_commit_cases plan expectedVersion with ⟨-, -, same⟩ | ⟨-, -, same⟩
    · rwa [same] at separates
    · rw [same] at separates
      exact separates.of_cons
  | unregister receipt => exact separates
  | rollback receipt => exact separates

theorem Sound.perform (sound : history.Sound) {call : RegistryCall} (admits : history.Admits call)
    (separates : SeparatesDigests (history.perform call).issued) :
    (history.perform call).Sound := by
  have before := issued_perform call separates
  cases call with
  | commit plan expectedVersion =>
    rcases history.perform_commit_cases plan expectedVersion with ⟨-, -, same⟩ | ⟨absent, -, same⟩
    · rw [same]
      exact sound
    · rw [same] at separates ⊢
      exact sound.commit absent separates
  | unregister receipt => exact sound.unregister before admits
  | rollback receipt => exact sound.unregister before admits

theorem Reachable.sound (reachable : history.Reachable)
    (separates : SeparatesDigests history.issued) : history.Sound := by
  induction reachable with
  | initial => exact sound_initial
  | call call _ admits ih => exact (ih (issued_perform call separates)).perform admits separates

theorem Sound.commitEffect (sound : history.Sound) {plan : CapabilityRegistrationPlan}
    {expectedVersion : ℤ}
    (separates : SeparatesDigests (history.perform (.commit plan expectedVersion)).issued) :
    CommitEffect history.registry plan (history.registry.commit plan expectedVersion) := by
  rcases history.perform_commit_cases plan expectedVersion with ⟨error, refused, -⟩ |
    ⟨absent, done, same⟩
  · rw [refused]
    exact ⟨fun _ _ => rfl, nofun, nofun, nofun, nofun⟩
  · rw [same] at separates
    rw [done]
    have after := sound.commit absent separates
    have live : (history.committed plan).Live (plan.receipt (history.registry.version + 1)) :=
      ⟨.head _, sound.unretired separates⟩
    have undone := unregister_eq after live
    refine ⟨nofun, ?_, ?_, ?_, ?_⟩ <;> intro receipt issued <;> cases issued
    · exact Nat.lt_succ_self _
    · exact fun declaration => CapabilityRegistry.get?_publish_of_mem
    · intro key undeclared
      apply CapabilityRegistry.get?_publish_of_not_mem
      simpa [plan.mem_keys] using undeclared
    · rw [undone]
      refine ⟨rfl, fun key => ?_⟩
      rw [CapabilityRegistry.get?_withdrawn]
      split
      · rename_i declared
        exact (absent key declared).symm
      · rename_i undeclared
        exact CapabilityRegistry.get?_publish_of_not_mem undeclared

theorem Sound.unregisterEffect (sound : history.Sound) {receipt : RegistrationReceipt}
    (returned : receipt ∈ history.issued) :
    UnregisterEffect history.registry receipt (history.registry.unregister receipt) := by
  by_cases retired : receipt.registrationId ∈ history.registry.retiredReceipts
  · rw [CapabilityRegistry.unregister_retired retired]
    exact ⟨fun _ _ => rfl, fun _ => rfl, fun _ => rfl, fun live => absurd retired live, retired,
      fun live => absurd retired live⟩
  · rw [unregister_eq sound ⟨returned, retired⟩]
    exact ⟨nofun, fun stale => absurd stale retired, fun _ => rfl, fun _ => Nat.lt_succ_self _,
      .head _, fun _ => CapabilityRegistry.get?_withdrawn⟩

theorem Sound.effect (sound : history.Sound) {call : RegistryCall} (admits : history.Admits call)
    (separates : SeparatesDigests (history.perform call).issued) : history.Effect call := by
  cases call with
  | commit plan expectedVersion => exact sound.commitEffect separates
  | unregister receipt => exact sound.unregisterEffect admits
  | rollback receipt => exact sound.unregisterEffect admits

/-- In every history the snapshot, the retired set and the receipts agree, and the next call
does what its receipt entitles it to. -/
theorem registry_coherent (reachable : history.Reachable)
    (separates : SeparatesDigests history.issued) :
    history.Coherent ∧ ∀ call, history.Admits call →
      SeparatesDigests (history.perform call).issued → history.Effect call := by
  have sound := reachable.sound separates
  exact ⟨sound.coherent separates, fun call => sound.effect⟩

end RegistryHistory

end History

namespace SampleParameters

def sampleTool : CapabilityDeclaration := ⟨.tool, "sample.search", .release 1 0 0, []⟩

def samplePlan : CapabilityRegistrationPlan :=
  ⟨⟨"sample.plugin", .release 1 0 0⟩, [sampleTool], by decide⟩

/-- A tool is published, withdrawn and published again by the same owner. -/
def republished : RegistryHistory :=
  (([.commit samplePlan 0, .unregister (samplePlan.receipt 1), .commit samplePlan 2] :
    List RegistryCall).foldl RegistryHistory.perform ⟨.empty, []⟩)

theorem republished_issued : republished.issued = [samplePlan.receipt 3, samplePlan.receipt 1] := by
  decide +kernel

theorem republished_reachable : republished.Reachable := by
  have first := RegistryHistory.Reachable.initial.call (.commit samplePlan 0) trivial
  have returned : (RegistryHistory.perform ⟨.empty, []⟩ (.commit samplePlan 0)).issued =
      [samplePlan.receipt 1] := by decide +kernel
  have second := first.call (.unregister (samplePlan.receipt 1)) (by
    simp [RegistryHistory.Admits, returned])
  exact second.call (.commit samplePlan 2) trivial

end SampleParameters

open SampleParameters in
/-- The stale first receipt does not touch the second registration. -/
theorem registry_coherent_republished : republished.Coherent ∧
    republished.registry.unregister (samplePlan.receipt 1) = (.ok (), republished.registry) := by
  have separates : SeparatesDigests republished.issued := by
    have differ : (samplePlan.receipt 3).document.sha256 ≠ (samplePlan.receipt 1).document.sha256 := by
      decide +kernel
    rw [republished_issued]
    intro first one second two same
    simp only [List.mem_cons, List.not_mem_nil, or_false] at one two
    rcases one with rfl | rfl <;> rcases two with rfl | rfl
    · rfl
    · exact absurd same differ
    · exact absurd same.symm differ
    · rfl
  obtain ⟨coherent, effect⟩ := RegistryHistory.registry_coherent republished_reachable separates
  have admits : republished.Admits (.unregister (samplePlan.receipt 1)) := by
    change samplePlan.receipt 1 ∈ republished.issued
    rw [republished_issued]
    exact .tail _ (.head _)
  have retired : (samplePlan.receipt 1).registrationId ∈ republished.registry.retiredReceipts := by
    decide +kernel
  exact ⟨coherent, (effect _ admits separates).retired retired⟩

end CongeriesCore
