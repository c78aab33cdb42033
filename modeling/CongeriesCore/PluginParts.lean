import CongeriesCore.PluginJournal

/-! # What operations leave of a plugin

A Plugin that nobody operates on: its registrations are those its record carries, its handle is
whole, and every hook that has completed in time is on record. Each commit of an operation keeps
it so. -/

namespace CongeriesCore

namespace PluginLifecycleState

/-- The capabilities are in the registry. -/
def published : PluginLifecycleState → Bool
  | .registered | .active | .draining => true
  | _ => false

/-- The manager keeps the handle. -/
def staged : PluginLifecycleState → Bool
  | .loaded | .registered | .active | .draining | .unregistered => true
  | _ => false

/-- Nothing has been loaded yet. -/
def loading : PluginLifecycleState → Bool
  | .discovered | .validated => true
  | _ => false

end PluginLifecycleState

/-- The receipt names the capabilities of the manifest, and its Plugin as their owner. -/
structure RegistrationReceipt.Covers (receipt : RegistrationReceipt) (manifest : PluginManifest) :
    Prop where
  owner : receipt.owner = manifest.ref
  keys : ∀ key, key ∈ receipt.capabilityKeys ↔
    key ∈ manifest.provides.map CapabilityDeclaration.key

/-- What `_validate_prepared` has checked. -/
structure PreparedPlugin.Fits (prepared : PreparedPlugin) (manifest : PluginManifest) : Prop where
  distinct : (prepared.capabilities.map CapabilityDeclaration.key).Nodup
  keys : ∀ key, key ∈ prepared.capabilities.map CapabilityDeclaration.key ↔
    key ∈ manifest.provides.map CapabilityDeclaration.key
  hooks : ∀ hook, prepared.hooks hook = true ↔ hook ∈ manifest.lifecycle

namespace PluginPart

/-- The live receipts are the one the record carries, or none. -/
def Coherent (part : PluginPart) : Prop :=
  match part.record with
  | none => part.receipts = []
  | some record =>
    if record.state.published = true then
      ∃ receipt, record.registrationReceipt = some receipt ∧ receipt.Covers record.manifest ∧
        part.receipts = [receipt]
    else part.receipts = []

/-- The handle of the manager is whole, or there is none. -/
def Staged (part : PluginPart) : Prop :=
  match part.record with
  | none => part.prepared = none
  | some record =>
    if record.state.staged = true then
      ∃ prepared, part.prepared = some prepared ∧ prepared.Fits record.manifest ∧
        .prepared prepared.handle ∈ part.log.progress ∧
        .cleaned prepared.handle ∉ part.log.progress
    else part.prepared = none

/-- Every hook that has completed in time is on record, and none before the loading. -/
def Marked (part : PluginPart) : Prop :=
  match part.record with
  | none => ∀ hook, .hook hook ∉ part.log.progress
  | some record => (∀ hook, .hook hook ∈ part.log.progress → hook ∈ record.successfulHooks) ∧
    (record.state.loading = true → ∀ hook, .hook hook ∉ part.log.progress)

/-- A Plugin that nobody operates on. -/
structure Settled (plugin : String) (part : PluginPart) : Prop where
  named : ∀ record, part.record = some record → record.manifest.ref.name = plugin
  coherent : part.Coherent
  staged : part.Staged
  marked : part.Marked
  handles : ∀ handle, .cleaned handle ∈ part.log.progress → .prepared handle ∈ part.log.progress
  calm : part.log.checking = none

/-- What has to hold of a Plugin when its operation suspends. Between a registry effect and the
state commit that belongs to it the two may disagree. -/
def Admits (part : PluginPart) : PluginOp → Prop
  | .transition .registered _ _ _ | .transition .unregistered _ _ _ | .rollback _ => True
  | .runHook _ hook _ => part.Coherent ∧ .hook hook ∉ part.log.progress ∧
      (hook = .onUnload → part.receipts = [])
  | .cleanup prepared _ => part.Coherent ∧ .cleaned prepared.handle ∉ part.log.progress ∧
      part.receipts = []
  | _ => part.Coherent

/-- The part under another log. -/
def logged (part : PluginPart) (log : PluginLog) : PluginPart := { part with log }

def committing (part : PluginPart) (record : PluginStateRecord) : PluginPart :=
  { part with record := some record, log := part.log.commits record }

def progressed (part : PluginPart) (item : Progress) : PluginPart :=
  part.logged { part.log with progress := item :: part.log.progress, checking := none }

section Fields

variable (part : PluginPart) (record : PluginStateRecord) (item : Progress)

@[simp] theorem committing_record : (part.committing record).record = some record := rfl

@[simp] theorem committing_prepared : (part.committing record).prepared = part.prepared := rfl

@[simp] theorem committing_receipts : (part.committing record).receipts = part.receipts := rfl

@[simp] theorem committing_progress :
    (part.committing record).log.progress = part.log.progress := rfl

@[simp] theorem committing_entered : (part.committing record).log.entered = part.log.entered := rfl

@[simp] theorem committing_checking : (part.committing record).log.checking = none := rfl

@[simp] theorem progressed_record : (part.progressed item).record = part.record := rfl

@[simp] theorem progressed_prepared : (part.progressed item).prepared = part.prepared := rfl

@[simp] theorem progressed_receipts : (part.progressed item).receipts = part.receipts := rfl

@[simp] theorem progressed_progress :
    (part.progressed item).log.progress = item :: part.log.progress := rfl

@[simp] theorem progressed_entered : (part.progressed item).log.entered = part.log.entered := rfl

@[simp] theorem progressed_checking : (part.progressed item).log.checking = none := rfl

end Fields

/-- An exception has left the part as it was. -/
def Unharmed (part : PluginPart) (error : Raised) (next : PluginPart) : Prop :=
  error.isException = true ∧ next = part

variable {part : PluginPart}

theorem logged_settled (calm : part.log.checking = none) :
    part.logged part.log.settled = part := by
  rw [PluginLog.settled_eq calm]
  rfl

/-- A settled Plugin that has a record. -/
structure Stands (plugin : String) (part : PluginPart) (record : PluginStateRecord) : Prop where
  found : part.record = some record
  named : record.manifest.ref.name = plugin
  published : record.state.published = true → ∃ receipt,
    record.registrationReceipt = some receipt ∧ receipt.Covers record.manifest ∧
      part.receipts = [receipt]
  withdrawn : record.state.published = false → part.receipts = []
  staged : record.state.staged = true → ∃ prepared, part.prepared = some prepared ∧
    prepared.Fits record.manifest ∧ .prepared prepared.handle ∈ part.log.progress ∧
      .cleaned prepared.handle ∉ part.log.progress
  unstaged : record.state.staged = false → part.prepared = none
  marked : ∀ hook, .hook hook ∈ part.log.progress → hook ∈ record.successfulHooks
  loading : record.state.loading = true → ∀ hook, .hook hook ∉ part.log.progress
  handles : ∀ handle, .cleaned handle ∈ part.log.progress → .prepared handle ∈ part.log.progress
  calm : part.log.checking = none

variable {plugin : String} {record : PluginStateRecord} {prepared : PreparedPlugin}
  {receipt : RegistrationReceipt}

theorem Settled.stands (settled : part.Settled plugin) (found : part.record = some record) :
    part.Stands plugin record := by
  have coherent := settled.coherent
  have staged := settled.staged
  have marked := settled.marked
  rw [Coherent, found] at coherent
  rw [Staged, found] at staged
  rw [Marked, found] at marked
  refine ⟨found, settled.named record found, ?_, ?_, ?_, ?_, marked.1, marked.2, settled.handles,
    settled.calm⟩
  · intro published
    simpa [published] using coherent
  · intro hidden
    simpa [hidden] using coherent
  · intro kept
    simpa [kept] using staged
  · intro dropped
    simpa [dropped] using staged

theorem Stands.coherent (stands : part.Stands plugin record) : part.Coherent := by
  rw [Coherent, stands.found]
  cases published : record.state.published with
  | true => simpa [published] using stands.published published
  | false => simpa [published] using stands.withdrawn published

theorem Stands.settled (stands : part.Stands plugin record) : part.Settled plugin := by
  refine ⟨?_, stands.coherent, ?_, ?_, stands.handles, stands.calm⟩
  · intro other found
    cases Option.some.inj (stands.found.symm.trans found)
    exact stands.named
  · rw [Staged, stands.found]
    cases staged : record.state.staged with
    | true => simpa [staged] using stands.staged staged
    | false => simpa [staged] using stands.unstaged staged
  · rw [Marked, stands.found]
    exact ⟨stands.marked, stands.loading⟩

/-! ### What the steps of an operation leave -/

theorem Stands.prepares (stands : part.Stands plugin record) (handle : ℕ) :
    (part.progressed (.prepared handle)).Stands plugin record where
  found := stands.found
  named := stands.named
  published := stands.published
  withdrawn := stands.withdrawn
  staged kept := by
    obtain ⟨prepared, stored, fits, known, uncleaned⟩ := stands.staged kept
    exact ⟨prepared, stored, fits, .tail _ known, by simpa using uncleaned⟩
  unstaged := stands.unstaged
  marked hook done := stands.marked hook (by simpa using done)
  loading first hook done := stands.loading first hook (by simpa using done)
  handles other done := .tail _ (stands.handles other (by simpa using done))
  calm := rfl

/-- A staged handle that the manager does not keep is cleaned up. -/
theorem Stands.cleans (stands : part.Stands plugin record) {handle : ℕ}
    (dropped : record.state.staged = false) (known : .prepared handle ∈ part.log.progress) :
    (part.progressed (.cleaned handle)).Stands plugin record where
  found := stands.found
  named := stands.named
  published := stands.published
  withdrawn := stands.withdrawn
  staged kept := by
    rw [dropped] at kept
    cases kept
  unstaged := stands.unstaged
  marked hook done := stands.marked hook (by simpa using done)
  loading first hook done := stands.loading first hook (by simpa using done)
  handles other done := by
    have either : other = handle ∨ .cleaned other ∈ part.log.progress := by
      simpa using done
    rcases either with rfl | earlier
    · exact .tail _ known
    · exact .tail _ (stands.handles other earlier)
  calm := rfl

open PluginLifecycleController

/-- A hook completes and is put on record. -/
theorem Stands.completes (stands : part.Stands plugin record) (hook : PluginHookName)
    (loaded : record.state.loading = false) :
    ((part.progressed (.hook hook)).committing (PluginLifecycleController.marked record hook)).Stands plugin
      (PluginLifecycleController.marked record hook) where
  found := rfl
  named := by simpa using stands.named
  published live := by simpa using stands.published (by simpa using live)
  withdrawn hidden := stands.withdrawn (by simpa using hidden)
  staged kept := by
    obtain ⟨prepared, stored, fits, known, uncleaned⟩ := stands.staged (by simpa using kept)
    refine ⟨prepared, stored, by simpa using fits, .tail _ known, ?_⟩
    simpa using uncleaned
  unstaged dropped := stands.unstaged (by simpa using dropped)
  marked other done := by
    have either : other = hook ∨ .hook other ∈ part.log.progress := by
      simpa using done
    exact mem_marked.mpr (either.imp_right (stands.marked other))
  loading first := by
    rw [marked_state, loaded] at first
    cases first
  handles other done := by
    have earlier : .cleaned other ∈ part.log.progress := by
      simpa using done
    exact .tail _ (stands.handles other earlier)
  calm := rfl

/-- A transition that neither publishes nor stages anything. -/
theorem Stands.moves (stands : part.Stands plugin record) {target : PluginLifecycleState}
    (leaves : record.state ≠ target) (published : target.published = record.state.published)
    (staged : target.staged = record.state.staged)
    (loading : target.loading = true → record.state.loading = true) :
    (part.committing (moved record target none false)).Stands plugin
      (moved record target none false) where
  found := rfl
  named := by simpa using stands.named
  published live := by
    rw [moved_state, published] at live
    simpa [moved_registrationReceipt leaves] using stands.published live
  withdrawn hidden := stands.withdrawn (by simpa [published] using hidden)
  staged kept := by simpa using stands.staged (by simpa [staged] using kept)
  unstaged dropped := stands.unstaged (by simpa [staged] using dropped)
  marked hook done := by simpa using stands.marked hook done
  loading first := stands.loading (loading (by simpa using first))
  handles := stands.handles
  calm := rfl

/-- The first record of a Plugin. -/
theorem Settled.discovers (settled : part.Settled plugin) (absent : part.record = none)
    {manifest : PluginManifest} (named : manifest.ref.name = plugin) :
    (part.committing ⟨manifest, .discovered, 0, none, 0, []⟩).Stands plugin
      ⟨manifest, .discovered, 0, none, 0, []⟩ := by
  have coherent := settled.coherent
  have staged := settled.staged
  have marked := settled.marked
  rw [Coherent, absent] at coherent
  rw [Staged, absent] at staged
  rw [Marked, absent] at marked
  exact ⟨rfl, named, nofun, fun _ => coherent, nofun, fun _ => staged,
    fun hook done => absurd done (marked hook), fun _ => marked, settled.handles, rfl⟩

theorem Stands.refreshes (stands : part.Stands plugin record) :
    (part.committing record).Stands plugin record where
  found := rfl
  named := stands.named
  published := stands.published
  withdrawn := stands.withdrawn
  staged := stands.staged
  unstaged := stands.unstaged
  marked := stands.marked
  loading := stands.loading
  handles := stands.handles
  calm := rfl

/-- The handle is kept from the loading on. -/
theorem stands_loaded (found : part.record = some record)
    (named : record.manifest.ref.name = plugin) (validated : record.state = .validated)
    (unpublished : part.receipts = []) (stored : part.prepared = some prepared)
    (fits : prepared.Fits record.manifest)
    (known : .prepared prepared.handle ∈ part.log.progress)
    (uncleaned : .cleaned prepared.handle ∉ part.log.progress)
    (marked : ∀ hook, .hook hook ∈ part.log.progress → hook ∈ record.successfulHooks)
    (handles : ∀ handle, .cleaned handle ∈ part.log.progress →
      .prepared handle ∈ part.log.progress) :
    (part.committing (moved record .loaded none false)).Stands plugin
      (moved record .loaded none false) where
  found := rfl
  named := by simpa using named
  published live := by
    rw [moved_state] at live
    cases live
  withdrawn _ := unpublished
  staged _ := ⟨prepared, stored, by simpa using fits, known, uncleaned⟩
  unstaged dropped := by
    rw [moved_state] at dropped
    cases dropped
  marked hook done := by simpa using marked hook done
  loading first := by
    rw [moved_state] at first
    cases first
  handles := handles
  calm := rfl

/-- The receipt of a commit goes on record. -/
theorem Stands.registers (stands : part.Stands plugin record) (loaded : record.state = .loaded)
    (covers : receipt.Covers record.manifest) :
    (({ part with receipts := receipt :: part.receipts }).committing
      (moved record .registered (some receipt) false)).Stands plugin
        (moved record .registered (some receipt) false) := by
  have leaves : record.state ≠ .registered := by
    rw [loaded]
    exact nofun
  have empty : part.receipts = [] := stands.withdrawn (by rw [loaded]; rfl)
  have kept := stands.staged (by rw [loaded]; rfl)
  refine ⟨rfl, by simpa using stands.named, fun _ => ⟨receipt, ?_, by simpa using covers, ?_⟩, ?_, ?_,
    ?_, ?_, ?_, stands.handles, rfl⟩
  · rw [moved_registrationReceipt leaves]
    rfl
  · change receipt :: part.receipts = [receipt]
    rw [empty]
  · intro hidden
    rw [moved_state] at hidden
    cases hidden
  · intro _
    simpa using kept
  · intro dropped
    rw [moved_state] at dropped
    cases dropped
  · intro hook done
    simpa using stands.marked hook done
  · intro first
    rw [moved_state] at first
    cases first

/-- The receipt is retired and goes off the record. -/
theorem Stands.unregisters (stands : part.Stands plugin record)
    (live : record.state.published = true) :
    (({ part with receipts := [] }).committing (moved record .unregistered none true)).Stands plugin
      (moved record .unregistered none true) := by
  have kept := stands.staged (by revert live; cases record.state <;> simp [
    PluginLifecycleState.published, PluginLifecycleState.staged])
  refine ⟨rfl, by simpa using stands.named, ?_, fun _ => rfl, fun _ => by simpa using kept, ?_, ?_, ?_,
    stands.handles, rfl⟩
  · intro live
    rw [moved_state] at live
    cases live
  · intro dropped
    rw [moved_state] at dropped
    cases dropped
  · intro hook done
    simpa using stands.marked hook done
  · intro first
    rw [moved_state] at first
    cases first

/-- The handle is cleaned up and dropped. -/
theorem Stands.unloads (stands : part.Stands plugin record) (unregistered : record.state = .unregistered)
    {handle : ℕ} (known : .prepared handle ∈ part.log.progress) :
    ({ (part.progressed (.cleaned handle)).committing (moved record .unloaded none false) with
      prepared := none }).Stands plugin (moved record .unloaded none false) := by
  have empty : part.receipts = [] := stands.withdrawn (by rw [unregistered]; rfl)
  refine ⟨rfl, by simpa using stands.named, ?_, fun _ => empty, ?_, fun _ => rfl, ?_, ?_, ?_, rfl⟩
  · intro live
    rw [moved_state] at live
    cases live
  · intro kept
    rw [moved_state] at kept
    cases kept
  · intro hook done
    have earlier : .hook hook ∈ part.log.progress := by
      simpa using done
    simpa using stands.marked hook earlier
  · intro first
    rw [moved_state] at first
    cases first
  · intro other done
    have either : other = handle ∨ .cleaned other ∈ part.log.progress := by
      simpa using done
    rcases either with rfl | earlier
    · exact .tail _ known
    · exact .tail _ (stands.handles other earlier)

end PluginPart

end CongeriesCore
