import CongeriesCore.AsyncLocking
import CongeriesCore.PluginParts

/-! # Plugin operations under their lock

The locks of a process of plugin operations, and the rule of an operation: what it does to the
world of its Plugin, under the lock, is what it leaves of the part that the lock protects. -/

namespace CongeriesCore

open AsyncProgram

section Locking

variable {τ : Type} [Sha256]

/-- What holds of the whole process, whoever operates on it. -/
structure PluginShared (state : PluginState τ) : Prop where
  sound : state.1.history.Sound
  separates : SeparatesDigests state.1.history.issued
  committed : ∀ plugin, (pluginPart plugin state).record = (pluginPart plugin state).log.committed

def pluginLocking (publisher : PluginEventPublisher τ) (threads : ℕ → PluginThread) :
    Locking PluginInterface Raised String PluginPart (Option OperationOutcome) (PluginState τ) where
  environment thread := journaledEnvironment publisher (threads thread).plugin thread
  keys thread := (threads thread).plugin
  acquire := .acquireOperationLock
  needs op part := part.Admits op
  holder plugin state := state.1.locks.get? plugin
  part := pluginPart
  own thread state := state.2.outcomes thread
  shared := PluginShared
  settled := PluginPart.Settled

end Locking

/-- The operation that hands the lock back. -/
def PluginOp.releases : PluginOp → Bool
  | .releaseOperationLock => true
  | _ => false

section Acts

variable {τ : Type} [Sha256]

/-- A step of the world for one Plugin leaves the locks and the other Plugins alone. -/
structure PluginWorld.Touches (plugin : String) (before after : PluginWorld τ) : Prop where
  locks : after.locks = before.locks
  records : ∀ other, other ≠ plugin → after.records.get? other = before.records.get? other
  prepared : ∀ other, other ≠ plugin → after.prepared.get? other = before.prepared.get? other
  live : ∀ other, other ≠ plugin → after.history.liveOf other = before.history.liveOf other
  sound : after.history.Sound
  separates : SeparatesDigests after.history.issued

/-- What an operation leaves of the part, once its outcome is known. -/
def PluginWorld.partAfter (world : PluginWorld τ) (plugin : String) (part : PluginPart)
    (op : PluginOp) (outcome : Except Raised op.Answer) : PluginPart where
  record := world.records.get? plugin
  prepared := world.prepared.get? plugin
  receipts := world.history.liveOf plugin
  log := part.log.after part.record op outcome

variable {publisher : PluginEventPublisher τ} {threads : ℕ → PluginThread} {plugin : String}
  {thread : ℕ} {part next : PluginPart}

/-- A step that touches one Plugin, with the record the journal makes of it. -/
theorem PluginWorld.Touches.acts {before after : PluginWorld τ} {journal : PluginJournal}
    {op : PluginOp} {outcome : Except Raised op.Answer} (touches : before.Touches plugin after)
    (working : op.releases = false) (shared : PluginShared (before, journal))
    (tracked : (after.partAfter plugin (pluginPart plugin (before, journal)) op outcome).record =
      (after.partAfter plugin (pluginPart plugin (before, journal)) op outcome).log.committed) :
    (pluginLocking publisher threads).Acts plugin (before, journal)
      (after, PluginJournal.record plugin thread op outcome before after journal)
      (after.partAfter plugin (pluginPart plugin (before, journal)) op outcome) := by
  have same : ∀ other, other ≠ plugin → pluginPart other
      (after, PluginJournal.record plugin thread op outcome before after journal) =
        pluginPart other (before, journal) := by
    intro other distinct
    have logs : (PluginJournal.record plugin thread op outcome before after journal).logs other =
        journal.logs other := Function.update_of_ne distinct _ _
    simp only [pluginPart, touches.records other distinct, touches.prepared other distinct,
      touches.live other distinct, logs]
  have own : pluginPart plugin
      (after, PluginJournal.record plugin thread op outcome before after journal) =
        after.partAfter plugin (pluginPart plugin (before, journal)) op outcome := by
    simp only [pluginPart, PluginWorld.partAfter, PluginJournal.record, Function.update_self]
  refine ⟨fun other => ?_, same, own, fun other => ?_, touches.sound, touches.separates,
    fun other => ?_⟩
  · change after.locks.get? other = before.locks.get? other
    rw [touches.locks]
  · change journal.finish plugin thread _ op other = journal.outcomes other
    cases op <;> first | rfl | cases working
  · by_cases distinct : other = plugin
    · subst distinct
      rw [own]
      exact tracked
    · rw [same other distinct]
      exact shared.committed other

variable (publisher threads thread)

/-- Under the lock of its Plugin the thread makes of `part` what `value` or `failed` says. -/
abbrev Runs {α : Type} (program : PluginProgram α) (part : PluginPart)
    (value : α → PluginPart → Prop) (failed : Raised → PluginPart → Prop) : Prop :=
  (pluginLocking publisher threads).Triple thread program part value failed

variable {publisher threads thread}

/-- The rule of an operation: what it does to the world of its Plugin. -/
theorem runs_op {op : PluginOp} {value : op.Answer → PluginPart → Prop}
    {failed : Raised → PluginPart → Prop} (working : op.releases = false) (admits : part.Admits op)
    (acts : ∀ world journal, PluginShared (world, journal) →
      pluginPart (threads thread).plugin (world, journal) = part → ∀ choice,
      world.permits publisher (threads thread).plugin op choice →
      PluginJournal.allows (threads thread).plugin op choice (world, journal) →
      ∀ outcome after, world.answer (threads thread).plugin thread op choice = (outcome, after) →
      world.Touches (threads thread).plugin after ∧
      (after.partAfter (threads thread).plugin part op outcome).record =
        (after.partAfter (threads thread).plugin part op outcome).log.committed ∧
      Locking.Makes value failed outcome (after.partAfter (threads thread).plugin part op outcome)) :
    Runs publisher threads thread (pluginOp op) part value failed := by
  apply Locking.triple_perform admits
  intro before shared holds choice permitted
  obtain ⟨world, journal⟩ := before
  obtain ⟨permits, allows⟩ := permitted
  have here : pluginPart (threads thread).plugin (world, journal) = part := holds.part
  obtain ⟨touches, tracked, ends⟩ :=
    acts world journal shared here choice permits allows _ _ rfl
  refine ⟨_, ?_, ends⟩
  rw [← here] at tracked ⊢
  exact touches.acts working shared tracked

end Acts

end CongeriesCore
