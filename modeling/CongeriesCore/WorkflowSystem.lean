import CongeriesCore.AsyncSystem
import CongeriesCore.CheckpointChain
import CongeriesCore.WorkflowCalls
import CongeriesCore.WorkflowRunnable

/-! # Calls of the workflow runtime on one run

Any number of calls execute, recover and decide on one run, step by step in any order; a call may
stop for good anywhere. A checkpoint is committed only after the one that it was made from. -/

namespace CongeriesCore.WorkflowSystem

open AsyncProgram AsyncProgram.Program GatewayDispatch WorkflowProgress WorkflowTraces

/-! ## The ledger of a run -/

/-- The committed checkpoints, the newest first; all that were handed over to be committed; and the
references that were given, each to a call. -/
structure Ledger where
  history : List Checkpoint
  submitted : List Checkpoint
  issued : List (ℕ × CheckpointRef)

/-- The checkpoint that an operation hands over. -/
def handed : GatewayOp workflowInterface → Option Checkpoint
  | .call (.checkpointSave _ checkpoint _ _) => some checkpoint
  | .call (.requestApproval _ _ checkpoint _ _) => some checkpoint
  | .call (.decideApproval submission) => some submission.checkpoint
  | _ => none

/-- The reference that an operation was given. -/
def given : (op : GatewayOp workflowInterface) →
    Except Raised ((gatewayInterface workflowInterface).Answer op) → Option CheckpointRef
  | .call .newCheckpointRef, .ok reference => some reference
  | _, _ => none

/-- A checkpoint is committed after the one that it names; a decision, where none was made. -/
structure Commits (op : GatewayOp workflowInterface) (checkpoint : Checkpoint)
    (history : List Checkpoint) : Prop where
  handed : handed op = some checkpoint
  linked : checkpoint.previousCheckpointRef = history.head?.map Checkpoint.ref
  undecided : ∀ submission, op = .call (.decideApproval submission) →
    ∀ latest ∈ history.head?, ∀ approval ∈ latest.approvals,
      approval.request.approvalId = submission.decision.approvalId → approval.decision = none

/-- How the ledger may be after an operation. References are given once; what is loaded or recovered
has been handed over before, and a recovery may fall back to an earlier checkpoint. -/
def allows (fallsBack : Prop) : (op : GatewayOp workflowInterface) →
    Except Raised ((gatewayInterface workflowInterface).Answer op) → List Checkpoint → Ledger → Prop
  | .call .newCheckpointRef, outcome, later, ledger => later = ledger.history ∧
    ∀ reference thread, outcome = .ok reference → (thread, reference) ∉ ledger.issued
  | .call (.checkpointLoad _ _ _ _ _), outcome, later, ledger => later = ledger.history ∧
    ∀ checkpoint, outcome = .ok checkpoint → checkpoint ∈ ledger.submitted
  | .call (.recover _ _), outcome, later, ledger =>
    (later = ledger.history ∨ fallsBack ∧ later <:+ ledger.history) ∧
    ∀ recovered, outcome = .ok recovered → recovered.checkpoint ∈ ledger.submitted
  | op, _, later, ledger => later = ledger.history ∨
    ∃ checkpoint, Commits op checkpoint ledger.history ∧ later = checkpoint :: ledger.history

/-- The owners of the operations of one call, who answer anything else as they like. -/
def owners (fallsBack : Prop) (thread : ℕ) :
    Environment (gatewayInterface workflowInterface) Raised Ledger where
  Choice op := Except Raised ((gatewayInterface workflowInterface).Answer op) × List Checkpoint
  permits op choice ledger := allows fallsBack op choice.1 choice.2 ledger
  answer op choice ledger := (choice.1, {
    history := choice.2
    submitted := (handed op).toList ++ ledger.submitted
    issued := (given op choice.1).toList.map (fun reference => (thread, reference)) ++
      ledger.issued })

def workflowPool [PythonText] [Sha256] (runtime : WorkflowRuntime) (definition : WorkflowDefinition)
    (fallsBack : Prop) :
    Pool (gatewayInterface workflowInterface) Raised WorkflowExecutionOutcome Ledger where
  environment := owners fallsBack
  initial ledger := ledger = ⟨[], [], []⟩
  starts _ before program after := after = before ∧
    ∃ (call : WorkflowCall) (context : WorkflowContext),
      program = call.program runtime definition context

/-! ## What holds of the ledger -/

structure Sound (definition : WorkflowDefinition) (ledger : Ledger) : Prop where
  history : History definition ledger.history
  committed : ∀ checkpoint ∈ ledger.history, checkpoint ∈ ledger.submitted
  distinct : ∀ checkpoint ∈ ledger.submitted, ∀ other ∈ ledger.submitted,
    checkpoint.ref = other.ref → checkpoint = other
  named : ∀ checkpoint ∈ ledger.submitted, ∃ thread, (thread, checkpoint.ref) ∈ ledger.issued
  once : ∀ thread other reference, (thread, reference) ∈ ledger.issued →
    (other, reference) ∈ ledger.issued → thread = other

/-- What the other calls do leaves a call its references, unused as they are. -/
structure Aside (thread : ℕ) (before after : Ledger) : Prop where
  submitted : ∀ checkpoint ∈ before.submitted, checkpoint ∈ after.submitted
  issued : ∀ reference, (thread, reference) ∈ before.issued → (thread, reference) ∈ after.issued
  unused : ∀ reference, (thread, reference) ∈ before.issued →
    (∀ checkpoint ∈ before.submitted, checkpoint.ref ≠ reference) →
    ∀ checkpoint ∈ after.submitted, checkpoint.ref ≠ reference

/-- The trace of a call stands for a ledger that holds what the call was given and has taken. -/
structure Stands (thread : ℕ) (trace : WorkflowTrace) (ledger : Ledger) : Prop where
  accepted : ∀ checkpoint, Accepted checkpoint trace → checkpoint ∈ ledger.submitted
  named : ∀ reference, Named reference trace → (thread, reference) ∈ ledger.issued ∧
    ∀ checkpoint ∈ ledger.submitted, checkpoint.ref ≠ reference

def workflowContract (definition : WorkflowDefinition) (fallsBack : Prop) (thread : ℕ) :
    Contract (gatewayInterface workflowInterface) Ledger where
  invariant := Sound definition
  rely := Aside thread
  guarantee before after := (∀ other, thread ≠ other → Aside other before after) ∧
    (fallsBack ∨ before.history <:+ after.history)
  need _ _ := True

variable {definition : WorkflowDefinition} {fallsBack : Prop} {thread : ℕ}
  {trace : WorkflowTrace} {ledger : Ledger}

theorem Aside.refl (ledger : Ledger) : Aside thread ledger ledger :=
  ⟨fun _ member => member, fun _ member => member, fun _ _ unused => unused⟩

theorem Aside.trans {first second third : Ledger} (one : Aside thread first second)
    (two : Aside thread second third) : Aside thread first third := by
  refine ⟨?_, ?_, ?_⟩
  · intro checkpoint member
    exact two.submitted checkpoint (one.submitted checkpoint member)
  · intro reference given
    exact two.issued reference (one.issued reference given)
  · intro reference given unused
    exact two.unused reference (one.issued reference given) (one.unused reference given unused)

theorem Stands.aside {after : Ledger} (stands : Stands thread trace ledger)
    (aside : Aside thread ledger after) : Stands thread trace after := by
  constructor
  · intro checkpoint accepted
    exact aside.submitted checkpoint (stands.accepted checkpoint accepted)
  · intro reference named
    obtain ⟨given, unused⟩ := stands.named reference named
    exact ⟨aside.issued reference given, aside.unused reference given unused⟩

/-! ### Events -/

theorem accepted_concat {checkpoint : Checkpoint} {event : WorkflowEvent}
    (accepted : Accepted checkpoint (trace ++ [event])) :
    Accepted checkpoint trace ∨ accepts checkpoint event := by
  obtain ⟨other, member, accepts⟩ := accepted
  rcases List.mem_append.mp member with earlier | last
  · exact .inl ⟨other, earlier, accepts⟩
  · obtain rfl := List.mem_singleton.mp last
    exact .inr accepts

/-- A reference has just been given when the last event gave it, or was quiet. -/
theorem named_concat {reference : CheckpointRef} {event : WorkflowEvent}
    (named : Named reference (trace ++ [event])) :
    event = called .newCheckpointRef (.ok reference) ∨
      GatewayOp.quiet event.1 ∧ Named reference trace := by
  obtain ⟨before, added, grown, quiet⟩ := named
  rcases List.eq_nil_or_concat added with rfl | ⟨earlier, last, rfl⟩
  · rw [List.append_nil] at grown
    exact .inl (List.singleton_inj.mp (List.append_inj' grown rfl).2)
  · rw [List.concat_eq_append, ← List.append_assoc] at grown
    obtain ⟨same, ends⟩ := List.append_inj' grown rfl
    obtain rfl := List.singleton_inj.mp ends
    refine .inr ⟨quiet event (by simp), before, earlier, same, ?_⟩
    intro other member
    exact quiet other (by simp [member])

/-! ### One operation -/

section Operations

variable {op : GatewayOp workflowInterface} {checkpoint : Checkpoint}
  {outcome : Except Raised ((gatewayInterface workflowInterface).Answer op)}
  {later : List Checkpoint}

theorem handed_of_quiet (quiet : op.quiet) : handed op = none := by
  cases op with
  | call op => exact quiet.elim
  | _ => rfl

/-- What is taken from an operation was handed over with it, or before. -/
theorem handed_of_accepts (allowed : allows fallsBack op outcome later ledger)
    (accepts : accepts checkpoint ⟨op, outcome⟩) :
    handed op = some checkpoint ∨ checkpoint ∈ ledger.submitted := by
  cases op with
  | call op =>
    cases op with
    | checkpointSave =>
      cases outcome with
      | ok run => exact .inl (congrArg some accepts)
      | error error => exact accepts.elim
    | requestApproval =>
      cases outcome with
      | ok run => exact .inl (congrArg some accepts)
      | error error => exact accepts.elim
    | decideApproval submission =>
      cases outcome with
      | ok run => exact .inl (congrArg some accepts)
      | error error => exact accepts.elim
    | checkpointLoad =>
      cases outcome with
      | ok loaded =>
        obtain rfl := accepts
        exact .inr (allowed.2 _ rfl)
      | error error => exact accepts.elim
    | recover =>
      cases outcome with
      | ok recovered =>
        obtain rfl := accepts
        exact .inr (allowed.2 _ rfl)
      | error error => exact accepts.elim
    | _ => exact accepts.elim
  | _ => exact accepts.elim

/-- A reference that is given has not been given before. -/
theorem fresh_of_given {reference : CheckpointRef}
    (allowed : allows fallsBack op outcome later ledger)
    (found : given op outcome = some reference) (other : ℕ) :
    (other, reference) ∉ ledger.issued := by
  unfold given at found
  split at found
  · cases found
    exact allowed.2 reference other rfl
  · cases found

variable [PythonText] {runtime : WorkflowRuntime} {context : WorkflowContext}

/-- A checkpoint that is handed over bears a reference that has just been given. -/
theorem named_of_needed (needed : Needed runtime definition context op trace)
    (found : handed op = some checkpoint) : Named checkpoint.ref trace := by
  unfold handed at found
  split at found
  · cases found
    exact needed.2
  · cases found
    exact needed.2
  · cases found
    exact needed.2
  · cases found

omit [PythonText] in
theorem durable_of_persists {state : NodeCheckpointState} (late : Lately (persists state) trace)
    (succeeded : state.outcome = .succeeded) : state.outputRef ≠ none := by
  obtain ⟨before, event, ⟨request, call, reference, -, -, kept⟩, -⟩ := late
  rw [if_pos succeeded] at kept
  rw [kept]
  exact Option.some_ne_none reference

omit [PythonText] in
/-- The latest checkpoint is the one that the next was made from. -/
theorem History.next {previous : Checkpoint} (sound : Sound definition ledger)
    (made : previous ∈ ledger.submitted)
    (names : checkpoint.previousCheckpointRef = some previous.ref)
    (linked : checkpoint.previousCheckpointRef = ledger.history.head?.map Checkpoint.ref)
    (step : previous ∈ ledger.history.head? → LegalStep definition previous checkpoint) :
    History definition (checkpoint :: ledger.history) := by
  have history := sound.history
  have committed := sound.committed
  cases latest : ledger.history with
  | nil =>
    rw [names, latest] at linked
    cases linked
  | cons last older =>
    rw [latest] at history committed linked step
    rw [names] at linked
    obtain rfl := sound.distinct previous made last (committed last (by simp))
      (Option.some.inj linked)
    exact .follows history (step rfl)

/-- What is committed continues the history. -/
theorem history_of_commits (sound : Sound definition ledger)
    (stands : Stands thread trace ledger) (needed : Needed runtime definition context op trace)
    (commits : Commits op checkpoint ledger.history) :
    History definition (checkpoint :: ledger.history) := by
  have found := commits.handed
  unfold handed at found
  split at found
  · cases found
    rcases needed.1 with opens | ⟨previous, node, state, accepted, progresses, finished, late⟩
    · have linked := commits.linked
      rw [opens.unlinked, eq_comm, Option.map_eq_none_iff, List.head?_eq_none_iff] at linked
      rw [linked]
      exact .opens opens
    · exact History.next sound (stands.accepted previous accepted) progresses.linked commits.linked
        fun _ => .saves finished (durable_of_persists late) progresses
  · cases found
    obtain ⟨previous, node, accepted, -, type, own, progresses⟩ := needed.1
    exact History.next sound (stands.accepted previous accepted) progresses.linked commits.linked
      fun _ => .requests type own progresses
  · cases found
    obtain ⟨previous, approval, decided, accepted, decides⟩ := needed.1
    apply History.next sound (stands.accepted previous accepted) decides.linked commits.linked
    intro latest
    have member : approval ∈ previous.approvals.filter fun item =>
        item.request.approvalId == _ := decides.found ▸ List.mem_singleton_self approval
    obtain ⟨inside, same⟩ := List.mem_filter.mp member
    exact .decides (commits.undecided _ rfl previous latest approval inside (by simpa using same))
      decides
  · cases found

/-- What is committed or fallen back to is a history as well. -/
theorem history_of_allowed (sound : Sound definition ledger)
    (stands : Stands thread trace ledger) (needed : Needed runtime definition context op trace)
    (allowed : allows fallsBack op outcome later ledger) :
    History definition later ∧
      (∀ checkpoint ∈ later, handed op = some checkpoint ∨ checkpoint ∈ ledger.submitted) ∧
      (fallsBack ∨ ledger.history <:+ later) := by
  have unchanged : later = ledger.history → History definition later ∧
      (∀ checkpoint ∈ later, handed op = some checkpoint ∨ checkpoint ∈ ledger.submitted) ∧
      (fallsBack ∨ ledger.history <:+ later) := by
    rintro rfl
    exact ⟨sound.history, fun checkpoint member => .inr (sound.committed checkpoint member),
      .inr (List.suffix_refl _)⟩
  unfold allows at allowed
  split at allowed
  · exact unchanged allowed.1
  · exact unchanged allowed.1
  · rcases allowed.1 with same | ⟨back, suffix⟩
    · exact unchanged same
    · exact ⟨sound.history.of_suffix suffix, fun checkpoint member =>
        .inr (sound.committed checkpoint (suffix.subset member)), .inl back⟩
  · rcases allowed with same | ⟨checkpoint, commits, rfl⟩
    · exact unchanged same
    · refine ⟨history_of_commits sound stands needed commits, ?_, .inr (List.suffix_cons _ _)⟩
      intro other member
      rcases List.mem_cons.mp member with rfl | earlier
      · exact .inl commits.handed
      · exact .inr (sound.committed other earlier)

/-- The ledger after an operation of a call. -/
theorem sound_after (sound : Sound definition ledger) (stands : Stands thread trace ledger)
    (needed : Needed runtime definition context op trace)
    (allowed : allows fallsBack op outcome later ledger) :
    let after := ((owners fallsBack thread).answer op (outcome, later) ledger).2
    Sound definition after ∧ (workflowContract definition fallsBack thread).guarantee ledger after ∧
      Stands thread (trace ++ [⟨op, outcome⟩]) after := by
  intro after
  obtain ⟨history, committed, grows⟩ := history_of_allowed sound stands needed allowed
  have submitted : ∀ checkpoint, checkpoint ∈ after.submitted ↔
      handed op = some checkpoint ∨ checkpoint ∈ ledger.submitted := by
    simp [after, owners]
  have issued : ∀ owner reference, (owner, reference) ∈ after.issued ↔
      (thread = owner ∧ given op outcome = some reference) ∨
        (owner, reference) ∈ ledger.issued := by
    intro owner reference
    simp [after, owners, and_comm]
  have own : ∀ checkpoint, handed op = some checkpoint → (thread, checkpoint.ref) ∈ ledger.issued ∧
      ∀ other ∈ ledger.submitted, other.ref ≠ checkpoint.ref := by
    intro checkpoint found
    exact stands.named checkpoint.ref (named_of_needed needed found)
  have fresh : ∀ owner reference, given op outcome = some reference →
      (owner, reference) ∉ ledger.issued := fun owner reference found =>
    fresh_of_given allowed found owner
  refine ⟨⟨history, ?_, ?_, ?_, ?_⟩, ⟨?_, grows⟩, ?_, ?_⟩
  · intro checkpoint member
    exact (submitted checkpoint).mpr (committed checkpoint member)
  · intro checkpoint member other inside same
    rcases (submitted checkpoint).mp member with new | old
    · rcases (submitted other).mp inside with also | earlier
      · exact Option.some.inj (new.symm.trans also)
      · exact absurd same.symm ((own checkpoint new).2 other earlier)
    · rcases (submitted other).mp inside with new | earlier
      · exact absurd same ((own other new).2 checkpoint old)
      · exact sound.distinct checkpoint old other earlier same
  · intro checkpoint member
    rcases (submitted checkpoint).mp member with new | old
    · exact ⟨thread, (issued _ _).mpr (.inr (own checkpoint new).1)⟩
    · obtain ⟨owner, named⟩ := sound.named checkpoint old
      exact ⟨owner, (issued _ _).mpr (.inr named)⟩
  · intro owner other reference first second
    rcases (issued _ _).mp first with ⟨rfl, new⟩ | old
    · rcases (issued _ _).mp second with ⟨rfl, -⟩ | old
      · rfl
      · exact absurd old (fresh other reference new)
    · rcases (issued _ _).mp second with ⟨-, new⟩ | also
      · exact absurd old (fresh owner reference new)
      · exact sound.once owner other reference old also
  · intro other distinct
    refine ⟨?_, ?_, ?_⟩
    · intro checkpoint member
      exact (submitted checkpoint).mpr (.inr member)
    · intro reference owned
      exact (issued _ _).mpr (.inr owned)
    · intro reference owned unused checkpoint member same
      rcases (submitted checkpoint).mp member with new | old
      · exact distinct (sound.once thread other reference (same ▸ (own checkpoint new).1) owned)
      · exact unused checkpoint old same
  · intro checkpoint accepted
    rcases accepted_concat accepted with earlier | last
    · exact (submitted checkpoint).mpr (.inr (stands.accepted checkpoint earlier))
    · exact (submitted checkpoint).mpr (handed_of_accepts allowed last)
  · intro reference named
    rcases named_concat named with last | ⟨quiet, earlier⟩
    · cases last
      refine ⟨(issued _ _).mpr (.inl ⟨rfl, rfl⟩), ?_⟩
      intro checkpoint member same
      rcases (submitted checkpoint).mp member with new | old
      · cases new
      · obtain ⟨owner, used⟩ := sound.named checkpoint old
        exact fresh owner reference rfl (same ▸ used)
    · obtain ⟨owned, unused⟩ := stands.named reference earlier
      refine ⟨(issued _ _).mpr (.inr owned), ?_⟩
      intro checkpoint member
      rcases (submitted checkpoint).mp member with new | old
      · rw [handed_of_quiet quiet] at new
        cases new
      · exact unused checkpoint old

end Operations

/-! ## Runs -/

section Runs

variable [PythonText] [Sha256] {runtime : WorkflowRuntime}

omit [Sha256] in
theorem simulates (context : WorkflowContext) (thread : ℕ) :
    Simulates (fun _ _ => True) (Needed runtime definition context) (owners fallsBack thread)
      (workflowContract definition fallsBack thread) (Stands thread) := by
  constructor
  · intro trace before after stands aside _
    exact stands.aside aside
  · intro op trace ledger _ _ _
    trivial
  · intro op trace ledger choice needed stands sound allowed
    exact ⟨trivial, sound_after sound stands needed allowed⟩

theorem workflowPool_meets : (workflowPool runtime definition fallsBack).Meets
    (workflowContract definition fallsBack) (Sound definition) fun _ _ _ => True := by
  refine ⟨fun _ => rfl, fun _ => .refl, ?_, fun _ _ _ _ _ held => held, ?_, ?_, ?_⟩
  · intro thread first second third one two
    exact one.trans two
  · intro thread other before after distinct guarantee
    exact guarantee.1 other distinct
  · rintro ledger rfl
    refine ⟨.empty, ?_, ?_, ?_, ?_⟩ <;> simp
  · rintro thread before program after sound ⟨rfl, call, context, rfl⟩
    refine ⟨sound, ⟨fun other _ => .refl after, .inr (List.suffix_refl _)⟩, ?_⟩
    have begun : Stands thread [] after := by
      constructor
      · rintro checkpoint ⟨event, member, -⟩
        cases member
      · rintro reference ⟨earlier, added, grown, -⟩
        simp at grown
    apply (call.safe.simulated (simulates context thread) begun).mono
    intro outcome ledger _
    trivial

variable {configuration : Configuration (gatewayInterface workflowInterface) Raised
  WorkflowExecutionOutcome Ledger}

theorem sound_reached
    (reached : (workflowPool runtime definition fallsBack).Reachable configuration) :
    Sound definition configuration.state :=
  (workflowPool_meets.reachable reached).1

end Runs

/-! ## Two calls that race -/

namespace Drafting

open SampleParameters

scoped instance draftText : PythonText := ⟨fun _ => ""⟩

theorem unbound : WorkflowInputSource.workflowInput = .nodeOutput ↔
    (none : Option NodeId).isSome = true := by decide

theorem single : 1 ≤ 1 ∧ 1 ≤ 1 := by decide

theorem sampleRun_drafts : sampleRun.kind = .workflow sampleWorkflow := rfl

/-- A workflow of one agent node. -/
def draftOnly : WorkflowDefinition where
  workflowId := ⟨"workflow-1", workflow_checked⟩
  definitionId := ⟨"definition-1", definition_checked⟩
  version := "1"
  inputSchema := textSchema
  nodes := [agentNode draftNode ⟨.workflowInput, none, unbound⟩]
  dependencies := []
  outputSchema := textSchema
  outputBinding := ⟨draftNode, true⟩
  executionPolicy := ⟨1, false, 1, single⟩
  valid := by decide

def draftRuntime : WorkflowRuntime where
  validator := textValidator
  authorization := ⟨[workflowNodeExecuteAction], true⟩
  schemas := textValidator.schemas
  checkpointProviderId := sampleProvider
  hasEvaluations := false

def draftContext : WorkflowContext where
  runId := sampleRunId
  input := .str "input"
  runtime := sampleContext
  owned := rfl

def createdRun : Run := { sampleRun with status := .created, checked := by decide +kernel }

def endedRun : Run :=
  { sampleRun with
    status := .succeeded
    startedAt := some sampleTime
    endedAt := some sampleTime
    checked := by decide +kernel }

def draftReference : CheckpointReference where
  resourceType := "output"
  resource := ⟨"core", "output", ⟨"output-1", by decide⟩, none, by decide, by decide, nofun⟩
  scope := sampleScope
  version := none
  trimmed := ⟨by decide, nofun⟩

def draftResult : AgentExecutionResult where
  run := endedRun
  response := some ⟨[], .stop, ⟨1, 1, "token", by decide⟩, ⟨"provider-1", provider_checked⟩,
    ⟨"model-1", model_checked⟩, .str "draft", [], [], [], ⟨.inr (.inl (by simp)), nofun⟩⟩
  error := none
  valid := rfl

def newReference : ℕ → Except Raised CheckpointRef
  | 0 => .ok ⟨"checkpoint-1", checkpoint_checked⟩
  | 1 => .ok ⟨"checkpoint-2", secondCheckpoint_checked⟩
  | 2 => .ok ⟨"checkpoint-3", by decide⟩
  | _ => .error (.value "no reference is left")

/-- Whatever an agent node asks for succeeds; a checkpoint is committed after the latest one. -/
def draftAnswer (ledger : Ledger) : (op : GatewayOp workflowInterface) →
    Except Raised ((gatewayInterface workflowInterface).Answer op) × List Checkpoint
  | .cancelled _ => (.ok false, ledger.history)
  | .now => (.ok sampleTime, ledger.history)
  | .authorize request => (.ok (allowing request), ledger.history)
  | .call .newRunId => (.ok ⟨"run-2", by decide⟩, ledger.history)
  | .call .newCheckpointRef => (newReference ledger.issued.length, ledger.history)
  | .call (.runGet _) => (.ok createdRun, ledger.history)
  | .call (.runCreate run) => (.ok run, ledger.history)
  | .call (.runStart _ _) | .call (.advance _ _ _) => (.ok sampleRun, ledger.history)
  | .call (.complete _ _) => (.ok endedRun, ledger.history)
  | .call (.executeAgent _ _ _) => (.ok draftResult, ledger.history)
  | .call (.persistOutput _ _) => (.ok draftReference, ledger.history)
  | .call (.loadOutput _ _) => (.ok (.str "draft"), ledger.history)
  | .call (.checkpointSave _ checkpoint _ _) =>
    if checkpoint.previousCheckpointRef = ledger.history.head?.map Checkpoint.ref then
      (.ok ⟨sampleRun, sampleWorkflow, sampleRun_drafts⟩, checkpoint :: ledger.history)
    else (.error (.value "the marker is stale"), ledger.history)
  | _ => (.error (.value "nothing else is expected"), ledger.history)

/-- References are given once. -/
def draftPermits (ledger : Ledger) : GatewayOp workflowInterface → Bool
  | .call .newCheckpointRef => ledger.issued.all fun entry =>
    newReference ledger.issued.length != .ok entry.2
  | _ => true

def draftPool := workflowPool draftRuntime draftOnly False

def draftCall : WorkflowProgram WorkflowExecutionOutcome :=
  WorkflowCall.execute.program draftRuntime draftOnly draftContext

/-- Both calls have read the run before one of them commits its first checkpoint. -/
def drafted : Configuration (gatewayInterface workflowInterface) Raised WorkflowExecutionOutcome
    Ledger :=
  draftPool.execute (fun _ op ledger => draftAnswer ledger op)
    (fun _ op ledger => draftPermits ledger op) ((List.range 40).map (· % 2))
    ⟨⟨[], [], []⟩, [draftCall, draftCall]⟩

theorem draftPermits_allows (ledger : Ledger) (op : GatewayOp workflowInterface)
    (permitted : draftPermits ledger op = true) :
    allows False op (draftAnswer ledger op).1 (draftAnswer ledger op).2 ledger := by
  cases op with
  | call op =>
    cases op with
    | newCheckpointRef =>
      refine ⟨rfl, ?_⟩
      intro reference thread given issued
      have other := List.all_eq_true.mp permitted (thread, reference) issued
      have given : newReference ledger.issued.length = .ok reference := given
      rw [given] at other
      simp at other
    | checkpointLoad =>
      refine ⟨rfl, ?_⟩
      intro checkpoint loaded
      cases loaded
    | recover =>
      refine ⟨.inl rfl, ?_⟩
      intro recovered answered
      cases answered
    | checkpointSave provider checkpoint version context =>
      by_cases linked : checkpoint.previousCheckpointRef = ledger.history.head?.map Checkpoint.ref
      · refine .inr ⟨checkpoint, ⟨rfl, linked, ?_⟩, ?_⟩
        · intro submission other
          cases other
        · simp [draftAnswer, linked]
      · refine .inl ?_
        simp [draftAnswer, linked]
    | _ => exact .inl rfl
  | _ => exact .inl rfl

theorem drafted_reachable : draftPool.Reachable drafted := by
  apply Pool.execute_reachable
  · intro thread op ledger permitted
    exact draftPermits_allows ledger op permitted
  · have one : draftPool.Reachable ⟨⟨[], [], []⟩, [draftCall]⟩ :=
      .move (.initial rfl) (.start ⟨rfl, .execute, draftContext, rfl⟩)
    exact .move one (.start ⟨rfl, .execute, draftContext, rfl⟩)

theorem draftOnly_validated : ∃ workflow, textValidator.validate draftOnly = .ok workflow := by
  have valid : (textValidator.validate draftOnly).isOk = true := by decide +kernel
  cases validated : textValidator.validate draftOnly with
  | ok workflow => exact ⟨workflow, rfl⟩
  | error error =>
    rw [validated] at valid
    cases valid

end Drafting

open Drafting SampleParameters

end CongeriesCore.WorkflowSystem
