import CongeriesCore.JoinedText
import CongeriesCore.SampleParameters

/-! # The identities that the workflow runtime derives

The idempotency key of a node, the identity of its approval and that of its evaluation are
digests of texts joined with `|`. The parts may themselves hold a `|`. -/

namespace CongeriesCore

theorem Sha256Digest.value_inj {first second : Sha256Digest} :
    first.value = second.value ↔ first = second := by
  constructor
  · intro same
    cases first
    cases second
    simpa using same
  · rintro rfl
    rfl

/-- What the idempotency key of a node is derived from. -/
structure NodeOperation where
  parent : Option IdempotencyKey
  runId : RunId
  nodeId : NodeId
  nodeType : String
  trimmed : isTrimmed nodeType = true
  deriving Repr

/-- What an operation is compared by. -/
theorem NodeOperation.fields_injective : Function.Injective fun value : NodeOperation =>
    (value.parent, value.runId, value.nodeId, value.nodeType) := by
  intro first second same
  cases first
  cases second
  simpa using same

instance : DecidableEq NodeOperation := NodeOperation.fields_injective.decidableEq

/-- What the identity of an approval or an evaluation is derived from. -/
structure RunNode where
  runId : RunId
  nodeId : NodeId
  deriving DecidableEq, Repr

namespace NodeOperation

def parts (operation : NodeOperation) : List String :=
  [(operation.parent.map (·.value)).getD "", operation.runId.value, operation.nodeId.value,
    operation.nodeType]

/-- The pieces of the parts between one `|` and the next. -/
def pieces (operation : NodeOperation) : List (List Char) :=
  JoinedText.allPieces '|' operation.parts

end NodeOperation

/-- The pieces of the parts between one `|` and the next. -/
def RunNode.pieces (node : RunNode) : List (List Char) :=
  JoinedText.allPieces '|' [node.runId.value, node.nodeId.value]

namespace WorkflowRuntime

def identityText (operation : NodeOperation) : String := "|".intercalate operation.parts

def approvalText (node : RunNode) : String :=
  node.runId.value ++ "|" ++ node.nodeId.value ++ "|approval"

def evaluationText (node : RunNode) : String :=
  node.runId.value ++ "|" ++ node.nodeId.value ++ "|evaluation|1"

section

variable [Sha256]

/-- `_node_idempotency_key`; of the context it reads the caller's key. -/
def nodeIdempotencyKey (operation : NodeOperation) : Except Raised IdempotencyKey :=
  Identifier.make .idempotency ("workflow-node-" ++ (Sha256.text (identityText operation)).value)

/-- `_approval_id`. -/
def approvalId (node : RunNode) : Except Raised ApprovalId :=
  Identifier.make .approval ("workflow-approval-" ++ (Sha256.text (approvalText node)).value)

/-- `_evaluation_id`. -/
def evaluationId (node : RunNode) : Except Raised EvaluationId :=
  Identifier.make .evaluation ("workflow-evaluation-" ++ (Sha256.text (evaluationText node)).value)

/-- Both sources have an identity, and different ones have different ones. -/
def Identifies {α β : Type} (derive : α → Except Raised β) (first second : α) : Prop :=
  (∃ id, derive first = .ok id) ∧ (∃ id, derive second = .ok id) ∧
    (first ≠ second → derive first ≠ derive second)

/-- The digests of two texts do not collide. -/
def SeparatesTexts (first second : String) : Prop :=
  Sha256.text first = Sha256.text second → first = second

/-! ## What is derived -/

theorem make_labelled {kind : IdKind} {label : String} (short : label.length ≤ 191)
    (plain : ∀ c ∈ label.toList, isPySpace c = false ∧ 32 ≤ c.toNat) (text : String) :
    Identifier.make kind (label ++ (Sha256.text text).value) =
      .ok ⟨label ++ (Sha256.text text).value, labelled_checked short plain _⟩ :=
  Identifier.make_self ⟨_, labelled_checked short plain _⟩

/-- Labelled digests are the same if and only if their texts are. -/
theorem make_labelled_eq_iff {kind : IdKind} {label first second : String}
    (short : label.length ≤ 191)
    (plain : ∀ c ∈ label.toList, isPySpace c = false ∧ 32 ≤ c.toNat)
    (separates : SeparatesTexts first second) :
    Identifier.make kind (label ++ (Sha256.text first).value) =
        Identifier.make kind (label ++ (Sha256.text second).value) ↔ first = second := by
  rw [make_labelled short plain, make_labelled short plain]
  constructor
  · intro same
    have values : label ++ (Sha256.text first).value = label ++ (Sha256.text second).value :=
      congrArg Identifier.value (Except.ok.inj same)
    have digests : (Sha256.text first).value = (Sha256.text second).value := by
      have lists := congrArg String.toList values
      rw [String.toList_append, String.toList_append] at lists
      exact String.toList_inj.mp (List.append_cancel_left lists)
    exact separates (Sha256Digest.value_inj.mp digests)
  · rintro rfl
    rfl

/-- An identity that is a labelled digest of a text is told apart as its text is. -/
theorem identifies_iff {α : Type} {kind : IdKind} {label : String} {text : α → String}
    (short : label.length ≤ 191)
    (plain : ∀ c ∈ label.toList, isPySpace c = false ∧ 32 ≤ c.toNat) {first second : α}
    (separates : SeparatesTexts (text first) (text second)) :
    Identifies (fun source => Identifier.make kind (label ++ (Sha256.text (text source)).value))
        first second ↔
      (first = second ∨ text first ≠ text second) := by
  have same : Identifier.make kind (label ++ (Sha256.text (text first)).value) =
      Identifier.make kind (label ++ (Sha256.text (text second)).value) ↔ text first = text second :=
    make_labelled_eq_iff short plain separates
  constructor
  · rintro ⟨-, -, distinct⟩
    by_cases equal : first = second
    · exact .inl equal
    · exact .inr fun spelled => distinct equal (same.mpr spelled)
  · intro told
    refine ⟨⟨_, make_labelled short plain _⟩, ⟨_, make_labelled short plain _⟩, ?_⟩
    intro other equal
    rcases told with rfl | spelled
    · exact other rfl
    · exact spelled (same.mp equal)

end

/-! ## What is hashed -/

theorem identityText_eq_iff {first second : NodeOperation} :
    identityText first = identityText second ↔ first.pieces = second.pieces := by
  have bar : "|" = String.singleton '|' := by decide
  rw [identityText, identityText, bar]
  exact JoinedText.intercalate_eq_iff

theorem joined_eq (node : RunNode) (suffix : String) :
    node.runId.value ++ "|" ++ node.nodeId.value ++ suffix =
      "|".intercalate [node.runId.value, node.nodeId.value] ++ suffix := by
  simp [String.append_assoc]

theorem joined_eq_iff {first second : RunNode} (suffix : String) :
    first.runId.value ++ "|" ++ first.nodeId.value ++ suffix =
        second.runId.value ++ "|" ++ second.nodeId.value ++ suffix ↔
      first.pieces = second.pieces := by
  rw [joined_eq, joined_eq]
  have cancel : ∀ one two : String, one ++ suffix = two ++ suffix ↔ one = two := by
    intro one two
    rw [← String.toList_inj, String.toList_append, String.toList_append, List.append_left_inj,
      String.toList_inj]
  have bar : "|" = String.singleton '|' := by decide
  rw [cancel, bar]
  exact JoinedText.intercalate_eq_iff

end WorkflowRuntime

open WorkflowRuntime

namespace WorkflowIdentities

/-- A run `a|b` with a node `c`, and a run `a` with a node `b|c`. -/
def firstNode : RunNode := ⟨⟨"a|b", by decide⟩, ⟨"c", by decide⟩⟩

def secondNode : RunNode := ⟨⟨"a", by decide⟩, ⟨"b|c", by decide⟩⟩

def plainNode : RunNode := ⟨⟨"a", by decide⟩, ⟨"c", by decide⟩⟩

def operationOf (node : RunNode) : NodeOperation :=
  ⟨none, node.runId, node.nodeId, "agent", by decide⟩

end WorkflowIdentities

open WorkflowIdentities SampleParameters

end CongeriesCore
