import CongeriesCore.RuntimeErrors

/-! # Identifiers

Opaque identities with boundary validation. The kinds share one definition; the kind is
a type parameter so that identities of different kinds do not mix. -/

namespace CongeriesCore

/-- The code points `str.strip` removes. -/
def isPySpace (c : Char) : Bool :=
  (9 ≤ c.toNat && c.toNat ≤ 13) || (28 ≤ c.toNat && c.toNat ≤ 32) || c.toNat == 0x85 ||
    c.toNat == 0xA0 || c.toNat == 0x1680 || (0x2000 ≤ c.toNat && c.toNat ≤ 0x200A) ||
    c.toNat == 0x2028 || c.toNat == 0x2029 || c.toNat == 0x202F || c.toNat == 0x205F ||
    c.toNat == 0x3000

def strip (value : String) : String :=
  String.ofList ((value.toList.dropWhile isPySpace).reverse.dropWhile isPySpace).reverse

/-- `value and value == value.strip()`. -/
def isTrimmed (value : String) : Bool := value != "" && value == strip value

inductive IdKind
  | run
  | definition
  | workspace
  | session
  | agent
  | workflow
  | node
  | approval
  | evaluation
  | modelBinding
  | model
  | provider
  | memory
  | checkpoint
  | artifact
  | event
  | acknowledgement
  | correlation
  | causation
  | trace
  | span
  | cancellation
  | idempotency
  | principal
  | resource
  deriving DecidableEq, Repr

/-- `Identifier.__post_init__`. -/
def Identifier.check (value : String) : Except Raised Unit := do
  requireValue (isTrimmed value) "identifier must be non-empty and trimmed"
  requireValue (value.length ≤ 255) "identifier must not exceed 255 characters"
  requireValue (value.toList.all fun c => 32 ≤ c.toNat)
    "identifier must not contain control characters"

structure Identifier (kind : IdKind) where
  value : String
  checked : Identifier.check value = .ok ()
  deriving DecidableEq, Repr

instance (kind : IdKind) : LawfulBEq (Identifier kind) := inferInstance

/-- The constructor call: raises what `__post_init__` raises. -/
def Identifier.make (kind : IdKind) (value : String) : Except Raised (Identifier kind) :=
  match checked : Identifier.check value with
  | .ok () => .ok ⟨value, checked⟩
  | .error error => .error error

abbrev RunId := Identifier .run
abbrev DefinitionId := Identifier .definition
abbrev WorkspaceId := Identifier .workspace
abbrev SessionId := Identifier .session
abbrev AgentId := Identifier .agent
abbrev WorkflowId := Identifier .workflow
abbrev NodeId := Identifier .node
abbrev ApprovalId := Identifier .approval
abbrev EvaluationId := Identifier .evaluation
abbrev ModelBindingRef := Identifier .modelBinding
abbrev ModelId := Identifier .model
abbrev ProviderId := Identifier .provider
abbrev MemoryId := Identifier .memory
abbrev CheckpointRef := Identifier .checkpoint
abbrev ArtifactId := Identifier .artifact
abbrev EventId := Identifier .event
abbrev AcknowledgementId := Identifier .acknowledgement
abbrev CorrelationId := Identifier .correlation
abbrev CausationId := Identifier .causation
abbrev TraceId := Identifier .trace
abbrev SpanId := Identifier .span
abbrev CancellationId := Identifier .cancellation
abbrev IdempotencyKey := Identifier .idempotency
abbrev PrincipalId := Identifier .principal
abbrev ResourceId := Identifier .resource

theorem Identifier.ext_value {kind : IdKind} {first second : Identifier kind}
    (same : first.value = second.value) : first = second := by
  cases first
  cases second
  simpa using same

theorem Identifier.make_value {kind : IdKind} {value : String} {id : Identifier kind}
    (made : Identifier.make kind value = .ok id) : id.value = value := by
  unfold Identifier.make at made
  split at made
  · cases made; rfl
  · cases made

theorem Identifier.value_ne_empty {kind : IdKind} (id : Identifier kind) : id.value ≠ "" := by
  obtain ⟨_, trimmed, -⟩ := bind_ok id.checked
  have trimmed := requireValue_eq_ok.mp trimmed
  simp only [isTrimmed, Bool.and_eq_true, bne_iff_ne] at trimmed
  exact trimmed.1

/-- A name that is none is refused with a `ValueError`. -/
theorem Identifier.make_error (kind : IdKind) {name : String}
    (unidentified : Identifier.check name ≠ .ok ()) :
    ∃ message, Identifier.make kind name = .error (.value message) := by
  have values : ∀ error, Identifier.check name = .error error →
      ∃ message, error = .value message := by
    intro error refused
    rcases bind_error refused with failed | ⟨_, _, refused⟩
    · exact ⟨_, requireValue_error failed⟩
    · rcases bind_error refused with failed | ⟨_, _, failed⟩
      · exact ⟨_, requireValue_error failed⟩
      · exact ⟨_, requireValue_error failed⟩
  unfold Identifier.make
  split
  · contradiction
  · rename_i error refused
    obtain ⟨message, rfl⟩ := values error refused
    exact ⟨message, rfl⟩

theorem Identifier.make_self {kind : IdKind} (id : Identifier kind) :
    Identifier.make kind id.value = .ok id := by
  unfold Identifier.make
  split
  · rfl
  · rename_i refused
    rw [id.checked] at refused
    cases refused

/-- A hexadecimal digit is printable, and no space. -/
theorem hex_printable {c : Char} (hex : (c.isDigit || ('a' ≤ c && c ≤ 'f')) = true) :
    isPySpace c = false ∧ 32 ≤ c.toNat := by
  have range : (48 ≤ c.toNat ∧ c.toNat ≤ 57) ∨ (97 ≤ c.toNat ∧ c.toNat ≤ 102) := by
    simp only [Char.isDigit, Bool.or_eq_true, Bool.and_eq_true, decide_eq_true_eq, Char.le_def,
      UInt32.le_iff_toNat_le, ge_iff_le] at hex
    rcases hex with ⟨low, high⟩ | ⟨low, high⟩
    · exact .inl ⟨low, high⟩
    · exact .inr ⟨low, high⟩
  constructor
  · simp only [isPySpace, Bool.or_eq_false_iff, Bool.and_eq_false_iff, decide_eq_false_iff_not,
      beq_eq_false_iff_ne]
    omega
  · omega

theorem strip_self {value : String} (plain : ∀ c ∈ value.toList, isPySpace c = false) :
    strip value = value := by
  have kept : ∀ list : List Char, (∀ c ∈ list, isPySpace c = false) →
      list.dropWhile isPySpace = list := by
    intro list solid
    cases list with
    | nil => rfl
    | cons c rest => rw [List.dropWhile_cons_of_neg (by simp [solid c (.head _)])]
  rw [strip, kept _ plain, kept _ (by simpa using plain), List.reverse_reverse,
    String.ofList_toList]

/-- A label before a digest makes an identifier. -/
theorem labelled_checked {label : String} (short : label.length ≤ 191)
    (plain : ∀ c ∈ label.toList, isPySpace c = false ∧ 32 ≤ c.toNat) (digest : Sha256Digest) :
    Identifier.check (label ++ digest.value) = .ok () := by
  obtain ⟨value, matches_⟩ := digest
  obtain ⟨long, hex⟩ := Bool.and_eq_true_iff.mp matches_
  have long : value.toList.length = 64 := by simpa using long
  have printable : ∀ c ∈ (label ++ value).toList, isPySpace c = false ∧ 32 ≤ c.toNat := by
    intro c member
    rw [String.toList_append, List.mem_append] at member
    rcases member with fixed | digit
    · exact plain c fixed
    · exact hex_printable (List.all_eq_true.mp hex c digit)
  have trimmed : isTrimmed (label ++ value) = true := by
    have stripped := strip_self fun c member => (printable c member).1
    have nonempty : label ++ value ≠ "" := by
      intro empty
      have none : value.toList = [] := by rw [(String.append_eq_empty_iff.mp empty).2]; rfl
      rw [none] at long
      cases long
    rw [isTrimmed, stripped, beq_self_eq_true, Bool.and_true]
    exact bne_iff_ne.mpr nonempty
  have fits : (label ++ value).length ≤ 255 := by
    have digits : value.length = 64 := by
      rw [← String.length_toList]
      exact long
    rw [String.length_append]
    omega
  have visible : ((label ++ value).toList.all fun c => decide (32 ≤ c.toNat)) = true := by
    apply List.all_eq_true.mpr
    intro c member
    exact decide_eq_true (printable c member).2
  rw [Identifier.check, trimmed, visible, decide_eq_true fits]
  rfl

theorem digest_checked (digest : Sha256Digest) : Identifier.check digest.value = .ok () := by
  have labelled : Identifier.check ("" ++ digest.value) = .ok () :=
    labelled_checked (by decide) (by simp) digest
  rwa [String.empty_append] at labelled

end CongeriesCore
