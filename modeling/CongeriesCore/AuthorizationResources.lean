import CongeriesCore.JoinedText
import CongeriesCore.ModelGateway
import CongeriesCore.WorkflowIdentities
import Mathlib.Data.List.DropRight
import Mathlib.Data.List.TakeWhile

/-! # The resources that composite objects are authorized as

A model is authorized under the name of its provider and its own, a node output under the
names of its run and its node, a Skill resource under the names of its Skill and its own. The
two names are joined with `:` and have to fit an identifier again. -/

namespace CongeriesCore

/-! ## Joined identifiers -/

theorem strip_eq_self_iff {value : String} :
    strip value = value ↔ value.toList.dropWhile isPySpace = value.toList ∧
      value.toList.rdropWhile isPySpace = value.toList := by
  have spelled : strip value =
      String.ofList ((value.toList.dropWhile isPySpace).rdropWhile isPySpace) := rfl
  rw [spelled, ← String.toList_inj, String.toList_ofList]
  constructor
  · intro same
    have suffix := List.dropWhile_suffix isPySpace (l := value.toList)
    have shorter := (List.rdropWhile_prefix isPySpace (value.toList.dropWhile isPySpace)).length_le
    rw [same] at shorter
    have left := suffix.eq_of_length_le shorter
    rw [left] at same
    exact ⟨left, same⟩
  · rintro ⟨left, right⟩
    rw [left, right]

theorem isTrimmed_iff {value : String} :
    isTrimmed value = true ↔ value ≠ "" ∧ value.toList.dropWhile isPySpace = value.toList ∧
      value.toList.rdropWhile isPySpace = value.toList := by
  rw [isTrimmed, Bool.and_eq_true, bne_iff_ne, beq_iff_eq, eq_comm (b := strip value),
    strip_eq_self_iff]

/-- Trimmed texts with something between them are trimmed. -/
theorem isTrimmed_append {first middle last : String} (one : isTrimmed first = true)
    (two : isTrimmed last = true) : isTrimmed (first ++ middle ++ last) = true := by
  obtain ⟨nonempty, left, -⟩ := isTrimmed_iff.mp one
  obtain ⟨nonempty', -, right⟩ := isTrimmed_iff.mp two
  have some : first.toList ≠ [] := by
    simpa using nonempty
  have some' : last.toList ≠ [] := by
    simpa using nonempty'
  apply isTrimmed_iff.mpr
  rw [String.toList_append, String.toList_append]
  refine ⟨?_, ?_, ?_⟩
  · intro empty
    have none := congrArg String.toList empty
    simp [some] at none
  · cases spelled : first.toList with
    | nil => exact absurd spelled some
    | cons c rest =>
      rw [spelled, List.dropWhile_eq_self_iff] at left
      have kept : ¬ isPySpace c = true := left (by simp)
      rw [List.cons_append, List.cons_append, List.dropWhile_cons_of_neg kept]
  · rw [List.rdropWhile_eq_self_iff] at right ⊢
    intro _
    rw [List.getLast_append_of_ne_nil _ some']
    exact right some'

theorem Identifier.check_eq_ok {value : String} :
    Identifier.check value = .ok () ↔ isTrimmed value = true ∧ value.length ≤ 255 ∧
      (value.toList.all fun c => 32 ≤ c.toNat) = true := by
  unfold Identifier.check
  constructor
  · intro checked
    obtain ⟨_, trimmed, rest⟩ := bind_ok checked
    obtain ⟨_, short, visible⟩ := bind_ok rest
    have short := requireValue_eq_ok.mp short
    exact ⟨requireValue_eq_ok.mp trimmed, of_decide_eq_true short, requireValue_eq_ok.mp visible⟩
  · rintro ⟨trimmed, short, visible⟩
    rw [trimmed, visible, decide_eq_true short]
    rfl

/-- Two identifiers joined with `:` are one again if and only if they fit. -/
theorem joined_checked_iff {kind kind' : IdKind} (first : Identifier kind)
    (second : Identifier kind') :
    Identifier.check (first.value ++ ":" ++ second.value) = .ok () ↔
      first.value.length + second.value.length ≤ 254 := by
  obtain ⟨trimmed, -, visible⟩ := Identifier.check_eq_ok.mp first.checked
  obtain ⟨trimmed', -, visible'⟩ := Identifier.check_eq_ok.mp second.checked
  have length : (first.value ++ ":" ++ second.value).length =
      first.value.length + second.value.length + 1 := by
    rw [String.length_append, String.length_append]
    have colon : ":".length = 1 := rfl
    omega
  rw [Identifier.check_eq_ok, length]
  constructor
  · rintro ⟨-, short, -⟩
    omega
  · intro short
    refine ⟨isTrimmed_append trimmed trimmed', by omega, ?_⟩
    rw [String.toList_append, String.toList_append, List.all_append, List.all_append, visible,
      visible']
    rfl

/-! ## Skills -/

/-- `CapabilityRef`; what it serializes to is left out. -/
structure CapabilityRef where
  namespace_ : String
  kind : String
  id : ResourceId
  owningExtension : String
  contractVersion : String
  valid : isName namespace_ = true ∧ isName kind = true ∧ isName owningExtension = true ∧
    isTrimmed contractVersion = true
  deriving DecidableEq, Repr

def skillContractVersion : String := "1"

structure SkillResourceRequest where
  skill : CapabilityRef
  resourceId : ResourceId
  maxBytes : ℕ
  valid : (skill.namespace_ = "core" ∧ skill.kind = "skill" ∧
    skill.contractVersion = skillContractVersion) ∧ 1 ≤ maxBytes
  deriving DecidableEq, Repr

/-- `authorization_resource` of `SkillResourceGateway.load`. -/
def skillResource (request : SkillResourceRequest) : Except Raised ResourceRef := do
  let resource ← Identifier.make .resource
    (request.skill.id.value ++ ":" ++ request.resourceId.value)
  pure ⟨"core", "skill_resource", resource, some request.skill.owningExtension, by decide,
    by decide, by simpa using request.skill.valid.2.2.1⟩

/-! ## Node outputs -/

def workflowOutputPersistAction : ActionRef := ⟨"core", "workflow.output.persist", "1", by decide⟩

/-- `AuthorizedNodeOutputPersistence._access`. -/
def nodeOutputAccess (node : RunNode) (scope : ScopeRef) (context : RuntimeCallContext)
    (action : ActionRef) : Except Raised AccessRequest := do
  ensure (context.runId == node.runId) (coreError .invalidRequest
    "workflow_output_context_mismatch"
    "node output call context does not match WorkflowRun")
  let resource ← Identifier.make .resource (node.runId.value ++ ":" ++ node.nodeId.value)
  pure {
    principal := .core .workflowNode ⟨node.nodeId.value, node.nodeId.checked⟩
    action
    resource := ⟨"core", "workflow_node_output", resource, none, by decide, by decide, nofun⟩
    scope
    context
    constraints := [] }

/-! ## Telling resources apart -/

/-- Both resources are built, and those of different objects are different. -/
def Unambiguous (same : Prop) (first second : Except Raised ResourceRef) : Prop :=
  (∃ resource, first = .ok resource) ∧ (∃ resource, second = .ok resource) ∧
    (¬ same → first ≠ second)

/-- The names of an object and of what it belongs to. -/
structure CompositeName where
  owner : String
  name : String
  deriving DecidableEq, Repr

namespace CompositeName

/-- The two names leave room for the `:` in the 255 characters of an identifier. -/
def Fits (composite : CompositeName) : Prop :=
  composite.owner.length + composite.name.length ≤ 254

/-- The pieces of both names between one `:` and the next. -/
def pieces (composite : CompositeName) : List (List Char) :=
  JoinedText.allPieces ':' [composite.owner, composite.name]

instance (composite : CompositeName) : Decidable composite.Fits :=
  inferInstanceAs (Decidable (_ ≤ _))

end CompositeName

def ModelSelector.composite (selector : ModelSelector) : CompositeName :=
  ⟨selector.providerId.value, selector.modelId.value⟩

def RunNode.composite (node : RunNode) : CompositeName := ⟨node.runId.value, node.nodeId.value⟩

def SkillResourceRequest.composite (request : SkillResourceRequest) : CompositeName :=
  ⟨request.skill.id.value, request.resourceId.value⟩

theorem joined_eq_iff_pieces {first last first' last' : String} :
    first ++ ":" ++ last = first' ++ ":" ++ last' ↔
      CompositeName.pieces ⟨first, last⟩ = CompositeName.pieces ⟨first', last'⟩ := by
  have colon : ":" = String.singleton ':' := by decide
  have joined : ∀ one two : String,
      one ++ ":" ++ two = (String.singleton ':').intercalate [one, two] := by
    intro one two
    rw [← colon, ← String.toList_inj]
    simp
  rw [joined, joined]
  exact JoinedText.intercalate_eq_iff

/-- Resources made of composite names are unambiguous if and only if both names fit and, unless
the objects are the same, their pieces are not. -/
theorem composite_unambiguous_iff {kind kind' : IdKind} (first first' : Identifier kind)
    (last last' : Identifier kind') {same : Prop} {build build' : ResourceId → ResourceRef}
    (builds : ∀ resource resource', build resource = build' resource' ↔ resource = resource') :
    Unambiguous same
        ((Identifier.make .resource (first.value ++ ":" ++ last.value)).map build)
        ((Identifier.make .resource (first'.value ++ ":" ++ last'.value)).map build') ↔
      (CompositeName.Fits ⟨first.value, last.value⟩ ∧
        CompositeName.Fits ⟨first'.value, last'.value⟩) ∧
      (same ∨ CompositeName.pieces ⟨first.value, last.value⟩ ≠
        CompositeName.pieces ⟨first'.value, last'.value⟩) := by
  have built : ∀ (one : Identifier kind) (two : Identifier kind')
      (make : ResourceId → ResourceRef),
      (∃ resource, (Identifier.make .resource (one.value ++ ":" ++ two.value)).map make =
        .ok resource) → CompositeName.Fits ⟨one.value, two.value⟩ := by
    intro one two make ⟨resource, made⟩
    cases stands : Identifier.make .resource (one.value ++ ":" ++ two.value) with
    | error error =>
      rw [stands] at made
      cases made
    | ok id =>
      have value := Identifier.make_value stands
      have checked := id.checked
      rw [value] at checked
      exact (joined_checked_iff one two).mp checked
  constructor
  · rintro ⟨one, two, distinct⟩
    refine ⟨⟨built _ _ _ one, built _ _ _ two⟩, ?_⟩
    by_cases equal : same
    · exact .inl equal
    · right
      intro pieces
      have spelled := joined_eq_iff_pieces.mpr pieces
      apply distinct equal
      obtain ⟨resource, made⟩ := one
      cases stands : Identifier.make .resource (first.value ++ ":" ++ last.value) with
      | error error =>
        rw [stands] at made
        cases made
      | ok id =>
        rw [← spelled, stands]
        exact congrArg Except.ok ((builds id id).mpr rfl)
  · rintro ⟨⟨fits, fits'⟩, told⟩
    have checked := (joined_checked_iff first last).mpr fits
    have checked' := (joined_checked_iff first' last').mpr fits'
    have made : Identifier.make .resource (first.value ++ ":" ++ last.value) =
        .ok ⟨_, checked⟩ := Identifier.make_self ⟨_, checked⟩
    have made' : Identifier.make .resource (first'.value ++ ":" ++ last'.value) =
        .ok ⟨_, checked'⟩ := Identifier.make_self ⟨_, checked'⟩
    rw [made, made']
    refine ⟨⟨_, rfl⟩, ⟨_, rfl⟩, ?_⟩
    intro other equal
    rcases told with equal' | pieces
    · exact other equal'
    · have ids := (builds _ _).mp (Except.ok.inj equal)
      have values := congrArg Identifier.value ids
      exact pieces (joined_eq_iff_pieces.mp values)

/-- The resources that different objects of one kind are authorized as differ, and are built,
if and only if the names fit and their pieces differ. -/
theorem resources_unambiguous_iff (selector selector' : ModelSelector) (node node' : RunNode)
    (request request' : SkillResourceRequest) (call call' context context' : RuntimeCallContext)
    (action action' output output' : ActionRef) (constraints constraints' : List (String × JsonValue))
    (scope scope' : ScopeRef) (run : context.runId = node.runId)
    (run' : context'.runId = node'.runId)
    (plugin : request.skill.owningExtension = request'.skill.owningExtension) :
    (Unambiguous (selector = selector')
        ((modelAccess selector call action constraints).map (·.resource))
        ((modelAccess selector' call' action' constraints').map (·.resource)) ↔
      (selector.composite.Fits ∧ selector'.composite.Fits) ∧
        (selector = selector' ∨ selector.composite.pieces ≠ selector'.composite.pieces)) ∧
    (Unambiguous (node = node')
        ((nodeOutputAccess node scope context output).map (·.resource))
        ((nodeOutputAccess node' scope' context' output').map (·.resource)) ↔
      (node.composite.Fits ∧ node'.composite.Fits) ∧
        (node = node' ∨ node.composite.pieces ≠ node'.composite.pieces)) ∧
    (Unambiguous (request.skill = request'.skill ∧ request.resourceId = request'.resourceId)
        (skillResource request) (skillResource request') ↔
      (request.composite.Fits ∧ request'.composite.Fits) ∧
        ((request.skill = request'.skill ∧ request.resourceId = request'.resourceId) ∨
          request.composite.pieces ≠ request'.composite.pieces)) := by
  refine ⟨?_, ?_, ?_⟩
  · have resource : ∀ (selector : ModelSelector) call action constraints,
        (modelAccess selector call action constraints).map (·.resource) =
          (Identifier.make .resource (selector.providerId.value ++ ":" ++
            selector.modelId.value)).map
            fun id => ⟨"core", "model", id, none, by decide, by decide, nofun⟩ := by
      intro selector call action constraints
      rw [modelAccess]
      cases Identifier.make .resource (selector.providerId.value ++ ":" ++
        selector.modelId.value) <;> rfl
    rw [resource, resource]
    apply composite_unambiguous_iff
    simp
  · have resource : ∀ (node : RunNode) scope (context : RuntimeCallContext) action,
        context.runId = node.runId →
        (nodeOutputAccess node scope context action).map (·.resource) =
          (Identifier.make .resource (node.runId.value ++ ":" ++ node.nodeId.value)).map
            fun id => ⟨"core", "workflow_node_output", id, none, by decide, by decide, nofun⟩ := by
      intro node scope context action run
      rw [nodeOutputAccess, run, beq_self_eq_true]
      cases Identifier.make .resource (node.runId.value ++ ":" ++ node.nodeId.value) <;> rfl
    rw [resource _ _ _ _ run, resource _ _ _ _ run']
    apply composite_unambiguous_iff
    simp
  · have resource : ∀ request : SkillResourceRequest,
        skillResource request =
          (Identifier.make .resource (request.skill.id.value ++ ":" ++
            request.resourceId.value)).map
            fun id => ⟨"core", "skill_resource", id, some request.skill.owningExtension,
              by decide, by decide, by simpa using request.skill.valid.2.2.1⟩ := by
      intro request
      rw [skillResource]
      cases Identifier.make .resource (request.skill.id.value ++ ":" ++
        request.resourceId.value) <;> rfl
    rw [resource, resource]
    apply composite_unambiguous_iff
    simp [plugin]

namespace AuthorizationResources

/-- The names `a:b` and `c`, and the names `a` and `b:c`. -/
def firstSelector : ModelSelector := ⟨⟨"a:b", by decide⟩, ⟨"c", SampleParameters.plainC_checked⟩⟩

def secondSelector : ModelSelector := ⟨⟨"a", SampleParameters.plainA_checked⟩, ⟨"b:c", by decide⟩⟩

def plainSelector : ModelSelector := ⟨⟨"a", SampleParameters.plainA_checked⟩, ⟨"c", SampleParameters.plainC_checked⟩⟩

/-- One letter again and again is a name. -/
theorem repeated_checked {letter : Char} (plain : isPySpace letter = false)
    (visible : 32 ≤ letter.toNat) {count : ℕ} (some_ : count ≠ 0) (short : count ≤ 255) :
    Identifier.check (String.ofList (List.replicate count letter)) = .ok () := by
  have letters : ∀ char ∈ (String.ofList (List.replicate count letter)).toList, char = letter := by
    intro char member
    rw [String.toList_ofList] at member
    exact List.eq_of_mem_replicate member
  have nonempty : String.ofList (List.replicate count letter) ≠ "" := by
    simpa using some_
  have stripped : strip (String.ofList (List.replicate count letter)) =
      String.ofList (List.replicate count letter) :=
    strip_self fun char member => by rw [letters char member, plain]
  rw [Identifier.check_eq_ok]
  refine ⟨?_, ?_, ?_⟩
  · rw [isTrimmed, stripped, beq_self_eq_true, Bool.and_true]
    exact bne_iff_ne.mpr nonempty
  · rw [String.length_ofList, List.length_replicate]
    exact short
  · rw [List.all_eq_true]
    intro char member
    rw [letters char member]
    exact decide_eq_true visible

/-- Names that are identifiers, and together leave no room for the `:`. -/
def longSelector : ModelSelector :=
  ⟨⟨String.ofList (List.replicate 200 'a'),
      repeated_checked rfl (by decide) (by decide) (by decide)⟩,
    ⟨String.ofList (List.replicate 200 'b'),
      repeated_checked rfl (by decide) (by decide) (by decide)⟩⟩

def nodeOf (selector : ModelSelector) : RunNode :=
  ⟨⟨selector.providerId.value, selector.providerId.checked⟩,
    ⟨selector.modelId.value, selector.modelId.checked⟩⟩

def requestOf (selector : ModelSelector) : SkillResourceRequest where
  skill := ⟨"core", "skill", ⟨selector.providerId.value, selector.providerId.checked⟩, "plugin",
    "1", by decide, by decide, by decide, by decide⟩
  resourceId := ⟨selector.modelId.value, selector.modelId.checked⟩
  maxBytes := 1
  valid := ⟨⟨rfl, rfl, rfl⟩, by decide⟩

def contextOf (node : RunNode) : RuntimeCallContext :=
  { SampleParameters.sampleContext with runId := node.runId }

end AuthorizationResources

open AuthorizationResources SampleParameters

/-- A node output that is persisted, a model that generates and a Skill resource, each under
names that no other object of the kind has. -/
theorem resources_unambiguous_sample :
    Unambiguous (plainSelector = secondSelector)
        ((modelAccess plainSelector sampleContext modelGenerateAction []).map (·.resource))
        ((modelAccess secondSelector sampleContext modelGenerateAction []).map (·.resource)) ∧
      Unambiguous (nodeOf plainSelector = nodeOf secondSelector)
        ((nodeOutputAccess (nodeOf plainSelector) sampleScope (contextOf (nodeOf plainSelector))
          workflowOutputPersistAction).map (·.resource))
        ((nodeOutputAccess (nodeOf secondSelector) sampleScope
          (contextOf (nodeOf secondSelector)) workflowOutputPersistAction).map (·.resource)) ∧
      Unambiguous ((requestOf plainSelector).skill = (requestOf secondSelector).skill ∧
          (requestOf plainSelector).resourceId = (requestOf secondSelector).resourceId)
        (skillResource (requestOf plainSelector)) (skillResource (requestOf secondSelector)) := by
  have sample := resources_unambiguous_iff plainSelector secondSelector (nodeOf plainSelector)
    (nodeOf secondSelector) (requestOf plainSelector) (requestOf secondSelector) sampleContext
    sampleContext (contextOf (nodeOf plainSelector)) (contextOf (nodeOf secondSelector))
    modelGenerateAction modelGenerateAction workflowOutputPersistAction
    workflowOutputPersistAction [] [] sampleScope sampleScope rfl rfl rfl
  have fits : plainSelector.composite.Fits ∧ secondSelector.composite.Fits := by decide
  have pieces : plainSelector.composite.pieces ≠ secondSelector.composite.pieces := by
    decide +kernel
  exact ⟨sample.1.mpr ⟨fits, .inr pieces⟩, sample.2.1.mpr ⟨fits, .inr pieces⟩,
    sample.2.2.mpr ⟨fits, .inr pieces⟩⟩

/-- Two models, two node outputs and two Skill resources have one resource each; two names can
be too long for a resource. -/
theorem resources_ambiguous :
    (firstSelector ≠ secondSelector ∧ ∀ context action constraints,
      (modelAccess firstSelector context action constraints).map (·.resource) =
        (modelAccess secondSelector context action constraints).map (·.resource)) ∧
    (nodeOf firstSelector ≠ nodeOf secondSelector ∧ ∀ scope action,
      (nodeOutputAccess (nodeOf firstSelector) scope (contextOf (nodeOf firstSelector))
          action).map (·.resource) =
        (nodeOutputAccess (nodeOf secondSelector) scope (contextOf (nodeOf secondSelector))
          action).map (·.resource)) ∧
    ((requestOf firstSelector).skill ≠ (requestOf secondSelector).skill ∧
      skillResource (requestOf firstSelector) = skillResource (requestOf secondSelector)) ∧
    ∀ context action constraints, ∃ message,
      modelAccess longSelector context action constraints = .error (.value message) := by
  refine ⟨⟨by decide, ?_⟩, ⟨by decide, ?_⟩, ⟨by decide, rfl⟩, ?_⟩
  · intro context action constraints
    rfl
  · intro scope action
    rfl
  · intro context action constraints
    have long : Identifier.check (longSelector.providerId.value ++ ":" ++
        longSelector.modelId.value) ≠ .ok () := by
      have lengths : longSelector.providerId.value.length = 200 ∧
          longSelector.modelId.value.length = 200 := by
        constructor
        · exact String.length_ofList.trans List.length_replicate
        · exact String.length_ofList.trans List.length_replicate
      rw [Ne, joined_checked_iff]
      omega
    obtain ⟨message, refused⟩ := Identifier.make_error .resource long
    refine ⟨message, ?_⟩
    rw [modelAccess, refused]
    rfl

end CongeriesCore
