import CongeriesCore.AgentDocuments
import CongeriesCore.DependencyBindings

/-! # Upgrading specifications

What the upgrade to the second version keeps, and when it can be made after the specification was
written and read as well as before. -/

namespace CongeriesCore

namespace AgentReference

def namespace_ : AgentReference → String
  | .capability ref => ref.namespace_
  | .resource ref => ref.namespace_

def id : AgentReference → ResourceId
  | .capability ref => ref.id
  | .resource ref => ref.id

def owningExtension : AgentReference → Option String
  | .capability ref => some ref.owningExtension
  | .resource ref => ref.owningExtension

/-- The contract version, where the reference has one. -/
def explicitVersion : AgentReference → Option String
  | .capability ref => some ref.contractVersion
  | .resource _ => none

/-- A versioned reference to the same thing. -/
structure UpgradesTo (ref upgraded : AgentReference) : Prop where
  versioned : upgraded.isCapability = true
  namespaces : upgraded.namespace_ = ref.namespace_
  kinds : upgraded.kind = ref.kind
  ids : upgraded.id = ref.id
  owners : upgraded.owningExtension = ref.owningExtension
  versions : ∀ version ∈ ref.explicitVersion, upgraded.explicitVersion = some version

/-- The key of the reference at version 1. -/
def keyAtFirst (ref : AgentReference) : String × String × String := (ref.kind, ref.id.value, "1")

end AgentReference

namespace AgentSpec

open AgentReference

theorem upgradeReference_ok {ref upgraded : AgentReference}
    (done : upgradeReference ref = .ok upgraded) : ref.UpgradesTo upgraded := by
  cases ref with
  | capability ref =>
    cases done
    exact ⟨rfl, rfl, rfl, rfl, rfl, fun _ same => same⟩
  | resource ref =>
    obtain ⟨capability, made, done⟩ := bind_ok done
    cases done
    obtain ⟨names, kinds, ids, owners, -⟩ := CapabilityRef.fromResource_ok made
    exact ⟨rfl, names, kinds, ids, owners, fun _ none_ => by cases none_⟩

/-- What was written in the first version upgrades to the same if it had version 1 or none. -/
theorem upgradeReference_carried {ref upgraded : AgentReference}
    (done : upgradeReference ref = .ok upgraded) :
    upgradeReference (ref.carried "1") = .ok upgraded ↔
      ∀ version ∈ ref.explicitVersion, version = "1" := by
  cases ref with
  | resource ref =>
    constructor
    · intro _ version none_
      cases none_
    · intro _
      exact done
  | capability ref =>
    cases done
    change (do return AgentReference.capability (← CapabilityRef.fromResource ref.resource "1")) = _ ↔
      ∀ version ∈ some ref.contractVersion, version = "1"
    constructor
    · intro again version same
      obtain ⟨found, made, done⟩ := bind_ok again
      cases done
      cases same
      exact (CapabilityRef.fromResource_ok made).2.2.2.2
    · intro first
      have version : ref.contractVersion = "1" := first _ rfl
      have made : CapabilityRef.fromResource ref.resource "1" = .ok ref := by
        rw [← version]
        exact ref.fromResource_resource
      rw [made]
      rfl

/-- At version 1 an upgraded reference has the key of what it was made of. -/
theorem key_upgraded {ref upgraded : AgentReference} (done : upgradeReference ref = .ok upgraded)
    (first : ∀ version ∈ ref.explicitVersion, version = "1") : upgraded.key = ref.keyAtFirst := by
  cases ref with
  | capability ref =>
    cases done
    change (ref.kind, ref.id.value, ref.contractVersion) = _
    rw [first _ rfl]
    rfl
  | resource ref =>
    obtain ⟨capability, made, done⟩ := bind_ok done
    cases done
    obtain ⟨-, kinds, ids, -, version⟩ := CapabilityRef.fromResource_ok made
    change (capability.kind, capability.id.value, capability.contractVersion) = _
    rw [kinds, ids, version]
    rfl

/-- References that upgrade to different keys are different resources. -/
theorem nodup_carried {refs upgraded : List AgentReference}
    (done : List.Forall₂ (fun ref upgraded => upgradeReference ref = .ok upgraded) refs upgraded)
    (first : ∀ ref ∈ refs, ∀ version ∈ ref.explicitVersion, version = "1")
    (unique : (upgraded.map AgentReference.key).Nodup) :
    ((refs.map (carried "1")).map AgentReference.key).Nodup := by
  have keys : upgraded.map AgentReference.key = refs.map keyAtFirst := by
    induction done with
    | nil => rfl
    | cons one rest ih =>
      rw [List.map_cons] at unique
      rw [List.map_cons, List.map_cons, key_upgraded one (first _ (.head _)),
        ih (fun ref member => first ref (.tail _ member)) unique.of_cons]
  have through : refs.map keyAtFirst = ((refs.map (carried "1")).map AgentReference.key).map
      fun key => (key.2.1, key.2.2, "1") := by
    rw [List.map_map, List.map_map]
    apply List.map_congr_left
    intro ref _
    cases ref <;> rfl
  rw [keys, through] at unique
  exact unique.of_map

/-- The upgraded references are the same for what was written in the first version. -/
theorem upgrade_carried {refs upgraded : List AgentReference}
    (done : refs.mapM upgradeReference = .ok upgraded) :
    (refs.map (carried "1")).mapM upgradeReference = .ok upgraded ↔
      ∀ ref ∈ refs, ∀ version ∈ ref.explicitVersion, version = "1" := by
  rw [DependencyResolver.mapM_ok] at done
  rw [DependencyResolver.mapM_ok, List.forall₂_map_left_iff]
  induction done with
  | nil => simp
  | cons one rest ih =>
    rw [List.forall₂_cons, ih, upgradeReference_carried one, List.forall_mem_cons]

/-- What an upgrade has made. -/
theorem upgradeV2_ok {spec upgraded : AgentSpec} : spec.upgradeV2 = .ok upgraded ↔
    ∃ skills tools, spec.skillRefs.mapM upgradeReference = .ok skills ∧
      spec.toolRefs.mapM upgradeReference = .ok tools ∧
      make { spec.toAgentSpecFields with
        skillRefs := skills, toolRefs := tools, contractVersion := "2" } = .ok upgraded := by
  constructor
  · intro done
    obtain ⟨skills, skillsDone, done⟩ := bind_ok done
    obtain ⟨tools, toolsDone, made⟩ := bind_ok done
    exact ⟨skills, tools, skillsDone, toolsDone, made⟩
  · rintro ⟨skills, tools, skillsDone, toolsDone, made⟩
    rw [upgradeV2, skillsDone, toolsDone]
    exact made

/-- Versioned references to the same things, and nothing else changed. -/
structure UpgradesTo (spec upgraded : AgentSpec) : Prop where
  skills : List.Forall₂ AgentReference.UpgradesTo spec.skillRefs upgraded.skillRefs
  tools : List.Forall₂ AgentReference.UpgradesTo spec.toolRefs upgraded.toolRefs
  others : upgraded.toAgentSpecFields = { spec.toAgentSpecFields with
    skillRefs := upgraded.skillRefs, toolRefs := upgraded.toolRefs, contractVersion := "2" }

theorem upgradesTo_of_upgradeV2 {spec upgraded : AgentSpec}
    (done : spec.upgradeV2 = .ok upgraded) : spec.UpgradesTo upgraded := by
  obtain ⟨skills, tools, skillsDone, toolsDone, made⟩ := upgradeV2_ok.mp done
  rw [DependencyResolver.mapM_ok] at skillsDone toolsDone
  have fields := make_ok made
  have skillsSame : upgraded.skillRefs = skills := congrArg AgentSpecFields.skillRefs fields
  have toolsSame : upgraded.toolRefs = tools := congrArg AgentSpecFields.toolRefs fields
  constructor
  · rw [skillsSame]
    exact skillsDone.imp fun _ _ => upgradeReference_ok
  · rw [toolsSame]
    exact toolsDone.imp fun _ _ => upgradeReference_ok
  · rw [skillsSame, toolsSame]
    exact fields

/-- What the first version wrote of a specification that upgrades passes the checks. -/
theorem check_carried {spec : AgentSpec} {skills tools : List AgentReference}
    {upgraded : AgentSpec} (version : spec.contractVersion = "1")
    (skillsDone : spec.skillRefs.mapM upgradeReference = .ok skills)
    (toolsDone : spec.toolRefs.mapM upgradeReference = .ok tools)
    (made : make { spec.toAgentSpecFields with
      skillRefs := skills, toolRefs := tools, contractVersion := "2" } = .ok upgraded)
    (first : ∀ ref ∈ spec.references, ∀ version ∈ ref.explicitVersion, version = "1") :
    spec.carriedFields.check = .ok () := by
  rw [DependencyResolver.mapM_ok] at skillsDone toolsDone
  have checked := upgraded.checked
  rw [make_ok made] at checked
  obtain ⟨-, -, skillKeys, toolKeys, -, -, -⟩ := check_ok.mp checked
  obtain ⟨supported, given, -, -, skillKinds, toolKinds, -⟩ := check_ok.mp spec.checked
  have kinds (refs : List AgentReference) (kind : String) (all : ∀ ref ∈ refs, ref.kind = kind) :
      ∀ ref ∈ refs.map (carried "1"), ref.kind = kind := by
    intro ref member
    obtain ⟨source, listed, rfl⟩ := List.mem_map.mp member
    rw [← all source listed]
    cases source <;> rfl
  rw [check_ok, carriedFields, version]
  refine ⟨.inl rfl, given, ?_, ?_, kinds _ _ skillKinds, kinds _ _ toolKinds, fun second => ?_⟩
  · exact nodup_carried skillsDone (fun ref member => first ref (List.mem_append_left _ member))
      skillKeys
  · exact nodup_carried toolsDone (fun ref member => first ref (List.mem_append_right _ member))
      toolKeys
  · exact absurd second (by decide)

theorem upgrade_recoded_iff [PythonText] {spec upgraded : AgentSpec}
    (done : spec.upgradeV2 = .ok upgraded) :
    (do (← spec.recoded).upgradeV2) = .ok upgraded ↔ (spec.contractVersion = "1" →
      ∀ ref ∈ spec.references, ∀ version ∈ ref.explicitVersion, version = "1") := by
  rcases (check_ok.mp spec.checked).1 with version | version
  · obtain ⟨skills, tools, skillsDone, toolsDone, made⟩ := upgradeV2_ok.mp done
    have skillsSame : upgraded.skillRefs = skills :=
      congrArg AgentSpecFields.skillRefs (make_ok made)
    have toolsSame : upgraded.toolRefs = tools := congrArg AgentSpecFields.toolRefs (make_ok made)
    rw [recoded_eq]
    constructor
    · intro again _ ref member
      obtain ⟨middle, read, redone⟩ := bind_ok again
      obtain ⟨skills', tools', skillsDone', toolsDone', made'⟩ := upgradeV2_ok.mp redone
      have sameSkills : upgraded.skillRefs = skills' :=
        congrArg AgentSpecFields.skillRefs (make_ok made')
      have sameTools : upgraded.toolRefs = tools' :=
        congrArg AgentSpecFields.toolRefs (make_ok made')
      rw [make_ok read, carriedFields, version, ← sameSkills, skillsSame] at skillsDone'
      rw [make_ok read, carriedFields, version, ← sameTools, toolsSame] at toolsDone'
      rcases List.mem_append.mp member with skill | tool
      · exact (upgrade_carried skillsDone).mp skillsDone' ref skill
      · exact (upgrade_carried toolsDone).mp toolsDone' ref tool
    · intro condition
      have first := condition version
      have checked := check_carried version skillsDone toolsDone made first
      have middle : make spec.carriedFields = .ok ⟨spec.carriedFields, checked⟩ :=
        make_self ⟨spec.carriedFields, checked⟩
      rw [middle, ok_bind, upgradeV2_ok]
      refine ⟨skills, tools, ?_, ?_, made⟩
      · change (spec.skillRefs.map (carried spec.contractVersion)).mapM upgradeReference = _
        rw [version]
        exact (upgrade_carried skillsDone).mpr fun ref member =>
          first ref (List.mem_append_left _ member)
      · change (spec.toolRefs.map (carried spec.contractVersion)).mapM upgradeReference = _
        rw [version]
        exact (upgrade_carried toolsDone).mpr fun ref member =>
          first ref (List.mem_append_right _ member)
  · have never : ¬ spec.contractVersion = "1" := by
      rw [version]
      decide
    have same : spec.recoded = .ok spec :=
      spec.recoded_eq_iff.mpr fun first => absurd first never
    rw [same, ok_bind, done]
    exact iff_of_true rfl fun first => absurd first never

theorem recoded_upgraded [PythonText] {spec upgraded : AgentSpec}
    (done : spec.upgradeV2 = .ok upgraded) : upgraded.recoded = .ok upgraded := by
  have version : upgraded.contractVersion = "2" :=
    congrArg AgentSpecFields.contractVersion (upgradesTo_of_upgradeV2 done).others
  rw [recoded_eq_iff, version]
  intro first
  exact absurd first (by decide)

end AgentSpec

/-- A specification is read as it was written unless the first version wrote a capability. An
upgrade keeps what the references name and everything else, and can be made after writing and
reading unless that lost a contract version. -/
theorem agent_codec [PythonText] (spec : AgentSpec) :
    (spec.recoded = .ok spec ↔
      (spec.contractVersion = "1" → ∀ ref ∈ spec.references, ref.isCapability = false)) ∧
    ∀ upgraded, spec.upgradeV2 = .ok upgraded →
      spec.UpgradesTo upgraded ∧ upgraded.recoded = .ok upgraded ∧
      ((do (← spec.recoded).upgradeV2) = .ok upgraded ↔ (spec.contractVersion = "1" →
        ∀ ref ∈ spec.references, ∀ version ∈ ref.explicitVersion, version = "1")) := by
  refine ⟨spec.recoded_eq_iff, fun upgraded done => ⟨?_, ?_, ?_⟩⟩
  · exact AgentSpec.upgradesTo_of_upgradeV2 done
  · exact AgentSpec.recoded_upgraded done
  · exact AgentSpec.upgrade_recoded_iff done

/-- A first version whose only skill is a capability at version 3. -/
def sampleAgentSpec : AgentSpec where
  agentId := ⟨"agent-1", SampleParameters.agent_checked⟩
  definitionId := ⟨"definition-1", SampleParameters.definition_checked⟩
  instructions := [ContentBlock.json .null]
  contextBinding := ⟨[⟨"provider-1", SampleParameters.provider_checked⟩],
    [⟨⟨"core", "history", SampleParameters.history_named⟩, ⟨"core", "history", "1", SampleParameters.history_versioned⟩⟩], .single,
    .requireComplete, ⟨none, none, SampleParameters.unlimited⟩, by decide, by decide⟩
  modelBinding := ⟨⟨"binding-1", by decide⟩,
    ⟨⟨"provider-1", SampleParameters.provider_checked⟩, ⟨"model-1", SampleParameters.model_checked⟩⟩, ⟨false, false, false, {.text}, {.text}⟩,
    ⟨false, false⟩, ⟨none, none, SampleParameters.unlimited⟩, [], by decide⟩
  skillRefs := [.capability ⟨"core", "skill", ⟨"skill-1", by decide⟩, "plugin-1", "3", by decide⟩]
  toolRefs := []
  policyRef := none
  contractVersion := "1"
  checked := by rfl

/-- The version of the skill is lost, before an upgrade as well. -/
theorem agent_version_lost :
    (∀ [PythonText], ¬ ∀ spec : AgentSpec, spec.recoded = .ok spec) ∧
    ∀ [PythonText], ¬ ∀ spec upgraded : AgentSpec, spec.upgradeV2 = .ok upgraded →
      (do (← spec.recoded).upgradeV2) = .ok upgraded := by
  constructor
  · intro _ codec
    have plain := sampleAgentSpec.recoded_eq_iff.mp (codec sampleAgentSpec) rfl
    have kept := plain _ (.head _)
    cases kept
  · intro _ commutes
    have done : ∃ upgraded, sampleAgentSpec.upgradeV2 = .ok upgraded := ⟨_, rfl⟩
    obtain ⟨upgraded, done⟩ := done
    have first := (AgentSpec.upgrade_recoded_iff done).mp (commutes _ upgraded done) rfl
    have version := first _ (.head _) "3" rfl
    exact absurd version (by decide)

end CongeriesCore
