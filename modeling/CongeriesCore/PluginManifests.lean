import CongeriesCore.PluginModel
import CongeriesCore.ReferenceReading
import CongeriesCore.VersionRanges

/-! # Plugin manifests

The documents of Plugins: how a manifest and its parts are read, checked and written. What is read
of an accepted document is read again from what it is written as. -/

namespace CongeriesCore

open JsonValue Regex

/-! ## Fields -/

def requireTrimmed (value fieldName : String) : Except Raised Unit :=
  requireValue (isTrimmed value) (fieldName ++ " must be non-empty and trimmed")

/-- `_string`. -/
def JsonValue.string (value : JsonValue) (fieldName : String) : Except Raised String :=
  match value with
  | .str text => do
    requireTrimmed text fieldName
    return text
  | _ => .error (.value (fieldName ++ " must be a string"))

/-- `_string(data[key])`. -/
def JsonFields.string (data : JsonFields) (key fieldName : String) : Except Raised String := do
  (← data.item key).string fieldName

/-- `_require_fields`. -/
def requireFields (data : JsonFields) (expected : List String) (subject : String) :
    Except Raised Unit :=
  let actual := data.map Prod.fst
  let missing := (expected.filter (!actual.contains ·)).mergeSort
  let unknown := (actual.filter (!expected.contains ·)).mergeSort
  let details := (if missing.isEmpty then [] else ["missing " ++ ", ".intercalate missing]) ++
    if unknown.isEmpty then [] else ["unknown " ++ ", ".intercalate unknown]
  requireValue details.isEmpty (subject ++ " fields are invalid: " ++ "; ".intercalate details)

/-- `[a-z0-9_-]`. -/
def isIdChar (char : Char) : Bool := char.isLower || char.isDigit || char == '_' || char == '-'

/-- `[a-z][a-z0-9_-]*`. -/
def idPattern : Pattern := .seq (.chars Char.isLower) (.star (.chars isIdChar))

/-- `_NAMESPACED_ID_PATTERN`. -/
def namespacedIdPattern : Pattern := .seq idPattern (.plus (.seq (.char '.') idPattern))

def isNamespacedId (value : String) : Bool :=
  value.length ≤ 127 && (fullmatch namespacedIdPattern value.toList).isSome

def requireNamespacedId (value fieldName : String) : Except Raised Unit :=
  requireValue (isNamespacedId value) (fieldName ++ " must be a lowercase namespaced identifier")

def CapabilityType.ofValue (value : String) : Except Raised CapabilityType :=
  match value with
  | "workflow" => .ok .workflow
  | "skill" => .ok .skill
  | "tool" => .ok .tool
  | "context_provider" => .ok .contextProvider
  | "memory_provider" => .ok .memoryProvider
  | "model_provider" => .ok .modelProvider
  | "storage_provider" => .ok .storageProvider
  | "mcp_adapter" => .ok .mcpAdapter
  | _ => .error (.value "not a valid CapabilityType")

def PluginHookName.value : PluginHookName → String
  | .onLoad => "on_load"
  | .onActivate => "on_activate"
  | .onDrain => "on_drain"
  | .onUnload => "on_unload"

def PluginHookName.ofValue (value : String) : Except Raised PluginHookName :=
  match value with
  | "on_load" => .ok .onLoad
  | "on_activate" => .ok .onActivate
  | "on_drain" => .ok .onDrain
  | "on_unload" => .ok .onUnload
  | _ => .error (.value "not a valid PluginHookName")

/-! ## Permissions -/

/-- `_scope_pattern_parts`. -/
def scopePatternParts (value : String) : Except Raised (String × String × String) := do
  requireTrimmed value "permission Scope pattern"
  match value.toList.splitOn ':' with
  | namespace_ :: kind :: id :: rest =>
    return (String.ofList namespace_, String.ofList kind,
      String.ofList ([':'].intercalate (id :: rest)))
  | _ => .error (.value "permission Scope pattern must be namespace:kind:id or namespace:kind:*")

/-- The checks of a permission. -/
def checkScopePattern (value : String) : Except Raised Unit := do
  let (namespace_, kind, id) ← scopePatternParts value
  requireValue (isName namespace_) "permission Scope namespace is invalid"
  requireValue (isName kind) "permission Scope kind is invalid"
  requireValue (isTrimmed id && id.length ≤ 255 && (!id.toList.contains '*' || id == "*"))
    "permission Scope identifier is invalid"

/-- A permission as its document has it. -/
structure PermissionRecord where
  action : ActionRef
  scopePattern : String
  checked : checkScopePattern scopePattern = .ok ()

namespace PermissionRecord

def make (action : ActionRef) (scopePattern : String) : Except Raised PermissionRecord :=
  match checked : checkScopePattern scopePattern with
  | .ok () => .ok ⟨action, scopePattern, checked⟩
  | .error error => .error error

def toFields (permission : PermissionRecord) : JsonFields :=
  [("action", permission.action.toData), ("scope_pattern", .str permission.scopePattern)]

def fromData [PythonText] (data : JsonFields) : Except Raised PermissionRecord := do
  requireFields data ["action", "scope_pattern"] "Plugin permission"
  let action ← data.nested "action" "permission action" ActionRef.fromData
  let scopePattern ← data.string "scope_pattern" "permission Scope pattern"
  make action scopePattern

end PermissionRecord

/-! ## Capabilities -/

/-- A declared capability as its document has it. -/
structure DeclarationRecord where
  type : CapabilityType
  capabilityId : String
  contractVersion : SemVer
  entry : String
  permissions : List PermissionRecord
  named : isNamespacedId capabilityId = true
  trimmed : isTrimmed entry = true
  distinct : (permissions.map PermissionRecord.action).Nodup

namespace DeclarationRecord

def make (type : CapabilityType) (capabilityId : String) (contractVersion : SemVer) (entry : String)
    (permissions : List PermissionRecord) : Except Raised DeclarationRecord :=
  if named : isNamespacedId capabilityId = true then
    if trimmed : isTrimmed entry = true then
      if distinct : (permissions.map PermissionRecord.action).Nodup then
        .ok ⟨type, capabilityId, contractVersion, entry, permissions, named, trimmed, distinct⟩
      else .error (.value "capability permissions must not duplicate actions")
    else .error (.value "capability entry must be non-empty and trimmed")
  else .error (.value "capability identifier must be a lowercase namespaced identifier")

def toFields (declaration : DeclarationRecord) : JsonFields :=
  [("type", .str declaration.type.value), ("capability_id", .str declaration.capabilityId),
    ("contract_version", .str declaration.contractVersion.text), ("entry", .str declaration.entry),
    ("permissions", .arr (declaration.permissions.map fun item => .obj item.toFields))]

def fromData [PythonText] (data : JsonFields) : Except Raised DeclarationRecord := do
  requireFields data ["type", "capability_id", "contract_version", "entry", "permissions"]
    "capability declaration"
  let type ← CapabilityType.ofValue (← data.string "type" "capability type")
  let capabilityId ← data.string "capability_id" "capability identifier"
  let contractVersion ← SemVer.parse (← data.string "contract_version" "capability version")
  let entry ← data.string "entry" "capability entry"
  let permissions ← data.each "permissions" "capability permissions"
    (JsonValue.readObject "capability permission" PermissionRecord.fromData)
  make type capabilityId contractVersion entry permissions

end DeclarationRecord

/-! ## Dependencies -/

/-- A dependency on a name. -/
structure DependencyRecord where
  dependency : PluginDependency
  named : isNamespacedId dependency.identifier = true

namespace DependencyRecord

def make (dependency : PluginDependency) (fieldName : String) : Except Raised DependencyRecord :=
  if named : isNamespacedId dependency.identifier = true then .ok ⟨dependency, named⟩
  else .error (.value (fieldName ++ " must be a lowercase namespaced identifier"))

def toFields (record : DependencyRecord) : JsonFields :=
  match record.dependency with
  | .plugin pluginId range =>
    [("kind", .str "plugin"), ("plugin_id", .str pluginId), ("version_range", .str range.text)]
  | .capability type capabilityId range =>
    [("kind", .str "capability"), ("capability_type", .str type.value),
      ("capability_id", .str capabilityId), ("version_range", .str range.text)]

def fromPlugin (data : JsonFields) : Except Raised DependencyRecord := do
  requireFields data ["kind", "plugin_id", "version_range"] "Plugin dependency"
  let range ← VersionRange.parse (← data.string "version_range" "dependency range")
  let pluginId ← data.string "plugin_id" "dependency Plugin identifier"
  make (.plugin pluginId range) "dependency Plugin identifier"

def fromCapability (data : JsonFields) : Except Raised DependencyRecord := do
  requireFields data ["kind", "capability_type", "capability_id", "version_range"]
    "capability dependency"
  let range ← VersionRange.parse (← data.string "version_range" "dependency range")
  let type ← CapabilityType.ofValue (← data.string "capability_type" "capability type")
  let capabilityId ← data.string "capability_id" "capability identifier"
  make (.capability type capabilityId range) "dependency capability identifier"

def fromData (data : JsonFields) : Except Raised DependencyRecord := do
  match ← (data.get "kind").string "dependency kind" with
  | "plugin" => fromPlugin data
  | "capability" => fromCapability data
  | _ => .error (.value "not a valid DependencyKind")

end DependencyRecord

/-! ## Manifests -/

structure ManifestRecord where
  name : String
  version : SemVer
  coreApi : VersionRange
  entrypoint : String
  provides : List DeclarationRecord
  requires : List DependencyRecord
  permissions : List PermissionRecord
  lifecycle : Finset PluginHookName
  named : isNamespacedId name = true
  trimmed : isTrimmed entrypoint = true
  unique : (provides.map fun item => (item.type, item.capabilityId)).Nodup
  requiredOnce : (requires.map fun item => item.dependency.stableKey).Nodup
  distinct : (permissions.map PermissionRecord.action).Nodup

/-- The hooks in the order of their values. -/
def sortedHooks (lifecycle : Finset PluginHookName) : List PluginHookName :=
  [.onActivate, .onDrain, .onLoad, .onUnload].filter (· ∈ lifecycle)

namespace ManifestRecord

def make (contractVersion name : String) (version : SemVer) (coreApi : VersionRange)
    (entrypoint : String) (provides : List DeclarationRecord) (requires : List DependencyRecord)
    (permissions : List PermissionRecord) (lifecycle : Finset PluginHookName) :
    Except Raised ManifestRecord :=
  if contractVersion ≠ "1" then
    .error (.value "unsupported Plugin manifest contract version")
  else if named : isNamespacedId name = true then
    if trimmed : isTrimmed entrypoint = true then
      if unique : (provides.map fun item => (item.type, item.capabilityId)).Nodup then
        if requiredOnce : (requires.map fun item => item.dependency.stableKey).Nodup then
          if distinct : (permissions.map PermissionRecord.action).Nodup then
            .ok ⟨name, version, coreApi, entrypoint, provides, requires, permissions, lifecycle,
              named, trimmed, unique, requiredOnce, distinct⟩
          else .error (.value "Plugin permissions must not duplicate actions")
        else .error (.value "Plugin dependencies must not be duplicated")
      else .error (.value "Plugin capability identifiers must be unique by type")
    else .error (.value "Plugin entrypoint must be non-empty and trimmed")
  else .error (.value "Plugin name must be a lowercase namespaced identifier")

def toFields (manifest : ManifestRecord) : JsonFields :=
  [("contract_version", .str "1"), ("name", .str manifest.name),
    ("version", .str manifest.version.text), ("core_api", .str manifest.coreApi.text),
    ("entrypoint", .str manifest.entrypoint),
    ("provides", .arr (manifest.provides.map fun item => .obj item.toFields)),
    ("requires", .arr (manifest.requires.map fun item => .obj item.toFields)),
    ("permissions", .arr (manifest.permissions.map fun item => .obj item.toFields)),
    ("lifecycle", .arr ((sortedHooks manifest.lifecycle).map fun hook => .str hook.value))]

def readHook (item : JsonValue) : Except Raised PluginHookName := do
  PluginHookName.ofValue (← item.string "lifecycle hook")

def fromData [PythonText] (data : JsonFields) : Except Raised ManifestRecord := do
  requireFields data ["contract_version", "name", "version", "core_api", "entrypoint", "provides",
    "requires", "permissions", "lifecycle"] "Plugin manifest"
  let contractVersion ← data.string "contract_version" "manifest contract version"
  let name ← data.string "name" "Plugin name"
  let version ← SemVer.parse (← data.string "version" "Plugin version")
  let coreApi ← VersionRange.parse (← data.string "core_api" "Core API range")
  let entrypoint ← data.string "entrypoint" "Plugin entrypoint"
  let provides ← data.each "provides" "provided capabilities"
    (JsonValue.readObject "capability declaration" DeclarationRecord.fromData)
  let requires ← data.each "requires" "Plugin dependencies"
    (JsonValue.readObject "Plugin dependency" DependencyRecord.fromData)
  let permissions ← data.each "permissions" "Plugin permissions"
    (JsonValue.readObject "Plugin permission" PermissionRecord.fromData)
  let lifecycle ← data.each "lifecycle" "lifecycle hooks" readHook
  make contractVersion name version coreApi entrypoint provides requires permissions
    lifecycle.toFinset

end ManifestRecord

/-! ## Texts of documents -/

theorem requireFields_self (fields : JsonFields) (subject : String) :
    requireFields fields (fields.map Prod.fst) subject = .ok () := by
  have none_ : (fields.map Prod.fst).filter (!(fields.map Prod.fst).contains ·) = [] := by
    rw [List.filter_eq_nil_iff]
    intro key member missing
    rw [List.contains_iff_mem.mpr member] at missing
    cases missing
  simp only [requireFields, none_, List.mergeSort_nil]
  rfl

theorem string_of_item {data : JsonFields} {key fieldName text : String}
    (item : data.item key = .ok (.str text)) (trimmed : isTrimmed text = true) :
    data.string key fieldName = .ok text := by
  have checked : requireTrimmed text fieldName = .ok () := requireValue_eq_ok.mpr trimmed
  rw [JsonFields.string, item]
  change JsonValue.string (.str text) fieldName = _
  rw [JsonValue.string, checked]
  rfl

theorem each_of_item {α : Type} {data : JsonFields} {key fieldName : String} {values : List α}
    {read : JsonValue → Except Raised α} {write : α → JsonValue}
    (item : data.item key = .ok (.arr (values.map write)))
    (reads : ∀ value ∈ values, read (write value) = .ok value) :
    data.each key fieldName read = .ok values := by
  rw [JsonFields.each, item]
  change (values.map write).mapM read = _
  rw [DependencyResolver.mapM_ok, List.forall₂_map_left_iff, List.forall₂_same]
  exact reads

theorem isTrimmed_of_plain {text : String} (some_ : text ≠ "")
    (plain : ∀ char ∈ text.toList, isPySpace char = false) : isTrimmed text = true := by
  rw [isTrimmed, strip_self plain]
  simp [some_]

theorem isTrimmed_namespacedId {value : String} (named : isNamespacedId value = true) :
    isTrimmed value = true := by
  rw [isNamespacedId, Bool.and_eq_true] at named
  obtain ⟨groups, found⟩ := Option.isSome_iff_exists.mp named.2
  have matched := fullmatch_matches found
  apply isTrimmed_of_plain
  · rintro rfl
    cases found
  · intro char member
    have allowed := matched.allows char member
    simp only [namespacedIdPattern, idPattern, Pattern.plus, Pattern.char, Pattern.allows,
      Bool.or_eq_true, beq_iff_eq] at allowed
    have lower : char.isLower = true → isPySpace char = false := by
      intro lower
      apply isPlainChar.not_space
      apply isPlainChar_of_isWordChar
      have letter : char.isAlpha = true := by
        change (char.isUpper || char.isLower) = true
        rw [lower, Bool.or_true]
      simp [isWordChar, Char.isAlphanum, letter]
    have idChar : isIdChar char = true → isPySpace char = false := by
      intro listed
      simp only [isIdChar, Bool.or_eq_true, beq_iff_eq] at listed
      rcases listed with ((letter | digit) | rfl) | rfl
      · exact lower letter
      · apply isPlainChar.not_space
        apply isPlainChar_of_isWordChar
        simp [isWordChar, Char.isAlphanum, digit]
      · decide
      · decide
    have dot : char = '.' → isPySpace char = false := by
      rintro rfl
      decide
    grind

theorem isTrimmed_version {version : SemVer} (parsed : version.Parsed) :
    isTrimmed version.text = true := by
  obtain ⟨first, others, written, -, plain⟩ := parsed.written
  apply isTrimmed_of_plain
  · intro none
    rw [none] at written
    cases written
  · rw [written]
    exact fun char member => isPlainChar.not_space (plain char member)

/-- The range was read from some text. -/
def VersionRange.Parsed (range : VersionRange) : Prop := ∃ value, VersionRange.parse value = .ok range

theorem VersionRange.Parsed.again {range : VersionRange} (parsed : range.Parsed) :
    VersionRange.parse range.text = .ok range := by
  obtain ⟨value, read⟩ := parsed
  exact VersionRange.parse_text read

theorem isTrimmed_range {range : VersionRange} (parsed : range.Parsed) :
    isTrimmed range.text = true := by
  obtain ⟨_, trimmed, -⟩ := bind_ok parsed.again
  exact requireValue_eq_ok.mp trimmed

theorem SemVer.Parsed.again {version : SemVer} (parsed : version.Parsed) :
    SemVer.parse version.text = .ok version := by
  obtain ⟨value, read⟩ := parsed
  exact SemVer.parse_text read

/-! ## What is written is read again -/

theorem CapabilityType.ofValue_value (type : CapabilityType) : ofValue type.value = .ok type := by
  cases type <;> rfl

theorem PluginHookName.ofValue_value (hook : PluginHookName) : ofValue hook.value = .ok hook := by
  cases hook <;> rfl

theorem isTrimmed_type (type : CapabilityType) : isTrimmed type.value = true := by
  cases type <;> decide

theorem isTrimmed_hook (hook : PluginHookName) : isTrimmed hook.value = true := by
  cases hook <;> decide

theorem toFinset_sortedHooks (lifecycle : Finset PluginHookName) :
    (sortedHooks lifecycle).toFinset = lifecycle := by
  ext hook
  rw [sortedHooks, List.mem_toFinset, List.mem_filter, decide_eq_true_eq]
  constructor
  · rintro ⟨-, member⟩
    exact member
  · intro member
    refine ⟨?_, member⟩
    cases hook <;> simp

variable [PythonText]

namespace PermissionRecord

omit [PythonText] in
theorem isTrimmed_pattern (permission : PermissionRecord) :
    isTrimmed permission.scopePattern = true := by
  obtain ⟨_, parts, -⟩ := bind_ok permission.checked
  obtain ⟨_, trimmed, -⟩ := bind_ok parts
  exact requireValue_eq_ok.mp trimmed

theorem fromData_toFields (permission : PermissionRecord) :
    fromData permission.toFields = .ok permission := by
  have keys : requireFields permission.toFields ["action", "scope_pattern"] "Plugin permission" =
      .ok () := requireFields_self permission.toFields _
  have action : JsonFields.nested permission.toFields "action" "permission action"
      ActionRef.fromData = .ok permission.action :=
    ActionRef.decodes.reads permission.action _ (.same _)
  have pattern : JsonFields.string permission.toFields "scope_pattern" "permission Scope pattern" =
      .ok permission.scopePattern := string_of_item rfl permission.isTrimmed_pattern
  rw [fromData, keys, action, pattern]
  change make _ _ = _
  unfold make
  split
  · rfl
  · rename_i refused
    rw [permission.checked] at refused
    cases refused

end PermissionRecord

namespace DeclarationRecord

theorem fromData_toFields {declaration : DeclarationRecord}
    (parsed : declaration.contractVersion.Parsed) :
    fromData declaration.toFields = .ok declaration := by
  have keys : requireFields declaration.toFields ["type", "capability_id", "contract_version",
      "entry", "permissions"] "capability declaration" = .ok () :=
    requireFields_self declaration.toFields _
  have type : JsonFields.string declaration.toFields "type" "capability type" =
      .ok declaration.type.value := string_of_item rfl (isTrimmed_type _)
  have id : JsonFields.string declaration.toFields "capability_id" "capability identifier" =
      .ok declaration.capabilityId := string_of_item rfl (isTrimmed_namespacedId declaration.named)
  have version : JsonFields.string declaration.toFields "contract_version" "capability version" =
      .ok declaration.contractVersion.text := string_of_item rfl (isTrimmed_version parsed)
  have entry : JsonFields.string declaration.toFields "entry" "capability entry" =
      .ok declaration.entry := string_of_item rfl declaration.trimmed
  have permissions : JsonFields.each declaration.toFields "permissions" "capability permissions"
      (JsonValue.readObject "capability permission" PermissionRecord.fromData) =
      .ok declaration.permissions :=
    each_of_item rfl fun permission _ => permission.fromData_toFields
  rw [fromData, keys, type, id, version, entry, permissions]
  simp only [ok_bind, CapabilityType.ofValue_value, parsed.again]
  rw [make, dif_pos declaration.named, dif_pos declaration.trimmed, dif_pos declaration.distinct]

theorem parsed_of_fromData {data : JsonFields} {declaration : DeclarationRecord}
    (read : fromData data = .ok declaration) : declaration.contractVersion.Parsed := by
  obtain ⟨_, -, read⟩ := bind_ok read
  obtain ⟨_, -, read⟩ := bind_ok read
  obtain ⟨_, -, read⟩ := bind_ok read
  obtain ⟨_, -, read⟩ := bind_ok read
  obtain ⟨text, -, read⟩ := bind_ok read
  obtain ⟨version, parsed, read⟩ := bind_ok read
  obtain ⟨_, -, read⟩ := bind_ok read
  obtain ⟨_, -, made⟩ := bind_ok read
  unfold make at made
  split at made
  · split at made
    · split at made
      · cases made
        exact ⟨text, parsed⟩
      · cases made
    · cases made
  · cases made

end DeclarationRecord

namespace DependencyRecord

omit [PythonText] in
theorem fromData_toFields {record : DependencyRecord}
    (parsed : record.dependency.versionRange.Parsed) : fromData record.toFields = .ok record := by
  obtain ⟨dependency, named⟩ := record
  cases dependency with
  | plugin pluginId range =>
    let fields : JsonFields :=
      [("kind", .str "plugin"), ("plugin_id", .str pluginId), ("version_range", .str range.text)]
    have keys : requireFields fields ["kind", "plugin_id", "version_range"] "Plugin dependency" =
        .ok () := requireFields_self fields _
    have range_ : JsonFields.string fields "version_range" "dependency range" = .ok range.text :=
      string_of_item rfl (isTrimmed_range parsed)
    have id : JsonFields.string fields "plugin_id" "dependency Plugin identifier" = .ok pluginId :=
      string_of_item rfl (isTrimmed_namespacedId named)
    have again : VersionRange.parse range.text = .ok range := parsed.again
    change fromPlugin fields = _
    rw [fromPlugin, keys, range_, id]
    simp only [ok_bind, again]
    rw [make, dif_pos named]
  | capability type capabilityId range =>
    let fields : JsonFields :=
      [("kind", .str "capability"), ("capability_type", .str type.value),
        ("capability_id", .str capabilityId), ("version_range", .str range.text)]
    have keys : requireFields fields ["kind", "capability_type", "capability_id", "version_range"]
        "capability dependency" = .ok () := requireFields_self fields _
    have range_ : JsonFields.string fields "version_range" "dependency range" = .ok range.text :=
      string_of_item rfl (isTrimmed_range parsed)
    have kind : JsonFields.string fields "capability_type" "capability type" = .ok type.value :=
      string_of_item rfl (isTrimmed_type _)
    have id : JsonFields.string fields "capability_id" "capability identifier" = .ok capabilityId :=
      string_of_item rfl (isTrimmed_namespacedId named)
    have again : VersionRange.parse range.text = .ok range := parsed.again
    change fromCapability fields = _
    rw [fromCapability, keys, range_, kind, id]
    simp only [ok_bind, again, CapabilityType.ofValue_value]
    rw [make, dif_pos named]

omit [PythonText] in
theorem parsed_of_make {dependency : PluginDependency} {fieldName : String}
    {record : DependencyRecord} (made : make dependency fieldName = .ok record)
    (parsed : dependency.versionRange.Parsed) : record.dependency.versionRange.Parsed := by
  unfold make at made
  split at made
  · cases made
    exact parsed
  · cases made

omit [PythonText] in
theorem parsed_of_fromData {data : JsonFields} {record : DependencyRecord}
    (read : fromData data = .ok record) : record.dependency.versionRange.Parsed := by
  obtain ⟨kind, -, read⟩ := bind_ok read
  split at read
  · obtain ⟨_, -, read⟩ := bind_ok read
    obtain ⟨text, -, read⟩ := bind_ok read
    obtain ⟨range, parsed, read⟩ := bind_ok read
    obtain ⟨_, -, made⟩ := bind_ok read
    exact parsed_of_make made ⟨text, parsed⟩
  · obtain ⟨_, -, read⟩ := bind_ok read
    obtain ⟨text, -, read⟩ := bind_ok read
    obtain ⟨range, parsed, read⟩ := bind_ok read
    obtain ⟨_, -, read⟩ := bind_ok read
    obtain ⟨_, -, read⟩ := bind_ok read
    obtain ⟨_, -, made⟩ := bind_ok read
    exact parsed_of_make made ⟨text, parsed⟩
  · cases read

end DependencyRecord

omit [PythonText] in
/-- What is read of a list is read of objects. -/
theorem read_of_each {α : Type} {data : JsonFields} {key fieldName subject : String}
    {values : List α} {read : JsonFields → Except Raised α}
    (each : data.each key fieldName (JsonValue.readObject subject read) = .ok values)
    {value : α} (member : value ∈ values) : ∃ inner, read inner = .ok value := by
  obtain ⟨items, -, mapped⟩ := bind_ok each
  obtain ⟨_, -, mapped⟩ := bind_ok mapped
  obtain ⟨item, -, found⟩ := VersionRange.mem_of_mapM mapped member
  obtain ⟨inner, -, found⟩ := bind_ok found
  exact ⟨inner, found⟩

namespace ManifestRecord

omit [PythonText] in
theorem make_self (manifest : ManifestRecord) :
    make "1" manifest.name manifest.version manifest.coreApi manifest.entrypoint manifest.provides
      manifest.requires manifest.permissions manifest.lifecycle = .ok manifest := by
  rw [make, if_neg (fun other => other rfl), dif_pos manifest.named, dif_pos manifest.trimmed,
    dif_pos manifest.unique, dif_pos manifest.requiredOnce, dif_pos manifest.distinct]

/-- The versions and ranges were read from texts. -/
structure Parsed (manifest : ManifestRecord) : Prop where
  version : manifest.version.Parsed
  coreApi : manifest.coreApi.Parsed
  provides : ∀ declaration ∈ manifest.provides, declaration.contractVersion.Parsed
  requires : ∀ record ∈ manifest.requires, record.dependency.versionRange.Parsed

omit [PythonText] in
theorem make_ok {contractVersion name : String} {version : SemVer} {coreApi : VersionRange}
    {entrypoint : String} {provides : List DeclarationRecord} {requires : List DependencyRecord}
    {permissions : List PermissionRecord} {lifecycle : Finset PluginHookName}
    {manifest : ManifestRecord}
    (made : make contractVersion name version coreApi entrypoint provides requires permissions
      lifecycle = .ok manifest) :
    manifest.version = version ∧ manifest.coreApi = coreApi ∧ manifest.provides = provides ∧
      manifest.requires = requires := by
  unfold make at made
  split at made
  · cases made
  · split at made
    · split at made
      · split at made
        · split at made
          · split at made
            · cases made
              exact ⟨rfl, rfl, rfl, rfl⟩
            · cases made
          · cases made
        · cases made
      · cases made
    · cases made

theorem parsed_of_fromData {data : JsonFields} {manifest : ManifestRecord}
    (read : fromData data = .ok manifest) : manifest.Parsed := by
  obtain ⟨_, -, read⟩ := bind_ok read
  obtain ⟨_, -, read⟩ := bind_ok read
  obtain ⟨_, -, read⟩ := bind_ok read
  obtain ⟨versionText, -, read⟩ := bind_ok read
  obtain ⟨version, parsed, read⟩ := bind_ok read
  obtain ⟨rangeText, -, read⟩ := bind_ok read
  obtain ⟨coreApi, ranged, read⟩ := bind_ok read
  obtain ⟨_, -, read⟩ := bind_ok read
  obtain ⟨provides, declared, read⟩ := bind_ok read
  obtain ⟨requires, required, read⟩ := bind_ok read
  obtain ⟨_, -, read⟩ := bind_ok read
  obtain ⟨_, -, made⟩ := bind_ok read
  obtain ⟨rfl, rfl, rfl, rfl⟩ := make_ok made
  refine ⟨⟨versionText, parsed⟩, ⟨rangeText, ranged⟩, ?_, ?_⟩
  · intro declaration member
    obtain ⟨inner, found⟩ := read_of_each declared member
    exact DeclarationRecord.parsed_of_fromData found
  · intro record member
    obtain ⟨inner, found⟩ := read_of_each required member
    exact DependencyRecord.parsed_of_fromData found

theorem fromData_toFields {manifest : ManifestRecord} (parsed : manifest.Parsed) :
    fromData manifest.toFields = .ok manifest := by
  have keys : requireFields manifest.toFields ["contract_version", "name", "version", "core_api",
      "entrypoint", "provides", "requires", "permissions", "lifecycle"] "Plugin manifest" = .ok () :=
    requireFields_self manifest.toFields _
  have contract : JsonFields.string manifest.toFields "contract_version"
      "manifest contract version" = .ok "1" := string_of_item rfl (by decide)
  have name : JsonFields.string manifest.toFields "name" "Plugin name" = .ok manifest.name :=
    string_of_item rfl (isTrimmed_namespacedId manifest.named)
  have version : JsonFields.string manifest.toFields "version" "Plugin version" =
      .ok manifest.version.text := string_of_item rfl (isTrimmed_version parsed.version)
  have coreApi : JsonFields.string manifest.toFields "core_api" "Core API range" =
      .ok manifest.coreApi.text := string_of_item rfl (isTrimmed_range parsed.coreApi)
  have entrypoint : JsonFields.string manifest.toFields "entrypoint" "Plugin entrypoint" =
      .ok manifest.entrypoint := string_of_item rfl manifest.trimmed
  have provides : JsonFields.each manifest.toFields "provides" "provided capabilities"
      (JsonValue.readObject "capability declaration" DeclarationRecord.fromData) =
      .ok manifest.provides :=
    each_of_item rfl fun declaration member =>
      DeclarationRecord.fromData_toFields (parsed.provides declaration member)
  have requires : JsonFields.each manifest.toFields "requires" "Plugin dependencies"
      (JsonValue.readObject "Plugin dependency" DependencyRecord.fromData) = .ok manifest.requires :=
    each_of_item rfl fun record member =>
      DependencyRecord.fromData_toFields (parsed.requires record member)
  have permissions : JsonFields.each manifest.toFields "permissions" "Plugin permissions"
      (JsonValue.readObject "Plugin permission" PermissionRecord.fromData) =
      .ok manifest.permissions :=
    each_of_item rfl fun permission _ => permission.fromData_toFields
  have hook : ∀ hook : PluginHookName, readHook (.str hook.value) = .ok hook := by
    intro hook
    cases hook <;> rfl
  have lifecycle : JsonFields.each manifest.toFields "lifecycle" "lifecycle hooks" readHook =
      .ok (sortedHooks manifest.lifecycle) := each_of_item rfl fun listed _ => hook listed
  rw [fromData, keys, contract, name, version, coreApi, entrypoint, provides, requires, permissions,
    lifecycle]
  simp only [ok_bind, parsed.version.again, parsed.coreApi.again, toFinset_sortedHooks, make_self]

end ManifestRecord

/-- Reading, writing and reading again gives what reading gives. -/
theorem manifest_codec (data : JsonFields) :
    (do
      let manifest ← ManifestRecord.fromData data
      ManifestRecord.fromData manifest.toFields) = ManifestRecord.fromData data := by
  cases read : ManifestRecord.fromData data with
  | error error => rfl
  | ok manifest => exact ManifestRecord.fromData_toFields (ManifestRecord.parsed_of_fromData read)

end CongeriesCore
