import CongeriesCore.CanonicalJson
import CongeriesCore.ContextModel

/-! # The merge of context values

Values that providers give for one key are merged if Python finds them equal. It also does so with
booleans, integers and floats of one numeric value, at any depth. -/

namespace CongeriesCore

/-- The same value at every level, so that the encodings agree. -/
def JsonValue.SameAs (first second : JsonValue) : Prop := first.canonical = second.canonical

/-! ## The registry -/

structure ContextMergeRegistry where
  policies : Dict SchemaRef (List JsonValue → Except Raised Foreign)

def contextMergeConflict : Raised :=
  coreError .conflict "context_merge_conflict"
    "context values conflict without an explicit merge policy"

def contextMergePolicyFailure (cause : String) : Raised :=
  .core ⟨.protocolFailure, "context_merge_policy_failure",
    "context merge policy returned an invalid value", false, some cause, [], by decide⟩

namespace ContextMergeRegistry

def applyPolicy (policy : List JsonValue → Except Raised Foreign) (values : List JsonValue) :
    Except Raised JsonValue :=
  match policy values >>= Foreign.asJsonValue "merged context value" with
  | .ok value => .ok value
  | .error error =>
    if error.isTypeOrValueError then .error (contextMergePolicyFailure error.typeName)
    else .error error

/-- Where there is no value, `values[0]` raises. -/
def merge (merges : ContextMergeRegistry) (schema : SchemaRef) :
    List JsonValue → Except Raised JsonValue
  | [] => .error (.other "IndexError")
  | first :: rest =>
    if rest.all fun value => value.equals first then .ok first
    else match merges.policies.get? schema with
      | none => .error contextMergeConflict
      | some policy => applyPolicy policy (first :: rest)

/-- The outcome of a merge is what all the values are, or a conflict. -/
def HidesNothing (values : List JsonValue) (outcome : Except Raised JsonValue) : Prop :=
  (∀ value, outcome = .ok value → ∀ other ∈ values, value.SameAs other) ∧
    ∀ error, outcome = .error error → error = contextMergeConflict

/-- A value differs from the first for Python too, or none differs at all. -/
def ToldApart : List JsonValue → Prop
  | [] => False
  | first :: rest =>
    (∃ value ∈ rest, value.equals first = false) ∨ ∀ value ∈ rest, first.SameAs value

def sampleSchema : SchemaRef := ⟨"core", "context", "1", by decide⟩

/-- Two providers give `{"enabled": true}` and `{"enabled": 1}`. -/
def enabledValues : List JsonValue :=
  [.obj [("enabled", .bool true)], .obj [("enabled", .int 1)]]

end ContextMergeRegistry

end CongeriesCore
