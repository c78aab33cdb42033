import CongeriesCore.CanonicalJson
import CongeriesCore.PolicyAuthorization
import CongeriesCore.RuntimeRun
import CongeriesCore.WorkflowModel

/-! # References by their encodings

Scopes, schemas, resources and principals are told apart by their canonical encodings. -/

namespace CongeriesCore

section Encoded

variable {first second : List (String × JsonValue)}

/-- Objects with one encoding have one encoding under every key. -/
theorem lookup_of_canonical (nodup : (first.map Prod.fst).Nodup)
    (nodup' : (second.map Prod.fst).Nodup)
    (same : (JsonValue.obj first).canonical = (JsonValue.obj second).canonical) (key : String) :
    (Dict.lookup key first).map JsonValue.canonical =
      (Dict.lookup key second).map JsonValue.canonical := by
  rw [JsonValue.canonical_obj, JsonValue.canonical_obj, JsonValue.obj.injEq] at same
  rw [← JsonValue.lookup_canonicalFields nodup, ← JsonValue.lookup_canonicalFields nodup', same]

end Encoded

theorem SchemaRef.eq_of_canonical {first second : SchemaRef}
    (same : first.toData.canonical = second.toData.canonical) : first = second := by
  have looked := lookup_of_canonical (by simp) (by simp) same
  have namespaces : first.namespace_ = second.namespace_ := by
    simpa [Dict.lookup] using looked "namespace"
  have names : first.name = second.name := by
    simpa [Dict.lookup] using looked "name"
  have versions : first.version = second.version := by
    simpa [Dict.lookup] using looked "version"
  cases first
  cases second
  simp_all

namespace ScopeRef

theorem chain_of_canonical {first second : List ScopeKey}
    (same : (chainToData first).canonical = (chainToData second).canonical) : first = second := by
  induction first generalizing second with
  | nil =>
    cases second with
    | nil => rfl
    | cons other others => simp [chainToData, keyToData] at same
  | cons key keys ih =>
    cases second with
    | nil => simp [chainToData, keyToData] at same
    | cons other others =>
      have looked := lookup_of_canonical (by simp) (by simp) same
      have namespaces : key.namespace_ = other.namespace_ := by
        simpa [Dict.lookup] using looked "namespace"
      have kinds : key.kind = other.kind := by
        simpa [Dict.lookup] using looked "kind"
      have ids : key.id = other.id := by
        simpa [Dict.lookup] using looked "id"
      have parents : keys = others := by
        apply ih
        simpa [Dict.lookup] using looked "parent"
      cases key
      cases other
      simp_all

theorem eq_of_canonical {first second : ScopeRef}
    (same : first.toData.canonical = second.toData.canonical) : first = second := by
  have chains := chain_of_canonical same
  cases first
  cases second
  simp_all [chain]

end ScopeRef

end CongeriesCore
