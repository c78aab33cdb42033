import CongeriesCore.PolicyAuthorization
import Mathlib.Tactic.IntervalCases

/-! # Parameters that evaluate

Concrete values for what the model is parametric in: a digest (a polynomial hash of the
value, written as 64 hexadecimal digits), a root call context, and a policy that allows
every request. -/

namespace CongeriesCore.SampleParameters

def mix (state value : ℕ) : ℕ := (state * 1000003 + value + 1) % 2 ^ 256

def mixText (state : ℕ) (text : String) : ℕ := text.toList.foldl (fun acc c => mix acc c.toNat) state

mutual

def mixValue (state : ℕ) : JsonValue → ℕ
  | .null => mix state 0
  | .bool value => mix (mix state 1) value.toNat
  | .int value => mix (mix state 2) (if value < 0 then 2 * value.natAbs + 1 else 2 * value.natAbs)
  | .float bits => mix (mix state 3) bits.toNat
  | .str value => mixText (mix state 4) value
  | .arr items => mixItems (mix state 5) items
  | .obj fields => mixFields (mix state 6) fields

def mixItems (state : ℕ) : List JsonValue → ℕ
  | [] => mix state 7
  | item :: items => mixItems (mixValue state item) items

def mixFields (state : ℕ) : List (String × JsonValue) → ℕ
  | [] => mix state 8
  | (key, value) :: fields => mixFields (mixValue (mixText state key) value) fields

end

def hexDigits : ℕ → ℕ → List Char
  | 0, _ => []
  | count + 1, value => Nat.digitChar (value % 16) :: hexDigits count (value / 16)

theorem hexDigits_length (count value : ℕ) : (hexDigits count value).length = count := by
  induction count generalizing value with
  | zero => rfl
  | succ count ih => simp [hexDigits, ih]

theorem digitChar_hex (value : ℕ) : ((Nat.digitChar (value % 16)).isDigit ||
    ('a' ≤ Nat.digitChar (value % 16) && Nat.digitChar (value % 16) ≤ 'f')) = true := by
  have small : value % 16 < 16 := Nat.mod_lt _ (by decide)
  interval_cases value % 16 <;> decide

theorem hexDigits_hex (count value : ℕ) :
    ((hexDigits count value).all fun c => c.isDigit || ('a' ≤ c && c ≤ 'f')) = true := by
  induction count generalizing value with
  | zero => rfl
  | succ count ih =>
    rw [hexDigits, List.all_cons, digitChar_hex, ih]
    rfl

def digest (value : ℕ) : Sha256Digest where
  value := String.ofList (hexDigits 64 value)
  matches_ := by
    rw [isSha256, String.toList_ofList, hexDigits_length, hexDigits_hex]
    rfl

scoped instance sampleSha256 : Sha256 where
  json value := digest (mixValue 0 value)
  text value := digest (mixText 1 value)

def sampleTime : DateTime := ⟨2024, 1, 1, 0, 0, 0, 0, by decide⟩

def sampleRunId : RunId := ⟨"run-1", by decide⟩

/-! The identifiers, keys and limits that the samples share. -/

theorem agent_checked : Identifier.check "agent-1" = .ok () := by decide
theorem definition_checked : Identifier.check "definition-1" = .ok () := by decide
theorem model_checked : Identifier.check "model-1" = .ok () := by decide
theorem provider_checked : Identifier.check "provider-1" = .ok () := by decide
theorem binding_checked : Identifier.check "binding-1" = .ok () := by decide
theorem evaluation_checked : Identifier.check "evaluation-1" = .ok () := by decide
theorem quality_checked : Identifier.check "quality-1" = .ok () := by decide
theorem workflow_checked : Identifier.check "workflow-1" = .ok () := by decide
theorem store_checked : Identifier.check "store-1" = .ok () := by decide
theorem event_checked : Identifier.check "event-1" = .ok () := by decide
theorem checkpoint_checked : Identifier.check "checkpoint-1" = .ok () := by decide
theorem secondCheckpoint_checked : Identifier.check "checkpoint-2" = .ok () := by decide
theorem skill_checked : Identifier.check "skill-1" = .ok () := by decide
theorem acknowledgement_checked : Identifier.check "acknowledgement-1" = .ok () := by decide
theorem token_checked : Identifier.check "token-3" = .ok () := by decide
theorem key_checked : Identifier.check "key-1" = .ok () := by decide
theorem secondKey_checked : Identifier.check "key-2" = .ok () := by decide
theorem search_checked : Identifier.check "search" = .ok () := by decide
theorem workspace_checked : Identifier.check "workspace-1" = .ok () := by decide
theorem plainA_checked : Identifier.check "a" = .ok () := by decide
theorem plainC_checked : Identifier.check "c" = .ok () := by decide

theorem text_named : isName "app" = true ∧ isName "text" = true ∧ isTrimmed "1" = true := by decide

theorem history_named : isName "core" = true ∧ isName "history" = true := by decide

theorem history_versioned : isName "core" = true ∧ isName "history" = true ∧ isTrimmed "1" = true := by
  decide

theorem unlimited : (none : Option ℕ).all (1 ≤ ·) = true ∧ (none : Option ℕ).all (1 ≤ ·) = true := by
  decide

theorem rootless : ([] : List ScopeKey).length + 1 ≤ 64 := by decide

theorem providerDown_required : "provider_down" ≠ "" ∧ "provider is down" ≠ "" := by decide

theorem eventSequence_required :
    "event_sequence_failed" ≠ "" ∧ "event sequence could not be assigned" ≠ "" := by decide

def sampleScope : ScopeRef := ⟨⟨"core", "workspace", "workspace-1"⟩, [], by decide, by decide⟩

def sampleContext : RuntimeCallContext where
  runId := sampleRunId
  rootRunId := sampleRunId
  parentRunId := none
  workspaceId := ⟨"workspace-1", by decide⟩
  sessionRef := none
  scope := sampleScope
  deadline := none
  cancellation := ⟨"token-1", by decide⟩
  trace := ⟨⟨"correlation-1", by decide⟩, none⟩
  idempotencyKey := none

def samplePrincipal : RuntimePrincipal := .core .run ⟨"run-1", by decide⟩

theorem unexpiring : (∀ expiry ∈ (none : Option DateTime), sampleTime < expiry) ∧ "1" ≠ "" ∧
    "audit-1" ≠ "" := by
  exact ⟨nofun, by decide, by decide⟩

/-- A decision that grants what the request asks for, under constraints of its own. -/
def allowingUnder (request : AccessRequest) (constraints : List (String × JsonValue)) :
    PolicyDecision where
  effect := .allow
  grant := some {
    principal := request.principal
    action := request.action
    resource := request.resource
    sourceScope := request.context.scope
    effectiveScope := request.scope
    constraints
    issuedAt := sampleTime
    expiresAt := none
    policyVersion := "1"
    auditCorrelation := "audit-1"
    valid := ⟨nofun, by decide, by decide⟩ }
  reasonCode := none
  valid := ⟨by simp, by simp⟩

/-- A decision that grants exactly what the request asks for. -/
def allowing (request : AccessRequest) : PolicyDecision := allowingUnder request request.constraints

end CongeriesCore.SampleParameters
