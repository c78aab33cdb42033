import CongeriesCore.Dict
import CongeriesCore.GatewayDispatch

/-! # Constraints that a grant may carry

The names and the values that the gateways accept in the constraints of a grant, and the error by
which they refuse one. -/

namespace CongeriesCore

theorem JsonValue.equals_str_iff {value : JsonValue} {text : String} :
    value.equals (.str text) = true ↔ value = .str text := by
  cases value with
  | str given => simp [equals]
  | _ => simp [equals]

/-- Not `constraints.get(key, value) != value`, for a text. -/
def leavesText (constraints : List (String × JsonValue)) (key value : String) : Bool :=
  match Dict.lookup key constraints with
  | none => true
  | some given => given.equals (.str value)

theorem leavesText_iff {constraints : List (String × JsonValue)} {key value : String} :
    leavesText constraints key value = true ↔
      ∀ given, Dict.lookup key constraints = some given → given = .str value := by
  unfold leavesText
  cases Dict.lookup key constraints with
  | none => simp
  | some given => simp [JsonValue.equals_str_iff]

theorem unknownConstraint_iff {constraints : List (String × JsonValue)} {allowed : List String} :
    (!unknownConstraint constraints allowed) = true ↔ ∀ item ∈ constraints, item.1 ∈ allowed := by
  simp [unknownConstraint]

theorem mem_of_lookup_constraint {constraints : List (String × JsonValue)} {key : String}
    {value : JsonValue} (found : Dict.lookup key constraints = some value) :
    (key, value) ∈ constraints := by
  induction constraints with
  | nil => cases found
  | cons constraint constraints ih =>
    rw [Dict.lookup] at found
    split at found
    · rename_i same
      cases found
      subst same
      exact List.mem_cons_self ..
    · exact List.mem_cons_of_mem _ (ih found)

/-- A constraint that a grant repeats is the one of the request. -/
theorem lookup_repeated {given own : List (String × JsonValue)} {name : String}
    (repeated : ∀ item ∈ given, item ∈ own) (distinct : (own.map Prod.fst).Nodup) :
    Dict.lookup name given = none ∨ Dict.lookup name given = Dict.lookup name own := by
  cases found : Dict.lookup name given with
  | none => exact .inl rfl
  | some value =>
    have member := repeated _ (mem_of_lookup_constraint found)
    exact .inr (@Dict.get?_of_mem String JsonValue _ ⟨own, distinct⟩ name value member).symm

/-- The refusal of a grant. -/
def InvalidGrant (error : Raised) : Prop :=
  ∃ detail, error = .core detail ∧ detail.category = .denied ∧ detail.code = "invalid_grant"

theorem invalidGrant (message : String) (given : message ≠ "") :
    InvalidGrant (AuthorizedDispatcher.invalidGrant message given) :=
  ⟨_, rfl, rfl, rfl⟩

theorem within_invalid {condition : Bool} {message : String} {given : message ≠ ""} :
    Within InvalidGrant (ensure condition (AuthorizedDispatcher.invalidGrant message given)) :=
  GatewayDispatch.within_ensure (invalidGrant message given)

end CongeriesCore
