import CongeriesCore.RuntimeIds

/-! # Scope references

A scope is a key with the chain of its ancestors' keys, nearest first. -/

namespace CongeriesCore

/-- `^[a-z][a-z0-9_.-]{0,62}$`. -/
def isName (value : String) : Bool :=
  match value.toList with
  | [] => false
  | first :: rest =>
    first.isLower && rest.length ≤ 62 &&
      rest.all fun c => c.isLower || c.isDigit || c == '_' || c == '.' || c == '-'

structure ScopeKey where
  namespace_ : String
  kind : String
  id : String
  deriving DecidableEq, Repr

/-- The checks of `ScopeRef.__post_init__` on one scope, its depth apart. -/
def ScopeKey.check (key : ScopeKey) : Except Raised Unit := do
  requireValue (isName key.namespace_) "scope namespace is invalid"
  requireValue (isName key.kind) "scope kind is invalid"
  requireValue (isTrimmed key.id) "scope id must be non-empty and trimmed"
  requireValue (key.id.length ≤ 255) "scope id must not exceed 255 characters"

structure ScopeRef where
  key : ScopeKey
  ancestors : List ScopeKey
  checked : ∀ scope ∈ key :: ancestors, scope.check = .ok ()
  shallow : ancestors.length + 1 ≤ 64
  deriving DecidableEq, Repr

namespace ScopeRef

def depth (scope : ScopeRef) : ℕ := scope.ancestors.length + 1

def chain (scope : ScopeRef) : List ScopeKey := scope.key :: scope.ancestors

def isEqualOrDescendantOf (scope other : ScopeRef) : Bool :=
  scope.chain.contains other.key

def requireNarrowerThan (scope other : ScopeRef) : Except Raised Unit :=
  if scope.isEqualOrDescendantOf other then .ok ()
  else .error (coreError .denied "scope_broadening_denied"
    "child calls may not broaden their effective scope")

def keyToData (key : ScopeKey) (parent : JsonValue) : JsonValue :=
  .obj [("namespace", .str key.namespace_), ("kind", .str key.kind), ("id", .str key.id),
    ("parent", parent)]

def chainToData : List ScopeKey → JsonValue
  | [] => .null
  | key :: ancestors => keyToData key (chainToData ancestors)

def toData (scope : ScopeRef) : JsonValue := chainToData scope.chain

theorem requireNarrowerThan_eq_ok {scope other : ScopeRef} :
    scope.requireNarrowerThan other = .ok () ↔ scope.isEqualOrDescendantOf other = true := by
  unfold requireNarrowerThan
  split
  · rename_i narrower
    simp [narrower]
  · rename_i broader
    simp [broader]

theorem isEqualOrDescendantOf_of_key {scope other : ScopeRef} (same : scope.key = other.key) :
    scope.isEqualOrDescendantOf other = true := by
  simp [isEqualOrDescendantOf, chain, same]

theorem requireNarrowerThan_self (scope : ScopeRef) : scope.requireNarrowerThan scope = .ok () :=
  requireNarrowerThan_eq_ok.mpr (isEqualOrDescendantOf_of_key rfl)

end ScopeRef

end CongeriesCore
