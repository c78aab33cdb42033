import CongeriesCore.RuntimeErrors
import CongeriesCore.UnicodeDigits
import Mathlib.Data.Prod.Lex
import Mathlib.Data.String.Basic

/-! # Semantic versions

Versions with the precedence of their pre-releases, and the ranges a dependency may ask for. -/

namespace CongeriesCore

open UnicodeDigits

/-- The characters of the class `[0-9A-Za-z-]`. -/
def isWordChar (char : Char) : Bool := char.isAlphanum || char == '-'

/-- An identifier of the alphabet that `_SEMVER_PATTERN` reads. -/
def isVersionIdentifier (identifier : String) : Bool :=
  identifier != "" && identifier.toList.all fun char => isWordChar char || isDecimal char

structure SemVer where
  major : ℕ
  minor : ℕ
  patch : ℕ
  prerelease : List String
  build : List String
  identifiers : ∀ identifier ∈ prerelease ++ build, isVersionIdentifier identifier = true
  deriving DecidableEq, Repr

namespace SemVer

/-- A release without build metadata. -/
def release (major minor patch : ℕ) : SemVer := ⟨major, minor, patch, [], [], by simp⟩

/-- `__str__`. -/
def text (version : SemVer) : String :=
  let core := toString version.major ++ "." ++ toString version.minor ++ "." ++
    toString version.patch
  let value := if version.prerelease.isEmpty then core
    else core ++ "-" ++ String.intercalate "." version.prerelease
  if version.build.isEmpty then value else value ++ "+" ++ String.intercalate "." version.build

/-- `identifier.isdigit()`. -/
def isNumeric (identifier : String) : Bool := identifier.toList.all isDecimal

/-- `int(identifier)`. -/
def number (identifier : String) : ℕ := UnicodeDigits.number identifier.toList

/-- Two different identifiers: numbers come before names. -/
def compareIdentifier (left right : String) : Ordering :=
  if isNumeric left && isNumeric right then (if number left < number right then .lt else .gt)
  else if isNumeric left != isNumeric right then (if isNumeric left then .lt else .gt)
  else if left < right then .lt else .gt

/-- The first difference decides, and then the number of identifiers. -/
def compareIdentifiers : List String → List String → Ordering
  | [], [] => .eq
  | [], _ :: _ => .lt
  | _ :: _, [] => .gt
  | left :: lefts, right :: rights =>
    if left = right then compareIdentifiers lefts rights else compareIdentifier left right

/-- A release comes after its pre-releases. -/
def comparePrerelease (left right : List String) : Ordering :=
  if left.isEmpty && right.isEmpty then .eq
  else if left.isEmpty then .gt
  else if right.isEmpty then .lt
  else compareIdentifiers left right

/-- `__lt__`. -/
def before (left right : SemVer) : Bool :=
  if (left.major, left.minor, left.patch) ≠ (right.major, right.minor, right.patch) then
    toLex (left.major, toLex (left.minor, left.patch)) <
      toLex (right.major, toLex (right.minor, right.patch))
  else comparePrerelease left.prerelease right.prerelease == .lt

/-- `__eq__`: build metadata does not count. -/
def same (left right : SemVer) : Bool :=
  (left.major, left.minor, left.patch, left.prerelease) ==
    (right.major, right.minor, right.patch, right.prerelease)

theorem compareIdentifiers_self (identifiers : List String) :
    compareIdentifiers identifiers identifiers = .eq := by
  induction identifiers with
  | nil => rfl
  | cons identifier identifiers ih => simp [compareIdentifiers, ih]

theorem before_self (version : SemVer) : version.before version = false := by
  simp only [before, ne_eq, not_true_eq_false, if_false, comparePrerelease, compareIdentifiers_self]
  split
  · rfl
  · split <;> rfl

end SemVer

inductive VersionOperator
  | equal
  | greater
  | atLeast
  | less
  | atMost
  deriving DecidableEq, Repr

structure VersionComparator where
  operator : VersionOperator
  version : SemVer
  deriving DecidableEq, Repr

/-- `matches`; the comparisons other than `<` are those of `total_ordering`. -/
def VersionComparator.admits (comparator : VersionComparator) (version : SemVer) : Bool :=
  match comparator.operator with
  | .equal => version.same comparator.version
  | .greater => !version.before comparator.version && !version.same comparator.version
  | .atLeast => !version.before comparator.version
  | .less => version.before comparator.version
  | .atMost => version.before comparator.version || version.same comparator.version

structure VersionRange where
  comparators : List VersionComparator
  bounded : comparators ≠ []
  deriving DecidableEq, Repr

def VersionRange.admits (range : VersionRange) (version : SemVer) : Bool :=
  range.comparators.all fun comparator => comparator.admits version

/-- A pre-release of the next major version is still below it. -/
example : (VersionRange.mk [⟨.atLeast, .release 1 0 0⟩, ⟨.less, .release 2 0 0⟩] (by decide)).admits
    ⟨2, 0, 0, ["rc", "1"], [], by decide⟩ = true := by decide

end CongeriesCore
