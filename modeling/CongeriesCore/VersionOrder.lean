import CongeriesCore.VersionRanges
import Mathlib.Data.List.Lex
import Mathlib.Data.Prod.Lex
import Mathlib.Data.Sum.Order
import Mathlib.Order.WithBot

/-! # The order of versions

The comparisons of versions as they run: `int` refuses a pre-release number of too many digits.
Where they do not raise they are the precedence of SemVer 2.0.0. -/

namespace CongeriesCore

open UnicodeDigits VersionText

namespace SemVer

/-! ## Comparisons -/

/-- Two different identifiers. -/
def compareRead (left right : String) : Except Raised Ordering :=
  if isNumeric left && isNumeric right then do
    let leftNumber ← readInt left.toList
    let rightNumber ← readInt right.toList
    return if leftNumber < rightNumber then .lt else .gt
  else return compareIdentifier left right

def compareReads : List String → List String → Except Raised Ordering
  | [], [] => return .eq
  | [], _ :: _ => return .lt
  | _ :: _, [] => return .gt
  | left :: lefts, right :: rights =>
    if left = right then compareReads lefts rights else compareRead left right

/-- `_compare_prerelease`. -/
def tryComparePrerelease (left right : List String) : Except Raised Ordering :=
  if left.isEmpty && right.isEmpty then return .eq
  else if left.isEmpty then return .gt
  else if right.isEmpty then return .lt
  else compareReads left right

/-- `__lt__`. -/
def lessThan (left right : SemVer) : Except Raised Bool :=
  if (left.major, left.minor, left.patch) ≠ (right.major, right.minor, right.patch) then
    return toLex (left.major, toLex (left.minor, left.patch)) <
      toLex (right.major, toLex (right.minor, right.patch))
  else return (← tryComparePrerelease left.prerelease right.prerelease) == .lt

/-- The other comparisons are those of `total_ordering`. -/
def greaterThan (left right : SemVer) : Except Raised Bool :=
  return !(← lessThan left right) && !left.same right

def atLeast (left right : SemVer) : Except Raised Bool := return !(← lessThan left right)

def atMost (left right : SemVer) : Except Raised Bool :=
  return (← lessThan left right) || left.same right

/-- What `__hash__` hashes. -/
def hashKey (version : SemVer) : ℕ × ℕ × ℕ × List String :=
  (version.major, version.minor, version.patch, version.prerelease)

end SemVer

/-- `matches`. -/
def VersionComparator.accepts (comparator : VersionComparator) (version : SemVer) :
    Except Raised Bool :=
  match comparator.operator with
  | .equal => return version.same comparator.version
  | .greater => version.greaterThan comparator.version
  | .atLeast => version.atLeast comparator.version
  | .less => version.lessThan comparator.version
  | .atMost => version.atMost comparator.version

def VersionRange.accepts (range : VersionRange) (version : SemVer) : Except Raised Bool :=
  range.comparators.allM fun comparator => comparator.accepts version

namespace SemVer

/-! ## What a comparison reads -/

/-- The identifiers at the first place where the lists differ. -/
def firstDifference : List String → List String → Option (String × String)
  | left :: lefts, right :: rights =>
    if left = right then firstDifference lefts rights else some (left, right)
  | _, _ => none

/-- `int` reads the numbers that decide. -/
def Readable (left right : SemVer) : Prop :=
  (left.major, left.minor, left.patch) = (right.major, right.minor, right.patch) →
    ∀ one two, firstDifference left.prerelease right.prerelease = some (one, two) →
      isNumeric one = true → isNumeric two = true →
      one.toList.length ≤ maxStrDigits ∧ two.toList.length ≤ maxStrDigits

theorem compareRead_ok_iff (left right : String) :
    ((∃ order, compareRead left right = .ok order) ↔ (isNumeric left = true →
      isNumeric right = true → left.toList.length ≤ maxStrDigits ∧
        right.toList.length ≤ maxStrDigits)) ∧
    ∀ order, compareRead left right = .ok order → order = compareIdentifier left right := by
  unfold compareRead compareIdentifier
  by_cases numeric : (isNumeric left && isNumeric right) = true
  · rw [if_pos numeric, if_pos numeric]
    rw [Bool.and_eq_true] at numeric
    refine ⟨⟨?_, ?_⟩, ?_⟩
    · rintro ⟨order, compared⟩ - -
      obtain ⟨_, one, compared⟩ := bind_ok compared
      obtain ⟨_, two, -⟩ := bind_ok compared
      exact ⟨(readInt_ok one).1, (readInt_ok two).1⟩
    · intro short
      obtain ⟨short, short'⟩ := short numeric.1 numeric.2
      rw [readInt_short short, readInt_short short']
      exact ⟨_, rfl⟩
    · intro order compared
      obtain ⟨_, one, compared⟩ := bind_ok compared
      obtain ⟨_, two, compared⟩ := bind_ok compared
      obtain ⟨-, rfl⟩ := readInt_ok one
      obtain ⟨-, rfl⟩ := readInt_ok two
      exact (Except.ok.inj compared).symm
  · rw [if_neg numeric]
    refine ⟨⟨?_, fun _ => ⟨_, rfl⟩⟩, fun order compared => (Except.ok.inj compared).symm⟩
    intro _ one two
    rw [one, two] at numeric
    exact absurd rfl numeric

theorem compareReads_ok_iff (lefts rights : List String) :
    ((∃ order, compareReads lefts rights = .ok order) ↔
      ∀ one two, firstDifference lefts rights = some (one, two) → isNumeric one = true →
        isNumeric two = true → one.toList.length ≤ maxStrDigits ∧ two.toList.length ≤ maxStrDigits) ∧
    ∀ order, compareReads lefts rights = .ok order → order = compareIdentifiers lefts rights := by
  induction lefts generalizing rights with
  | nil =>
    cases rights with
    | nil => exact ⟨⟨fun _ => nofun, fun _ => ⟨_, rfl⟩⟩, fun _ compared => (Except.ok.inj compared).symm⟩
    | cons right rights =>
      exact ⟨⟨fun _ => nofun, fun _ => ⟨_, rfl⟩⟩, fun _ compared => (Except.ok.inj compared).symm⟩
  | cons left lefts ih =>
    cases rights with
    | nil => exact ⟨⟨fun _ => nofun, fun _ => ⟨_, rfl⟩⟩, fun _ compared => (Except.ok.inj compared).symm⟩
    | cons right rights =>
      rw [compareReads, firstDifference, compareIdentifiers]
      split
      · exact ih rights
      · obtain ⟨reads, orders⟩ := compareRead_ok_iff left right
        refine ⟨?_, orders⟩
        rw [reads]
        constructor
        · intro short one two found
          obtain ⟨rfl, rfl⟩ := Prod.mk.inj (Option.some.inj found)
          exact short
        · intro short
          exact short left right rfl

theorem tryComparePrerelease_ok_iff (left right : List String) :
    ((∃ order, tryComparePrerelease left right = .ok order) ↔
      ∀ one two, firstDifference left right = some (one, two) → isNumeric one = true →
        isNumeric two = true → one.toList.length ≤ maxStrDigits ∧ two.toList.length ≤ maxStrDigits) ∧
    ∀ order, tryComparePrerelease left right = .ok order → order = comparePrerelease left right := by
  unfold tryComparePrerelease comparePrerelease
  cases left with
  | nil =>
    have none_ : ∀ others, firstDifference [] others = none := fun _ => rfl
    cases right with
    | nil => exact ⟨⟨fun _ => nofun, fun _ => ⟨_, rfl⟩⟩, fun _ compared => (Except.ok.inj compared).symm⟩
    | cons one others =>
      exact ⟨⟨fun _ => nofun, fun _ => ⟨_, rfl⟩⟩, fun _ compared => (Except.ok.inj compared).symm⟩
  | cons first rest =>
    cases right with
    | nil => exact ⟨⟨fun _ => nofun, fun _ => ⟨_, rfl⟩⟩, fun _ compared => (Except.ok.inj compared).symm⟩
    | cons one others => exact compareReads_ok_iff (first :: rest) (one :: others)

/-- A comparison answers if `int` reads the numbers that decide, and then as if it read all. -/
theorem lessThan_ok_iff (left right : SemVer) :
    ((∃ answer, lessThan left right = .ok answer) ↔ Readable left right) ∧
    ∀ answer, lessThan left right = .ok answer → answer = left.before right := by
  unfold lessThan before Readable
  by_cases cores : (left.major, left.minor, left.patch) = (right.major, right.minor, right.patch)
  · obtain ⟨reads, orders⟩ := tryComparePrerelease_ok_iff left.prerelease right.prerelease
    rw [if_neg (not_not.mpr cores), if_neg (not_not.mpr cores)]
    refine ⟨⟨?_, ?_⟩, ?_⟩
    · rintro ⟨answer, compared⟩ -
      obtain ⟨order, found, -⟩ := bind_ok compared
      exact reads.mp ⟨order, found⟩
    · intro readable
      obtain ⟨order, found⟩ := reads.mpr (readable cores)
      rw [found]
      exact ⟨_, rfl⟩
    · intro answer compared
      obtain ⟨order, found, compared⟩ := bind_ok compared
      rw [← orders order found]
      exact (Except.ok.inj compared).symm
  · rw [if_pos cores, if_pos cores]
    exact ⟨⟨fun _ same => absurd same cores, fun _ => ⟨_, rfl⟩⟩,
      fun answer compared => (Except.ok.inj compared).symm⟩

theorem Readable.lessThan {left right : SemVer} (readable : Readable left right) :
    left.lessThan right = .ok (left.before right) := by
  obtain ⟨answer, found⟩ := (lessThan_ok_iff left right).1.mpr readable
  rw [found, (lessThan_ok_iff left right).2 answer found]

/-! ## Precedence -/

/-- The precedence of an identifier: that of a number is its value, and it is below every name. -/
def identifierPrecedence (identifier : String) : ℕ ⊕ₗ String :=
  if identifier.toList.all Char.isDigit then toLex (.inl (Nat.ofDigitChars 10 identifier.toList 0))
  else toLex (.inr identifier)

/-- The precedence of SemVer 2.0.0: a release is above its pre-releases. -/
def precedence (version : SemVer) : ℕ ×ₗ ℕ ×ₗ ℕ ×ₗ WithTop (List (ℕ ⊕ₗ String)) :=
  toLex (version.major, toLex (version.minor, toLex (version.patch,
    if version.prerelease.isEmpty then ⊤ else ↑(version.prerelease.map identifierPrecedence))))

/-- The identifiers of a version of SemVer 2.0.0. -/
def IsIdentifier (identifier : String) : Prop := IsPrereleaseIdentifier identifier.toList

theorem isNumeric_iff {identifier : String} (canonical : IsIdentifier identifier) :
    isNumeric identifier = identifier.toList.all Char.isDigit := by
  rw [Bool.eq_iff_iff, isNumeric, List.all_eq_true, List.all_eq_true]
  constructor
  · intro numeric char member
    exact isDigit_of_ascii (numeric char member) (ascii_of_isWordChar (canonical.2.1 char member))
  · intro digits char member
    exact isDecimal_of_isDigit (digits char member)

theorem identifierPrecedence_numeric {identifier : String} (canonical : IsIdentifier identifier)
    (numeric : isNumeric identifier = true) :
    identifierPrecedence identifier = toLex (.inl (number identifier)) := by
  rw [isNumeric_iff canonical] at numeric
  rw [identifierPrecedence, if_pos numeric, number,
    number_eq_ofDigitChars (List.all_eq_true.mp numeric)]

theorem identifierPrecedence_name {identifier : String} (canonical : IsIdentifier identifier)
    (name : isNumeric identifier = false) :
    identifierPrecedence identifier = toLex (.inr identifier) := by
  rw [isNumeric_iff canonical] at name
  rw [identifierPrecedence, if_neg (by simp [name])]

theorem identifierPrecedence_injective {left right : String} (canonical : IsIdentifier left)
    (canonical' : IsIdentifier right) (same : identifierPrecedence left = identifierPrecedence right) :
    left = right := by
  cases numeric : isNumeric left with
  | true =>
    cases numeric' : isNumeric right with
    | true =>
      rw [identifierPrecedence_numeric canonical numeric,
        identifierPrecedence_numeric canonical' numeric'] at same
      have values := Sum.inl.inj (toLex.injective same)
      rw [isNumeric_iff canonical, List.all_eq_true] at numeric
      rw [isNumeric_iff canonical', List.all_eq_true] at numeric'
      exact String.toList_inj.mp (number_injective (canonical.2.2 numeric) (canonical'.2.2 numeric')
        values)
    | false =>
      rw [identifierPrecedence_numeric canonical numeric,
        identifierPrecedence_name canonical' numeric'] at same
      cases toLex.injective same
  | false =>
    cases numeric' : isNumeric right with
    | true =>
      rw [identifierPrecedence_name canonical numeric,
        identifierPrecedence_numeric canonical' numeric'] at same
      cases toLex.injective same
    | false =>
      rw [identifierPrecedence_name canonical numeric,
        identifierPrecedence_name canonical' numeric'] at same
      exact Sum.inr.inj (toLex.injective same)

theorem compareIdentifier_lt_iff {left right : String} (canonical : IsIdentifier left)
    (canonical' : IsIdentifier right) :
    compareIdentifier left right = .lt ↔ identifierPrecedence left < identifierPrecedence right := by
  unfold compareIdentifier
  cases numeric : isNumeric left with
  | true =>
    rw [identifierPrecedence_numeric canonical numeric]
    cases numeric' : isNumeric right with
    | true =>
      rw [identifierPrecedence_numeric canonical' numeric', Sum.Lex.toLex_lt_toLex,
        Sum.lex_inl_inl]
      simp
    | false =>
      rw [identifierPrecedence_name canonical' numeric']
      simp
  | false =>
    rw [identifierPrecedence_name canonical numeric]
    cases numeric' : isNumeric right with
    | true =>
      rw [identifierPrecedence_numeric canonical' numeric']
      simp
    | false =>
      rw [identifierPrecedence_name canonical' numeric', Sum.Lex.toLex_lt_toLex, Sum.lex_inr_inr]
      simp

theorem compareIdentifiers_lt_iff {lefts rights : List String}
    (canonical : ∀ left ∈ lefts, IsIdentifier left) (canonical' : ∀ right ∈ rights, IsIdentifier right) :
    compareIdentifiers lefts rights = .lt ↔
      lefts.map identifierPrecedence < rights.map identifierPrecedence := by
  induction lefts generalizing rights with
  | nil =>
    cases rights with
    | nil => simp [compareIdentifiers]
    | cons right rights => simp [compareIdentifiers]
  | cons left lefts ih =>
    cases rights with
    | nil => simp [compareIdentifiers]
    | cons right rights =>
      have heads := compareIdentifier_lt_iff (canonical left (.head _)) (canonical' right (.head _))
      have tails := ih (fun other member => canonical other (.tail _ member))
        fun other member => canonical' other (.tail _ member)
      rw [compareIdentifiers, List.map_cons, List.map_cons, List.cons_lt_cons_iff]
      split
      · rename_i same
        subst same
        simp [tails]
      · rename_i other
        have apart : identifierPrecedence left ≠ identifierPrecedence right := fun same =>
          other (identifierPrecedence_injective (canonical left (.head _)) (canonical' right (.head _))
            same)
        simp [heads, apart]

theorem comparePrerelease_lt_iff {left right : List String}
    (canonical : ∀ name ∈ left, IsIdentifier name) (canonical' : ∀ name ∈ right, IsIdentifier name) :
    comparePrerelease left right = .lt ↔
      (if left.isEmpty then ⊤ else ↑(left.map identifierPrecedence) :
        WithTop (List (ℕ ⊕ₗ String))) <
      (if right.isEmpty then ⊤ else ↑(right.map identifierPrecedence)) := by
  unfold comparePrerelease
  cases left with
  | nil =>
    cases right with
    | nil => simp
    | cons one others => simp
  | cons first rest =>
    cases right with
    | nil => simp
    | cons one others =>
      have inner := compareIdentifiers_lt_iff canonical canonical'
      simpa [WithTop.coe_lt_coe] using inner

/-- The version was read from a text in ASCII. -/
def OfAscii (version : SemVer) : Prop :=
  ∃ value : String, IsAscii value.toList ∧ SemVer.parse value = .ok version

theorem OfAscii.canonical {version : SemVer} (ofAscii : version.OfAscii) :
    ∀ name ∈ version.prerelease, IsIdentifier name := by
  obtain ⟨value, ascii, parsed⟩ := ofAscii
  obtain ⟨text, legal, spells, -, denotes⟩ := parse_ok_iff.mp parsed
  rw [spells] at ascii
  have canonical := canonical_iff.mpr ⟨legal, ascii⟩
  intro name member
  rw [denotes.prerelease] at member
  obtain ⟨chars, listed, rfl⟩ := List.mem_map.mp member
  rw [IsIdentifier, String.toList_ofList]
  exact canonical.prerelease chars listed

theorem before_iff {left right : SemVer} (ofAscii : left.OfAscii) (ofAscii' : right.OfAscii) :
    left.before right = true ↔ left.precedence < right.precedence := by
  have prereleases := comparePrerelease_lt_iff ofAscii.canonical ofAscii'.canonical
  unfold before precedence
  simp only [Prod.Lex.toLex_lt_toLex, ne_eq, Prod.mk.injEq]
  split
  · rename_i apart
    simp only [decide_eq_true_eq]
    grind
  · rename_i same
    obtain ⟨major, minor, patch⟩ := not_not.mp same
    simp [major, minor, patch, prereleases]

theorem map_identifierPrecedence_inj {left right : List String}
    (canonical : ∀ name ∈ left, IsIdentifier name) (canonical' : ∀ name ∈ right, IsIdentifier name)
    (same : left.map identifierPrecedence = right.map identifierPrecedence) : left = right := by
  induction left generalizing right with
  | nil => exact (List.map_eq_nil_iff.mp same.symm).symm
  | cons name names ih =>
    cases right with
    | nil => cases same
    | cons other others =>
      obtain ⟨heads, tails⟩ := List.cons.inj same
      rw [identifierPrecedence_injective (canonical name (.head _)) (canonical' other (.head _)) heads,
        ih (fun name member => canonical name (.tail _ member))
          (fun name member => canonical' name (.tail _ member)) tails]

theorem same_iff {left right : SemVer} (ofAscii : left.OfAscii) (ofAscii' : right.OfAscii) :
    left.same right = true ↔ left.precedence = right.precedence := by
  have prereleases : left.prerelease = right.prerelease ↔
      (if left.prerelease.isEmpty then ⊤ else ↑(left.prerelease.map identifierPrecedence) :
        WithTop (List (ℕ ⊕ₗ String))) =
      (if right.prerelease.isEmpty then ⊤ else ↑(right.prerelease.map identifierPrecedence)) := by
    constructor
    · intro same
      rw [same]
    · intro same
      cases lefts : left.prerelease with
      | nil =>
        cases rights : right.prerelease with
        | nil => rfl
        | cons name names =>
          rw [lefts, rights] at same
          cases same
      | cons name names =>
        cases rights : right.prerelease with
        | nil =>
          rw [lefts, rights] at same
          cases same
        | cons other others =>
          rw [lefts, rights] at same
          have mapped := WithTop.coe_injective same
          rw [← lefts, ← rights] at mapped ⊢
          exact map_identifierPrecedence_inj ofAscii.canonical ofAscii'.canonical mapped
  unfold SemVer.same precedence
  simp [prereleases]

end SemVer

/-! ## Ranges -/

/-- The order of versions is precedence. -/
def VersionComparator.Satisfied (comparator : VersionComparator) (version : SemVer) : Prop :=
  match comparator.operator with
  | .equal => version.precedence = comparator.version.precedence
  | .greater => comparator.version.precedence < version.precedence
  | .atLeast => comparator.version.precedence ≤ version.precedence
  | .less => version.precedence < comparator.version.precedence
  | .atMost => version.precedence ≤ comparator.version.precedence

instance (comparator : VersionComparator) (version : SemVer) :
    Decidable (comparator.Satisfied version) :=
  match comparator with
  | ⟨.equal, other⟩ => inferInstanceAs (Decidable (version.precedence = other.precedence))
  | ⟨.greater, other⟩ => inferInstanceAs (Decidable (other.precedence < version.precedence))
  | ⟨.atLeast, other⟩ => inferInstanceAs (Decidable (other.precedence ≤ version.precedence))
  | ⟨.less, other⟩ => inferInstanceAs (Decidable (version.precedence < other.precedence))
  | ⟨.atMost, other⟩ => inferInstanceAs (Decidable (version.precedence ≤ other.precedence))

open SemVer

/-- A version that was read from a text in ASCII. -/
abbrev AsciiVersion := {version : SemVer // version.OfAscii}

/-- The versions of the range are among these. -/
def VersionRange.Within (range : VersionRange) (versions : Set AsciiVersion) : Prop :=
  ∀ comparator ∈ range.comparators, ∃ version ∈ versions, version.1 = comparator.version

/-- The comparisons of some versions are a strict total order up to equality, that of SemVer 2.0.0,
and their ranges are read by it. -/
structure OrderedAsSemVer (versions : Set AsciiVersion) : Prop where
  less : ∀ left ∈ versions, ∀ right ∈ versions,
    left.1.lessThan right.1 = .ok (decide (left.1.precedence < right.1.precedence))
  greater : ∀ left ∈ versions, ∀ right ∈ versions,
    left.1.greaterThan right.1 = .ok (decide (right.1.precedence < left.1.precedence))
  atLeast : ∀ left ∈ versions, ∀ right ∈ versions,
    left.1.atLeast right.1 = .ok (decide (right.1.precedence ≤ left.1.precedence))
  atMost : ∀ left ∈ versions, ∀ right ∈ versions,
    left.1.atMost right.1 = .ok (decide (left.1.precedence ≤ right.1.precedence))
  same : ∀ left ∈ versions, ∀ right ∈ versions,
    left.1.same right.1 = true ↔ left.1.precedence = right.1.precedence
  hashed : ∀ left ∈ versions, ∀ right ∈ versions, left.1.same right.1 = true →
    left.1.hashKey = right.1.hashKey
  transitive : ∀ low ∈ versions, ∀ middle ∈ versions, ∀ high ∈ versions,
    low.1.lessThan middle.1 = .ok true → middle.1.lessThan high.1 = .ok true →
    low.1.lessThan high.1 = .ok true
  trichotomous : ∀ left ∈ versions, ∀ right ∈ versions,
    (left.1.lessThan right.1 = .ok true ∧ left.1.same right.1 = false ∧
      right.1.lessThan left.1 = .ok false) ∨
    (left.1.lessThan right.1 = .ok false ∧ left.1.same right.1 = true ∧
      right.1.lessThan left.1 = .ok false) ∨
    (left.1.lessThan right.1 = .ok false ∧ left.1.same right.1 = false ∧
      right.1.lessThan left.1 = .ok true)
  ranges : ∀ range : VersionRange, range.Within versions → ∀ version ∈ versions,
    range.accepts version.1 = .ok (decide (∀ comparator ∈ range.comparators,
      comparator.Satisfied version.1))
  convex : ∀ range : VersionRange, range.Within versions →
    (∀ comparator ∈ range.comparators, comparator.operator ≠ .equal) →
    ∀ low ∈ versions, ∀ middle ∈ versions, ∀ high ∈ versions,
      low.1.atMost middle.1 = .ok true → middle.1.atMost high.1 = .ok true →
      range.accepts low.1 = .ok true → range.accepts high.1 = .ok true →
      range.accepts middle.1 = .ok true
  rendered : ∀ (value : String) (range : VersionRange), VersionRange.parse value = .ok range →
    VersionRange.parse range.text = .ok range

section Answers

variable {left right : SemVer} (ofAscii : left.OfAscii) (ofAscii' : right.OfAscii)

include ofAscii ofAscii'

theorem before_eq : left.before right = decide (left.precedence < right.precedence) := by
  rw [Bool.eq_iff_iff, before_iff ofAscii ofAscii', decide_eq_true_eq]

theorem same_eq : left.same right = decide (left.precedence = right.precedence) := by
  rw [Bool.eq_iff_iff, same_iff ofAscii ofAscii', decide_eq_true_eq]

variable (readable : Readable left right)

include readable

theorem lessThan_eq :
    left.lessThan right = .ok (decide (left.precedence < right.precedence)) := by
  rw [readable.lessThan, before_eq ofAscii ofAscii']

theorem greaterThan_eq :
    left.greaterThan right = .ok (decide (right.precedence < left.precedence)) := by
  have answer : (!decide (left.precedence < right.precedence) &&
      !decide (left.precedence = right.precedence)) = decide (right.precedence < left.precedence) := by
    rw [Bool.eq_iff_iff]
    simp only [Bool.and_eq_true, Bool.not_eq_true', decide_eq_false_iff_not, decide_eq_true_eq, not_lt]
    constructor
    · rintro ⟨above, apart⟩
      exact lt_of_le_of_ne above (Ne.symm apart)
    · intro above
      exact ⟨above.le, above.ne'⟩
  rw [greaterThan, lessThan_eq ofAscii ofAscii' readable, same_eq ofAscii ofAscii']
  exact congrArg Except.ok answer

theorem atLeast_eq :
    left.atLeast right = .ok (decide (right.precedence ≤ left.precedence)) := by
  have answer : (!decide (left.precedence < right.precedence)) =
      decide (right.precedence ≤ left.precedence) := by
    rw [Bool.eq_iff_iff]
    simp
  rw [SemVer.atLeast, lessThan_eq ofAscii ofAscii' readable]
  exact congrArg Except.ok answer

theorem atMost_eq :
    left.atMost right = .ok (decide (left.precedence ≤ right.precedence)) := by
  have answer : (decide (left.precedence < right.precedence) ||
      decide (left.precedence = right.precedence)) = decide (left.precedence ≤ right.precedence) := by
    rw [Bool.eq_iff_iff]
    simp only [Bool.or_eq_true, decide_eq_true_eq]
    exact le_iff_lt_or_eq.symm
  rw [SemVer.atMost, lessThan_eq ofAscii ofAscii' readable, same_eq ofAscii ofAscii']
  exact congrArg Except.ok answer

end Answers

theorem accepts_eq {comparator : VersionComparator} {version : SemVer} (ofAscii : version.OfAscii)
    (ofAscii' : comparator.version.OfAscii) (readable : Readable version comparator.version) :
    comparator.accepts version = .ok (decide (comparator.Satisfied version)) := by
  obtain ⟨operator, other⟩ := comparator
  cases operator with
  | equal => exact congrArg Except.ok (same_eq ofAscii ofAscii')
  | greater => exact greaterThan_eq ofAscii ofAscii' readable
  | atLeast => exact atLeast_eq ofAscii ofAscii' readable
  | less => exact lessThan_eq ofAscii ofAscii' readable
  | atMost => exact atMost_eq ofAscii ofAscii' readable

/-- If no question raises, the answers are all heard. -/
theorem allM_ok {α : Type} {ask : α → Except Raised Bool} {answer : α → Prop} [DecidablePred answer]
    {items : List α} (each : ∀ item ∈ items, ask item = .ok (decide (answer item))) :
    items.allM ask = .ok (decide (∀ item ∈ items, answer item)) := by
  induction items with
  | nil => simp [List.allM, pure, Except.pure]
  | cons item items ih =>
    have later := ih fun other member => each other (.tail _ member)
    rw [List.allM, each item (.head _)]
    by_cases holds : answer item
    · simp [holds, later, bind, Except.bind]
    · simp [holds, bind, Except.bind, pure, Except.pure]

/-- Without exact comparators the versions between two that satisfy a comparator do. -/
theorem satisfied_between {comparator : VersionComparator} (inexact : comparator.operator ≠ .equal)
    {low middle high : SemVer} (above : low.precedence ≤ middle.precedence)
    (below : middle.precedence ≤ high.precedence) (lowest : comparator.Satisfied low)
    (highest : comparator.Satisfied high) : comparator.Satisfied middle := by
  obtain ⟨operator, other⟩ := comparator
  cases operator with
  | equal => exact absurd rfl inexact
  | greater => exact lt_of_lt_of_le lowest above
  | atLeast => exact le_trans lowest above
  | less => exact lt_of_le_of_lt below highest
  | atMost => exact le_trans below highest

/-- The order is that of SemVer 2.0.0 where no two of the versions are told apart by pre-release
numbers of which one has more than 4300 digits. -/
theorem versions_ordered_iff (versions : Set AsciiVersion) : OrderedAsSemVer versions ↔
    ∀ left ∈ versions, ∀ right ∈ versions, Readable left.1 right.1 := by
  constructor
  · intro ordered left member right member'
    exact (lessThan_ok_iff left.1 right.1).1.mp ⟨_, ordered.less left member right member'⟩
  · intro readable
    have less := fun (left : AsciiVersion) member (right : AsciiVersion) member' =>
      lessThan_eq left.2 right.2 (readable left member right member')
    have ranges : ∀ range : VersionRange, range.Within versions → ∀ version ∈ versions,
        range.accepts version.1 = .ok (decide (∀ comparator ∈ range.comparators,
          comparator.Satisfied version.1)) := by
      intro range within version member
      apply allM_ok
      intro comparator listed
      obtain ⟨other, member', is⟩ := within comparator listed
      exact accepts_eq version.2 (by rw [← is]; exact other.2)
        (by rw [← is]; exact readable version member other member')
    have atMost := fun (left : AsciiVersion) member (right : AsciiVersion) member' =>
      atMost_eq left.2 right.2 (readable left member right member')
    refine ⟨less, ?_, ?_, atMost, ?_, ?_, ?_, ?_, ranges, ?_, fun _ _ => VersionRange.parse_text⟩
    · intro left member right member'
      exact greaterThan_eq left.2 right.2 (readable left member right member')
    · intro left member right member'
      exact atLeast_eq left.2 right.2 (readable left member right member')
    · intro left _ right _
      exact same_iff left.2 right.2
    · intro left _ right _ same
      simpa [SemVer.same, SemVer.hashKey] using same
    · intro low one middle two high three below above
      rw [less low one middle two] at below
      rw [less middle two high three] at above
      rw [less low one high three]
      have first := of_decide_eq_true (Except.ok.inj below)
      have second := of_decide_eq_true (Except.ok.inj above)
      rw [decide_eq_true (lt_trans first second)]
    · intro left one right two
      rw [less left one right two, less right two left one, same_eq left.2 right.2]
      rcases lt_trichotomy left.1.precedence right.1.precedence with below | equal | above
      · exact .inl ⟨by simp [below], by simp [below.ne], by simp [below.le]⟩
      · exact .inr (.inl ⟨by simp [equal], by simp [equal], by simp [equal]⟩)
      · exact .inr (.inr ⟨by simp [above.le], by simp [above.ne'], by simp [above]⟩)
    · intro range within inexact low one middle two high three below above lowest highest
      rw [atMost low one middle two] at below
      rw [atMost middle two high three] at above
      rw [ranges range within low one] at lowest
      rw [ranges range within high three] at highest
      rw [ranges range within middle two]
      have lowest := of_decide_eq_true (Except.ok.inj lowest)
      have highest := of_decide_eq_true (Except.ok.inj highest)
      have all : ∀ comparator ∈ range.comparators, comparator.Satisfied middle.1 :=
        fun comparator listed => satisfied_between (inexact comparator listed)
          (of_decide_eq_true (Except.ok.inj below)) (of_decide_eq_true (Except.ok.inj above))
          (lowest comparator listed) (highest comparator listed)
      rw [decide_eq_true all]

/-- `1.0.0-1…1` with some ones. -/
def onesText (count : ℕ) : VersionText := ⟨['1'], ['0'], ['0'], [List.replicate (count + 1) '1'], []⟩

theorem onesText_canonical (count : ℕ) : (onesText count).Canonical := by
  have digits : ∀ char ∈ List.replicate (count + 1) '1', char = '1' :=
    fun char member => List.eq_of_mem_replicate member
  have one : IsNumeral ['1'] := ⟨by simp, List.all_eq_true.mp rfl, by decide⟩
  have zero : IsNumeral ['0'] := ⟨by simp, List.all_eq_true.mp rfl, by decide⟩
  refine ⟨one, zero, zero, ?_, nofun⟩
  intro name member
  rw [List.mem_singleton.mp member]
  refine ⟨by simp, ?_, fun _ => ⟨by simp, ?_, ?_⟩⟩
  · intro char inside
    rw [digits char inside]
    decide
  · intro char inside
    rw [digits char inside]
    decide
  · intro leading
    cases leading

def ones (count : ℕ) : AsciiVersion :=
  ⟨⟨1, 0, 0, [String.ofList (List.replicate (count + 1) '1')], [],
    identifiers_legal (canonical_iff.mp (onesText_canonical count)).1⟩, by
    obtain ⟨legal, ascii⟩ := canonical_iff.mp (onesText_canonical count)
    refine ⟨String.ofList (onesText count).spell, by rw [String.toList_ofList]; exact ascii, ?_⟩
    rw [parse_legal legal (String.toList_ofList)]
    have short : 1 ≤ maxStrDigits := by decide
    exact ⟨⟨short, short, short⟩, rfl, rfl, rfl, rfl, rfl⟩⟩

theorem isNumeric_ones (count : ℕ) :
    isNumeric (String.ofList (List.replicate (count + 1) '1')) = true := by
  rw [isNumeric, String.toList_ofList, List.all_eq_true]
  intro char member
  rw [List.eq_of_mem_replicate member]
  decide

/-- `1.0.0-1` and the version with 4301 ones cannot be compared. -/
theorem versions_long_number : ¬ OrderedAsSemVer Set.univ := by
  intro ordered
  have readable := (lessThan_ok_iff (ones 0).1 (ones maxStrDigits).1).1.mp
    ⟨_, ordered.less (ones 0) trivial (ones maxStrDigits) trivial⟩
  have apart : String.ofList (List.replicate (0 + 1) '1') ≠
      String.ofList (List.replicate (maxStrDigits + 1) '1') := by
    intro same
    have lengths := congrArg List.length (String.ofList_injective same)
    rw [List.length_replicate, List.length_replicate] at lengths
    exact absurd lengths (by decide)
  have differs : firstDifference (ones 0).1.prerelease (ones maxStrDigits).1.prerelease =
      some (_, _) := if_neg apart
  have short := (readable rfl _ _ differs (isNumeric_ones 0) (isNumeric_ones maxStrDigits)).2
  rw [String.toList_ofList, List.length_replicate] at short
  exact absurd short (Nat.not_succ_le_self maxStrDigits)

end CongeriesCore
