import CongeriesCore.JoinedText
import CongeriesCore.PluginVersion
import CongeriesCore.RegexMatching

/-! # The grammar of versions

What `SemVer.parse` reads. Its pattern takes every decimal digit of Unicode where the grammar of
SemVer 2.0.0 has those of ASCII only, and `int` refuses a number of too many digits. -/

namespace CongeriesCore

open Regex UnicodeDigits

/-! ## The pattern -/

/-- `0|[1-9]\d*`. -/
def numberPattern : Pattern :=
  .alt (.char '0')
    (.seq (.chars fun char => '1' ≤ char && char ≤ '9') (.star (.chars isDecimal)))

/-- `[A-Za-z-]`. -/
def isNameChar (char : Char) : Bool := char.isAlpha || char == '-'

/-- `[0-9A-Za-z-]*[A-Za-z-][0-9A-Za-z-]*`. -/
def namePattern : Pattern :=
  .seq (.star (.chars isWordChar)) (.seq (.chars isNameChar) (.star (.chars isWordChar)))

/-- Items with dots between them. -/
def dotted (item : Pattern) : Pattern := .seq item (.star (.seq (.char '.') item))

/-- `_SEMVER_PATTERN`; its anchors add nothing to a match of the whole text. -/
def semverPattern : Pattern :=
  .seq (.group 1 numberPattern) (.seq (.char '.') (.seq (.group 2 numberPattern) (.seq (.char '.')
    (.seq (.group 3 numberPattern)
      (.seq (.optional (.seq (.char '-') (.group 4 (dotted (.alt numberPattern namePattern)))))
        (.optional (.seq (.char '+') (.group 5 (dotted (.plus (.chars isWordChar)))))))))))

/-- `sys.int_info.default_max_str_digits`. -/
def maxStrDigits : ℕ := 4300

/-- `int(digits)`. -/
def readInt (digits : List Char) : Except Raised ℕ :=
  if digits.length ≤ maxStrDigits then .ok (number digits)
  else .error (.value "Exceeds the limit (4300 digits) for integer string conversion")

namespace SemVer

/-- The constructor call, with identifiers of the alphabet of the pattern. -/
def make (major minor patch : ℕ) (prerelease build : List String) : Except Raised SemVer :=
  if valid : ∀ identifier ∈ prerelease ++ build, isVersionIdentifier identifier = true then
    .ok ⟨major, minor, patch, prerelease, build, valid⟩
  else .error (.value "semantic version identifiers must be non-empty")

/-- `tuple(group.split(".")) if group else ()`. -/
def identifiersOf : Option (List Char) → List String
  | none | some [] => []
  | some group => (group.splitOn '.').map String.ofList

def parse (value : String) : Except Raised SemVer :=
  match fullmatch semverPattern value.toList with
  | none => .error (.value "version must be canonical SemVer 2.0")
  | some groups => do
    let major ← readInt ((groups 1).getD [])
    let minor ← readInt ((groups 2).getD [])
    let patch ← readInt ((groups 3).getD [])
    make major minor patch (identifiersOf (groups 4)) (identifiersOf (groups 5))

end SemVer

/-! ## The texts of versions -/

/-- The parts of the text of a version. -/
structure VersionText where
  major : List Char
  minor : List Char
  patch : List Char
  prerelease : List (List Char)
  build : List (List Char)

/-- A sign and the names after it, unless there are none. -/
def signed (sign : Char) (names : List (List Char)) : List Char :=
  if names.isEmpty then [] else sign :: ['.'].intercalate names

namespace VersionText

def spell (text : VersionText) : List Char :=
  text.major ++ '.' :: (text.minor ++ '.' :: (text.patch ++ (signed '-' text.prerelease ++
    signed '+' text.build)))

/-- A pre-release identifier of SemVer 2.0.0: a number has no leading zero. -/
def IsPrereleaseIdentifier (name : List Char) : Prop :=
  name ≠ [] ∧ (∀ char ∈ name, isWordChar char = true) ∧
    ((∀ char ∈ name, char.isDigit = true) → IsNumeral name)

def IsBuildIdentifier (name : List Char) : Prop :=
  name ≠ [] ∧ ∀ char ∈ name, isWordChar char = true

/-- The grammar of SemVer 2.0.0. -/
structure Canonical (text : VersionText) : Prop where
  major : IsNumeral text.major
  minor : IsNumeral text.minor
  patch : IsNumeral text.patch
  prerelease : ∀ name ∈ text.prerelease, IsPrereleaseIdentifier name
  build : ∀ name ∈ text.build, IsBuildIdentifier name

/-- What `numberPattern` matches. -/
def IsNumber (digits : List Char) : Prop :=
  digits = ['0'] ∨ ∃ first rest, digits = first :: rest ∧ ('1' ≤ first && first ≤ '9') = true ∧
    ∀ char ∈ rest, isDecimal char = true

/-- What a pre-release identifier of the pattern matches. -/
def IsName (name : List Char) : Prop :=
  IsNumber name ∨ (∀ char ∈ name, isWordChar char = true) ∧ ∃ char ∈ name, isNameChar char = true

/-- The grammar of the pattern. -/
structure Legal (text : VersionText) : Prop where
  major : IsNumber text.major
  minor : IsNumber text.minor
  patch : IsNumber text.patch
  prerelease : ∀ name ∈ text.prerelease, IsName name
  build : ∀ name ∈ text.build, IsBuildIdentifier name

/-- The groups of a match: a group that took part in none has nothing. -/
def recorded (index : ℕ) (names : List (List Char)) (groups : Groups) : Groups :=
  if names.isEmpty then groups
  else Function.update groups index (some (['.'].intercalate names))

def groups (text : VersionText) : Groups :=
  recorded 5 text.build (recorded 4 text.prerelease
    (Function.update (Function.update (Function.update (fun _ => none) 1 (some text.major)) 2
      (some text.minor)) 3 (some text.patch)))

/-! ### What the pattern matches -/

theorem reads_number : Reads numberPattern IsNumber := by
  apply ((reads_char '0').alt ((reads_chars _).seq (reads_star_chars isDecimal))).weaken
  intro text
  constructor
  · rintro (zero | ⟨_, rest, rfl, ⟨first, range, rfl⟩, each⟩)
    · exact .inl zero
    · exact .inr ⟨first, rest, rfl, range, each⟩
  · rintro (zero | ⟨first, rest, rfl, range, each⟩)
    · exact .inl zero
    · exact .inr ⟨[first], rest, rfl, ⟨first, range, rfl⟩, each⟩

theorem reads_name : Reads (.alt numberPattern namePattern) IsName := by
  have words := reads_star_chars isWordChar
  apply (reads_number.alt (words.seq ((reads_chars isNameChar).seq words))).weaken
  intro text
  constructor
  · rintro (number | ⟨before, _, rfl, each, _, after, rfl, ⟨char, named, rfl⟩, others⟩)
    · exact .inl number
    · refine .inr ⟨fun other member => ?_, char, by simp, named⟩
      simp only [List.mem_append, List.mem_singleton] at member
      rcases member with earlier | rfl | later
      · exact each other earlier
      · simp only [isNameChar, Bool.or_eq_true] at named
        simp only [isWordChar, Char.isAlphanum, Bool.or_eq_true]
        rcases named with letter | dash
        · exact .inl (.inl letter)
        · exact .inr dash
      · exact others other later
  · rintro (number | ⟨each, char, member, named⟩)
    · exact .inl number
    · obtain ⟨before, after, rfl⟩ := List.append_of_mem member
      exact .inr ⟨before, char :: after, rfl, fun other inside => each other (by simp [inside]),
        [char], after, rfl, ⟨char, named, rfl⟩, fun other inside => each other (by simp [inside])⟩

theorem reads_build : Reads (.plus (.chars isWordChar)) IsBuildIdentifier := by
  apply ((reads_chars isWordChar).seq (reads_star_chars isWordChar)).weaken
  intro text
  constructor
  · rintro ⟨_, rest, rfl, ⟨first, holds, rfl⟩, each⟩
    refine ⟨by simp, fun char member => ?_⟩
    rcases List.mem_cons.mp member with rfl | later
    · exact holds
    · exact each char later
  · rintro ⟨some_, each⟩
    cases text with
    | nil => exact absurd rfl some_
    | cons first rest =>
      exact ⟨[first], rest, rfl, ⟨first, each first (.head _), rfl⟩,
        fun char member => each char (.tail _ member)⟩

/-- An optional sign with names after it. -/
theorem matches_signed {item : Pattern} {language : List Char → Prop} (reads : Reads item language)
    {sign : Char} {index : ℕ} {text : List Char} {before after : Groups} :
    Matches (.optional (.seq (.char sign) (.group index (dotted item)))) text before after ↔
      ∃ names, (∀ name ∈ names, language name) ∧ text = signed sign names ∧
        after = recorded index names before := by
  have items := reads.separated '.'
  rw [matches_optional, matches_seq]
  constructor
  · rintro (⟨_, _, _, rfl, first, second⟩ | ⟨rfl, rfl⟩)
    · obtain ⟨rfl, rfl⟩ := matches_char.mp first
      obtain ⟨_, inner, rfl⟩ := matches_group.mp second
      obtain ⟨⟨names, some_, rfl, each⟩, rfl⟩ := (items _ _ _).mp inner
      have nonempty : names.isEmpty = false := by simpa using some_
      exact ⟨names, each, by simp [signed, nonempty], by simp [recorded, nonempty]⟩
    · exact ⟨[], by simp, rfl, rfl⟩
  · rintro ⟨names, each, rfl, rfl⟩
    cases names with
    | nil => exact .inr ⟨rfl, rfl⟩
    | cons name names =>
      have inner := (items _ before before).mpr ⟨⟨name :: names, by simp, rfl, each⟩, rfl⟩
      exact .inl ⟨[sign], _, before, rfl, matches_char.mpr ⟨rfl, rfl⟩,
        matches_group.mpr ⟨before, inner, rfl⟩⟩

theorem signed_matches {item : Pattern} {language : List Char → Prop} (reads : Reads item language)
    (sign : Char) (index : ℕ) {names : List (List Char)} (each : ∀ name ∈ names, language name)
    (before : Groups) : Matches (.optional (.seq (.char sign) (.group index (dotted item))))
      (signed sign names) before (recorded index names before) :=
  (matches_signed reads).mpr ⟨names, each, rfl, rfl⟩

theorem matches_semver {text : List Char} {after : Groups} :
    Matches semverPattern text (fun _ => none) after ↔
      ∃ parts : VersionText, parts.Legal ∧ text = parts.spell ∧ after = parts.groups := by
  constructor
  · intro matched
    obtain ⟨_, _, _, rfl, one, matched⟩ := matches_seq.mp matched
    obtain ⟨_, _, _, rfl, dot, matched⟩ := matches_seq.mp matched
    obtain ⟨_, _, _, rfl, two, matched⟩ := matches_seq.mp matched
    obtain ⟨_, _, _, rfl, dot', matched⟩ := matches_seq.mp matched
    obtain ⟨_, _, _, rfl, three, matched⟩ := matches_seq.mp matched
    obtain ⟨_, _, _, rfl, four, five⟩ := matches_seq.mp matched
    obtain ⟨_, inner, rfl⟩ := matches_group.mp one
    obtain ⟨major, rfl⟩ := (reads_number _ _ _).mp inner
    obtain ⟨rfl, rfl⟩ := matches_char.mp dot
    obtain ⟨_, inner, rfl⟩ := matches_group.mp two
    obtain ⟨minor, rfl⟩ := (reads_number _ _ _).mp inner
    obtain ⟨rfl, rfl⟩ := matches_char.mp dot'
    obtain ⟨_, inner, rfl⟩ := matches_group.mp three
    obtain ⟨patch, rfl⟩ := (reads_number _ _ _).mp inner
    obtain ⟨prerelease, names, rfl, rfl⟩ := (matches_signed reads_name).mp four
    obtain ⟨build, names', rfl, rfl⟩ := (matches_signed reads_build).mp five
    exact ⟨⟨_, _, _, prerelease, build⟩, ⟨major, minor, patch, names, names'⟩, rfl, rfl⟩
  · rintro ⟨parts, legal, rfl, rfl⟩
    have number : ∀ {digits : List Char} (index : ℕ) (before : Groups), IsNumber digits →
        Matches (.group index numberPattern) digits before
          (Function.update before index (some digits)) := fun index before legal =>
      matches_group.mpr ⟨before, (reads_number _ _ _).mpr ⟨legal, rfl⟩, rfl⟩
    have dot : ∀ before : Groups, Matches (.char '.') ['.'] before before := fun _ =>
      matches_char.mpr ⟨rfl, rfl⟩
    exact .seq (number 1 _ legal.major) (.seq (dot _) (.seq (number 2 _ legal.minor) (.seq (dot _)
      (.seq (number 3 _ legal.patch) (.seq (signed_matches reads_name '-' 4 legal.prerelease _)
        (signed_matches reads_build '+' 5 legal.build _))))))

/-! ### A text is of one version -/

theorem isDecimal_of_mem_number {digits : List Char} (number : IsNumber digits) {char : Char}
    (member : char ∈ digits) : isDecimal char = true := by
  rcases number with rfl | ⟨first, rest, rfl, range, each⟩
  · rw [List.mem_singleton.mp member]
    decide
  · rcases List.mem_cons.mp member with rfl | later
    · apply isDecimal_of_isDigit
      simp only [Bool.and_eq_true, decide_eq_true_eq, Char.le_def, UInt32.le_iff_toNat_le] at range
      simp only [Char.isDigit, Bool.and_eq_true, decide_eq_true_eq, ge_iff_le,
        UInt32.le_iff_toNat_le]
      exact ⟨Nat.le_trans (by decide) range.1, range.2⟩
    · exact each char later

theorem not_mem_of_isName {name : List Char} (isName : IsName name) {char : Char}
    (decimal : isDecimal char = false) (word : isWordChar char = false) : char ∉ name := by
  intro member
  rcases isName with number | ⟨each, -⟩
  · rw [isDecimal_of_mem_number number member] at decimal
    cases decimal
  · rw [each char member] at word
    cases word

theorem signed_head {sign : Char} {names : List (List Char)} {char : Char}
    (first : char ∈ (signed sign names).head?) : char = sign := by
  unfold signed at first
  split at first
  · cases first
  · exact (Option.some.inj first).symm

theorem signed_inj {sign : Char} {names names' : List (List Char)}
    (plain : ∀ name ∈ names, '.' ∉ name) (plain' : ∀ name ∈ names', '.' ∉ name)
    (same : signed sign names = signed sign names') : names = names' := by
  cases names with
  | nil =>
    cases names' with
    | nil => rfl
    | cons name' names' => cases same
  | cons name names =>
    cases names' with
    | nil => cases same
    | cons name' names' =>
      have joined := (List.cons.inj same).2
      exact JoinedText.intercalate_inj (by simp) (by simp) plain plain' joined

/-- What follows the core of a version starts with a sign. -/
theorem suffix_head {prerelease build : List (List Char)} {char : Char}
    (first : char ∈ (signed '-' prerelease ++ signed '+' build).head?) : char = '-' ∨ char = '+' := by
  cases prerelease with
  | nil => exact .inr (signed_head first)
  | cons name names => exact .inl (Option.some.inj first).symm

theorem suffix_inj {prerelease prerelease' build build' : List (List Char)}
    (names : ∀ name ∈ prerelease, IsName name) (names' : ∀ name ∈ prerelease', IsName name)
    (builds : ∀ name ∈ build, IsBuildIdentifier name)
    (builds' : ∀ name ∈ build', IsBuildIdentifier name)
    (same : signed '-' prerelease ++ signed '+' build =
      signed '-' prerelease' ++ signed '+' build') : prerelease = prerelease' ∧ build = build' := by
  have plain : ∀ {listed : List (List Char)}, (∀ name ∈ listed, IsName name) → ∀ name ∈ listed,
      '.' ∉ name := fun all name member => not_mem_of_isName (all name member) (by decide) (by decide)
  have built : ∀ {listed : List (List Char)}, (∀ name ∈ listed, IsBuildIdentifier name) →
      ∀ name ∈ listed, '.' ∉ name := by
    intro listed all name member dot
    have word := (all name member).2 '.' dot
    cases word
  have inside : ∀ {listed : List (List Char)}, (∀ name ∈ listed, IsName name) →
      ∀ char ∈ signed '-' listed, (char != '+') = true := by
    intro listed all char member
    rw [bne_iff_ne]
    rintro rfl
    unfold signed at member
    split at member
    · cases member
    · rcases List.mem_cons.mp member with sign | later
      · cases sign
      · rcases JoinedText.mem_intercalate later with dot | ⟨name, listed, found⟩
        · cases dot
        · exact not_mem_of_isName (all name listed) (by decide) (by decide) found
  have stop : ∀ listed : List (List Char), ∀ char ∈ (signed '+' listed).head?,
      (char != '+') = false := by
    intro listed char first
    rw [signed_head first]
    rfl
  obtain ⟨one, two⟩ := JoinedText.cut_inj (inside names) (inside names') (stop build) (stop build') same
  exact ⟨signed_inj (plain names) (plain names') one, signed_inj (built builds) (built builds') two⟩

theorem spell_injective {one two : VersionText} (legal : one.Legal) (legal' : two.Legal)
    (same : one.spell = two.spell) : one = two := by
  have dotStops : ∀ rest : List Char, ∀ char ∈ ('.' :: rest).head?, isDecimal char = false := by
    intro rest char first
    rw [← Option.some.inj first]
    decide
  have signStops : ∀ prerelease build : List (List Char),
      ∀ char ∈ (signed '-' prerelease ++ signed '+' build).head?, isDecimal char = false := by
    intro prerelease build char first
    rcases suffix_head first with rfl | rfl
    · decide
    · decide
  have digits : ∀ {number : List Char}, IsNumber number → ∀ char ∈ number, isDecimal char = true :=
    fun legal char member => isDecimal_of_mem_number legal member
  obtain ⟨major, same⟩ := JoinedText.cut_inj (digits legal.major) (digits legal'.major)
    (dotStops _) (dotStops _) same
  obtain ⟨minor, same⟩ := JoinedText.cut_inj (digits legal.minor) (digits legal'.minor)
    (dotStops _) (dotStops _) (List.cons.inj same).2
  obtain ⟨patch, same⟩ := JoinedText.cut_inj (digits legal.patch) (digits legal'.patch)
    (signStops _ _) (signStops _ _) (List.cons.inj same).2
  obtain ⟨prerelease, build⟩ :=
    suffix_inj legal.prerelease legal'.prerelease legal.build legal'.build same
  obtain ⟨_, _, _, _, _⟩ := one
  obtain ⟨_, _, _, _, _⟩ := two
  simp_all

/-! ### The version of a text -/

/-- The values of the parts. -/
structure Denotes (text : VersionText) (version : SemVer) : Prop where
  major : version.major = number text.major
  minor : version.minor = number text.minor
  patch : version.patch = number text.patch
  prerelease : version.prerelease = text.prerelease.map String.ofList
  build : version.build = text.build.map String.ofList

/-- `int` reads the numbers of the core. -/
def Short (text : VersionText) : Prop :=
  text.major.length ≤ maxStrDigits ∧ text.minor.length ≤ maxStrDigits ∧
    text.patch.length ≤ maxStrDigits

theorem Denotes.unique {text : VersionText} {version version' : SemVer}
    (denotes : text.Denotes version) (denotes' : text.Denotes version') : version = version' := by
  obtain ⟨_, _, _, _, _, _⟩ := version
  obtain ⟨_, _, _, _, _, _⟩ := version'
  obtain ⟨rfl, rfl, rfl, rfl, rfl⟩ := denotes
  obtain ⟨rfl, rfl, rfl, rfl, rfl⟩ := denotes'
  rfl

theorem groups_core (text : VersionText) : text.groups 1 = some text.major ∧
    text.groups 2 = some text.minor ∧ text.groups 3 = some text.patch := by
  unfold groups recorded
  split
  · split
    · exact ⟨rfl, rfl, rfl⟩
    · exact ⟨rfl, rfl, rfl⟩
  · split
    · exact ⟨rfl, rfl, rfl⟩
    · exact ⟨rfl, rfl, rfl⟩

theorem identifiersOf_names {names : List (List Char)} (some_ : names ≠ [])
    (plain : ∀ name ∈ names, name ≠ [] ∧ '.' ∉ name) :
    SemVer.identifiersOf (some (['.'].intercalate names)) = names.map String.ofList := by
  have split := List.splitOn_intercalate '.' (fun name member => (plain name member).2) some_
  unfold SemVer.identifiersOf
  split
  · rename_i impossible
    cases impossible
  · rename_i empty
    rw [Option.some.inj empty] at split
    rw [← split] at plain
    exact absurd rfl (plain [] (by simp)).1
  · rename_i group found
    rw [← Option.some.inj found, split]

theorem IsName.ne_nil {name : List Char} (isName : IsName name) : name ≠ [] := by
  rcases isName with (rfl | ⟨first, rest, rfl, -⟩) | ⟨-, char, member, -⟩
  · simp
  · simp
  · exact List.ne_nil_of_mem member

theorem groups_prerelease {text : VersionText} (legal : text.Legal) :
    SemVer.identifiersOf (text.groups 4) = text.prerelease.map String.ofList := by
  have group : text.groups 4 = if text.prerelease.isEmpty then none
      else some (['.'].intercalate text.prerelease) := by
    unfold groups recorded
    split
    · split <;> rfl
    · split <;> rfl
  rw [group]
  split
  · rename_i none
    rw [List.isEmpty_iff.mp none]
    rfl
  · rename_i some_
    exact identifiersOf_names (by simpa using some_) fun name member =>
      ⟨(legal.prerelease name member).ne_nil,
        not_mem_of_isName (legal.prerelease name member) (by decide) (by decide)⟩

theorem groups_build {text : VersionText} (legal : text.Legal) :
    SemVer.identifiersOf (text.groups 5) = text.build.map String.ofList := by
  have group : text.groups 5 = if text.build.isEmpty then none
      else some (['.'].intercalate text.build) := by
    unfold groups recorded
    split
    · split <;> rfl
    · split <;> rfl
  rw [group]
  split
  · rename_i none
    rw [List.isEmpty_iff.mp none]
    rfl
  · rename_i some_
    refine identifiersOf_names (by simpa using some_) fun name member => ?_
    obtain ⟨nonempty, words⟩ := legal.build name member
    refine ⟨nonempty, fun dot => ?_⟩
    have word := words '.' dot
    cases word

/-- The identifiers of a legal text are of the alphabet of the pattern. -/
theorem identifiers_legal {text : VersionText} (legal : text.Legal) :
    ∀ identifier ∈ text.prerelease.map String.ofList ++ text.build.map String.ofList,
      isVersionIdentifier identifier = true := by
  have identifier : ∀ name : List Char, name ≠ [] →
      (∀ char ∈ name, (isWordChar char || isDecimal char) = true) →
      isVersionIdentifier (String.ofList name) = true := by
    intro name nonempty each
    have some_ : String.ofList name ≠ "" := by
      intro empty
      exact nonempty (by simpa using congrArg String.toList empty)
    simpa [isVersionIdentifier, some_] using each
  intro name member
  rcases List.mem_append.mp member with early | late
  · obtain ⟨name, listed, rfl⟩ := List.mem_map.mp early
    have isName := legal.prerelease name listed
    refine identifier name isName.ne_nil fun char inside => ?_
    rw [Bool.or_eq_true]
    rcases isName with number | ⟨words, -⟩
    · exact .inr (isDecimal_of_mem_number number inside)
    · exact .inl (words char inside)
  · obtain ⟨name, listed, rfl⟩ := List.mem_map.mp late
    obtain ⟨nonempty, words⟩ := legal.build name listed
    exact identifier name nonempty fun char inside => by rw [words char inside, Bool.true_or]

theorem readInt_ok {digits : List Char} {value : ℕ} (read : readInt digits = .ok value) :
    digits.length ≤ maxStrDigits ∧ value = number digits := by
  unfold readInt at read
  split at read
  · rename_i short
    exact ⟨short, (Except.ok.inj read).symm⟩
  · cases read

theorem readInt_short {digits : List Char} (short : digits.length ≤ maxStrDigits) :
    readInt digits = .ok (number digits) := if_pos short

/-- What `parse` makes of a text that its pattern matches. -/
theorem parse_legal {value : String} {text : VersionText} (legal : text.Legal)
    (spells : value.toList = text.spell) (version : SemVer) :
    SemVer.parse value = .ok version ↔ text.Short ∧ text.Denotes version := by
  obtain ⟨found, matched⟩ := fullmatch_of_matches (matches_semver.mpr ⟨text, legal, spells, rfl⟩)
  obtain ⟨text', legal', spells', rfl⟩ := matches_semver.mp (fullmatch_matches matched)
  obtain rfl := spell_injective legal legal' (spells.symm.trans spells')
  obtain ⟨major, minor, patch⟩ := text.groups_core
  simp only [SemVer.parse, matched, major, minor, patch, groups_prerelease legal,
    groups_build legal, Option.getD_some]
  constructor
  · intro parsed
    obtain ⟨_, one, parsed⟩ := bind_ok parsed
    obtain ⟨_, two, parsed⟩ := bind_ok parsed
    obtain ⟨_, three, parsed⟩ := bind_ok parsed
    obtain ⟨short, rfl⟩ := readInt_ok one
    obtain ⟨short', rfl⟩ := readInt_ok two
    obtain ⟨short'', rfl⟩ := readInt_ok three
    unfold SemVer.make at parsed
    split at parsed
    · cases parsed
      exact ⟨⟨short, short', short''⟩, rfl, rfl, rfl, rfl, rfl⟩
    · cases parsed
  · rintro ⟨⟨short, short', short''⟩, denotes⟩
    rw [readInt_short short, readInt_short short', readInt_short short'']
    change SemVer.make _ _ _ _ _ = _
    rw [SemVer.make, dif_pos (identifiers_legal legal)]
    exact congrArg Except.ok (Denotes.unique ⟨rfl, rfl, rfl, rfl, rfl⟩ denotes)

/-- `parse` reads the texts that its pattern matches and whose numbers `int` reads. -/
theorem parse_ok_iff {value : String} {version : SemVer} : SemVer.parse value = .ok version ↔
    ∃ text : VersionText, text.Legal ∧ value.toList = text.spell ∧ text.Short ∧
      text.Denotes version := by
  constructor
  · intro parsed
    have given := parsed
    unfold SemVer.parse at given
    split at given
    · cases given
    · rename_i groups found
      obtain ⟨text, legal, spells, -⟩ := matches_semver.mp (fullmatch_matches found)
      exact ⟨text, legal, spells, (parse_legal legal spells version).mp parsed⟩
  · rintro ⟨text, legal, spells, denoted⟩
    exact (parse_legal legal spells version).mpr denoted

end VersionText

end CongeriesCore
