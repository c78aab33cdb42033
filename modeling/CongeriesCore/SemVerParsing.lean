import CongeriesCore.SemVerGrammar

/-! # Parsing versions

Which texts `SemVer.parse` reads and what a version is written as again. A version is read from
what it is written as. -/

namespace CongeriesCore

open UnicodeDigits

namespace VersionText

/-! ### The canonical texts -/

def IsAscii (text : List Char) : Prop := ∀ char ∈ text, char.toNat < 128

theorem ascii_of_isDigit {char : Char} (digit : char.isDigit = true) : char.toNat < 128 := by
  have range := isDigit_range digit
  omega

theorem isAlpha_iff {char : Char} : char.isAlpha = true ↔
    (65 ≤ char.toNat ∧ char.toNat ≤ 90) ∨ (97 ≤ char.toNat ∧ char.toNat ≤ 122) := by
  have read : char.isAlpha = (decide ('A'.val ≤ char.val ∧ char.val ≤ 'Z'.val) ||
      (decide ('a'.val ≤ char.val) && decide (char.val ≤ 'z'.val))) := rfl
  simp only [read, Bool.or_eq_true, Bool.and_eq_true, decide_eq_true_eq, UInt32.le_iff_toNat_le]
  exact Iff.rfl

theorem ascii_of_isWordChar {char : Char} (word : isWordChar char = true) : char.toNat < 128 := by
  simp only [isWordChar, Char.isAlphanum, isAlpha_iff, Bool.or_eq_true, beq_iff_eq] at word
  rcases word with ((⟨-, high⟩ | ⟨-, high⟩) | digit) | rfl
  · omega
  · omega
  · exact ascii_of_isDigit digit
  · decide

theorem isDigit_of_ascii {char : Char} (decimal : isDecimal char = true) (ascii : char.toNat < 128) :
    char.isDigit = true := isDigit_of_isDecimal decimal (by omega)

theorem isNumber_of_isNumeral {digits : List Char} (numeral : IsNumeral digits) :
    IsNumber digits := by
  obtain ⟨nonempty, ascii, leading⟩ := numeral
  cases digits with
  | nil => exact absurd rfl nonempty
  | cons first rest =>
    by_cases zero : first = '0'
    · exact .inl (leading (by rw [zero]; rfl))
    · refine .inr ⟨first, rest, rfl, ?_, fun char member =>
        isDecimal_of_isDigit (ascii char (.tail _ member))⟩
      have range := isDigit_range (ascii first (.head _))
      have other : first.toNat ≠ 48 := by
        intro same
        exact zero (by rw [← Char.ofNat_toNat first, same])
      have low : '1'.toNat ≤ first.toNat := by
        have one : '1'.toNat = 49 := rfl
        omega
      have high : first.toNat ≤ '9'.toNat := range.2
      simp only [Bool.and_eq_true, decide_eq_true_eq]
      exact ⟨Char.le_def.mpr (UInt32.le_iff_toNat_le.mpr low),
        Char.le_def.mpr (UInt32.le_iff_toNat_le.mpr high)⟩

theorem isNumeral_of_isNumber {digits : List Char} (number : IsNumber digits)
    (ascii : IsAscii digits) : IsNumeral digits := by
  refine ⟨?_, fun char member => isDigit_of_ascii (isDecimal_of_mem_number number member)
    (ascii char member), ?_⟩
  · rcases number with rfl | ⟨first, rest, rfl, -⟩
    · simp
    · simp
  · intro leading
    rcases number with rfl | ⟨first, rest, rfl, range, -⟩
    · rfl
    · rw [Option.some.inj leading] at range
      cases range

theorem isName_of_canonical {name : List Char} (canonical : IsPrereleaseIdentifier name) :
    IsName name := by
  obtain ⟨nonempty, words, numeral⟩ := canonical
  by_cases digits : ∀ char ∈ name, char.isDigit = true
  · exact .inl (isNumber_of_isNumeral (numeral digits))
  · push Not at digits
    obtain ⟨char, member, other⟩ := digits
    refine .inr ⟨words, char, member, ?_⟩
    have word := words char member
    simp only [isWordChar, Char.isAlphanum, Bool.or_eq_true] at word
    simp only [isNameChar, Bool.or_eq_true]
    rcases word with (letter | digit) | dash
    · exact .inl letter
    · exact absurd digit other
    · exact .inr dash

theorem not_isDigit_of_isNameChar {char : Char} (named : isNameChar char = true) :
    char.isDigit = false := by
  simp only [isNameChar, isAlpha_iff, Bool.or_eq_true, beq_iff_eq] at named
  by_contra digit
  have range := isDigit_range (by simpa using digit)
  rcases named with (⟨low, -⟩ | ⟨low, -⟩) | rfl
  · omega
  · omega
  · exact absurd range (by decide)

theorem canonical_of_isName {name : List Char} (isName : IsName name) (ascii : IsAscii name) :
    IsPrereleaseIdentifier name := by
  refine ⟨isName.ne_nil, ?_, ?_⟩
  · rcases isName with number | ⟨words, -⟩
    · intro char member
      have digit := (isNumeral_of_isNumber number ascii).2.1 char member
      simp [isWordChar, Char.isAlphanum, digit]
    · exact words
  · intro digits
    rcases isName with number | ⟨-, char, member, named⟩
    · exact isNumeral_of_isNumber number ascii
    · have other := not_isDigit_of_isNameChar named
      rw [digits char member] at other
      cases other

theorem mem_signed {sign char : Char} {names : List (List Char)} {name : List Char}
    (listed : name ∈ names) (member : char ∈ name) : char ∈ signed sign names := by
  cases names with
  | nil => cases listed
  | cons first names => exact .tail _ (JoinedText.mem_intercalate_of_mem listed member)

/-- The canonical texts are the legal ones in ASCII. -/
theorem canonical_iff {text : VersionText} :
    text.Canonical ↔ text.Legal ∧ IsAscii text.spell := by
  constructor
  · intro canonical
    refine ⟨⟨isNumber_of_isNumeral canonical.major, isNumber_of_isNumeral canonical.minor,
      isNumber_of_isNumeral canonical.patch,
      fun name member => isName_of_canonical (canonical.prerelease name member),
      canonical.build⟩, ?_⟩
    have digits : ∀ {number : List Char}, IsNumeral number → IsAscii number :=
      fun numeral char member => ascii_of_isDigit (numeral.2.1 char member)
    have names : ∀ (sign : Char) (listed : List (List Char)), sign.toNat < 128 →
        (∀ name ∈ listed, ∀ char ∈ name, isWordChar char = true) →
        IsAscii (signed sign listed) := by
      intro sign listed small words char member
      unfold signed at member
      split at member
      · cases member
      · rcases List.mem_cons.mp member with rfl | later
        · exact small
        · rcases JoinedText.mem_intercalate later with rfl | ⟨name, found, inside⟩
          · decide
          · exact ascii_of_isWordChar (words name found char inside)
    intro char member
    simp only [spell, List.mem_append, List.mem_cons] at member
    rcases member with major | rfl | minor | rfl | patch | prerelease | build
    · exact digits canonical.major char major
    · decide
    · exact digits canonical.minor char minor
    · decide
    · exact digits canonical.patch char patch
    · exact names '-' _ (by decide) (fun name listed => (canonical.prerelease name listed).2.1) char
        prerelease
    · exact names '+' _ (by decide) (fun name listed => (canonical.build name listed).2) char build
  · rintro ⟨legal, ascii⟩
    exact ⟨isNumeral_of_isNumber legal.major fun char member => ascii char (by simp [spell, member]),
      isNumeral_of_isNumber legal.minor fun char member => ascii char (by simp [spell, member]),
      isNumeral_of_isNumber legal.patch fun char member => ascii char (by simp [spell, member]),
      fun name listed => canonical_of_isName (legal.prerelease name listed) fun char member =>
        ascii char (by simp [spell, mem_signed listed member]), legal.build⟩

/-! ### What a version is written as -/

def ofVersion (version : SemVer) : VersionText :=
  ⟨Nat.toDigits 10 version.major, Nat.toDigits 10 version.minor, Nat.toDigits 10 version.patch,
    version.prerelease.map String.toList, version.build.map String.toList⟩

theorem text_spell (version : SemVer) : version.text.toList = (ofVersion version).spell := by
  have dot : ".".toList = ['.'] := rfl
  have dash : "-".toList = ['-'] := rfl
  have sign : "+".toList = ['+'] := rfl
  unfold SemVer.text ofVersion spell signed
  cases prerelease : version.prerelease with
  | nil =>
    cases build : version.build with
    | nil => simp [dot]
    | cons name names => simp [dot, sign]
  | cons name names =>
    cases build : version.build with
    | nil => simp [dot, dash]
    | cons name' names' => simp [dot, dash, sign]

theorem map_toList_ofList (names : List (List Char)) :
    (names.map String.ofList).map String.toList = names := by
  have same : String.toList ∘ String.ofList = id := by
    funext name
    exact String.toList_ofList
  rw [List.map_map, same, List.map_id]

theorem length_toDigits_number {digits : List Char} (short : digits.length ≤ maxStrDigits) :
    (Nat.toDigits 10 (number digits)).length ≤ maxStrDigits := by
  rw [Nat.length_toDigits_le_iff (by decide) (by decide)]
  exact Nat.lt_of_lt_of_le (number_lt digits) (Nat.pow_le_pow_right (by decide) short)

/-- What a version is written as is legal if the text it was read from is. -/
theorem ofVersion_legal {text : VersionText} {version : SemVer} (legal : text.Legal)
    (denotes : text.Denotes version) : (ofVersion version).Legal := by
  have numeral : ∀ value : ℕ, IsNumber (Nat.toDigits 10 value) := fun value =>
    isNumber_of_isNumeral (isNumeral_toDigits value)
  refine ⟨numeral _, numeral _, numeral _, ?_, ?_⟩
  · rw [ofVersion, denotes.prerelease, map_toList_ofList]
    exact legal.prerelease
  · rw [ofVersion, denotes.build, map_toList_ofList]
    exact legal.build

theorem ofVersion_short {text : VersionText} {version : SemVer} (short : text.Short)
    (denotes : text.Denotes version) : (ofVersion version).Short := by
  unfold Short ofVersion
  rw [denotes.major, denotes.minor, denotes.patch]
  exact ⟨length_toDigits_number short.1, length_toDigits_number short.2.1,
    length_toDigits_number short.2.2⟩

theorem ofVersion_denotes (version : SemVer) : (ofVersion version).Denotes version := by
  have names : ∀ listed : List String, (listed.map String.toList).map String.ofList = listed := by
    intro listed
    have same : String.ofList ∘ String.toList = id := by
      funext name
      exact String.ofList_toList
    rw [List.map_map, same, List.map_id]
  exact ⟨(number_toDigits _).symm, (number_toDigits _).symm, (number_toDigits _).symm,
    (names _).symm, (names _).symm⟩

/-- A text in ASCII is what its version is written as. -/
theorem ofVersion_canonical {text : VersionText} {version : SemVer} (canonical : text.Canonical)
    (denotes : text.Denotes version) : ofVersion version = text := by
  rw [ofVersion, denotes.major, denotes.minor, denotes.patch, denotes.prerelease, denotes.build,
    map_toList_ofList, map_toList_ofList, toDigits_number canonical.major,
    toDigits_number canonical.minor, toDigits_number canonical.patch]

end VersionText

open VersionText

/-- A version is read again from what it is written as. -/
theorem SemVer.parse_text {value : String} {version : SemVer}
    (parsed : SemVer.parse value = .ok version) : SemVer.parse version.text = .ok version := by
  obtain ⟨text, legal, -, short, denotes⟩ := parse_ok_iff.mp parsed
  exact parse_ok_iff.mpr ⟨ofVersion version, ofVersion_legal legal denotes, text_spell version,
    ofVersion_short short denotes, ofVersion_denotes version⟩

/-! ### What is accepted -/

/-- The text is a version of SemVer 2.0.0. -/
def IsSemVer (value : String) : Prop :=
  ∃ text : VersionText, text.Canonical ∧ value.toList = text.spell

/-- Versions, and nothing else, are read, and are written as what was read. -/
def ParsedExactly (value : String) : Prop :=
  ((∃ version, SemVer.parse value = .ok version) ↔ IsSemVer value) ∧
    ∀ version, SemVer.parse value = .ok version → version.text = value

theorem accepts_iff_short {value : String} {text : VersionText} (legal : text.Legal)
    (spells : value.toList = text.spell) :
    (∃ version, SemVer.parse value = .ok version) ↔ text.Short := by
  constructor
  · rintro ⟨version, parsed⟩
    exact ((parse_legal legal spells version).mp parsed).1
  · intro short
    exact ⟨_, (parse_legal legal spells ⟨_, _, _, _, _, identifiers_legal legal⟩).mpr
      ⟨short, rfl, rfl, rfl, rfl, rfl⟩⟩

theorem isSemVer_iff_ascii {value : String} {text : VersionText} (legal : text.Legal)
    (spells : value.toList = text.spell) : IsSemVer value ↔ IsAscii text.spell := by
  constructor
  · rintro ⟨text', canonical, spells'⟩
    rw [spells.symm.trans spells']
    exact (canonical_iff.mp canonical).2
  · intro ascii
    exact ⟨text, canonical_iff.mpr ⟨legal, ascii⟩, spells⟩

/-- The grammar is read exactly, except for the texts of the pattern that have a digit outside ASCII
and no number that is too long for `int`, or the other way round. -/
theorem semver_parsed_exactly_iff (value : String) :
    ParsedExactly value ↔ ∀ text : VersionText, text.Legal → value.toList = text.spell →
      (IsAscii text.spell ↔ text.Short) := by
  constructor
  · intro exactly text legal spells
    rw [← isSemVer_iff_ascii legal spells, ← accepts_iff_short legal spells]
    exact exactly.1.symm
  · intro condition
    refine ⟨⟨?_, ?_⟩, ?_⟩
    · rintro ⟨version, parsed⟩
      obtain ⟨text, legal, spells, short, -⟩ := parse_ok_iff.mp parsed
      exact (isSemVer_iff_ascii legal spells).mpr ((condition text legal spells).mpr short)
    · rintro ⟨text, canonical, spells⟩
      obtain ⟨legal, ascii⟩ := canonical_iff.mp canonical
      exact (accepts_iff_short legal spells).mpr ((condition text legal spells).mp ascii)
    · intro version parsed
      obtain ⟨text, legal, spells, short, denotes⟩ := parse_ok_iff.mp parsed
      have canonical := canonical_iff.mpr ⟨legal, (condition text legal spells).mpr short⟩
      rw [← String.toList_inj, text_spell, ofVersion_canonical canonical denotes, spells]

/-- A version whose major number has an Arabic-Indic digit. -/
def arabicVersion : VersionText := ⟨['1', '١'], ['0'], ['0'], [], []⟩

theorem arabicVersion_legal : arabicVersion.Legal := by
  refine ⟨.inr ⟨'1', ['١'], rfl, by decide, ?_⟩, .inl rfl, .inl rfl, nofun, nofun⟩
  intro char member
  rw [List.mem_singleton.mp member]
  decide

/-- `1١.0.0` is read as a version. -/
theorem semver_arabic_digit : ¬ ∀ value, ParsedExactly value := by
  intro exactly
  have spells : "1١.0.0".toList = arabicVersion.spell := by decide
  have accepted := (accepts_iff_short arabicVersion_legal spells).mpr
    ⟨by decide, by decide, by decide⟩
  have ascii := (isSemVer_iff_ascii arabicVersion_legal spells).mp
    ((exactly "1١.0.0").1.mp accepted)
  have high := ascii '١' (by decide)
  revert high
  decide

end CongeriesCore
