import CongeriesCore.DependencyBindings
import CongeriesCore.RuntimeIds
import CongeriesCore.SemVerParsing

/-! # Texts of version ranges

How a range is read and written. A range is read again from what it is written as. -/

namespace CongeriesCore

open Regex UnicodeDigits

/-! ## Comparators -/

def VersionOperator.text : VersionOperator → String
  | .equal => "="
  | .greater => ">"
  | .atLeast => ">="
  | .less => "<"
  | .atMost => "<="

/-- The operator of a group that matched nothing is `=`. -/
def VersionOperator.ofGroup (group : Option (List Char)) : Except Raised VersionOperator :=
  match group with
  | none | some [] | some ['='] => .ok .equal
  | some ['>'] => .ok .greater
  | some ['>', '='] => .ok .atLeast
  | some ['<'] => .ok .less
  | some ['<', '='] => .ok .atMost
  | some _ => .error (.value "unsupported version comparator")

/-- `__str__`. -/
def VersionComparator.text (comparator : VersionComparator) : String :=
  comparator.operator.text ++ comparator.version.text

/-- `>=|<=|>|<|=`. -/
def operatorPattern : Pattern :=
  .alt (.seq (.char '>') (.char '=')) (.alt (.seq (.char '<') (.char '='))
    (.alt (.char '>') (.alt (.char '<') (.char '='))))

/-- `(.+)`. -/
def linePattern : Pattern := .group 2 (.plus (.chars (· != '\n')))

/-- `_COMPARATOR_PATTERN`. -/
def comparatorPattern : Pattern := .seq (.optional (.group 1 operatorPattern)) linePattern

/-- One turn of the loop of `VersionRange.parse`. -/
def VersionComparator.parse (part : String) : Except Raised VersionComparator := do
  requireValue (part != "" && part == strip part) "version comparators must not contain whitespace"
  match fullmatch comparatorPattern part.toList with
  | none => .error (.value "invalid version comparator")
  | some groups => do
    let operator ← VersionOperator.ofGroup (groups 1)
    let version ← SemVer.parse (String.ofList ((groups 2).getD []))
    return ⟨operator, version⟩

namespace VersionRange

def make (comparators : List VersionComparator) : Except Raised VersionRange :=
  if bounded : comparators ≠ [] then .ok ⟨comparators, bounded⟩
  else .error (.value "version range requires at least one comparator")

def parse (value : String) : Except Raised VersionRange := do
  requireValue (value != "" && value == strip value) "version range must be non-empty and trimmed"
  let comparators ← (value.toList.splitOn ',').mapM fun part =>
    VersionComparator.parse (String.ofList part)
  make comparators

/-- `__str__`: an exact version is written without its operator. -/
def text (range : VersionRange) : String :=
  match range.comparators with
  | [⟨.equal, version⟩] => version.text
  | comparators => ",".intercalate (comparators.map VersionComparator.text)

end VersionRange

/-! ## What ranges are written with -/

/-- Neither a space nor a comma. -/
def isPlainChar (char : Char) : Bool := !isPySpace char && char != ','

theorem isPlainChar_of_isDecimal {char : Char} (decimal : isDecimal char = true) :
    isPlainChar char = true := by
  rw [isDecimal, decimal?, Option.isSome_map, List.find?_isSome] at decimal
  obtain ⟨run, member, range⟩ := decimal
  simp only [Bool.and_eq_true, decide_eq_true_eq] at range
  have apart : ∀ run ∈ runs, run = 0x30 ∨ (0x660 ≤ run ∧ run + 10 ≤ 0x1680) ∨
      (0x1680 < run ∧ run + 10 ≤ 0x2000) ∨ 0x3000 < run := by decide
  have place := apart run member
  have comma : char ≠ ',' := by
    rintro rfl
    have code : ','.toNat = 44 := rfl
    omega
  simp only [isPlainChar, isPySpace, Bool.and_eq_true, Bool.not_eq_true', Bool.or_eq_false_iff,
    Bool.and_eq_false_iff, decide_eq_false_iff_not, beq_eq_false_iff_ne, bne_iff_ne]
  exact ⟨by omega, comma⟩

theorem isPlainChar_of_isWordChar {char : Char} (word : isWordChar char = true) :
    isPlainChar char = true := by
  have ascii := VersionText.ascii_of_isWordChar word
  have all : ∀ code < 128, isWordChar (Char.ofNat code) = true →
      isPlainChar (Char.ofNat code) = true := by decide
  have here := all char.toNat ascii
  rw [Char.ofNat_toNat] at here
  exact here word

namespace VersionText

theorem plain_of_isNumber {digits : List Char} (number : IsNumber digits) :
    ∀ char ∈ digits, isPlainChar char = true := fun _ member =>
  isPlainChar_of_isDecimal (isDecimal_of_mem_number number member)

theorem plain_signed {sign : Char} {names : List (List Char)} (plain : isPlainChar sign = true)
    (each : ∀ name ∈ names, ∀ char ∈ name, isPlainChar char = true) :
    ∀ char ∈ signed sign names, isPlainChar char = true := by
  intro char member
  unfold signed at member
  split at member
  · cases member
  · rcases List.mem_cons.mp member with rfl | later
    · exact plain
    · rcases JoinedText.mem_intercalate later with rfl | ⟨name, listed, inside⟩
      · decide
      · exact each name listed char inside

theorem Legal.plain {text : VersionText} (legal : text.Legal) :
    ∀ char ∈ text.spell, isPlainChar char = true := by
  have prerelease : ∀ name ∈ text.prerelease, ∀ char ∈ name, isPlainChar char = true := by
    intro name listed char inside
    rcases legal.prerelease name listed with number | ⟨words, -⟩
    · exact plain_of_isNumber number char inside
    · exact isPlainChar_of_isWordChar (words char inside)
  have build : ∀ name ∈ text.build, ∀ char ∈ name, isPlainChar char = true :=
    fun name listed char inside => isPlainChar_of_isWordChar ((legal.build name listed).2 char inside)
  intro char member
  simp only [spell, List.mem_append, List.mem_cons] at member
  rcases member with major | rfl | minor | rfl | patch | early | late
  · exact plain_of_isNumber legal.major char major
  · decide
  · exact plain_of_isNumber legal.minor char minor
  · decide
  · exact plain_of_isNumber legal.patch char patch
  · exact plain_signed (by decide) prerelease char early
  · exact plain_signed (by decide) build char late

theorem Legal.head {text : VersionText} (legal : text.Legal) :
    ∃ first rest, text.spell = first :: rest ∧ isDecimal first = true := by
  rcases legal.major with zero | ⟨first, rest, spelled, -⟩
  · refine ⟨'0', _, by rw [spell, zero, List.singleton_append], by decide⟩
  · refine ⟨first, _, by rw [spell, spelled, List.cons_append], ?_⟩
    exact isDecimal_of_mem_number legal.major (by rw [spelled]; exact .head _)

end VersionText

/-! ## Comparators are read again -/

/-- The pattern of a version takes a whole line. -/
theorem run_version {rest : List Char} (some_ : rest ≠ []) (line : ∀ char ∈ rest, (char != '\n') = true)
    (groups : Groups) :
    run linePattern rest groups (fun left groups => if left = [] then some groups else none) =
      some (Function.update groups 2 (some rest)) := by
  have reads := (reads_chars (· != '\n')).seq (reads_star_chars (· != '\n'))
  have matched : Matches linePattern rest groups (Function.update groups 2 (some rest)) := by
    cases rest with
    | nil => exact absurd rfl some_
    | cons first others =>
      have whole := (reads (first :: others) groups groups).mpr
        ⟨⟨[first], others, rfl, ⟨first, line first (.head _), rfl⟩,
          fun char member => line char (.tail _ member)⟩, rfl⟩
      exact .group whole
  have goes := (run_complete matched).1 [] (fun left groups =>
    if left = [] then some groups else none) rfl
  rw [List.append_nil] at goes
  obtain ⟨found, is⟩ := Option.isSome_iff_exists.mp goes
  obtain ⟨used, left, after, same, inner, ends⟩ := run_sound _ _ _ _ _ is
  split at ends
  · rename_i done
    subst done
    rw [List.append_nil] at same
    obtain ⟨middle, body, rfl⟩ := matches_group.mp inner
    obtain ⟨-, rfl⟩ := (reads _ _ _).mp body
    rw [is, ← Option.some.inj ends, same]
  · cases ends

/-- An operator, or none, before a version. -/
theorem fullmatch_comparator {first : Char} {others : List Char} (digit : isDecimal first = true)
    (line : ∀ char ∈ first :: others, (char != '\n') = true) (operator : VersionOperator) :
    fullmatch comparatorPattern (operator.text.toList ++ first :: others) =
      some (Function.update (Function.update (fun _ => none : Groups) 1 (some operator.text.toList)) 2
        (some (first :: others))) ∧
    fullmatch comparatorPattern (first :: others) =
      some (Function.update (fun _ => none : Groups) 2 (some (first :: others))) := by
  have version := fun groups => run_version (List.cons_ne_nil _ _) line groups
  have apart : ∀ sign : Char, isDecimal sign = false → (first == sign) = false := by
    intro sign other
    rw [beq_eq_false_iff_ne]
    rintro rfl
    rw [digit] at other
    cases other
  have equal := apart '=' (by decide)
  have greater := apart '>' (by decide)
  have less := apart '<' (by decide)
  constructor
  · cases operator with
    | equal =>
      have text : VersionOperator.equal.text.toList = ['='] := rfl
      rw [text]
      simp [fullmatch, comparatorPattern, operatorPattern, Pattern.optional, Pattern.char, run, version]
    | greater =>
      have text : VersionOperator.greater.text.toList = ['>'] := rfl
      rw [text]
      simp [fullmatch, comparatorPattern, operatorPattern, Pattern.optional, Pattern.char, run,
        equal, version]
    | atLeast =>
      have text : VersionOperator.atLeast.text.toList = ['>', '='] := rfl
      rw [text]
      simp [fullmatch, comparatorPattern, operatorPattern, Pattern.optional, Pattern.char, run, version]
    | less =>
      have text : VersionOperator.less.text.toList = ['<'] := rfl
      rw [text]
      simp [fullmatch, comparatorPattern, operatorPattern, Pattern.optional, Pattern.char, run,
        equal, version]
    | atMost =>
      have text : VersionOperator.atMost.text.toList = ['<', '='] := rfl
      rw [text]
      simp [fullmatch, comparatorPattern, operatorPattern, Pattern.optional, Pattern.char, run, version]
  · simp [fullmatch, comparatorPattern, operatorPattern, Pattern.optional, Pattern.char, run, equal,
      greater, less, version]

/-- The version was read from some text. -/
def SemVer.Parsed (version : SemVer) : Prop := ∃ value, SemVer.parse value = .ok version

theorem SemVer.Parsed.written {version : SemVer} (parsed : version.Parsed) :
    ∃ first others, version.text.toList = first :: others ∧ isDecimal first = true ∧
      ∀ char ∈ first :: others, isPlainChar char = true := by
  obtain ⟨value, read⟩ := parsed
  obtain ⟨text, legal, -, -, denotes⟩ := VersionText.parse_ok_iff.mp read
  have again := VersionText.ofVersion_legal legal denotes
  obtain ⟨first, others, spelled, digit⟩ := again.head
  refine ⟨first, others, by rw [VersionText.text_spell, spelled], digit, ?_⟩
  rw [← spelled]
  exact again.plain

theorem isPlainChar.not_space {char : Char} (plain : isPlainChar char = true) :
    isPySpace char = false := by
  simp only [isPlainChar, Bool.and_eq_true, Bool.not_eq_true'] at plain
  exact plain.1

theorem isPlainChar.not_newline {char : Char} (plain : isPlainChar char = true) :
    (char != '\n') = true := by
  rw [bne_iff_ne]
  rintro rfl
  revert plain
  decide

namespace VersionComparator

@[simp] theorem ofGroup_text (operator : VersionOperator) :
    VersionOperator.ofGroup (some operator.text.toList) = .ok operator := by
  cases operator <;> rfl

theorem plain_operator (operator : VersionOperator) :
    ∀ char ∈ operator.text.toList, isPlainChar char = true := by
  have all : operator.text.toList.all isPlainChar = true := by
    cases operator <;> rfl
  exact List.all_eq_true.mp all

theorem plain_text {comparator : VersionComparator} (parsed : comparator.version.Parsed) :
    ∀ char ∈ comparator.text.toList, isPlainChar char = true := by
  obtain ⟨first, others, written, -, plain⟩ := parsed.written
  intro char member
  rw [text, String.toList_append, List.mem_append, written] at member
  rcases member with operator | version
  · exact plain_operator _ char operator
  · exact plain char version

/-- A part without spaces is read by the pattern. -/
theorem parse_part {part : String} {groups : Groups} {operator : VersionOperator} {version : SemVer}
    (some_ : part ≠ "") (plain : ∀ char ∈ part.toList, isPlainChar char = true)
    (found : fullmatch comparatorPattern part.toList = some groups)
    (signed : VersionOperator.ofGroup (groups 1) = .ok operator)
    (read : SemVer.parse (String.ofList ((groups 2).getD [])) = .ok version) :
    parse part = .ok ⟨operator, version⟩ := by
  have stripped := strip_self fun char member => isPlainChar.not_space (plain char member)
  have trimmed : (part != "" && part == strip part) = true := by simp [some_, stripped]
  simp only [parse, trimmed, found]
  change (do
    let operator ← VersionOperator.ofGroup (groups 1)
    let version ← SemVer.parse (String.ofList ((groups 2).getD []))
    return (⟨operator, version⟩ : VersionComparator)) = _
  rw [signed, read]
  rfl

theorem parse_text {comparator : VersionComparator} (parsed : comparator.version.Parsed) :
    parse comparator.text = .ok comparator ∧
      parse comparator.version.text = .ok ⟨.equal, comparator.version⟩ := by
  obtain ⟨first, others, written, digit, plain⟩ := parsed.written
  obtain ⟨signed, bare⟩ := fullmatch_comparator digit
    (fun char member => isPlainChar.not_newline (plain char member)) comparator.operator
  have read : SemVer.parse (String.ofList (first :: others)) = .ok comparator.version := by
    obtain ⟨value, from_⟩ := parsed
    rw [← written, String.ofList_toList]
    exact SemVer.parse_text from_
  have some_ : comparator.version.text ≠ "" := by
    intro none
    rw [none] at written
    cases written
  constructor
  · have spelled : comparator.text.toList = comparator.operator.text.toList ++ first :: others := by
      rw [text, String.toList_append, written]
    have longer : comparator.text ≠ "" := by
      intro none
      rw [none] at spelled
      exact absurd spelled.symm (by simp)
    refine parse_part longer (plain_text parsed) (by rw [spelled, signed]) ?_ ?_
    · exact ofGroup_text comparator.operator
    · exact read
  · have unsigned : VersionOperator.ofGroup (Function.update (fun _ => none : Groups) 2
        (some (first :: others)) 1) = .ok .equal := rfl
    exact parse_part some_ (by rw [written]; exact plain) (by rw [written, bare]) unsigned read

end VersionComparator

namespace VersionRange

theorem mem_of_mapM {α β ε : Type} {compute : α → Except ε β} {items : List α} {results : List β}
    (each : items.mapM compute = .ok results) {result : β} (member : result ∈ results) :
    ∃ item ∈ items, compute item = .ok result := by
  have matched := DependencyResolver.mapM_ok.mp each
  clear each
  induction matched with
  | nil => cases member
  | cons computed _ ih =>
    rcases List.mem_cons.mp member with rfl | later
    · exact ⟨_, .head _, computed⟩
    · obtain ⟨item, listed, found⟩ := ih later
      exact ⟨item, .tail _ listed, found⟩

/-- The version of a comparator was read from a part of it. -/
theorem parsed_of_part {part : String} {comparator : VersionComparator}
    (read : VersionComparator.parse part = .ok comparator) : comparator.version.Parsed := by
  obtain ⟨_, -, read⟩ := bind_ok read
  split at read
  · cases read
  · obtain ⟨operator, -, read⟩ := bind_ok read
    obtain ⟨version, from_, made⟩ := bind_ok read
    cases made
    exact ⟨_, from_⟩

theorem parsed_of_parse {value : String} {range : VersionRange} (read : parse value = .ok range) :
    ∀ comparator ∈ range.comparators, comparator.version.Parsed := by
  obtain ⟨_, -, read⟩ := bind_ok read
  obtain ⟨comparators, each, made⟩ := bind_ok read
  unfold make at made
  split at made
  · cases made
    intro comparator member
    obtain ⟨part, -, from_⟩ := mem_of_mapM each member
    exact parsed_of_part from_
  · cases made

/-- Texts of plain characters are the parts of what they are joined to. -/
theorem parse_joined {parts : List String} {range : VersionRange} (some_ : parts ≠ [])
    (solid : ∀ part ∈ parts, part ≠ "")
    (plain : ∀ part ∈ parts, ∀ char ∈ part.toList, isPlainChar char = true)
    (each : parts.mapM VersionComparator.parse = .ok range.comparators) :
    parse (",".intercalate parts) = .ok range := by
  have text : (",".intercalate parts).toList = [','].intercalate (parts.map String.toList) := by
    simp
  have cut : (",".intercalate parts).toList.splitOn ',' = parts.map String.toList := by
    rw [text]
    apply List.splitOn_intercalate
    · intro part listed comma
      obtain ⟨part, member, rfl⟩ := List.mem_map.mp listed
      exact absurd (plain part member ',' comma) (by decide)
    · simpa using some_
  have again : ((",".intercalate parts).toList.splitOn ',').mapM
      (fun part => VersionComparator.parse (String.ofList part)) = .ok range.comparators := by
    rw [cut, List.mapM_map]
    simpa [Function.comp_def] using each
  have tight : ∀ char ∈ (",".intercalate parts).toList, isPySpace char = false := by
    rw [text]
    intro char member
    rcases JoinedText.mem_intercalate member with rfl | ⟨_, listed, inside⟩
    · decide
    · obtain ⟨part, member, rfl⟩ := List.mem_map.mp listed
      exact isPlainChar.not_space (plain part member char inside)
  have nonempty : ",".intercalate parts ≠ "" := by
    intro none
    obtain ⟨part, others, rfl⟩ := List.exists_cons_of_ne_nil some_
    have empty : part.toList = [] := by
      rw [List.eq_nil_iff_forall_not_mem]
      intro char member
      have listed : part.toList ∈ (part :: others).map String.toList := List.mem_map_of_mem (.head _)
      have inside : char ∈ [','].intercalate ((part :: others).map String.toList) :=
        JoinedText.mem_intercalate_of_mem listed member
      rw [← text, none] at inside
      cases inside
    exact solid part (.head _) (String.toList_inj.mp empty)
  have trimmed : (",".intercalate parts != "" &&
      ",".intercalate parts == strip (",".intercalate parts)) = true := by
    simp [nonempty, strip_self tight]
  rw [parse, trimmed]
  change (do
    let comparators ← ((",".intercalate parts).toList.splitOn ',').mapM fun part =>
      VersionComparator.parse (String.ofList part)
    make comparators) = _
  rw [again]
  change make range.comparators = _
  rw [make, dif_pos range.bounded]

/-- A range is read again from what it is written as. -/
theorem parse_text {value : String} {range : VersionRange} (read : parse value = .ok range) :
    parse range.text = .ok range := by
  have parsed := parsed_of_parse read
  have solid : ∀ text : String, (∃ comparator, VersionComparator.parse text = .ok comparator) →
      text ≠ "" := by
    rintro _ ⟨comparator, from_⟩ rfl
    cases from_
  unfold text
  split
  · rename_i version only
    have known := parsed ⟨.equal, version⟩ (by rw [only]; exact .head _)
    have again := (VersionComparator.parse_text known).2
    obtain ⟨first, others, written, -, plain⟩ := known.written
    have one := @parse_joined [version.text] range (by simp)
      (by simpa using solid _ ⟨_, again⟩) (by simpa [written] using plain)
      (by simp [again, only])
    simpa using one
  · apply parse_joined
    · simpa using range.bounded
    · intro part member
      obtain ⟨comparator, listed, rfl⟩ := List.mem_map.mp member
      exact solid _ ⟨_, (VersionComparator.parse_text (parsed comparator listed)).1⟩
    · intro part member
      obtain ⟨comparator, listed, rfl⟩ := List.mem_map.mp member
      exact VersionComparator.plain_text (parsed comparator listed)
    · rw [DependencyResolver.mapM_ok, List.forall₂_map_left_iff, List.forall₂_same]
      intro comparator listed
      exact (VersionComparator.parse_text (parsed comparator listed)).1

end VersionRange

end CongeriesCore
