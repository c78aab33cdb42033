import Mathlib.Data.Nat.Digits.Defs
import Mathlib.Data.List.Induction
import Mathlib.Data.String.Basic
import Mathlib.Tactic.Common

/-! # Decimal digits

The decimal digits of Unicode 15.0, which `\d` matches and `int` reads: runs of ten code points,
each given by its zero. -/

namespace UnicodeDigits

/-- The runs after those of ASCII. -/
def laterRuns : List ℕ :=
  [0x660, 0x6F0, 0x7C0, 0x966, 0x9E6, 0xA66, 0xAE6, 0xB66, 0xBE6, 0xC66, 0xCE6, 0xD66, 0xDE6,
    0xE50, 0xED0, 0xF20, 0x1040, 0x1090, 0x17E0, 0x1810, 0x1946, 0x19D0, 0x1A80, 0x1A90, 0x1B50,
    0x1BB0, 0x1C40, 0x1C50, 0xA620, 0xA8D0, 0xA900, 0xA9D0, 0xA9F0, 0xAA50, 0xABF0, 0xFF10, 0x104A0,
    0x10D30, 0x11066, 0x110F0, 0x11136, 0x111D0, 0x112F0, 0x11450, 0x114D0, 0x11650, 0x116C0,
    0x11730, 0x118E0, 0x11950, 0x11C50, 0x11D50, 0x11DA0, 0x11F50, 0x16A60, 0x16AC0, 0x16B50,
    0x1D7CE, 0x1D7D8, 0x1D7E2, 0x1D7EC, 0x1D7F6, 0x1E140, 0x1E2F0, 0x1E4F0, 0x1E950, 0x1FBF0]

def runs : List ℕ := 0x30 :: laterRuns

/-- The value of a decimal digit. -/
def decimal? (char : Char) : Option ℕ :=
  (runs.find? fun run => run ≤ char.toNat && char.toNat < run + 10).map fun run => char.toNat - run

def isDecimal (char : Char) : Bool := (decimal? char).isSome

/-- The number that some digits spell. -/
def number (digits : List Char) : ℕ :=
  digits.foldl (fun value char => 10 * value + (decimal? char).getD 0) 0

theorem isDigit_range {char : Char} (digit : char.isDigit = true) :
    48 ≤ char.toNat ∧ char.toNat ≤ 57 := by
  simpa [Char.isDigit, UInt32.le_iff_toNat_le] using digit

/-- A digit of ASCII has the value of its place after `0`. -/
theorem decimal?_of_isDigit {char : Char} (digit : char.isDigit = true) :
    decimal? char = some (char.toNat - 48) := by
  have range := isDigit_range digit
  have first : (decide (0x30 ≤ char.toNat) && decide (char.toNat < 0x30 + 10)) = true := by
    simp only [Bool.and_eq_true, decide_eq_true_eq]
    omega
  simp only [decimal?, runs, List.find?_cons, first, Option.map_some]

theorem decimal?_lt {char : Char} {value : ℕ} (digit : decimal? char = some value) : value < 10 := by
  rw [decimal?, Option.map_eq_some_iff] at digit
  obtain ⟨run, found, rfl⟩ := digit
  have range := List.find?_some found
  simp only [Bool.and_eq_true, decide_eq_true_eq] at range
  omega

theorem isDecimal_of_isDigit {char : Char} (digit : char.isDigit = true) :
    isDecimal char = true := by
  rw [isDecimal, decimal?_of_isDigit digit]
  rfl

/-- Of the characters below the first digits that are not ASCII, only those of ASCII are digits. -/
theorem isDigit_of_isDecimal {char : Char} (decimal : isDecimal char = true)
    (ascii : char.toNat < 0x660) : char.isDigit = true := by
  rw [isDecimal, decimal?, Option.isSome_map, List.find?_isSome] at decimal
  obtain ⟨run, member, range⟩ := decimal
  simp only [Bool.and_eq_true, decide_eq_true_eq] at range
  have later : ∀ run ∈ laterRuns, 0x660 ≤ run := by decide
  have digit : 48 ≤ char.toNat ∧ char.toNat ≤ 57 := by
    rcases List.mem_cons.mp member with rfl | member
    · omega
    · have above := later run member
      omega
  simpa [Char.isDigit, UInt32.le_iff_toNat_le] using digit

/-! ### Numbers written in ASCII -/

/-- The digits of a number: none before the first that counts. -/
def IsNumeral (digits : List Char) : Prop :=
  digits ≠ [] ∧ (∀ char ∈ digits, char.isDigit = true) ∧ (digits.head? = some '0' → digits = ['0'])

theorem number_append (digits : List Char) (last : Char) :
    number (digits ++ [last]) = 10 * number digits + (decimal? last).getD 0 := by
  simp [number]

theorem number_lt (digits : List Char) : number digits < 10 ^ digits.length := by
  induction digits using List.reverseRecOn with
  | nil => exact Nat.one_pos
  | append_singleton digits last ih =>
    have small : (decimal? last).getD 0 < 10 := by
      cases digit : decimal? last with
      | none => decide
      | some value => exact decimal?_lt digit
    rw [number_append, List.length_append, List.length_singleton, Nat.pow_succ]
    omega

theorem number_eq_ofDigitChars {digits : List Char} (ascii : ∀ char ∈ digits, char.isDigit = true) :
    number digits = Nat.ofDigitChars 10 digits 0 := by
  have same : ∀ start, digits.foldl (fun value char => 10 * value + (decimal? char).getD 0) start =
      Nat.ofDigitChars 10 digits start := by
    induction digits with
    | nil => simp
    | cons char digits ih =>
      intro start
      have digit := decimal?_of_isDigit (ascii char (.head _))
      rw [List.foldl_cons, digit, Nat.ofDigitChars_cons]
      exact ih (fun other member => ascii other (.tail _ member)) _
  exact same 0

theorem isDigit_toDigits {value : ℕ} {char : Char} (member : char ∈ Nat.toDigits 10 value) :
    char.isDigit = true := Nat.isDigit_of_mem_toDigits (by decide) (by decide) member

@[simp] theorem number_toDigits (value : ℕ) : number (Nat.toDigits 10 value) = value := by
  rw [number_eq_ofDigitChars fun _ member => isDigit_toDigits member, Nat.ofDigitChars_ten_toDigits]

theorem digitChar_decimal {char : Char} (digit : char.isDigit = true) :
    Nat.digitChar (char.toNat - 48) = char := by
  have range := isDigit_range digit
  have each : ∀ place < 10, Nat.digitChar place = Char.ofNat (48 + place) := by decide
  rw [each _ (by omega), Nat.add_sub_cancel' range.1, Char.ofNat_toNat]

/-- What comes before the last digit of a numeral is a numeral, and not zero. -/
theorem IsNumeral.init {digits : List Char} {last : Char} (numeral : IsNumeral (digits ++ [last]))
    (more : digits ≠ []) : IsNumeral digits ∧ digits ≠ ['0'] := by
  obtain ⟨-, ascii, leading⟩ := numeral
  have first : digits.head? ≠ some '0' := by
    intro first
    have whole := leading (by rw [List.head?_append_of_ne_nil _ more, first])
    have long : 0 < digits.length := List.length_pos_iff.mpr more
    have short := congrArg List.length whole
    rw [List.length_append, List.length_singleton, List.length_singleton] at short
    omega
  refine ⟨⟨more, fun char member => ascii char (by simp [member]), fun zero => absurd zero first⟩, ?_⟩
  rintro rfl
  exact first rfl

theorem IsNumeral.last {digits : List Char} {last : Char} (numeral : IsNumeral (digits ++ [last])) :
    last.isDigit = true := numeral.2.1 last (by simp)

theorem number_pos {digits : List Char} (numeral : IsNumeral digits) (other : digits ≠ ['0']) :
    0 < number digits := by
  induction digits using List.reverseRecOn with
  | nil => exact absurd rfl numeral.1
  | append_singleton digits last ih =>
    rw [number_append, decimal?_of_isDigit numeral.last, Option.getD_some]
    by_cases more : digits = []
    · subst more
      have range := isDigit_range numeral.last
      have counts : last.toNat ≠ 48 := by
        intro same
        exact other (by rw [List.nil_append, ← Char.ofNat_toNat last, same])
      omega
    · obtain ⟨init, nonzero⟩ := numeral.init more
      have positive := ih init nonzero
      omega

/-- A numeral is what `str` writes for its number. -/
theorem toDigits_number {digits : List Char} (numeral : IsNumeral digits) :
    Nat.toDigits 10 (number digits) = digits := by
  induction digits using List.reverseRecOn with
  | nil => exact absurd rfl numeral.1
  | append_singleton digits last ih =>
    have range := isDigit_range numeral.last
    rw [number_append, decimal?_of_isDigit numeral.last, Option.getD_some]
    by_cases more : digits = []
    · subst more
      have none : number [] = 0 := rfl
      rw [none, Nat.mul_zero, Nat.zero_add, Nat.toDigits_of_lt_base (by omega),
        digitChar_decimal numeral.last, List.nil_append]
    · obtain ⟨init, nonzero⟩ := numeral.init more
      have positive := number_pos init nonzero
      rw [← Nat.toDigits_append_toDigits (by decide) positive (by omega), ih init,
        Nat.toDigits_of_lt_base (by omega), digitChar_decimal numeral.last]

/-- What `str` writes for a number is a numeral. -/
theorem isNumeral_toDigits (value : ℕ) : IsNumeral (Nat.toDigits 10 value) := by
  refine ⟨Nat.toDigits_ne_nil, fun _ member => isDigit_toDigits member, ?_⟩
  induction value using Nat.strongRecOn with
  | ind value ih =>
    intro first
    rw [Nat.toDigits_eq_if (by decide)] at first ⊢
    split at first
    · rename_i small
      rw [if_pos small]
      simpa using first
    · rename_i large
      rw [List.head?_append_of_ne_nil _ Nat.toDigits_ne_nil] at first
      have smaller : value / 10 < value := by omega
      have leading := ih (value / 10) smaller first
      have zero := congrArg number leading
      rw [number_toDigits] at zero
      have none : number ['0'] = 0 := by decide
      omega

theorem number_injective {first second : List Char} (one : IsNumeral first) (two : IsNumeral second)
    (same : number first = number second) : first = second := by
  rw [← toDigits_number one, ← toDigits_number two, same]

end UnicodeDigits
