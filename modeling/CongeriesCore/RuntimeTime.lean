import CongeriesCore.RuntimeErrors
import Mathlib.Data.Nat.Init

/-! # UTC instants

Timezone-aware datetimes after `require_utc`: the calendar fields of an instant in UTC,
compared field by field from the year down. -/

namespace CongeriesCore

def daysInMonth (year month : ℕ) : ℕ :=
  if month = 2 then if year % 4 = 0 ∧ (year % 100 ≠ 0 ∨ year % 400 = 0) then 29 else 28
  else if month = 4 ∨ month = 6 ∨ month = 9 ∨ month = 11 then 30 else 31

structure DateTime where
  year : ℕ
  month : ℕ
  day : ℕ
  hour : ℕ
  minute : ℕ
  second : ℕ
  microsecond : ℕ
  valid : 1 ≤ year ∧ year ≤ 9999 ∧ 1 ≤ month ∧ month ≤ 12 ∧ 1 ≤ day ∧ day ≤ daysInMonth year month ∧
    hour < 24 ∧ minute < 60 ∧ second < 60 ∧ microsecond < 1000000
  deriving DecidableEq, Repr

namespace DateTime

/-- A number that grows with the instant. -/
def rank (time : DateTime) : ℕ :=
  (((((time.year * 12 + time.month) * 32 + time.day) * 24 + time.hour) * 60 + time.minute) * 60 +
    time.second) * 1000000 + time.microsecond

instance : LE DateTime := ⟨fun first second => first.rank ≤ second.rank⟩
instance : LT DateTime := ⟨fun first second => first.rank < second.rank⟩
instance (first second : DateTime) : Decidable (first ≤ second) :=
  inferInstanceAs (Decidable (first.rank ≤ second.rank))
instance (first second : DateTime) : Decidable (first < second) :=
  inferInstanceAs (Decidable (first.rank < second.rank))

/-- `datetime.min`. -/
instance : Inhabited DateTime := ⟨⟨1, 1, 1, 0, 0, 0, 0, by decide⟩⟩

theorem le_refl (time : DateTime) : time ≤ time := Nat.le_refl time.rank

theorem le_trans {first second third : DateTime} (before : first ≤ second)
    (later : second ≤ third) : first ≤ third := Nat.le_trans before later

/-- The decimal digits of `value`, padded with zeros to `width` places. -/
def padded (width value : ℕ) : String :=
  let digits := toString value
  String.ofList (List.replicate (width - digits.length) '0') ++ digits

def isoformat (time : DateTime) : String :=
  padded 4 time.year ++ "-" ++ padded 2 time.month ++ "-" ++ padded 2 time.day ++ "T" ++
    padded 2 time.hour ++ ":" ++ padded 2 time.minute ++ ":" ++ padded 2 time.second ++
    (if time.microsecond = 0 then "" else "." ++ padded 6 time.microsecond) ++ "+00:00"

/-- The number the first `count` characters spell in decimal, with what follows it. -/
def readNumber (count : ℕ) (text : List Char) : Option (ℕ × List Char) :=
  let digits := text.take count
  if digits.length = count ∧ digits.all Char.isDigit = true then
    some (Nat.ofDigitChars 10 digits 0, text.drop count)
  else none

def readChar (expected : Char) : List Char → Option (List Char)
  | [] => none
  | c :: rest => if c = expected then some rest else none

def readFraction (text : List Char) : Option (ℕ × List Char) :=
  match text with
  | '.' :: rest => readNumber 6 rest
  | _ => some (0, text)

def read (text : List Char) : Option DateTime := do
  let (year, text) ← readNumber 4 text
  let (month, text) ← readNumber 2 (← readChar '-' text)
  let (day, text) ← readNumber 2 (← readChar '-' text)
  let (hour, text) ← readNumber 2 (← readChar 'T' text)
  let (minute, text) ← readNumber 2 (← readChar ':' text)
  let (second, text) ← readNumber 2 (← readChar ':' text)
  let (microsecond, text) ← readFraction text
  if text ≠ "+00:00".toList then none
  else if valid : _ then
    some ⟨year, month, day, hour, minute, second, microsecond, valid⟩
  else none

/-- `datetime.fromisoformat` and `require_utc`, of the form `isoformat` gives an instant in UTC.
The other forms of ISO 8601 are left out: no stored document holds one. -/
def fromIsoformat (text : String) : Except Raised DateTime :=
  match read text.toList with
  | some time => .ok time
  | none => .error (.value ("Invalid isoformat string: '" ++ text ++ "'"))

theorem toList_padded (width value : ℕ) : (padded width value).toList =
    List.replicate (width - (Nat.toDigits 10 value).length) '0' ++ Nat.toDigits 10 value := by
  simp [padded, ← String.length_toList]

theorem readNumber_padded {width value : ℕ} (positive : 0 < width) (fits : value < 10 ^ width)
    (rest : List Char) :
    readNumber width ((padded width value).toList ++ rest) = some (value, rest) := by
  have short := (Nat.length_toDigits_le_iff (by decide) positive).mpr fits
  have length : (padded width value).toList.length = width := by
    rw [toList_padded, List.length_append, List.length_replicate]
    omega
  have digits : (padded width value).toList.all Char.isDigit = true := by
    rw [toList_padded, List.all_eq_true]
    intro c member
    rcases List.mem_append.mp member with zero | digit
    · rw [List.eq_of_mem_replicate zero]
      rfl
    · exact Nat.isDigit_of_mem_toDigits (by decide) (by decide) digit
  have number : Nat.ofDigitChars 10 (padded width value).toList 0 = value := by
    rw [toList_padded, Nat.ofDigitChars_append, Nat.ofDigitChars_replicate_zero]
    simp
  have taken : ((padded width value).toList ++ rest).take width = (padded width value).toList :=
    List.take_left' length
  have dropped : ((padded width value).toList ++ rest).drop width = rest := List.drop_left' length
  simp [readNumber, taken, dropped, length, digits, number]

theorem readFraction_padded {microsecond : ℕ} (fits : microsecond < 1000000) (rest : List Char) :
    readFraction ((if microsecond = 0 then "" else "." ++ padded 6 microsecond).toList ++
      '+' :: rest) = some (microsecond, '+' :: rest) := by
  by_cases zero : microsecond = 0
  · simp [zero, readFraction]
  · have number : readNumber 6 ((padded 6 microsecond).toList ++ '+' :: rest) =
        some (microsecond, '+' :: rest) := readNumber_padded (by decide) fits _
    simp [zero, readFraction, number]

/-- An instant is read back from its text. -/
theorem fromIsoformat_isoformat (time : DateTime) : fromIsoformat time.isoformat = .ok time := by
  obtain ⟨year, month, day, hour, minute, second, microsecond, valid⟩ := time
  have day_fits : day < 10 ^ 2 := by
    have : daysInMonth year month ≤ 31 := by
      unfold daysInMonth
      split <;> split <;> omega
    omega
  have found : read (isoformat ⟨year, month, day, hour, minute, second, microsecond, valid⟩).toList =
      some ⟨year, month, day, hour, minute, second, microsecond, valid⟩ := by
    have dash : "-".toList = ['-'] := rfl
    have colon : ":".toList = [':'] := rfl
    have mark : "T".toList = ['T'] := rfl
    have zone : "+00:00".toList = '+' :: "00:00".toList := rfl
    simp only [isoformat, read, String.toList_append, List.append_assoc, dash, colon, mark, zone,
      List.cons_append, List.nil_append, readChar, if_true, Option.bind_eq_bind, Option.bind_some,
      readNumber_padded (show 0 < 4 by decide) (show year < 10 ^ 4 by omega),
      readNumber_padded (show 0 < 2 by decide) (show month < 10 ^ 2 by omega),
      readNumber_padded (show 0 < 2 by decide) day_fits,
      readNumber_padded (show 0 < 2 by decide) (show hour < 10 ^ 2 by omega),
      readNumber_padded (show 0 < 2 by decide) (show minute < 10 ^ 2 by omega),
      readNumber_padded (show 0 < 2 by decide) (show second < 10 ^ 2 by omega),
      readFraction_padded (show microsecond < 1000000 by omega), ne_eq, not_true, if_false]
    exact dif_pos valid
  rw [fromIsoformat, found]

theorem isoformat_ne_empty (time : DateTime) : time.isoformat ≠ "" := by
  intro empty
  have read := time.fromIsoformat_isoformat
  rw [empty] at read
  cases read

end DateTime

end CongeriesCore
