import CongeriesCore.RuntimeTime

/-! # Later instants

`datetime + timedelta(milliseconds=…)` in UTC. -/

namespace CongeriesCore.DateTime

theorem one_le_daysInMonth (year month : ℕ) : 1 ≤ daysInMonth year month := by
  unfold daysInMonth
  split <;> split <;> omega

/-- The same time of the next day; there is none after the last day of the last year. -/
def tomorrow (time : DateTime) : Option DateTime :=
  if inMonth : time.day < daysInMonth time.year time.month then
    some { time with
      day := time.day + 1
      valid := by
        have valid := time.valid
        omega }
  else if inYear : time.month < 12 then
    some { time with
      month := time.month + 1
      day := 1
      valid := by
        have valid := time.valid
        have first := one_le_daysInMonth time.year (time.month + 1)
        omega }
  else if inRange : time.year < 9999 then
    some { time with
      year := time.year + 1
      month := 1
      day := 1
      valid := by
        have valid := time.valid
        have first := one_le_daysInMonth (time.year + 1) 1
        omega }
  else none

def addDays : ℕ → DateTime → Option DateTime
  | 0, time => some time
  | days + 1, time => time.tomorrow.bind (addDays days)

/-- The microseconds of a day. -/
def dayLength : ℕ := 86400000000

/-- The microseconds since the day began. -/
def ofDay (time : DateTime) : ℕ :=
  ((time.hour * 60 + time.minute) * 60 + time.second) * 1000000 + time.microsecond

def atOfDay (time : DateTime) (microseconds : ℕ) (within : microseconds < dayLength) : DateTime :=
  { time with
    hour := microseconds / 3600000000
    minute := microseconds / 60000000 % 60
    second := microseconds / 1000000 % 60
    microsecond := microseconds % 1000000
    valid := by
      have valid := time.valid
      unfold dayLength at within
      omega }

/-- The instant so many days after this one, at a time of that day. -/
def onDay (time : DateTime) (days microseconds : ℕ) (within : microseconds < dayLength) :
    Except Raised DateTime :=
  match addDays days (time.atOfDay microseconds within) with
  | some later => .ok later
  | none => .error (.other "OverflowError")

/-- `time + timedelta(milliseconds=milliseconds)`. -/
def addMilliseconds (time : DateTime) (milliseconds : ℕ) : Except Raised DateTime :=
  let total := time.ofDay + milliseconds * 1000
  time.onDay (total / dayLength) (total % dayLength) (Nat.mod_lt _ (by decide))

end CongeriesCore.DateTime
