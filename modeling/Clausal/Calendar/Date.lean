/-!
# Dates and times of day

Dates of the proleptic Gregorian calendar, without a zone, over the years from -262143 to 262142. A
leap second is a second that lasts longer than 10⁹ nanoseconds. `DateTime.timestamp` counts seconds
from 1970-01-01 and gives a leap second the number of the second it prolongs.
-/

namespace Clausal.Calendar

def isLeap (year : Int) : Bool :=
  year % 4 == 0 && (year % 100 != 0 || year % 400 == 0)

def daysInMonth (year : Int) (month : Nat) : Nat :=
  if month = 2 then if isLeap year then 29 else 28
  else if month = 4 ∨ month = 6 ∨ month = 9 ∨ month = 11 then 30
  else 31

structure Date where
  year : Int
  month : Nat
  day : Nat
  inYears : -262143 ≤ year ∧ year ≤ 262142
  inYear : 1 ≤ month ∧ month ≤ 12
  inMonth : 1 ≤ day ∧ day ≤ daysInMonth year month
  deriving DecidableEq, Repr

structure Time where
  hour : Nat
  minute : Nat
  second : Nat
  nanosecond : Nat
  inDay : hour < 24
  inHour : minute < 60
  inMinute : second < 60
  inSecond : nanosecond < 2000000000
  deriving DecidableEq, Repr

structure DateTime where
  date : Date
  time : Time
  deriving DecidableEq, Repr

def Date.of? (year : Int) (month day : Nat) : Option Date :=
  if h : (-262143 ≤ year ∧ year ≤ 262142) ∧ (1 ≤ month ∧ month ≤ 12) ∧
      (1 ≤ day ∧ day ≤ daysInMonth year month) then
    some ⟨year, month, day, h.1, h.2.1, h.2.2⟩
  else none

def Time.of? (hour minute second nanosecond : Nat) : Option Time :=
  if h : hour < 24 ∧ minute < 60 ∧ second < 60 ∧ nanosecond < 2000000000 then
    some ⟨hour, minute, second, nanosecond, h.1, h.2.1, h.2.2.1, h.2.2.2⟩
  else none

/-- The time a clock shows; second 60 is a leap second. -/
def Time.ofClock? (hour minute second fraction : Nat) : Option Time :=
  if second = 60 then Time.of? hour minute 59 (1000000000 + fraction)
  else Time.of? hour minute second fraction

def Time.midnight : Time := ⟨0, 0, 0, 0, by decide, by decide, by decide, by decide⟩

/-- The second a clock shows; it is one more during a leap second. -/
def Time.shownSecond (t : Time) : Nat :=
  t.second + t.nanosecond / 1000000000

/-- Days since 1970-01-01, counted in years that begin in March. -/
def Date.dayNumber (d : Date) : Int :=
  let year := if d.month ≤ 2 then d.year - 1 else d.year
  let era := year / 400
  let yearOfEra := year - era * 400
  let month : Int := ((d.month + 9) % 12 : Nat)
  let dayOfYear := (153 * month + 2) / 5 + (d.day : Int) - 1
  let dayOfEra := yearOfEra * 365 + yearOfEra / 4 - yearOfEra / 100 + dayOfYear
  era * 146097 + dayOfEra - 719468

def Date.ofDayNumber? (n : Int) : Option Date :=
  let z := n + 719468
  let era := z / 146097
  let dayOfEra := z - era * 146097
  let yearOfEra := (dayOfEra - dayOfEra / 1460 + dayOfEra / 36524 - dayOfEra / 146096) / 365
  let dayOfYear := dayOfEra - (365 * yearOfEra + yearOfEra / 4 - yearOfEra / 100)
  let march := (5 * dayOfYear + 2) / 153
  let day := dayOfYear - (153 * march + 2) / 5 + 1
  let month := if march < 10 then march + 3 else march - 9
  let year := yearOfEra + era * 400 + (if month ≤ 2 then 1 else 0)
  Date.of? year month.toNat day.toNat

namespace DateTime

def timestamp (dt : DateTime) : Int :=
  dt.date.dayNumber * 86400 + (dt.time.hour * 3600 + dt.time.minute * 60 + dt.time.second : Nat)

def ofTimestamp? (seconds : Int) (nanosecond : Nat) : Option DateTime := do
  let date ← Date.ofDayNumber? (seconds / 86400)
  let rest := (seconds % 86400).toNat
  let time ← Time.of? (rest / 3600) (rest / 60 % 60) (rest % 60) nanosecond
  some ⟨date, time⟩

/-- The same moment in UTC, for a clock that runs `offset` seconds ahead of it. -/
def toUtc? (dt : DateTime) (offset : Int) : Option DateTime :=
  ofTimestamp? (dt.timestamp - offset) dt.time.nanosecond

end DateTime

end Clausal.Calendar
