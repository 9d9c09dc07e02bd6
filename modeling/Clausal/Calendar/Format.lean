import Clausal.Calendar.Date

/-!
# Dates and times as text

Years from 0 to 9999 have four digits; all others have a sign and at least four.
-/

namespace Clausal.Calendar

/-- The decimal digits of `n`, filled up with leading zeros. -/
def padded (width n : Nat) : List Char :=
  let digits := Nat.toDigits 10 n
  List.replicate (width - digits.length) '0' ++ digits

def Date.yearText (d : Date) : List Char :=
  if 0 ≤ d.year ∧ d.year ≤ 9999 then padded 4 d.year.natAbs
  else (if d.year < 0 then '-' else '+') :: padded 4 d.year.natAbs

def Date.chars (d : Date) : List Char :=
  d.yearText ++ '-' :: (padded 2 d.month ++ '-' :: padded 2 d.day)

def Time.chars (t : Time) : List Char :=
  padded 2 t.hour ++ ':' :: (padded 2 t.minute ++ ':' :: padded 2 t.shownSecond)

/-- The fraction of the second in three, six or nine digits, as few as hold it. -/
def Time.fractionChars (t : Time) : List Char :=
  let n := t.nanosecond % 1000000000
  if n = 0 then []
  else if n % 1000000 = 0 then '.' :: padded 3 (n / 1000000)
  else if n % 1000 = 0 then '.' :: padded 6 (n / 1000)
  else '.' :: padded 9 n

namespace DateTime

/-- The stored form, such as `2018-06-18 08:12:00`; the fraction of the second is dropped. -/
def chars (dt : DateTime) : List Char :=
  dt.date.chars ++ ' ' :: dt.time.chars

def toText (dt : DateTime) : String :=
  String.ofList dt.chars

/-- The exchange form, such as `2018-06-18T08:12:00.5`, with its fraction. -/
def toExchangeText (dt : DateTime) : String :=
  String.ofList (dt.date.chars ++ 'T' :: (dt.time.chars ++ dt.time.fractionChars))

end DateTime

end Clausal.Calendar
