import Clausal.Calendar.Date
import Clausal.Number.Numeral
import Clausal.Text.Reader

/-!
# Reading dates and times

A moment is read from the first of these forms that fits the whole text: the stored form, the
exchange form without a zone, the strict exchange form with one (brought to UTC), a date, and a
number of seconds since 1970. In all but the strict form blanks may stand before each number, and
numbers need not be filled up with zeros.
-/

namespace Clausal.Calendar

open Clausal.Number
open Clausal.Text (Reader)

namespace Reading

open Text.Reader

/-- A year: one to four digits, or a sign and any number of them. -/
def year : Reader Int := do
  blanks
  if ← optional ['-'] then return -((← longNumber : Nat) : Int)
  else if ← optional ['+'] then return ((← longNumber : Nat) : Int)
  else return ((← number 1 4 : Nat) : Int)

/-- A number of one or two digits, after any blanks. -/
def short : Reader Nat := do
  blanks
  number 1 2

def date : Reader Date := do
  let y ← year
  literal '-'
  let m ← short
  literal '-'
  let d ← short
  ofOption (Date.of? y m d)

/-- Nanoseconds after a point; digits beyond the ninth are dropped. -/
def fraction : Reader Nat := do
  if ← optional ['.'] then
    let shown ← digits 1 9
    modify (·.dropWhile isDigit)
    return valueOf shown * Nat.pow 10 (9 - shown.length)
  else return 0

def clock (part : Reader Nat) (withFraction : Bool) : Reader Time := do
  let h ← part
  literal ':'
  let m ← part
  literal ':'
  let s ← part
  let n ← if withFraction then fraction else pure 0
  ofOption (Time.ofClock? h m s n)

def stored : Reader DateTime := do
  let d ← date
  blanks
  return ⟨d, ← clock short false⟩

def exchange : Reader DateTime := do
  let d ← date
  literal 'T'
  return ⟨d, ← clock short true⟩

/-- The distance from UTC in seconds: `Z`, or a sign, hours and minutes. -/
def zone : Reader Int := do
  if ← optional ['Z', 'z'] then return 0
  let negative ← optional ['-', '\u2212']
  if !negative then literal '+'
  let hours ← number 2 2
  literal ':'
  let minutes ← number 2 2
  guard (hours < 24 ∧ minutes < 60)
  let seconds : Int := (hours * 3600 + minutes * 60 : Nat)
  return if negative then -seconds else seconds

def zoned : Reader DateTime := do
  let y ← number 4 4
  literal '-'
  let m ← number 2 2
  literal '-'
  let d ← number 2 2
  let date ← ofOption (Date.of? y m d)
  let separated ← optional ['T', 't', ' ']
  guard separated
  let time ← clock (number 2 2) true
  let offset ← zone
  ofOption (DateTime.toUtc? ⟨date, time⟩ offset)

def timestamp (cs : List Char) : Option DateTime := do
  let n ← readInteger cs
  DateTime.ofTimestamp? (← (signed? n).map (·.toInt)) 0

end Reading

/-- The moment that the whole text names. -/
def DateTime.read? (cs : List Char) : Option DateTime :=
  Reading.stored.whole cs
    <|> Reading.exchange.whole cs
    <|> Reading.zoned.whole cs
    <|> (Reading.date.whole cs).map (⟨·, Time.midnight⟩)
    <|> Reading.timestamp cs

end Clausal.Calendar
