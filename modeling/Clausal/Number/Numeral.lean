import Clausal.Number.Binary64
import Clausal.Number.Digit

/-!
# Numerals at the start of a text

A numeral is an optional sign, digits with an optional point among, before or after them, and an
optional exponent; at least one digit stands outside the exponent. `Numeral.scan` reads the longest
one a text begins with, and a numeral is worth an integer or a binary64 number.
-/

namespace Clausal.Number

def isSign (c : Char) : Bool := c == '+' || c == '-'

/-- A leading sign and what follows it. -/
def takeSign : List Char → List Char × List Char
  | c :: rest => if isSign c then ([c], rest) else ([], c :: rest)
  | [] => ([], [])

/-- The parts of a numeral, as written. The fraction holds its point, the exponent its letter. -/
structure Numeral where
  sign : List Char
  whole : List Char
  fraction : List Char
  exponent : List Char
  deriving DecidableEq, Repr

namespace Numeral

def text (n : Numeral) : List Char :=
  n.sign ++ n.whole ++ n.fraction ++ n.exponent

/-- A point with the digits after it; a point alone only where digits stand before it. -/
def scanFraction (afterDigits : Bool) : List Char → List Char
  | [] => []
  | c :: rest =>
    let digits := rest.takeWhile isDigit
    if c = '.' && (afterDigits || !digits.isEmpty) then c :: digits else []

/-- An exponent mark with an optional sign and at least one digit. -/
def scanExponent : List Char → List Char
  | [] => []
  | c :: rest =>
    let (sign, afterSign) := takeSign rest
    let digits := afterSign.takeWhile isDigit
    if (c = 'e' || c = 'E') && !digits.isEmpty then c :: (sign ++ digits) else []

/-- The longest numeral at the start of `cs`. -/
def scan (cs : List Char) : Option Numeral :=
  let (sign, afterSign) := takeSign cs
  let whole := afterSign.takeWhile isDigit
  let afterWhole := afterSign.dropWhile isDigit
  let fraction := scanFraction (!whole.isEmpty) afterWhole
  if whole.isEmpty && fraction.isEmpty then none
  else
    let exponent := scanExponent (afterWhole.drop fraction.length)
    some ⟨sign, whole, fraction, exponent⟩

def negative (n : Numeral) : Bool :=
  n.sign == ['-']

/-- The integer that is written, if there is neither a point nor an exponent. -/
def integer? (n : Numeral) : Option Int :=
  if n.fraction.isEmpty && n.exponent.isEmpty then
    let value : Int := valueOf n.whole
    some (if n.negative then -value else value)
  else none

def exponentValue (n : Numeral) : Int :=
  let (sign, digits) := takeSign (n.exponent.drop 1)
  if sign == ['-'] then -(valueOf digits : Int) else valueOf digits

/-- The binary64 number nearest to what is written. -/
def toBinary64 (n : Numeral) : Binary64 :=
  let places := n.fraction.drop 1
  Binary64.ofDecimal n.negative (valueOf (n.whole ++ places))
    (n.exponentValue - (places.length : Int))

/-- The integer that is written, where it fits; else the whole part of the nearest binary64
number, brought into range. -/
def toSigned (n : Numeral) : Int64 :=
  match n.integer?.bind signed? with
  | some i => i
  | none => n.toBinary64.truncate

end Numeral

/-- The integer written by the whole text: an optional sign and digits. -/
def readInteger (cs : List Char) : Option Int :=
  match Numeral.scan cs with
  | some n => if n.text == cs then n.integer? else none
  | none => none

end Clausal.Number
