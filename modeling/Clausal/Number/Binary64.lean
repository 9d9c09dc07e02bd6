import Clausal.Number.Signed

/-!
# Binary64 numbers

Every finite binary64 number is a whole number of units of `2 ^ (-1074)`, so a magnitude is a
natural number and every conversion is exact arithmetic followed by one rounding. A number with more
than 53 binary digits is rounded to the nearest one with 53, ties to even; what is then at least
`2 ^ 1024` is infinite.
-/

namespace Clausal.Number

inductive Binary64 where
  | finite (negative : Bool) (units : Nat)
  | infinite (negative : Bool)
  | nan
  deriving DecidableEq, Repr, Inhabited

namespace Binary64

/-- The number of units in one. -/
def one : Nat := 1 <<< 1074

/-- The number of units in `2 ^ 1024`, the first magnitude that is infinite. -/
def limit : Nat := 1 <<< 2098

/-- The number of binary digits. -/
def bitLength (n : Nat) : Nat :=
  if n = 0 then 0 else n.log2 + 1

/-- The quotient rounded to the nearest whole number, a half to the even neighbour. -/
def roundDiv (num den : Nat) : Nat :=
  let q := num / den
  let twice := 2 * (num % den)
  if twice < den then q
  else if den < twice then q + 1
  else if q % 2 = 0 then q else q + 1

/-- The units of the number nearest to `num / den` units, were there no largest number. -/
def roundUnits (num den : Nat) : Nat :=
  let excess := bitLength (num / den) - 53
  (roundDiv num (den <<< excess)) <<< excess

def ofUnits (negative : Bool) (units : Nat) : Binary64 :=
  if units < limit then .finite negative units else .infinite negative

/-- The number nearest to `num / den`. -/
def ofRatio (negative : Bool) (num den : Nat) : Binary64 :=
  ofUnits negative (roundUnits (num * one) den)

def ofInt (n : Int) : Binary64 :=
  ofRatio (n < 0) n.natAbs 1

def zero : Binary64 := .finite false 0

/-- The number nearest to `digits * 10 ^ exponent`. Exponents that no digits can bring back into
range are decided without computing the power. -/
def ofDecimal (negative : Bool) (digits : Nat) (exponent : Int) : Binary64 :=
  if digits = 0 then .finite negative 0
  else if 400 < exponent then .infinite negative
  else if exponent + bitLength digits < -400 then .finite negative 0
  else ofRatio negative (digits * Nat.pow 10 exponent.toNat) (Nat.pow 10 (-exponent).toNat)

/-- Equality of numbers: the two zeros are equal and `nan` equals nothing. -/
def same : Binary64 → Binary64 → Bool
  | .finite s a, .finite t b => a == b && (s == t || a == 0)
  | .infinite s, .infinite t => s == t
  | _, _ => false

def isZero : Binary64 → Bool
  | .finite _ units => units == 0
  | _ => false

/-- The whole part, brought into range; `nan` gives zero. -/
def truncate : Binary64 → Int64
  | .finite negative units =>
    let whole : Int := (units / one : Nat)
    clampSigned (if negative then -whole else whole)
  | .infinite negative => if negative then Int64.minValue else Int64.maxValue
  | .nan => 0

/-! The interchange formats: sign, biased exponent and fraction, from the highest bit down. -/

def ofBits (bits : UInt64) : Binary64 :=
  let n := bits.toNat
  let fraction := n % (1 <<< 52)
  let exponent := n >>> 52 % 2048
  let negative := n >>> 63 == 1
  if exponent = 2047 then
    if fraction = 0 then .infinite negative else .nan
  else if exponent = 0 then .finite negative fraction
  else .finite negative ((1 <<< 52 + fraction) <<< (exponent - 1))

def toBits : Binary64 → UInt64
  | .finite negative units =>
    let shift := bitLength units - 53
    UInt64.ofNat (negative.toNat <<< 63 + shift <<< 52 + units >>> shift)
  | .infinite negative => UInt64.ofNat (negative.toNat <<< 63 + 2047 <<< 52)
  | .nan => 0x7FF8000000000000

/-- A binary32 number, which binary64 holds exactly. -/
def ofBits32 (bits : UInt32) : Binary64 :=
  let n := bits.toNat
  let fraction := n % (1 <<< 23)
  let exponent := n >>> 23 % 256
  let negative := n >>> 31 == 1
  if exponent = 255 then
    if fraction = 0 then .infinite negative else .nan
  else if exponent = 0 then .finite negative (fraction <<< 925)
  else .finite negative ((1 <<< 23 + fraction) <<< (exponent - 1 + 925))

end Binary64

end Clausal.Number
