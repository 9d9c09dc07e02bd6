import Clausal.Number.Shortest

/-!
# Layouts of decimals

A layout says how a decimal becomes text: which decimals are written positionally and which with an
exponent, whether a whole number keeps a `.0`, and what stands for the numbers without digits.
-/

namespace Clausal.Number

structure Layout where
  tie : Tie
  /-- The places of the decimal point that are written positionally. -/
  positional : Int → Bool
  /-- Whether a whole number is followed by `.0`. -/
  keepsPoint : Bool
  nan : String
  infinity : String
  negativeInfinity : String

namespace Layout

/-- Positional notation of `0.digits * 10 ^ point`. -/
def spread (keepsPoint : Bool) (d : Decimal) : List Char :=
  let length : Int := d.digits.length
  if d.point ≤ 0 then
    '0' :: '.' :: (List.replicate (-d.point).toNat '0' ++ d.digits)
  else if length ≤ d.point then
    d.digits ++ List.replicate (d.point - length).toNat '0' ++
      (if keepsPoint then ['.', '0'] else [])
  else
    d.digits.take d.point.toNat ++ '.' :: d.digits.drop d.point.toNat

/-- One digit, the others after a point, and a signed exponent. -/
def withExponent (d : Decimal) : List Char :=
  let exponent := d.point - 1
  let significand := match d.digits with
    | [] => ['0']
    | [c] => [c]
    | c :: rest => c :: '.' :: rest
  significand ++ 'e' :: (if exponent < 0 then '-' else '+') :: Nat.toDigits 10 exponent.natAbs

def magnitude (layout : Layout) (units : Nat) : List Char :=
  if units = 0 then '0' :: (if layout.keepsPoint then ['.', '0'] else [])
  else
    let d := shortest layout.tie units
    if layout.positional d.point then spread layout.keepsPoint d else withExponent d

def write (layout : Layout) : Binary64 → String
  | .finite negative units =>
    String.ofList ((if negative then ['-'] else []) ++ layout.magnitude units)
  | .infinite negative => if negative then layout.negativeInfinity else layout.infinity
  | .nan => layout.nan

/-- Plain text of numbers: always positional, whole numbers without a point, a tie upward. -/
def plain : Layout := ⟨.up, fun _ => true, false, "NaN", "inf", "-inf"⟩

/-- Numbers in JSON: positional from `0.00001` to below `1e+16`, whole numbers with `.0`, a tie to
the even digit, and `null` for what JSON cannot write. -/
def json : Layout := ⟨.even, fun p => -5 < p && p ≤ 16, true, "null", "null", "null"⟩

end Layout

/-- The text with exactly `places` digits after the point, a half to the even digit. -/
def fixed (places : Nat) : Binary64 → String
  | .finite negative units =>
    let scale := Nat.pow 10 places
    let n := Binary64.roundDiv (units * scale) Binary64.one
    let fraction := Nat.toDigits 10 (n % scale)
    String.ofList ((if negative then ['-'] else []) ++ Nat.toDigits 10 (n / scale) ++
      '.' :: (List.replicate (places - fraction.length) '0' ++ fraction))
  | .infinite negative => if negative then "-inf" else "inf"
  | .nan => "NaN"

end Clausal.Number
