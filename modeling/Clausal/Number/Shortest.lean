import Clausal.Number.Binary64

/-!
# Shortest decimals

A positive binary64 number is written with the fewest decimal digits that are nearer to it than to
any other number, and among those with the nearest digits. `Tie` says which of two equally near ones
is taken.
-/

namespace Clausal.Number

inductive Tie where
  | up
  | even
  deriving DecidableEq, Repr

/-- The decimal `0.d₁d₂… * 10 ^ point`. -/
structure Decimal where
  digits : List Char
  point : Int
  deriving DecidableEq, Repr

namespace Shortest

/-- The place of the decimal point of `units`: `10 ^ (p - 1) ≤ units < 10 ^ p`, as numbers. -/
def pointOf (units : Nat) : Int :=
  ((Nat.toDigits 10 (units * Nat.pow 10 400 / Binary64.one)).length : Int) - 400

/-- The numbers between the ends round to `units`; all of them are counted in quarters of a unit.
The ends themselves do so iff the significand is even. -/
structure Interval where
  low : Nat
  high : Nat
  closed : Bool

def Interval.around (units : Nat) : Interval :=
  let shift := Binary64.bitLength units - 53
  let gap := 1 <<< shift
  let significand := units >>> shift
  let below := if significand = 1 <<< 52 && 0 < shift then gap else 2 * gap
  ⟨4 * units - below, 4 * units + 2 * gap, significand % 2 = 0⟩

/-- Whether `num / den` quarters lie in the interval. -/
def Interval.holds (i : Interval) (num den : Nat) : Bool :=
  if i.closed then i.low * den ≤ num && num ≤ i.high * den
  else i.low * den < num && num < i.high * den

/-- The best multiple of `10 ^ (-places)` that rounds to `units`, if one does. -/
def onGrid (tie : Tie) (units : Nat) (places : Int) : Option Nat :=
  let scale := Nat.pow 10 places.toNat
  let step := 4 * Binary64.one * Nat.pow 10 (-places).toNat
  let value := 4 * units * scale
  let below := value / step
  let interval := Interval.around units
  let fits (d : Nat) := interval.holds (d * step) scale
  match fits below, fits (below + 1) with
  | true, true =>
    let down := value - below * step
    let up := (below + 1) * step - value
    if down < up then some below
    else if up < down then some (below + 1)
    else if tie = .even && below % 2 = 0 then some below else some (below + 1)
  | true, false => some below
  | false, true => some (below + 1)
  | false, false => none

def dropZeros (digits : List Char) : List Char :=
  (digits.reverse.dropWhile (· == '0')).reverse

end Shortest

/-- The shortest decimal of a positive number of units; seventeen digits always suffice. -/
def shortest (tie : Tie) (units : Nat) : Decimal :=
  let point := Shortest.pointOf units
  let found := (List.range 17).findSome? fun (n : Nat) =>
    let places := (n : Int) + 1 - point
    (Shortest.onGrid tie units places).map fun d => (Nat.toDigits 10 d, places)
  match found with
  | some (digits, places) => ⟨Shortest.dropZeros digits, (digits.length : Int) - places⟩
  | none => ⟨['0'], 1⟩

end Clausal.Number
