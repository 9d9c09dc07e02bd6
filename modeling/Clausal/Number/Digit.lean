/-!
# Decimal digits

The ASCII digits and the natural number that a run of them writes.
-/

namespace Clausal.Number

def isDigit (c : Char) : Bool := '0' ≤ c && c ≤ '9'

def digitValue (c : Char) : Nat := c.toNat - '0'.toNat

def valueOf (digits : List Char) : Nat :=
  digits.foldl (fun n c => 10 * n + digitValue c) 0

end Clausal.Number
