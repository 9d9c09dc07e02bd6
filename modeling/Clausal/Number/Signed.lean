/-!
# Signed 64-bit integers

Two ways of bringing an integer into the range of `Int64`: refusing what lies outside, and taking
the nearest end of the range.
-/

namespace Clausal.Number

def minSigned : Int := -9223372036854775808

def maxSigned : Int := 9223372036854775807

def signed? (n : Int) : Option Int64 :=
  if minSigned ≤ n ∧ n ≤ maxSigned then some (Int64.ofInt n) else none

def clampSigned (n : Int) : Int64 :=
  if n < minSigned then Int64.minValue else if maxSigned < n then Int64.maxValue else Int64.ofInt n

theorem toInt_of_signed? {n : Int} {i : Int64} (h : signed? n = some i) : i.toInt = n := by
  unfold signed? minSigned maxSigned at h
  split at h
  · next hn =>
    obtain rfl := Option.some.inj h
    exact Int64.toInt_ofInt_of_le (by omega) (by omega)
  · contradiction

theorem signed?_toInt (i : Int64) : signed? i.toInt = some i := by
  have := i.toInt_lt
  have := i.le_toInt
  unfold signed? minSigned maxSigned
  rw [if_pos (by omega), Int64.ofInt_toInt]

end Clausal.Number
