import Clausal.Number.Digit
import Clausal.Text.Blank
import Mathlib.Algebra.Ring.Nat

/-!
# Digits and their numbers

What a digit is by its code, and how large the number of some digits is.
-/

namespace Clausal.Number

lemma isDigit_bounds {c : Char} (h : isDigit c = true) : 48 ≤ c.toNat ∧ c.toNat ≤ 57 := by
  simpa [isDigit, Char.le_def, UInt32.le_iff_toNat_le] using h

lemma not_isBlank_of_isDigit {c : Char} (h : isDigit c = true) : Text.isBlank c = false := by
  have range := isDigit_bounds h
  simp [Text.isBlank]
  omega

lemma ofDigitChars_lt {ds : List Char} (digits : ∀ d ∈ ds, isDigit d = true) (n : Nat) :
    Nat.ofDigitChars 10 ds n < (n + 1) * 10 ^ ds.length := by
  induction ds generalizing n with
  | nil => simp
  | cons d ds ih =>
    rw [List.forall_mem_cons] at digits
    have small : d.toNat - '0'.toNat < 10 := by
      have range := isDigit_bounds digits.1
      have zero : '0'.toNat = 48 := rfl
      omega
    have tail := ih digits.2 (10 * n + (d.toNat - '0'.toNat))
    have more : (10 * n + (d.toNat - '0'.toNat) + 1) * 10 ^ ds.length ≤
        (n + 1) * 10 * 10 ^ ds.length := Nat.mul_le_mul_right _ (by omega)
    rw [Nat.ofDigitChars_cons, List.length_cons, Nat.pow_succ, Nat.mul_comm (10 ^ _),
      ← Nat.mul_assoc]
    omega

lemma valueOf_lt {ds : List Char} (digits : ∀ d ∈ ds, isDigit d = true) :
    valueOf ds < 10 ^ ds.length := by
  have bound := ofDigitChars_lt digits 0
  rwa [Nat.zero_add, Nat.one_mul] at bound

/-- Digits behind others shift these to the left. -/
lemma valueOf_append (ds es : List Char) :
    valueOf (ds ++ es) = valueOf ds * 10 ^ es.length + valueOf es := by
  change Nat.ofDigitChars 10 (ds ++ es) 0 = _
  rw [Nat.ofDigitChars_append, Nat.ofDigitChars_eq_ofDigitChars_zero, Nat.mul_comm]
  rfl

end Clausal.Number
