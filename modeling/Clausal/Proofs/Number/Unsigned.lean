import Clausal.Value
import Mathlib.Algebra.Ring.Nat
import Mathlib.Data.List.Basic
import Mathlib.Tactic.Lemma

/-!
# Large unsigned numbers

From `2 ^ 63` on an unsigned number is held as the nearest binary64 number, which is a multiple of
2048. Brought back to an integer it is the largest signed one. Written plainly it has at most
seventeen digits before its zeros, so it is a multiple of a hundred.
-/

namespace Clausal.Number

namespace Binary64

lemma pos_one : 0 < one := by
  rw [one, Nat.one_shiftLeft]
  exact Nat.two_pow_pos 1074

lemma shiftLeft_add_one (n k : Nat) : n <<< (k + 1074) = n * 2 ^ k * one := by
  have split (e : Nat) : n <<< (k + e) = n * 2 ^ k * 1 <<< e := by
    rw [Nat.shiftLeft_add, Nat.shiftLeft_eq, Nat.shiftLeft_eq, Nat.one_shiftLeft]
  exact split 1074

lemma one_shiftLeft_add (k : Nat) : 1 <<< (k + 1074) = 2 ^ k * one := by
  rw [shiftLeft_add_one, Nat.one_mul]

lemma shiftRight_add_one (w k : Nat) : (w * one) >>> (k + 1074) = w / 2 ^ k := by
  have split (e : Nat) : (w * 1 <<< e) >>> (k + e) = w / 2 ^ k := by
    rw [Nat.one_shiftLeft, Nat.shiftRight_eq_div_pow, Nat.pow_add,
      Nat.mul_div_mul_right _ _ (Nat.two_pow_pos e)]
  exact split 1074

lemma bitLength_mul_one {w k : Nat} (low : 2 ^ k ≤ w) (high : w < 2 ^ (k + 1)) :
    bitLength (w * one) = k + 1 + 1074 := by
  have shifted (e : Nat) : bitLength (w * 1 <<< e) = k + 1 + e := by
    have nonzero : w * 2 ^ e ≠ 0 := Nat.mul_ne_zero
      (Nat.ne_of_gt (Nat.lt_of_lt_of_le (Nat.two_pow_pos k) low)) (Nat.ne_of_gt (Nat.two_pow_pos e))
    have log : (w * 2 ^ e).log2 = k + e := by
      rw [Nat.log2_eq_iff nonzero, Nat.add_right_comm, Nat.pow_add, Nat.pow_add 2 (k + 1)]
      exact ⟨Nat.mul_le_mul_right _ low, Nat.mul_lt_mul_of_pos_right high (Nat.two_pow_pos e)⟩
    rw [Nat.one_shiftLeft, bitLength, if_neg nonzero, log, Nat.add_right_comm]
  exact shifted 1074

/-! ## Rounding -/

lemma roundDiv_mul_right (num den : Nat) {c : Nat} (hc : 0 < c) :
    roundDiv (num * c) (den * c) = roundDiv num den := by
  have twice : 2 * (num % den * c) = 2 * (num % den) * c := (Nat.mul_assoc ..).symm
  simp only [roundDiv, Nat.mul_div_mul_right _ _ hc, Nat.mul_mod_mul_right, twice,
    Nat.mul_lt_mul_right hc]

/-- A quotient is rounded down below one half, and halfway if it is even; otherwise up. -/
lemma roundDiv_cases (num den : Nat) :
    (roundDiv num den = num / den ∧
      (2 * (num % den) < den ∨ 2 * (num % den) = den ∧ num / den % 2 = 0)) ∨
    (roundDiv num den = num / den + 1 ∧
      (den < 2 * (num % den) ∨ 2 * (num % den) = den ∧ num / den % 2 = 1)) := by
  unfold roundDiv
  simp only
  split
  · omega
  split
  · omega
  split <;> omega

/-- A rounded quotient is off by half a unit at most. -/
lemma roundDiv_near (num : Nat) {den : Nat} (hd : 0 < den) :
    2 * num ≤ 2 * (roundDiv num den * den) + den ∧
      2 * (roundDiv num den * den) ≤ 2 * num + den := by
  have whole : num / den * den + num % den = num := Nat.div_add_mod' num den
  have rest := Nat.mod_lt num hd
  have next : (num / den + 1) * den = num / den * den + den := Nat.succ_mul _ den
  rcases roundDiv_cases num den with ⟨down, _⟩ | ⟨up, _⟩
  · rw [down]
    omega
  · rw [up, next]
    omega

/-- The number of 53 binary digits that is nearest, among those from `2 ^ 63` to `2 ^ 64`. -/
def nearest (n : Nat) : Nat := roundDiv n 2048 * 2048

lemma nearest_bounds {n : Nat} (low : 2 ^ 63 ≤ n) (high : n < 2 ^ 64) :
    2 ^ 63 ≤ nearest n ∧ nearest n ≤ 2 ^ 64 ∧ n ≤ nearest n + 1024 ∧ nearest n ≤ n + 1024 := by
  have near := roundDiv_near n (show 0 < 2048 by decide)
  unfold nearest
  omega

lemma ofInt_large {n : Nat} (low : 2 ^ 63 ≤ n) (high : n < 2 ^ 64) :
    ofInt n = .finite false (nearest n * one) := by
  have excess : bitLength (n * one / 1) - 53 = 11 + 1074 := by
    rw [Nat.div_one, bitLength_mul_one low high]
  have units : roundUnits (n * one) 1 = nearest n * one := by
    rw [roundUnits, excess, one_shiftLeft_add, roundDiv_mul_right n _ pos_one, shiftLeft_add_one]
    rfl
  have small : nearest n * one < limit := by
    have bound (k : Nat) : 2 ^ 64 * one < 1 <<< (65 + k + 1074) := by
      rw [one_shiftLeft_add]
      exact Nat.mul_lt_mul_of_pos_right (Nat.pow_lt_pow_right (by decide) (by omega)) pos_one
    exact Nat.lt_of_le_of_lt (Nat.mul_le_mul_right one (nearest_bounds low high).2.1) (bound 959)
  rw [ofInt, ofRatio, Int.natAbs_natCast, units, ofUnits, if_pos small]
  rfl

/-- What is too large for a signed integer becomes the largest one. -/
lemma truncate_large {w : Nat} (low : 2 ^ 63 ≤ w) :
    truncate (.finite false (w * one)) = Int64.maxValue := by
  have whole : w * one / one = w := Nat.mul_div_cancel w pos_one
  simp only [truncate, whole, Bool.false_eq_true, if_false, clampSigned]
  rw [if_neg (by simp only [minSigned]; omega), if_pos (by simp only [maxSigned]; omega)]

end Binary64

/-! ## The interval of a large number -/

namespace Shortest

open Binary64

lemma Interval.holds_near {i : Interval} {num den : Nat} (h : i.holds num den = true) :
    i.low * den ≤ num ∧ num ≤ i.high * den := by
  unfold Interval.holds at h
  split at h
  · simpa using h
  · have inside : i.low * den < num ∧ num < i.high * den := by simpa using h
    exact ⟨Nat.le_of_lt inside.1, Nat.le_of_lt inside.2⟩

lemma Interval.holds_of_inside {i : Interval} {num den : Nat} (low : i.low * den < num)
    (high : num < i.high * den) : i.holds num den = true := by
  unfold Interval.holds
  split
  · simpa using ⟨Nat.le_of_lt low, Nat.le_of_lt high⟩
  · simpa using ⟨low, high⟩

lemma around_mul_one {w k : Nat} (shift : bitLength (w * one) - 53 = k + 1074) :
    (Interval.around (w * one)).low =
        (4 * w - if w / 2 ^ k = 2 ^ 52 then 2 ^ k else 2 * 2 ^ k) * one ∧
      (Interval.around (w * one)).high = (4 * w + 2 * 2 ^ k) * one := by
  have positive : 0 < k + 1074 := by omega
  simp only [Interval.around, shift, one_shiftLeft_add, shiftRight_add_one, Nat.one_shiftLeft,
    positive, decide_true, Bool.and_true, decide_eq_true_eq, ← Nat.mul_assoc, Nat.sub_mul,
    Nat.add_mul, and_true]
  split <;> rfl

/-- The ends of the interval of `w`, in quarters of one. -/
lemma around_large {w : Nat} (low : 2 ^ 63 ≤ w) (high : w ≤ 2 ^ 64) :
    ∃ below above, (Interval.around (w * one)).low = (4 * w - below) * one ∧
      (Interval.around (w * one)).high = (4 * w + above) * one ∧
      2048 ≤ below ∧ below ≤ 8192 ∧ 0 < above ∧ above ≤ 8192 ∧
      (2 ^ 63 + 2048 ≤ w → 4096 ≤ below) := by
  rcases Nat.lt_or_eq_of_le high with high | rfl
  · obtain ⟨lower, upper⟩ := around_mul_one (w := w) (k := 11) (by rw [bitLength_mul_one low high])
    refine ⟨_, _, lower, upper, ?_⟩
    split <;> omega
  · obtain ⟨lower, upper⟩ := around_mul_one (w := 2 ^ 64) (k := 12)
      (by rw [bitLength_mul_one (Nat.le_refl _) (by decide)])
    refine ⟨_, _, lower, upper, ?_⟩
    split <;> omega

/-! ## Digits -/

lemma length_toDigits {n k : Nat} (hk : 0 < k) (low : 10 ^ k ≤ n) (high : n < 10 ^ (k + 1)) :
    (Nat.toDigits 10 n).length = k + 1 := by
  have most := (Nat.length_toDigits_le_iff (b := 10) (by decide) (Nat.succ_pos k)).mpr high
  have least := mt (Nat.length_toDigits_le_iff (b := 10) (by decide) hk).mp (Nat.not_lt.mpr low)
  omega

lemma pointOf_mul_one {w k : Nat} (hk : 0 < k) (low : 10 ^ k ≤ w) (high : w < 10 ^ (k + 1)) :
    pointOf (w * one) = k + 1 := by
  have whole (power : Nat) : w * one * power / one = w * power := by
    rw [Nat.mul_right_comm, Nat.mul_div_cancel _ pos_one]
  have length (e : Nat) : (Nat.toDigits 10 (w * Nat.pow 10 e)).length = k + e + 1 := by
    apply length_toDigits (by omega)
    · rw [Nat.pow_add]
      exact Nat.mul_le_mul_right _ low
    · rw [Nat.add_right_comm, Nat.pow_add]
      exact Nat.mul_lt_mul_of_pos_right high (Nat.pow_pos (by decide))
  have back : ((k + 400 + 1 : Nat) : Int) - 400 = k + 1 := by omega
  simp only [pointOf, whole, length]
  exact back

lemma toDigits_mul_pow {d : Nat} (hd : 0 < d) (k : Nat) :
    Nat.toDigits 10 (d * 10 ^ k) = Nat.toDigits 10 d ++ List.replicate k '0' := by
  induction k with
  | zero => simp
  | succ k ih =>
    have positive : 0 < d * 10 ^ k := Nat.mul_pos hd (Nat.pow_pos (by decide))
    have next := Nat.toDigits_append_toDigits (b := 10) (d := 0) (by decide) positive (by decide)
    have tenfold : d * 10 ^ (k + 1) = 10 * (d * 10 ^ k) + 0 := by
      rw [Nat.pow_succ, Nat.add_zero, ← Nat.mul_assoc, Nat.mul_comm]
    rw [tenfold, ← next, ih, List.replicate_succ', List.append_assoc]
    rfl

/-- Zeros that were dropped are written again. -/
lemma dropZeros_append (digits : List Char) :
    dropZeros digits ++ List.replicate (digits.length - (dropZeros digits).length) '0' =
      digits := by
  have zeros : digits.reverse.takeWhile (· == '0') =
      List.replicate (digits.reverse.takeWhile (· == '0')).length '0' := by
    refine List.eq_replicate_of_mem fun c hc => ?_
    simpa using List.all_eq_true.mp List.all_takeWhile c hc
  have split : dropZeros digits ++ (digits.reverse.takeWhile (· == '0')).reverse = digits := by
    rw [dropZeros, ← List.reverse_append, List.takeWhile_append_dropWhile, List.reverse_reverse]
  have length : (digits.reverse.takeWhile (· == '0')).length =
      digits.length - (dropZeros digits).length := by
    have := congrArg List.length split
    rw [List.length_append, List.length_reverse] at this
    omega
  rw [← length]
  rw [zeros, List.reverse_replicate] at split
  simpa using split

/-! ## The search -/

lemma onGrid_holds {tie : Tie} {units : Nat} {places : Int} {d : Nat}
    (h : onGrid tie units places = some d) :
    (Interval.around units).holds (d * (4 * one * Nat.pow 10 (-places).toNat))
      (Nat.pow 10 places.toNat) = true := by
  unfold onGrid at h
  simp only at h
  split at h
  · next below above =>
    split at h
    · exact Option.some.inj h ▸ below
    split at h
    · exact Option.some.inj h ▸ above
    split at h
    · exact Option.some.inj h ▸ below
    · exact Option.some.inj h ▸ above
  · next below _ => exact Option.some.inj h ▸ below
  · next _ above => exact Option.some.inj h ▸ above
  · cases h

lemma isSome_onGrid {tie : Tie} {units : Nat} {places : Int}
    (h : let step := 4 * one * Nat.pow 10 (-places).toNat
      (Interval.around units).holds
        (4 * units * Nat.pow 10 places.toNat / step * step) (Nat.pow 10 places.toNat) = true) :
    (onGrid tie units places).isSome = true := by
  unfold onGrid
  simp only at h ⊢
  rw [h]
  split
  · split
    · rfl
    split
    · rfl
    split <;> rfl
  · rfl
  · next no _ => cases no
  · next no _ => cases no

/-- The grid of the `i`-th search holds the multiples of `10 ^ (k - i)`. -/
lemma grid_of_le {i k : Nat} (h : i ≤ k) :
    ((i : Int) + 1 - (k + 1)).toNat = 0 ∧
      ∀ d, d * (4 * one * Nat.pow 10 (-((i : Int) + 1 - (k + 1))).toNat) =
        4 * (d * 10 ^ (k - i)) * one := by
  have places : (-((i : Int) + 1 - (k + 1))).toNat = k - i := by omega
  refine ⟨by omega, fun d => ?_⟩
  rw [places]
  change d * (4 * one * 10 ^ (k - i)) = _
  ac_rfl

lemma onGrid_near {tie : Tie} {w i k d : Nat} (low : 2 ^ 63 ≤ w) (high : w ≤ 2 ^ 64) (hi : i ≤ k)
    (h : onGrid tie (w * one) ((i : Int) + 1 - (k + 1)) = some d) :
    d * 10 ^ (k - i) ≤ w + 2048 ∧ w ≤ d * 10 ^ (k - i) + 2048 := by
  obtain ⟨whole, grid⟩ := grid_of_le hi
  obtain ⟨below, above, lower, upper, _, hbelow, _, habove, _⟩ := around_large low high
  have near := Interval.holds_near (onGrid_holds h)
  rw [whole, grid, lower, upper] at near
  change _ * 1 ≤ _ ∧ _ ≤ _ * 1 at near
  rw [Nat.mul_one, Nat.mul_one] at near
  have least := Nat.le_of_mul_le_mul_right near.1 pos_one
  have most := Nat.le_of_mul_le_mul_right near.2 pos_one
  omega

/-- Seventeen digits are enough. -/
lemma isSome_onGrid_large (tie : Tie) {w k : Nat} (low : 2 ^ 63 ≤ w) (high : w ≤ 2 ^ 64)
    (hk : k = 18 ∨ k = 19) (digits : 10 ^ k ≤ w) :
    (onGrid tie (w * one) (((16 : Nat) : Int) + 1 - (k + 1))).isSome = true := by
  obtain ⟨whole, grid⟩ := grid_of_le (i := 16) (k := k) (by omega)
  obtain ⟨below, above, lower, upper, near, _, positive, _, farther⟩ := around_large low high
  have step := grid 1
  rw [Nat.one_mul, Nat.one_mul] at step
  have quotient : 4 * (w * one) * 1 / (4 * 10 ^ (k - 16) * one) = w / 10 ^ (k - 16) := by
    rw [Nat.mul_one, ← Nat.mul_assoc, Nat.mul_div_mul_right _ _ pos_one,
      Nat.mul_div_mul_left _ _ (by decide)]
  have rest : w / 10 ^ (k - 16) * 10 ^ (k - 16) + w % 10 ^ (k - 16) = w := Nat.div_add_mod' w _
  have short : 4 * (w % 10 ^ (k - 16)) < below := by
    rcases hk with rfl | rfl
    · have := Nat.mod_lt w (show 0 < 10 ^ (18 - 16) by decide)
      omega
    · have := Nat.mod_lt w (show 0 < 10 ^ (19 - 16) by decide)
      have := farther (by omega)
      omega
  apply isSome_onGrid
  intro _
  rw [whole]
  change (Interval.around (w * one)).holds
    (4 * (w * one) * 1 / (4 * one * Nat.pow 10 _) * (4 * one * Nat.pow 10 _)) 1 = true
  rw [grid, step, quotient]
  apply Interval.holds_of_inside
  · rw [lower, Nat.mul_one]
    exact Nat.mul_lt_mul_of_pos_right (by omega) pos_one
  · rw [upper, Nat.mul_one]
    exact Nat.mul_lt_mul_of_pos_right (by omega) pos_one

lemma exists_digits {w : Nat} (low : 2 ^ 63 ≤ w) (high : w ≤ 2 ^ 64) :
    ∃ k, (k = 18 ∨ k = 19) ∧ 10 ^ k ≤ w ∧ w < 10 ^ (k + 1) := by
  by_cases more : 10 ^ 19 ≤ w
  · exact ⟨19, Or.inr rfl, more, by omega⟩
  · exact ⟨18, Or.inl rfl, by omega, by omega⟩

/-- The shortest decimal is one that a search found, unless none did. -/
lemma shortest_cases (tie : Tie) {units : Nat} {point : Int} (hp : pointOf units = point) :
    (∃ i d, i < 17 ∧ onGrid tie units ((i : Nat) + 1 - point) = some d ∧
        shortest tie units = ⟨dropZeros (Nat.toDigits 10 d),
          ((Nat.toDigits 10 d).length : Int) - (i + 1 - point)⟩) ∨
      ∀ i < 17, onGrid tie units ((i : Nat) + 1 - point) = none := by
  subst hp
  let search (n : Nat) : Option (List Char × Int) :=
    (onGrid tie units ((n : Nat) + 1 - pointOf units)).map fun d =>
      (Nat.toDigits 10 d, (n : Int) + 1 - pointOf units)
  have searched {hit? : Option (List Char × Int)}
      (found : (List.range 17).findSome? search = hit?) : shortest tie units =
        hit?.elim ⟨['0'], 1⟩ fun hit => ⟨dropZeros hit.1, (hit.1.length : Int) - hit.2⟩ := by
    unfold shortest
    simp only [search] at found
    simp only [found]
    cases hit? <;> rfl
  cases found : (List.range 17).findSome? search with
  | none =>
    right
    intro i hi
    exact Option.map_eq_none_iff.mp (List.findSome?_eq_none_iff.mp found i (List.mem_range.mpr hi))
  | some hit =>
    obtain ⟨i, mem, first⟩ := List.exists_of_findSome?_eq_some found
    obtain ⟨d, onGrid, rfl⟩ := Option.map_eq_some_iff.mp first
    exact Or.inl ⟨i, d, List.mem_range.mp mem, onGrid, searched found⟩

/-- A large number has at least two zeros behind its shortest digits. -/
lemma shortest_large (tie : Tie) {w : Nat} (low : 2 ^ 63 ≤ w) (high : w ≤ 2 ^ 64) :
    ∃ d zeros : Nat, 2 ≤ zeros ∧ d * 10 ^ zeros ≤ w + 2048 ∧ w ≤ d * 10 ^ zeros + 2048 ∧
      shortest tie (w * one) = ⟨dropZeros (Nat.toDigits 10 d),
        ((Nat.toDigits 10 d).length : Int) + zeros⟩ := by
  obtain ⟨k, hk, least, most⟩ := exists_digits low high
  have point : pointOf (w * one) = k + 1 := pointOf_mul_one (by omega) least most
  rcases shortest_cases tie point with ⟨i, d, hi, onGrid, digits⟩ | missed
  · obtain ⟨above, below⟩ := onGrid_near low high (by omega) onGrid
    have places : ((Nat.toDigits 10 d).length : Int) - (i + 1 - (k + 1)) =
        ((Nat.toDigits 10 d).length : Int) + ((k - i : Nat) : Int) := by omega
    rw [places] at digits
    exact ⟨d, k - i, by omega, above, below, digits⟩
  · have last := isSome_onGrid_large tie low high hk least
    rw [missed 16 (by decide)] at last
    cases last

end Shortest

/-! ## Text -/

open Binary64

/-- A whole number is written with its zeros. -/
lemma spread_dropZeros (digits : List Char) {zeros : Nat} (h : 0 < zeros) :
    Layout.spread false ⟨Shortest.dropZeros digits, (digits.length : Int) + zeros⟩ =
      digits ++ List.replicate zeros '0' := by
  have again := Shortest.dropZeros_append digits
  have shorter : (Shortest.dropZeros digits).length ≤ digits.length := by
    have := congrArg List.length again
    rw [List.length_append] at this
    omega
  have written : (((digits.length : Int) + zeros) - (Shortest.dropZeros digits).length).toNat =
      digits.length - (Shortest.dropZeros digits).length + zeros := by omega
  rw [Layout.spread, if_neg (by simp only; omega), if_pos (by simp only; omega)]
  simp only [written, Bool.false_eq_true, if_false, List.append_nil]
  rw [← List.replicate_append_replicate, ← List.append_assoc, again]

/-- The plain text of a large number is a multiple of a hundred near it. -/
lemma plain_large {w : Nat} (low : 2 ^ 63 ≤ w) (high : w ≤ 2 ^ 64) :
    ∃ m, Layout.plain.write (.finite false (w * one)) = toString m ∧ 100 ∣ m ∧
      m ≤ w + 2048 ∧ w ≤ m + 2048 := by
  obtain ⟨d, zeros, two, above, below, decimal⟩ := Shortest.shortest_large .up low high
  refine ⟨d * 10 ^ zeros, ?_, ?_, above, below⟩
  · have positive : 0 < d := Nat.pos_of_ne_zero (by rintro rfl; omega)
    have nonzero : w * one ≠ 0 := Nat.mul_ne_zero (by omega) (Nat.ne_of_gt pos_one)
    have magnitude : Layout.plain.magnitude (w * one) = Nat.toDigits 10 (d * 10 ^ zeros) := by
      rw [Layout.magnitude, if_neg nonzero]
      simp only [Layout.plain, decimal, if_true]
      rw [spread_dropZeros _ (by omega), Shortest.toDigits_mul_pow positive]
    rw [Layout.write, magnitude]
    exact Nat.repr_eq_ofList_toDigits.symm
  · exact Nat.dvd_mul_left_of_dvd (Nat.pow_dvd_pow 10 two) d

end Clausal.Number
