import Clausal.Proofs.Number.Unsigned

/-!
# Whole parts of rounded numbers

The number nearest to a ratio may have another whole part than the ratio. Below `2 ^ 53` it is one
more where the ratio is as good as the next whole number; from there on only the multiples of a
power of two are numbers at all, and the nearest one is taken.
-/

namespace Clausal.Number.Binary64

/-! ## Binary digits -/

lemma bitLength_le_iff {n k : Nat} : bitLength n ≤ k ↔ n < 2 ^ k := by
  unfold bitLength
  split
  · next zero =>
    rw [zero]
    exact iff_of_true (Nat.zero_le k) (Nat.two_pow_pos k)
  · next nonzero =>
    rw [Nat.add_one_le_iff, Nat.log2_lt nonzero]

lemma lt_two_pow_bitLength (n : Nat) : n < 2 ^ bitLength n := bitLength_le_iff.mp (Nat.le_refl _)

lemma two_pow_le {n k : Nat} (h : k < bitLength n) : 2 ^ k ≤ n :=
  Nat.le_of_not_lt fun less => absurd (bitLength_le_iff.mpr less) (Nat.not_le.mpr h)

lemma two_pow_mul_one (k : Nat) : 2 ^ k * one = 2 ^ (k + 1074) := by
  rw [← one_shiftLeft_add, Nat.one_shiftLeft]

variable {num den m : Nat}

/-- A ratio in units has 1074 binary digits more than its whole part, unless this is zero. -/
lemma bitLength_units (hd : 0 < den) :
    bitLength (num * one / den) ≤ bitLength (num / den) + 1074 ∧
      (num / den ≠ 0 → bitLength (num * one / den) = bitLength (num / den) + 1074) := by
  have most : bitLength (num * one / den) ≤ bitLength (num / den) + 1074 := by
    rw [bitLength_le_iff, ← two_pow_mul_one, Nat.div_lt_iff_lt_mul hd, Nat.mul_right_comm]
    refine Nat.mul_lt_mul_of_pos_right ?_ pos_one
    exact (Nat.div_lt_iff_lt_mul hd).mp (lt_two_pow_bitLength _)
  refine ⟨most, fun nonzero => Nat.le_antisymm most ?_⟩
  obtain ⟨k, hk⟩ : ∃ k, bitLength (num / den) = k + 1 := by
    rw [bitLength, if_neg nonzero]
    exact ⟨_, rfl⟩
  have least : 2 ^ k * den ≤ num :=
    (Nat.le_div_iff_mul_le hd).mp (two_pow_le (by rw [hk]; exact Nat.lt_succ_self k))
  have units : 2 ^ (k + 1074) ≤ num * one / den := by
    rw [← two_pow_mul_one, Nat.le_div_iff_mul_le hd, Nat.mul_right_comm]
    exact Nat.mul_le_mul_right one least
  have less := mt bitLength_le_iff.mp (Nat.not_lt.mpr units)
  omega

/-! ## Rounded quotients -/

lemma le_roundDiv {t : Nat} (hd : 0 < den) (h : t * den ≤ num) : t ≤ roundDiv num den := by
  have whole := (Nat.le_div_iff_mul_le hd).mpr h
  rcases roundDiv_cases num den with ⟨down, _⟩ | ⟨up, _⟩
  · rwa [down]
  · rw [up]
    exact Nat.le_succ_of_le whole

lemma roundDiv_le_iff {t : Nat} (hd : 0 < den) :
    roundDiv num den ≤ t ↔
      2 * num < (2 * t + 1) * den ∨ 2 * num = (2 * t + 1) * den ∧ t % 2 = 0 := by
  have whole : num / den * den + num % den = num := Nat.div_add_mod' num den
  have rest := Nat.mod_lt num hd
  have half : (2 * t + 1) * den = 2 * (t * den) + den := by
    rw [Nat.add_mul, Nat.mul_assoc, Nat.one_mul]
  have rounded := roundDiv_cases num den
  rw [half]
  generalize num / den = q at *
  rcases Nat.lt_trichotomy q t with less | rfl | more
  · have next : (q + 1) * den ≤ t * den := Nat.mul_le_mul_right den less
    rw [Nat.succ_mul] at next
    exact iff_of_true (by omega) (Or.inl (by omega))
  · omega
  · have next : (t + 1) * den ≤ q * den := Nat.mul_le_mul_right den more
    rw [Nat.succ_mul] at next
    exact iff_of_false (by omega) (by omega)

/-! ## The whole part of the nearest number -/

/-- The whole part of the number nearest to `num / den`. -/
def nearestWhole (num den : Nat) : Nat := roundUnits (num * one) den / one

/-- The whole part of `num / den` rounded to some binary places. -/
def roundedWhole (places num den : Nat) : Nat := roundDiv (num * 2 ^ places) den / 2 ^ places

lemma one_split {e j : Nat} (h : e + j = 1074) : one = 2 ^ j * 2 ^ e := by
  rw [one, ← h, Nat.one_shiftLeft, Nat.add_comm, Nat.pow_add]

/-- The last digit of the nearest number stands behind the point. -/
lemma nearestWhole_of_places {e j : Nat} (h : e + j = 1074)
    (digits : bitLength (num * one / den) - 53 = e) :
    nearestWhole num den = roundedWhole j num den := by
  rw [nearestWhole, roundUnits, digits, roundedWhole, one_split h, Nat.shiftLeft_eq,
    Nat.shiftLeft_eq, ← Nat.mul_assoc, roundDiv_mul_right _ _ (Nat.two_pow_pos e),
    Nat.mul_div_mul_right _ _ (Nat.two_pow_pos e)]

/-- The last digit of the nearest number stands before the point. -/
lemma nearestWhole_of_zeros {k : Nat} (digits : bitLength (num * one / den) - 53 = k + 1074) :
    nearestWhole num den = roundDiv num (den * 2 ^ k) * 2 ^ k := by
  rw [nearestWhole, roundUnits, digits, shiftLeft_add_one, shiftLeft_add_one,
    roundDiv_mul_right _ _ pos_one, Nat.mul_div_cancel _ pos_one]

/-- A ratio of few digits in units is less than a half. -/
lemma two_mul_lt {k : Nat} (hk : k + 1 = 1074) (hd : 0 < den)
    (digits : bitLength (num * one / den) ≤ k) : 2 * num < den := by
  rw [bitLength_le_iff, Nat.div_lt_iff_lt_mul hd, one_split hk, ← Nat.mul_assoc,
    Nat.mul_comm _ den] at digits
  have less := Nat.lt_of_mul_lt_mul_right digits
  omega

/-- Whether the number nearest to `whole + part / scale` has the whole part `whole`. -/
def Kept (whole part scale : Nat) : Prop :=
  if bitLength whole ≤ 53 then
    scale < 2 ^ (54 - bitLength whole) * (scale - part) ∨
      bitLength whole = 53 ∧ 2 * part = scale ∧ whole % 2 = 0
  else 2 ^ (bitLength whole - 53) ∣ whole

instance (whole part scale : Nat) : Decidable (Kept whole part scale) := by
  unfold Kept
  infer_instance

example : Kept 7 9 10 ∧ ¬ Kept 0 99999999999999999999 (10 ^ 20) ∧ ¬ Kept 9007199254740993 0 10 := by
  decide

section Parts

variable {whole part scale : Nat}

lemma div_parts (h : part < scale) : (whole * scale + part) / scale = whole := by
  rw [Nat.mul_comm, Nat.mul_add_div (by omega), Nat.div_eq_of_lt h, Nat.add_zero]

/-- Rounding to `j` binary places reaches the next whole number at most. -/
lemma roundedWhole_near (h : part < scale) (j : Nat) :
    whole ≤ roundedWhole j (whole * scale + part) scale ∧
      roundedWhole j (whole * scale + part) scale ≤ whole + 1 ∧
      (roundedWhole j (whole * scale + part) scale = whole ↔
        scale < 2 ^ (j + 1) * (scale - part) ∨ j = 0 ∧ 2 * part = scale ∧ whole % 2 = 0) := by
  have hd : 0 < scale := by omega
  have hp : 0 < 2 ^ j := Nat.two_pow_pos j
  have ratio : (whole * scale + part) * 2 ^ j = whole * 2 ^ j * scale + part * 2 ^ j := by
    rw [Nat.add_mul, Nat.mul_right_comm]
  have next : (whole + 1) * 2 ^ j * scale = whole * 2 ^ j * scale + scale * 2 ^ j := by
    rw [Nat.succ_mul, Nat.add_mul, Nat.mul_comm scale]
  have left : part * 2 ^ j + (scale - part) * 2 ^ j = scale * 2 ^ j := by
    rw [← Nat.add_mul, Nat.add_sub_cancel' (Nat.le_of_lt h)]
  have positive : 0 < (scale - part) * 2 ^ j := Nat.mul_pos (by omega) hp
  have least : whole ≤ roundedWhole j (whole * scale + part) scale := by
    rw [roundedWhole, Nat.le_div_iff_mul_le hp]
    exact le_roundDiv hd (by omega)
  have most : roundedWhole j (whole * scale + part) scale ≤ whole + 1 := by
    rw [roundedWhole, Nat.div_le_iff_le_mul_add_pred hp]
    refine Nat.le_trans ((roundDiv_le_iff hd).mpr (Or.inl ?_)) (Nat.le_add_right _ _)
    rw [ratio, Nat.mul_comm (2 ^ j), Nat.add_mul, Nat.mul_assoc 2, next]
    omega
  -- Halfway, the even neighbour is the next whole number unless no binary place is left.
  have tie : (whole + 1) * 2 ^ j % 2 = 1 ↔ j = 0 ∧ whole % 2 = 0 := by
    cases j with
    | zero => omega
    | succ j => rw [Nat.pow_succ, ← Nat.mul_assoc, Nat.mul_mod_left]; omega
  have same : roundedWhole j (whole * scale + part) scale < whole + 1 ↔
      scale < 2 ^ (j + 1) * (scale - part) ∨ j = 0 ∧ 2 * part = scale ∧ whole % 2 = 0 := by
    have some : 0 < (whole + 1) * 2 ^ j := Nat.mul_pos (Nat.succ_pos whole) hp
    obtain ⟨t, ht⟩ : ∃ t, (whole + 1) * 2 ^ j = t + 1 := ⟨_, (Nat.sub_add_cancel some).symm⟩
    have double : (2 * t + 1) * scale + scale = 2 * ((t + 1) * scale) := by
      rw [← Nat.succ_mul, ← Nat.mul_assoc]
      rfl
    have twice : 2 ^ (j + 1) * (scale - part) = 2 * ((scale - part) * 2 ^ j) := by
      rw [Nat.pow_succ, Nat.mul_comm (2 ^ j), Nat.mul_assoc, Nat.mul_comm (2 ^ j)]
    rw [roundedWhole, Nat.div_lt_iff_lt_mul hp, ht, Nat.lt_succ_iff, roundDiv_le_iff hd, twice,
      ratio]
    rw [ht] at tie next
    refine or_congr (by omega) ⟨fun ⟨half, even⟩ => ?_, fun ⟨zero, half, even⟩ => ?_⟩
    · obtain ⟨rfl, even⟩ := tie.mp (by omega)
      rw [Nat.pow_zero] at *
      exact ⟨rfl, by omega, even⟩
    · have odd := tie.mpr ⟨zero, even⟩
      subst zero
      rw [Nat.pow_zero] at *
      omega
  exact ⟨least, most, by rw [← same]; omega⟩

/-- While every whole number is a number of its own, the nearest one is at most one more. -/
lemma nearestWhole_small (h : part < scale) (small : bitLength whole ≤ 53) :
    (nearestWhole (whole * scale + part) scale = whole ↔ Kept whole part scale) ∧
      whole ≤ nearestWhole (whole * scale + part) scale ∧
      nearestWhole (whole * scale + part) scale ≤ whole + 1 := by
  have hd : 0 < scale := by omega
  obtain ⟨most, exactly⟩ := @bitLength_units (whole * scale + part) scale hd
  rw [div_parts h] at most exactly
  have places : bitLength ((whole * scale + part) * one / scale) - 53 +
      (1074 - (bitLength ((whole * scale + part) * one / scale) - 53)) = 1074 := by omega
  have rounded := nearestWhole_of_places places rfl
  generalize hj : 1074 - (bitLength ((whole * scale + part) * one / scale) - 53) = j at *
  obtain ⟨least, near, same⟩ := roundedWhole_near h j
  rw [rounded, Kept, if_pos small]
  refine ⟨same.trans ?_, least, near⟩
  by_cases exact : j + 1 = 54 - bitLength whole
  · have last : j = 0 ↔ bitLength whole = 53 := by omega
    rw [exact, last]
  -- Less than a half is never rounded up, however many binary places there are.
  · obtain rfl : whole = 0 := by_contra fun nonzero => exact (by have := exactly nonzero; omega)
    have zero : bitLength 0 = 0 := rfl
    have half : 2 * (0 * scale + part) < scale := @two_mul_lt _ _ 1073 rfl hd (by omega)
    have enough (k : Nat) : scale < 2 ^ (k + 1) * (scale - part) := by
      have double : 2 * (scale - part) ≤ 2 ^ (k + 1) * (scale - part) := by
        refine Nat.mul_le_mul_right _ ?_
        rw [Nat.pow_succ]
        have := Nat.two_pow_pos k
        omega
      omega
    exact iff_of_true (Or.inl (enough j)) (Or.inl (enough 53))

/-- Beyond, it is the nearest multiple of the step between two numbers. -/
lemma nearestWhole_large (h : part < scale) {k : Nat} (large : bitLength whole = k + 54) :
    (nearestWhole (whole * scale + part) scale = whole ↔ 2 ^ (k + 1) ∣ whole) ∧
      whole ≤ nearestWhole (whole * scale + part) scale + 2 ^ k ∧
      nearestWhole (whole * scale + part) scale ≤ whole + 2 ^ k ∧
      2 ^ (k + 1) ∣ nearestWhole (whole * scale + part) scale := by
  have hd : 0 < scale := by omega
  have nonzero : whole ≠ 0 := by
    rintro rfl
    cases large
  obtain ⟨-, exactly⟩ := @bitLength_units (whole * scale + part) scale hd
  rw [div_parts h] at exactly
  have step : 0 < scale * 2 ^ (k + 1) := Nat.mul_pos hd (Nat.two_pow_pos _)
  rw [nearestWhole_of_zeros (k := k + 1) (by rw [exactly nonzero]; omega)]
  obtain ⟨below, above⟩ := roundDiv_near (whole * scale + part) step
  have steps (t : Nat) : t * (scale * 2 ^ (k + 1)) = t * 2 ^ (k + 1) * scale := by ac_rfl
  have double : scale * 2 ^ (k + 1) = 2 * (2 ^ k * scale) := by
    rw [Nat.pow_succ]
    ac_rfl
  refine ⟨⟨fun same => ?_, ?_⟩, ?_, ?_, Nat.dvd_mul_left _ _⟩
  · rw [← same]
    exact Nat.dvd_mul_left _ _
  · rintro ⟨t, rfl⟩
    have some : scale ≤ 2 ^ k * scale := Nat.le_mul_of_pos_left scale (Nat.two_pow_pos k)
    have whole : 2 ^ (k + 1) * t * scale = t * (scale * 2 ^ (k + 1)) := by ac_rfl
    have half : 2 * (2 ^ (k + 1) * t * scale + part) < (2 * t + 1) * (scale * 2 ^ (k + 1)) := by
      rw [Nat.add_mul, Nat.mul_assoc 2, ← whole, double]
      omega
    have least := le_roundDiv step
      (Nat.le_trans (Nat.le_of_eq whole.symm) (Nat.le_add_right _ part))
    rw [Nat.le_antisymm ((roundDiv_le_iff step).mpr (Or.inl half)) least, Nat.mul_comm]
  · refine Nat.le_of_mul_le_mul_right ?_ hd
    rw [Nat.add_mul, ← steps]
    omega
  · refine Nat.le_of_lt_succ (Nat.lt_of_mul_lt_mul_right (a := scale) ?_)
    rw [Nat.succ_mul, Nat.add_mul, ← steps]
    omega

/-- The whole part of the nearest number is off by half a step at most. -/
lemma nearestWhole_near (h : part < scale) :
    (nearestWhole (whole * scale + part) scale = whole ↔ Kept whole part scale) ∧
      whole ≤ nearestWhole (whole * scale + part) scale + 2 ^ (bitLength whole - 54) ∧
      nearestWhole (whole * scale + part) scale ≤ whole + 2 ^ (bitLength whole - 54) ∧
      2 ^ (bitLength whole - 53) ∣ nearestWhole (whole * scale + part) scale := by
  rcases Nat.lt_or_ge 53 (bitLength whole) with large | small
  · obtain ⟨k, hk⟩ : ∃ k, bitLength whole = k + 54 := ⟨_, (Nat.sub_add_cancel large).symm⟩
    have step : bitLength whole - 54 = k ∧ bitLength whole - 53 = k + 1 := by omega
    rw [Kept, if_neg (Nat.not_le.mpr large), step.1, step.2]
    exact nearestWhole_large h hk
  · have step : bitLength whole - 54 = 0 ∧ bitLength whole - 53 = 0 := by omega
    obtain ⟨same, least, most⟩ := nearestWhole_small h small
    rw [step.1, step.2]
    exact ⟨same, Nat.le_succ_of_le least, most, Nat.one_dvd _⟩

lemma nearestWhole_of_half {num den : Nat} (half : 2 * num < den) : nearestWhole num den = 0 := by
  have zero : bitLength 0 = 0 := rfl
  have same := (@nearestWhole_small 0 num den (by omega) (by omega)).1
  rw [Nat.zero_mul, Nat.zero_add, Kept, zero, if_pos (by decide)] at same
  exact same.mpr (Or.inl (by omega))

lemma nearestWhole_lt (h : part < scale) (small : bitLength whole ≤ 64) :
    nearestWhole (whole * scale + part) scale < 2 ^ 65 := by
  obtain ⟨-, -, most, -⟩ := @nearestWhole_near whole part scale h
  have step : 2 ^ (bitLength whole - 54) ≤ 2 ^ 10 := Nat.pow_le_pow_right (by decide) (by omega)
  have bound : whole < 2 ^ 64 := bitLength_le_iff.mp small
  omega

end Parts

/-! ## Decimals -/

lemma lt_limit {units : Nat} (h : units / one < 2 ^ 65) : units < limit := by
  have bound (k : Nat) : 2 ^ 65 * one ≤ 1 <<< (65 + k + 1074) := by
    rw [one_shiftLeft_add]
    exact Nat.mul_le_mul_right one (Nat.pow_le_pow_right (by decide) (Nat.le_add_right 65 k))
  exact Nat.lt_of_lt_of_le ((Nat.div_lt_iff_lt_mul pos_one).mp h) (bound 959)

lemma truncate_ofRatio {num den : Nat} (h : nearestWhole num den < 2 ^ 65) (negative : Bool) :
    truncate (ofRatio negative num den) =
      clampSigned (if negative then -(nearestWhole num den : Int) else nearestWhole num den) := by
  rw [ofRatio, ofUnits, if_pos (lt_limit h)]
  rfl

/-- A decimal of few digits behind the point, for which no power is computed, is less than one
half. -/
lemma two_mul_lt_pow {digits places : Nat} (few : -(places : Int) + bitLength digits < -400) :
    2 * digits < 10 ^ places := by
  obtain ⟨k, rfl⟩ : ∃ k, places = k + 1 := ⟨places - 1, by omega⟩
  have short : digits < 2 ^ k := bitLength_le_iff.mp (by omega)
  have more : 2 ^ k ≤ 10 ^ k := Nat.pow_le_pow_left (by decide) k
  rw [Nat.pow_succ]
  omega

/-- A decimal is truncated to the whole part of the number nearest to it. -/
lemma truncate_ofDecimal {whole part places : Nat} (h : part < 10 ^ places)
    (small : bitLength whole ≤ 64) (negative : Bool) :
    truncate (ofDecimal negative (whole * 10 ^ places + part) (-(places : Int))) =
      clampSigned (if negative then -(nearestWhole (whole * 10 ^ places + part) (10 ^ places) : Int)
        else nearestWhole (whole * 10 ^ places + part) (10 ^ places)) := by
  have zero (half : 2 * (whole * 10 ^ places + part) < 10 ^ places) :
      truncate (.finite negative 0) = clampSigned
        (if negative then -(nearestWhole (whole * 10 ^ places + part) (10 ^ places) : Int)
          else nearestWhole (whole * 10 ^ places + part) (10 ^ places)) := by
    rw [nearestWhole_of_half half]
    have none : 0 / one = 0 := Nat.zero_div one
    simp only [truncate, none]
  unfold ofDecimal
  split
  · next none => exact zero (by omega)
  rw [if_neg (by omega)]
  split
  · next few => exact zero (two_mul_lt_pow few)
  · have up : (-(places : Int)).toNat = 0 := by omega
    have down : (-(-(places : Int))).toNat = places := by omega
    rw [up, down]
    change truncate (ofRatio negative (_ * 1) (10 ^ places)) = _
    rw [Nat.mul_one]
    exact truncate_ofRatio (nearestWhole_lt h small) negative

end Clausal.Number.Binary64
