import Clausal.Cast
import Clausal.Proofs.Number.Leading
import Clausal.Proofs.Number.Truncation
import Clausal.Sql.Template

/-!
# Texts that begin with a decimal

A decimal without a point is read as the integer it writes. One with a point is read as the whole
part of the nearest binary64 number, which is the integer before the point unless that number is
rounded away from it.
-/

namespace Clausal

namespace Number

lemma toInt_clampSigned (n : Int) :
    (clampSigned n).toInt =
      if n < minSigned then minSigned else if maxSigned < n then maxSigned else n := by
  unfold clampSigned
  split
  · rfl
  split
  · rfl
  · unfold minSigned maxSigned at *
    exact Int64.toInt_ofInt_of_le (by omega) (by omega)

section Clamping

variable {m w : Nat} {negative : Bool} {n : Int}

/-- Of the ends of the range the lowest integer is a binary64 number and the highest one is not, but
what it is rounded to is brought back to it. -/
lemma clamped_iff (value : n = if negative then -(m : Int) else m) (low : minSigned ≤ n)
    (high : n ≤ maxSigned) (lowest : m = 2 ^ 63 → w = m)
    (highest : m = 2 ^ 63 - 1 → 2 ^ 63 ≤ w) :
    (clampSigned (if negative then -(w : Int) else w)).toInt = n ↔ w = m ∨ n = maxSigned := by
  rw [toInt_clampSigned]
  unfold minSigned maxSigned at *
  cases negative <;> simp only [Bool.false_eq_true, if_true, if_false] at value ⊢ <;> split <;>
    (try split) <;> omega

lemma clamped_near (value : n = if negative then -(m : Int) else m) (low : minSigned ≤ n)
    (high : n ≤ maxSigned) {e : Nat} (above : w ≤ m + e) (below : m ≤ w + e) :
    ((clampSigned (if negative then -(w : Int) else w)).toInt - n).natAbs ≤ e := by
  rw [toInt_clampSigned]
  unfold minSigned maxSigned at *
  cases negative <;> simp only [Bool.false_eq_true, if_true, if_false] at value ⊢ <;> split <;>
    (try split) <;> omega

end Clamping

/-- What goes on neither with digits nor with an exponent, nor with a point if there was none. -/
structure Stops (pointed : Bool) (rest : List Char) : Prop where
  digit : ∀ c ∈ rest.head?, isDigit c = false
  point : pointed = false → ∀ c ∈ rest.head?, c ≠ '.'
  exponent : ∀ exponent, Numeral.Exponent exponent → ¬ exponent <+: rest

end Number

open Number Binary64

/-- Blanks, a sign if any, digits, a point with the digits behind it if any, and what does not go
on with them. -/
structure DecimalText where
  blanks : List Char
  sign : List Char
  whole : List Char
  places : Option (List Char)
  suffix : List Char
  blank : ∀ c ∈ blanks, Text.isBlank c = true
  optionalSign : OptionalSign sign
  digits : DigitRun whole
  behind : ∀ ds ∈ places, ∀ d ∈ ds, isDigit d = true
  stops : Stops places.isSome suffix

namespace DecimalText

def fraction (t : DecimalText) : List Char :=
  match t.places with
  | some ds => '.' :: ds
  | none => []

def text (t : DecimalText) : String :=
  String.ofList (t.blanks ++ (t.sign ++ t.whole ++ t.fraction ++ t.suffix))

/-- The integer before the point. -/
def value (t : DecimalText) : Int :=
  if t.sign = ['-'] then -(valueOf t.whole : Int) else valueOf t.whole

def numeral (t : DecimalText) : Numeral := ⟨t.sign, t.whole, t.fraction, []⟩

lemma wellFormed_numeral (t : DecimalText) : t.numeral.WellFormed := by
  refine ⟨t.optionalSign, ⟨t.digits.2, ?_, Or.inl t.digits.1⟩, Or.inl rfl⟩
  change t.fraction = [] ∨ Numeral.Fraction t.whole t.fraction
  unfold fraction
  split
  · next ds some => exact Or.inr ⟨ds, rfl, t.behind ds some, fun none => absurd none t.digits.1⟩
  · exact Or.inl rfl

lemma ends_suffix (t : DecimalText) : t.numeral.Ends t.suffix := by
  refine ⟨t.stops.digit, fun none _ => ?_, fun _ => ?_⟩
  · refine Numeral.scanFraction_of_head? (t.stops.point ?_) true
    change t.fraction = [] at none
    unfold fraction at none
    split at none
    · cases none
    · next no => rw [no]; rfl
  · obtain ⟨cases, start⟩ := Numeral.scanExponent_cases t.suffix
    exact cases.resolve_right fun exponent => t.stops.exponent _ exponent start

/-- No numeral begins with a blank. -/
lemma skipBlanks_text (t : DecimalText) :
    Text.skipBlanks t.text.toList = t.numeral.text ++ t.suffix := by
  have shape : t.text.toList = t.blanks ++ (t.numeral.text ++ t.suffix) := by
    rw [text, String.toList_ofList, Numeral.text]
    simp [numeral]
  obtain ⟨d, more, digits⟩ := List.exists_cons_of_ne_nil t.digits.1
  have digit : isDigit d = true := t.digits.2 d (by rw [digits]; exact List.mem_cons_self)
  have first : ∃ c rest, t.numeral.text ++ t.suffix = c :: rest ∧ Text.isBlank c = false := by
    rw [Numeral.text]
    rcases t.optionalSign with none | ⟨c, sign, one⟩
    · exact ⟨d, more ++ t.fraction ++ t.suffix, by simp [numeral, none, digits],
        not_isBlank_of_isDigit digit⟩
    · refine ⟨c, t.whole ++ t.fraction ++ t.suffix, by simp [numeral, one], ?_⟩
      rcases (isSign_iff c).mp sign with rfl | rfl <;> decide
  obtain ⟨c, rest, start, visible⟩ := first
  rw [shape, Text.skipBlanks, List.dropWhile_append_of_pos t.blank, start, List.dropWhile_cons,
    visible]
  rfl

lemma leadingNumeral_text (t : DecimalText) : Value.leadingNumeral t.text = some t.numeral := by
  rw [Value.leadingNumeral, skipBlanks_text, Numeral.scan_append t.wellFormed_numeral,
    Numeral.extend_of_ends t.ends_suffix]

/-- Whether the integer before the point is what is read. -/
def Exact (t : DecimalText) : Prop :=
  ∀ ds ∈ t.places,
    Kept (valueOf t.whole) (valueOf ds) (10 ^ ds.length) ∨ t.value = maxSigned

instance (t : DecimalText) : Decidable t.Exact := by
  unfold Exact
  infer_instance

/-- Half the step between two numbers about as large as the integer, and one at least. -/
def error (t : DecimalText) : Nat := 2 ^ (bitLength (valueOf t.whole) - 54)

lemma value_eq (t : DecimalText) :
    t.value = if t.numeral.negative then -(valueOf t.whole : Int) else valueOf t.whole := by
  have sign : t.numeral.negative = true ↔ t.sign = ['-'] := beq_iff_eq
  rw [value]
  split <;> split <;> simp_all

lemma toInt_bare (t : DecimalText) (low : minSigned ≤ t.value) (high : t.value ≤ maxSigned)
    (bare : t.places = none) : (Value.toInt (.text t.text)).toInt = t.value := by
  have integer : t.numeral.integer? = some t.value := by
    have fraction : t.numeral.fraction = [] := by
      change t.fraction = []
      rw [fraction, bare]
    rw [Numeral.integer?, fraction, value_eq]
    rfl
  obtain ⟨i, fits⟩ : ∃ i, signed? t.value = some i := ⟨_, if_pos ⟨low, high⟩⟩
  rw [Value.toInt_text, leadingNumeral_text]
  change t.numeral.toSigned.toInt = _
  rw [Numeral.toSigned, integer, Option.bind_some, fits]
  exact toInt_of_signed? fits

lemma toInt_pointed (t : DecimalText) {ds : List Char} (pointed : t.places = some ds)
    (small : bitLength (valueOf t.whole) ≤ 64) :
    ∃ whole : Nat, Value.toInt (.text t.text) =
        clampSigned (if t.numeral.negative then -(whole : Int) else whole) ∧
      (whole = valueOf t.whole ↔ Kept (valueOf t.whole) (valueOf ds) (10 ^ ds.length)) ∧
      valueOf t.whole ≤ whole + t.error ∧ whole ≤ valueOf t.whole + t.error ∧
      2 ^ (bitLength (valueOf t.whole) - 53) ∣ whole := by
  have fraction : t.numeral.fraction = '.' :: ds := by
    change t.fraction = _
    rw [DecimalText.fraction, pointed]
  have part : valueOf ds < 10 ^ ds.length := valueOf_lt (t.behind ds pointed)
  refine ⟨nearestWhole (valueOf t.whole * 10 ^ ds.length + valueOf ds) (10 ^ ds.length), ?_,
    nearestWhole_near part⟩
  have integer : t.numeral.integer? = none := by
    rw [Numeral.integer?, fraction]
    rfl
  have digits : t.numeral.toBinary64 = ofDecimal t.numeral.negative
      (valueOf t.whole * 10 ^ ds.length + valueOf ds) (-(ds.length : Int)) := by
    rw [Numeral.toBinary64, fraction, List.drop_one, List.tail_cons, valueOf_append]
    exact congrArg _ (Int.zero_sub _)
  rw [Value.toInt_text, leadingNumeral_text]
  change t.numeral.toSigned = _
  rw [Numeral.toSigned, integer, Option.bind_none]
  exact digits ▸ truncate_ofDecimal part small t.numeral.negative

/-- A text that begins with a decimal in range is read as the integer before the point just where
the number nearest to the decimal keeps it, and otherwise as one that is half a step away at most;
so is it cast, and so does it stand where a count is bound. -/
theorem toInt_decimal (t : DecimalText) (low : minSigned ≤ t.value) (high : t.value ≤ maxSigned) :
    ∃ i : Int64, Value.toInt (.text t.text) = i ∧
      CastKind.int.cast (.text t.text) = .int i ∧
      Sql.bind "%d" [.text t.text] = .ok (toString i.toInt) ∧
      (i.toInt = t.value ↔ t.Exact) ∧ (i.toInt - t.value).natAbs ≤ t.error := by
  have bound : Sql.bind "%d" [.text t.text] =
      .ok (toString (Value.toInt (.text t.text)).toInt) := by
    simp [Sql.bind, Sql.placeholders, Sql.fill, Sql.Placeholder.ofChar?, Sql.Placeholder.write,
      Except.map]
  refine ⟨_, rfl, rfl, bound, ?_⟩
  have value := t.value_eq
  cases pointed : t.places with
  | none =>
    rw [toInt_bare t low high pointed, Int.sub_self]
    refine ⟨iff_of_true rfl ?_, Nat.zero_le _⟩
    rw [Exact, pointed]
    exact nofun
  | some ds =>
    have range : valueOf t.whole ≤ 2 ^ 63 := by
      unfold minSigned maxSigned at *
      split at value <;> omega
    have small : bitLength (valueOf t.whole) ≤ 64 := bitLength_le_iff.mpr (by omega)
    obtain ⟨w, read, same, below, above, step⟩ := toInt_pointed t pointed small
    have lowest (h : valueOf t.whole = 2 ^ 63) : w = valueOf t.whole := by
      have kept (part scale : Nat) : Kept (2 ^ 63) part scale := by
        have digits : bitLength (2 ^ 63) = 64 := by decide
        rw [Kept, digits, if_neg (by decide)]
        decide
      exact same.mpr (h ▸ kept _ _)
    have highest (h : valueOf t.whole = 2 ^ 63 - 1) : 2 ^ 63 ≤ w := by
      have digits : bitLength (2 ^ 63 - 1) = 63 := by decide
      rw [error, h, digits] at below
      rw [h, digits] at step
      omega
    have exact : t.Exact ↔ Kept (valueOf t.whole) (valueOf ds) (10 ^ ds.length) ∨
        t.value = maxSigned := by
      rw [Exact, pointed]
      simp
    rw [read, exact, ← same]
    exact ⟨clamped_iff value low high lowest highest, clamped_near value low high above below⟩

def distance : DecimalText where
  blanks := [' ']
  sign := ['-']
  whole := ['7']
  places := some ['9']
  suffix := ['k', 'm']
  blank := List.all_eq_true.mp (by decide)
  optionalSign := Or.inr ⟨'-', rfl, rfl⟩
  digits := ⟨nofun, List.all_eq_true.mp (by decide)⟩
  behind := by simp [isDigit]
  stops := by
    refine ⟨by simp [isDigit], nofun, ?_⟩
    rintro _ ⟨mark, sign, ds, rfl, letter, -⟩ start
    obtain rfl := (List.cons_prefix_cons.mp start).1
    revert letter
    decide

theorem toInt_decimal_distance :
    distance.text = " -7.9km" ∧ distance.value = -7 ∧ distance.Exact ∧
      ∃ i : Int64, Value.toInt (.text distance.text) = i ∧
        CastKind.int.cast (.text distance.text) = .int i ∧
        Sql.bind "%d" [.text distance.text] = .ok (toString i.toInt) ∧
        (i.toInt = distance.value ↔ distance.Exact) ∧
        (i.toInt - distance.value).natAbs ≤ distance.error :=
  ⟨by decide, by decide, by decide, toInt_decimal distance (by decide) (by decide)⟩

/-- The first odd number that is too large for a double of its own, with a point behind it. -/
def firstOdd : DecimalText where
  blanks := []
  sign := []
  whole := "9007199254740993".toList
  places := some ['0']
  suffix := []
  blank := nofun
  optionalSign := Or.inl rfl
  digits := ⟨nofun, List.all_eq_true.mp (by decide)⟩
  behind := by simp [isDigit]
  stops := ⟨nofun, nofun, fun _ exponent start => exponent.ne_nil (List.prefix_nil.mp start)⟩

theorem toInt_firstOdd :
    firstOdd.text = "9007199254740993.0" ∧ firstOdd.value = 9007199254740993 ∧
      minSigned ≤ firstOdd.value ∧ firstOdd.value ≤ maxSigned ∧
      (Value.toInt (.text firstOdd.text)).toInt = 9007199254740992 := by
  decide +kernel

end DecimalText

end Clausal
