import Clausal.Json.Reading
import Clausal.Proofs.Text.Reader
import Mathlib.Tactic.SplitIfs

/-!
# Reading numbers and strings

A whole number that fits 64 bits is read from its digits, and a string from its quoted text, however
its characters are escaped. A number ends where a character stands that could not go on with it; a
string ends with its quote.
-/

namespace Clausal

open Number
open Text (Reader)
open Text.Reader

namespace Json

/-- A whole number, told apart by its sign. -/
def Numeric.Whole : Numeric → Prop
  | .natural _ => True
  | .negative n => n < 0
  | .real _ => False

namespace Reading

/-! ## Digits -/

lemma le_ofDigitChars (ds : List Char) (n : Nat) : n ≤ Nat.ofDigitChars 10 ds n := by
  induction ds generalizing n with
  | nil => exact Nat.le_refl n
  | cons d ds ih =>
    rw [Nat.ofDigitChars_cons]
    exact Nat.le_trans (by omega) (ih _)

/-- Digits that fit 64 bits are read to their end. -/
lemma significand_digits {ds rest : List Char} {n : Nat} (digits : ∀ d ∈ ds, isDigit d = true)
    (fits : Nat.ofDigitChars 10 ds n < 18446744073709551616)
    (ends : ∀ c ∈ rest.head?, isDigit c = false) :
    significand n (ds ++ rest) = (Nat.ofDigitChars 10 ds n, rest) := by
  induction ds generalizing n with
  | nil =>
    cases rest with
    | nil => rfl
    | cons c rest => simp [significand, ends c rfl]
  | cons d ds ih =>
    rw [List.forall_mem_cons] at digits
    rw [Nat.ofDigitChars_cons] at fits ⊢
    have next : 10 * n + digitValue d < 18446744073709551616 :=
      Nat.lt_of_le_of_lt (le_ofDigitChars ds _) fits
    rw [List.cons_append, significand, if_pos (by simp [digits.1, next])]
    exact ih digits.2 fits

lemma isDigit_of_mem_toDigits {n : Nat} {d : Char} (h : d ∈ Nat.toDigits 10 n) :
    isDigit d = true :=
  Nat.isDigit_of_mem_toDigits (by decide) (by decide) h

lemma exists_digit_cons (n : Nat) :
    ∃ d ds, Nat.toDigits 10 n = d :: ds ∧ isDigit d = true := by
  obtain ⟨d, ds, front⟩ : ∃ d ds, Nat.toDigits 10 n = d :: ds :=
    List.exists_cons_of_ne_nil Nat.toDigits_ne_nil
  exact ⟨d, ds, front, isDigit_of_mem_toDigits (front ▸ List.mem_cons_self)⟩

lemma exists_nonzero_cons {n : Nat} (pos : 0 < n) :
    ∃ d ds, Nat.toDigits 10 n = d :: ds ∧ d ≠ '0' := by
  induction n using Nat.strongRecOn with
  | ind n ih =>
    by_cases small : n < 10
    · refine ⟨_, _, Nat.toDigits_of_lt_base small, ?_⟩
      intro zero
      have := congrArg Char.toNat zero
      rw [Nat.toNat_digitChar_of_lt_ten small] at this
      have : 48 + n = 48 := this
      omega
    · obtain ⟨d, ds, front, other⟩ := ih (n / 10) (by omega) (by omega)
      rw [Nat.toDigits_of_base_le (by decide) (Nat.le_of_not_lt small), front]
      exact ⟨d, _, rfl, other⟩

/-! ## Numbers -/

/-- No character that could go on with a number. -/
def Ends (rest : List Char) : Prop :=
  ∀ c ∈ rest.head?, isDigit c = false ∧ c ∉ ['.', 'e', 'E']

lemma Ends.not_mem {rest marks : List Char} (ends : Ends rest) (among : marks ⊆ ['.', 'e', 'E']) :
    ∀ c ∈ rest.head?, c ∉ marks :=
  fun c head mem => (ends c head).2 (among mem)

/-- What a sign and digits are read as. -/
def signed (negative : Bool) (n : Nat) : Numeric :=
  if !negative then .natural (UInt64.ofNat n)
  else match if n = 0 then none else signed? (-(n : Int)) with
    | some i => .negative i
    | none => .real (Binary64.ofRatio true n 1)

/-- Digits begin with a zero that stands alone, or with another digit. -/
lemma exists_optional_zero {n : Nat} (fits : n < 18446744073709551616) {rest : List Char}
    (ends : ∀ c ∈ rest.head?, isDigit c = false) :
    ∃ zero cs, optional ['0'] (Nat.toDigits 10 n ++ rest) = some (zero, cs) ∧
      (if zero then !cs.head?.any isDigit else cs.head?.any isDigit) = true ∧
      significand 0 cs = (n, rest) := by
  rcases Nat.eq_zero_or_pos n with rfl | pos
  · refine ⟨true, rest, optional_of_mem (by decide) rest, ?_, ?_⟩
    · cases rest with
      | nil => rfl
      | cons c rest => simp [ends c rfl]
    · exact significand_digits (show ∀ d ∈ [], isDigit d = true from nofun) (by decide) ends
  · have whole : Nat.ofDigitChars 10 (Nat.toDigits 10 n) 0 = n :=
      Nat.ofDigitChars_toDigits (by decide) (by decide)
    have read := significand_digits (n := 0) (fun d => isDigit_of_mem_toDigits) (by rwa [whole])
      ends
    rw [whole] at read
    refine ⟨false, _, optional_of_head? ?_, ?_, read⟩
    · obtain ⟨d, ds, front, other⟩ := exists_nonzero_cons pos
      simp [front, other]
    · obtain ⟨d, ds, front, digit⟩ := exists_digit_cons n
      simp [front, digit]

lemma number_of_optional {n : Nat} (fits : n < 18446744073709551616) {cs rest : List Char}
    (ends : Ends rest) {negative : Bool}
    (sign : optional ['-'] cs = some (negative, Nat.toDigits 10 n ++ rest)) :
    number cs = some (signed negative n, rest) := by
  have noPoint : ∀ c ∈ rest.head?, c ∉ ['.'] := ends.not_mem (by decide)
  have noMark : (rest.head?.any fun c => c == 'e' || c == 'E') = false := by
    have marks : ∀ c ∈ rest.head?, c ∉ ['e', 'E'] := ends.not_mem (by decide)
    cases rest with
    | nil => rfl
    | cons c rest => simpa using marks c rfl
  have taken : rest.takeWhile isDigit = [] := by
    cases rest with
    | nil => rfl
    | cons c rest => rw [List.takeWhile_cons, (ends c rfl).1]; rfl
  obtain ⟨zero, digits, first, guarded, read⟩ := exists_optional_zero fits fun c h => (ends c h).1
  rw [number, bind_of_some sign, bind_of_some first, bind_of_some (rfl : peek _ = _),
    bind_guard guarded, bind_get, read]
  dsimp only
  rw [taken, List.length_nil, List.drop_zero, bind_set, bind_of_some (optional_of_head? noPoint),
    if_neg (by decide), bind_of_some (rfl : peek _ = _), noMark, if_neg (by decide), signed]
  cases negative with
  | false => rfl
  | true =>
    cases (if n = 0 then none else signed? (-(n : Int))) with
    | none => rfl
    | some i => rfl

lemma toList_text_natural (n : UInt64) :
    (Numeric.natural n).text.toList = Nat.toDigits 10 n.toNat := Nat.toList_repr

lemma toList_text_negative {n : Int64} {m : Nat} (value : n.toInt = Int.negSucc m) :
    (Numeric.negative n).text.toList = '-' :: Nat.toDigits 10 (m + 1) := by
  change (toString n.toInt).toList = _
  rw [value]
  change ("-" ++ (m + 1).repr).toList = _
  rw [String.toList_append, Nat.toList_repr]
  rfl

/-- What whole numbers begin with. -/
def leading : List Char :=
  ['-', '0', '1', '2', '3', '4', '5', '6', '7', '8', '9']

lemma mem_leading_of_isDigit {c : Char} (h : isDigit c = true) : c ∈ leading := by
  have each : ∀ n < 58, 48 ≤ n → Char.ofNat n ∈ leading := by decide
  rw [isDigit, Bool.and_eq_true, decide_eq_true_eq, decide_eq_true_eq] at h
  rw [← Char.ofNat_toNat c]
  exact each c.toNat (Nat.lt_succ_of_le h.2) h.1

lemma exists_text_cons {n : Numeric} (whole : n.Whole) :
    ∃ c cs, n.text.toList = c :: cs ∧ c ∈ leading := by
  cases n with
  | real x => cases whole
  | natural n =>
    obtain ⟨d, ds, front, digit⟩ := exists_digit_cons n.toNat
    exact ⟨d, ds, (toList_text_natural n).trans front, mem_leading_of_isDigit digit⟩
  | negative n =>
    obtain ⟨m, value⟩ := Int.eq_negSucc_of_lt_zero (Int64.lt_iff_toInt_lt.mp whole)
    exact ⟨'-', _, toList_text_negative value, List.mem_cons_self⟩

lemma number_text {n : Numeric} (whole : n.Whole) {rest : List Char} (ends : Ends rest) :
    number (n.text.toList ++ rest) = some (n, rest) := by
  cases n with
  | real x => cases whole
  | natural n =>
    have unsigned : optional ['-'] (Nat.toDigits 10 n.toNat ++ rest) =
        some (false, Nat.toDigits 10 n.toNat ++ rest) := by
      obtain ⟨d, ds, front, digit⟩ := exists_digit_cons n.toNat
      rw [front]
      refine optional_of_head? ?_
      rintro c ⟨⟩ minus
      rw [List.mem_singleton.mp minus] at digit
      cases digit
    rw [toList_text_natural, number_of_optional n.toNat_lt ends unsigned, signed, if_pos (by rfl),
      UInt64.ofNat_toNat]
  | negative n =>
    obtain ⟨m, value⟩ := Int.eq_negSucc_of_lt_zero (Int64.lt_iff_toInt_lt.mp whole)
    have fits : m + 1 < 18446744073709551616 := by
      have := n.le_toInt
      omega
    have back : signed? (-((m + 1 : Nat) : Int)) = some n := by
      rw [← signed?_toInt n, value]
      rfl
    rw [toList_text_negative value, List.cons_append,
      number_of_optional fits ends (optional_of_mem (by decide) _), signed,
      if_neg (by decide), if_neg (Nat.succ_ne_zero m), back]

/-! ## Strings -/

lemma hexDigits_control : ∀ n < 0x20,
    hexValue? (hexDigit (n / 16)) = some (n / 16) ∧ hexValue? (hexDigit n) = some (n % 16) := by
  decide +kernel

lemma escapedUnit_control {c : Char} (control : c.toNat < 0x20) (rest : List Char) :
    escapedUnit ('0' :: '0' :: hexDigit (c.toNat / 16) :: hexDigit c.toNat :: rest) =
      some (c, rest) := by
  obtain ⟨high, low⟩ := hexDigits_control c.toNat control
  have units : hexDigits ('0' :: '0' :: hexDigit (c.toNat / 16) :: hexDigit c.toNat :: rest) =
      some (c.toNat, rest) := by
    have zero : hexValue? '0' = some 0 := by decide
    rw [hexDigits, zero, high, low]
    change some (0 * 4096 + 0 * 256 + c.toNat / 16 * 16 + c.toNat % 16, rest) = some (c.toNat, rest)
    simp only [Nat.zero_mul, Nat.zero_add, Nat.div_add_mod']
  rw [escapedUnit, bind_of_some units, if_neg (by omega), if_neg (by omega), Char.ofNat_toNat]
  rfl

lemma characters_backslash {fuel : Nat} {d : Char} {cs rest : List Char}
    (h : escaped cs = some (d, rest)) :
    characters (fuel + 1) ('\\' :: cs) =
      (characters fuel rest).map fun (ds, rest) => (d :: ds, rest) := by
  rw [characters, if_neg (by decide), if_pos rfl, h, Option.map_eq_bind]
  rfl

/-- What a character is written as is read as that character. -/
lemma characters_escapeChar (fuel : Nat) (c : Char) (rest : List Char) :
    characters (fuel + 1) (escapeChar c ++ rest) =
      (characters fuel rest).map fun (cs, rest) => (c :: cs, rest) := by
  rw [escapeChar]
  split_ifs with quote backslash _ _ _ _ _ control
  iterate 7
    · subst c
      exact characters_backslash rfl
  · exact characters_backslash (escapedUnit_control control rest)
  · rw [List.singleton_append, characters, if_neg quote, if_neg backslash, if_neg control,
      Option.map_eq_bind]
    rfl

lemma escapeChar_ne_nil (c : Char) : escapeChar c ≠ [] := by
  rw [escapeChar]
  split_ifs
  all_goals exact List.cons_ne_nil _ _

lemma length_le_escaped (cs : List Char) : cs.length ≤ (cs.flatMap escapeChar).length := by
  induction cs with
  | nil => exact Nat.le_refl 0
  | cons c cs ih =>
    have := List.length_pos_iff.mpr (escapeChar_ne_nil c)
    rw [List.flatMap_cons, List.length_append, List.length_cons]
    omega

lemma characters_escaped {fuel : Nat} {cs : List Char} (enough : cs.length < fuel)
    (rest : List Char) :
    characters fuel (cs.flatMap escapeChar ++ '"' :: rest) = some (cs, rest) := by
  induction cs generalizing fuel with
  | nil =>
    obtain ⟨fuel, rfl⟩ := Nat.exists_eq_add_one.mpr enough
    rw [List.flatMap_nil, List.nil_append, characters, if_pos rfl]
  | cons c cs ih =>
    rw [List.length_cons] at enough
    obtain ⟨fuel, rfl⟩ : ∃ n, fuel = n + 1 := Nat.exists_eq_add_one.mpr (by omega)
    rw [List.flatMap_cons, List.append_assoc, characters_escapeChar, ih (by omega)]
    rfl

lemma toList_quote (s : String) :
    (quote s).toList = '"' :: (s.toList.flatMap escapeChar ++ ['"']) := String.toList_ofList

lemma string_quote (s : String) (rest : List Char) :
    string ((quote s).toList ++ rest) = some (s, rest) := by
  have text : (quote s).toList ++ rest = '"' :: (s.toList.flatMap escapeChar ++ '"' :: rest) := by
    rw [toList_quote, List.cons_append, List.append_assoc]
    rfl
  have enough : s.toList.length < (s.toList.flatMap escapeChar ++ '"' :: rest).length := by
    have := length_le_escaped s.toList
    rw [List.length_append, List.length_cons]
    omega
  rw [text, string, bind_of_some (literal_cons ..),
    bind_of_some (r := fun cs => characters cs.length cs) (characters_escaped enough rest),
    String.ofList_toList]
  rfl

end Reading

end Json

end Clausal
