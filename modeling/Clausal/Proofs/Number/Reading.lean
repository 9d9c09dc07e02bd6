import Clausal.Proofs.Number.Grammar

/-!
# Whole texts read as numbers

A reader of a whole text refuses one that holds anything but a number. The reader of binary64
numbers knows the names of the infinities and of `nan` in any letter case besides numerals, and the
reader of integers neither a point nor an exponent. Both take the text of every numeral that they
are meant to take.
-/

namespace Clausal.Number

/-! ## The readers -/

/-- An exponent with its mark, up to the end of the text. -/
def readExponent? : List Char → Option Int
  | [] => some 0
  | c :: rest =>
    let (sign, ds) := takeSign rest
    if (c == 'e' || c == 'E') && !ds.isEmpty && ds.all isDigit then
      some (if sign == ['-'] then -(valueOf ds : Int) else valueOf ds)
    else none

/-- A point with the digits behind it, and what follows them. -/
def takePlaces : List Char → List Char × List Char
  | [] => ([], [])
  | c :: rest => if c = '.' then rest.span isDigit else ([], c :: rest)

/-- Digits around a point and an exponent, up to the end of the text. -/
def readMagnitude? (negative : Bool) (cs : List Char) : Option Binary64 :=
  let (whole, afterWhole) := cs.span isDigit
  let (places, rest) := takePlaces afterWhole
  if whole.isEmpty && places.isEmpty then none
  else (readExponent? rest).map fun exponent =>
    Binary64.ofDecimal negative (valueOf (whole ++ places)) (exponent - (places.length : Int))

/-- The numbers that have names. -/
def readName? (negative : Bool) (cs : List Char) : Option Binary64 :=
  match String.ofList (cs.map Char.toLower) with
  | "inf" => some (.infinite negative)
  | "infinity" => some (.infinite negative)
  | "nan" => some .nan
  | _ => none

/-- The binary64 number nearest to what the whole text writes. -/
def readBinary64? (cs : List Char) : Option Binary64 :=
  let (sign, rest) := takeSign cs
  (readMagnitude? (sign == ['-']) rest).or (readName? (sign == ['-']) rest)

/-- The integer that the whole text writes, if it fits. -/
def readSigned? (cs : List Char) : Option Int64 :=
  let (sign, ds) := takeSign cs
  if !ds.isEmpty && ds.all isDigit then
    signed? (if sign == ['-'] then -(valueOf ds : Int) else valueOf ds)
  else none

/-! ## Reading a numeral -/

lemma span_digits {digits rest : List Char} (all : ∀ d ∈ digits, isDigit d = true)
    (ends : ∀ c ∈ rest.head?, isDigit c = false) :
    (digits ++ rest).span isDigit = (digits, rest) := by
  obtain ⟨stop, left⟩ := takeWhile_digits ends
  rw [List.span_eq_takeWhile_dropWhile, List.takeWhile_append_of_pos all,
    List.dropWhile_append_of_pos all, stop, left, List.append_nil]

namespace Numeral

variable {n : Numeral}

lemma WellFormed.text_eq (wf : n.WellFormed) :
    takeSign n.text = (n.sign, n.whole ++ (n.fraction ++ n.exponent)) := by
  rw [text, List.append_assoc, List.append_assoc]
  exact takeSign_append wf.sign (wf.mantissa.not_isSign n.exponent)

/-- Neither digits nor a fraction go on with what stands behind a fraction. -/
lemma WellFormed.ends (wf : n.WellFormed) :
    ∀ c ∈ n.exponent.head?, isDigit c = false ∧ c ≠ '.' := by
  rcases wf.exponent with none | exponential
  · simp [none]
  · have ends := exponential.ends []
    rwa [List.append_nil] at ends

lemma WellFormed.span_whole (wf : n.WellFormed) :
    (n.whole ++ (n.fraction ++ n.exponent)).span isDigit =
      (n.whole, n.fraction ++ n.exponent) := by
  refine span_digits wf.mantissa.digits fun c hc => ?_
  rcases wf.mantissa.point with none | ⟨places, point, -⟩
  · rw [none] at hc
    exact (wf.ends c hc).1
  · rw [point] at hc
    obtain rfl := Option.some.inj hc
    rfl

lemma WellFormed.takePlaces (wf : n.WellFormed) :
    takePlaces (n.fraction ++ n.exponent) = (n.fraction.drop 1, n.exponent) := by
  rcases wf.mantissa.point with none | ⟨places, point, digits, -⟩
  · rw [none, List.nil_append]
    cases parts : n.exponent with
    | nil => rfl
    | cons c rest => exact if_neg (wf.ends c (by rw [parts]; rfl)).2
  · rw [point]
    exact span_digits digits fun c hc => (wf.ends c hc).1

lemma readExponent?_eq (wf : n.WellFormed) : readExponent? n.exponent = some n.exponentValue := by
  rcases wf.exponent with none | ⟨mark, sign, ds, parts, hm, hs, some, digits⟩
  · rw [exponentValue, none]
    rfl
  · have split : takeSign (sign ++ ds) = (sign, ds) := takeSign_append hs fun c hc =>
      not_isSign_of_isDigit (digits c (List.mem_of_mem_head? hc))
    have all : ds.all isDigit = true := List.all_eq_true.mpr digits
    have letter : (mark == 'e' || mark == 'E') = true := by simpa using hm
    have nonempty : ds.isEmpty = false := by simpa using some
    rw [exponentValue, parts, readExponent?]
    simp [split, all, letter, nonempty]

/-- The reader of binary64 numbers takes every numeral, for the number nearest to it. -/
lemma readBinary64?_text (wf : n.WellFormed) : readBinary64? n.text = some n.toBinary64 := by
  have digits : (n.whole.isEmpty && (n.fraction.drop 1).isEmpty) = false := by
    rcases wf.mantissa.point with none | ⟨places, point, -, lone⟩
    · have some : n.whole ≠ [] := wf.mantissa.nonempty.resolve_right (absurd none)
      simp [some]
    · rw [point]
      by_cases none : n.whole = []
      · simp [lone none]
      · simp [none]
  have magnitude : readMagnitude? n.negative (n.whole ++ (n.fraction ++ n.exponent)) =
      some n.toBinary64 := by
    rw [readMagnitude?]
    simp only [wf.span_whole, wf.takePlaces, digits, readExponent?_eq wf]
    rfl
  rw [readBinary64?]
  simp only [wf.text_eq]
  change (readMagnitude? n.negative _).or _ = _
  rw [magnitude, Option.some_or]

/-- The reader of integers takes the numerals that have neither a point nor an exponent. -/
lemma readSigned?_text (wf : n.WellFormed) :
    readSigned? n.text = n.integer?.bind signed? := by
  rw [readSigned?, integer?]
  simp only [wf.text_eq]
  by_cases bare : n.fraction ++ n.exponent = []
  · obtain ⟨point, exponent⟩ := List.append_eq_nil_iff.mp bare
    have some : n.whole ≠ [] := wf.mantissa.nonempty.resolve_right (absurd point)
    have all : n.whole.all isDigit = true := List.all_eq_true.mpr wf.mantissa.digits
    simp [point, exponent, some, all, negative]
  · have other : (n.whole ++ (n.fraction ++ n.exponent)).all isDigit = false := by
      rw [Bool.eq_false_iff]
      intro all
      have run := wf.span_whole
      rw [List.span_eq_takeWhile_dropWhile] at run
      have none := (Prod.mk.inj run).2
      rw [List.dropWhile_eq_nil_iff.mpr (List.all_eq_true.mp all)] at none
      exact bare none.symm
    have parts : (n.fraction.isEmpty && n.exponent.isEmpty) = false := by
      simpa [Bool.eq_false_iff] using bare
    rw [other, parts, Bool.and_false]
    rfl

end Numeral

end Clausal.Number
