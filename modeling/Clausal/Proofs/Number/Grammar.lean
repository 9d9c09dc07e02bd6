import Clausal.Number.Numeral
import Clausal.Proofs.Number.Digits
import Mathlib.Computability.RegularExpressions
import Mathlib.Data.List.TakeWhile
import Mathlib.Tactic.IntervalCases

/-!
# The grammar of numerals

The words that read as a number are those of a regular expression. `Numeral.scan` takes the longest
of them off the front of a text, part by part: a part never begins with what could go on with the
part before it, so taking as much as possible for each loses nothing for the next.
-/

namespace Clausal.Number

/-- A run of at least one digit. -/
def DigitRun (cs : List Char) : Prop := cs ≠ [] ∧ ∀ d ∈ cs, isDigit d = true

/-- A sign or nothing. -/
def OptionalSign (cs : List Char) : Prop := cs = [] ∨ ∃ c, isSign c = true ∧ cs = [c]

lemma isSign_iff (c : Char) : isSign c = true ↔ c = '+' ∨ c = '-' := by
  simp [isSign]

lemma not_isSign_of_isDigit {c : Char} (h : isDigit c = true) : isSign c = false := by
  rw [Bool.eq_false_iff]
  intro sign
  rcases (isSign_iff c).mp sign with rfl | rfl <;> cases h

/-! ## Words of the expression -/

namespace Numeral

open RegularExpression

def oneOf : List Char → RegularExpression Char
  | [] => 0
  | c :: cs => char c + oneOf cs

def maybe (e : RegularExpression Char) : RegularExpression Char := 1 + e

def digit : RegularExpression Char := oneOf ['0', '1', '2', '3', '4', '5', '6', '7', '8', '9']

def digits : RegularExpression Char := digit * digit.star

def optionalSign : RegularExpression Char := maybe (oneOf ['+', '-'])

def mantissa : RegularExpression Char :=
  digits * maybe (char '.' * digits.star) + char '.' * digits

/-- A sign if any, digits with a point at most, and an exponent if any. -/
def grammar : RegularExpression Char :=
  optionalSign * mantissa * maybe (oneOf ['e', 'E'] * optionalSign * digits)

variable {w : List Char}

lemma mem_oneOf (cs : List Char) : w ∈ (oneOf cs).matches' ↔ ∃ c ∈ cs, w = [c] := by
  induction cs with
  | nil => simp [oneOf, Language.notMem_zero]
  | cons c cs ih =>
    rw [oneOf, matches'_add, Language.mem_add, ih, List.exists_mem_cons_iff]
    rfl

lemma mem_maybe (e : RegularExpression Char) :
    w ∈ (maybe e).matches' ↔ w = [] ∨ w ∈ e.matches' := by
  rw [maybe, matches'_add, Language.mem_add]
  rfl

lemma isDigit_iff (c : Char) :
    isDigit c = true ↔ c ∈ ['0', '1', '2', '3', '4', '5', '6', '7', '8', '9'] := by
  constructor
  · intro h
    obtain ⟨low, high⟩ := isDigit_bounds h
    rw [← Char.ofNat_toNat c]
    interval_cases c.toNat <;> decide
  · exact List.all_eq_true.mp (by decide) c

lemma mem_digit : w ∈ digit.matches' ↔ ∃ c, isDigit c = true ∧ w = [c] := by
  simp only [digit, mem_oneOf, isDigit_iff]

lemma mem_star_digit : w ∈ digit.star.matches' ↔ ∀ d ∈ w, isDigit d = true := by
  rw [matches'_star, Language.mem_kstar]
  constructor
  · rintro ⟨parts, rfl, each⟩ d hd
    obtain ⟨part, hp, hd⟩ := List.mem_flatten.mp hd
    obtain ⟨c, hc, rfl⟩ := mem_digit.mp (each part hp)
    rwa [List.mem_singleton.mp hd]
  · intro all
    refine ⟨w.map fun d => [d], by simp [← List.flatMap_def], fun part hp => ?_⟩
    obtain ⟨d, hd, rfl⟩ := List.mem_map.mp hp
    exact mem_digit.mpr ⟨d, all d hd, rfl⟩

lemma mem_digits : w ∈ digits.matches' ↔ DigitRun w := by
  rw [digits, matches'_mul, Language.mem_mul]
  constructor
  · rintro ⟨_, first, rest, tail, rfl⟩
    obtain ⟨c, hc, rfl⟩ := mem_digit.mp first
    exact ⟨List.cons_ne_nil c rest, List.forall_mem_cons.mpr ⟨hc, mem_star_digit.mp tail⟩⟩
  · rintro ⟨some, all⟩
    obtain ⟨c, rest, rfl⟩ := List.exists_cons_of_ne_nil some
    obtain ⟨hc, tail⟩ := List.forall_mem_cons.mp all
    exact ⟨[c], mem_digit.mpr ⟨c, hc, rfl⟩, rest, mem_star_digit.mpr tail, rfl⟩

/-- Runs of digits one after the other are digits, or nothing. -/
lemma mem_star_digits : w ∈ digits.star.matches' ↔ ∀ d ∈ w, isDigit d = true := by
  rw [matches'_star, Language.mem_kstar]
  constructor
  · rintro ⟨parts, rfl, each⟩ d hd
    obtain ⟨part, hp, hd⟩ := List.mem_flatten.mp hd
    exact (mem_digits.mp (each part hp)).2 d hd
  · intro all
    cases w with
    | nil => exact ⟨[], rfl, List.forall_mem_nil _⟩
    | cons c rest =>
      have whole : c :: rest ∈ digits.matches' := mem_digits.mpr ⟨List.cons_ne_nil c rest, all⟩
      exact ⟨[c :: rest], (List.append_nil _).symm, List.forall_mem_singleton.mpr whole⟩

lemma mem_optionalSign : w ∈ optionalSign.matches' ↔ OptionalSign w := by
  simp [optionalSign, mem_maybe, mem_oneOf, OptionalSign, isSign_iff]

/-! ## Parts of a numeral -/

/-- A point with digits behind it, where none may stand if there are some before the point. -/
def Fraction (whole cs : List Char) : Prop :=
  ∃ places, cs = '.' :: places ∧ (∀ d ∈ places, isDigit d = true) ∧ (whole = [] → places ≠ [])

def Exponent (cs : List Char) : Prop :=
  ∃ mark sign ds, cs = mark :: (sign ++ ds) ∧ (mark = 'e' ∨ mark = 'E') ∧ OptionalSign sign ∧
    DigitRun ds

/-- Digits with a point at most. -/
structure Mantissa (whole fraction : List Char) : Prop where
  digits : ∀ d ∈ whole, isDigit d = true
  point : fraction = [] ∨ Fraction whole fraction
  nonempty : whole ≠ [] ∨ fraction ≠ []

/-- The parts make a numeral. -/
structure WellFormed (n : Numeral) : Prop where
  sign : OptionalSign n.sign
  mantissa : Mantissa n.whole n.fraction
  exponent : n.exponent = [] ∨ Exponent n.exponent

lemma mem_mantissa :
    w ∈ mantissa.matches' ↔ ∃ whole fraction, Mantissa whole fraction ∧ whole ++ fraction = w := by
  simp only [mantissa, matches'_add, matches'_mul, matches'_char, Language.mem_add,
    Language.mem_mul, mem_digits, mem_maybe, mem_star_digits]
  constructor
  · rintro (⟨whole, ⟨some, all⟩, _, (rfl | ⟨_, rfl, places, hp, rfl⟩), rfl⟩ |
      ⟨_, rfl, places, ⟨some, hp⟩, rfl⟩)
    · exact ⟨whole, [], ⟨all, Or.inl rfl, Or.inl some⟩, rfl⟩
    · exact ⟨whole, '.' :: places,
        ⟨all, Or.inr ⟨places, rfl, hp, fun none => absurd none some⟩, Or.inl some⟩, rfl⟩
    · exact ⟨[], '.' :: places,
        ⟨List.forall_mem_nil _, Or.inr ⟨places, rfl, hp, fun _ => some⟩, Or.inr nofun⟩, rfl⟩
  · rintro ⟨whole, fraction, ⟨all, (rfl | ⟨places, rfl, hp, lone⟩), nonempty⟩, rfl⟩
    · have some : whole ≠ [] := nonempty.resolve_right (absurd rfl)
      exact Or.inl ⟨whole, ⟨some, all⟩, [], Or.inl rfl, rfl⟩
    · by_cases none : whole = []
      · exact Or.inr ⟨['.'], rfl, places, ⟨lone none, hp⟩, by rw [none]; rfl⟩
      · exact Or.inl ⟨whole, ⟨none, all⟩, '.' :: places, Or.inr ⟨['.'], rfl, places, hp, rfl⟩, rfl⟩

lemma mem_exponent :
    w ∈ (oneOf ['e', 'E'] * optionalSign * digits).matches' ↔ Exponent w := by
  simp only [matches'_mul, Language.mem_mul, mem_oneOf, mem_optionalSign, mem_digits]
  constructor
  · rintro ⟨_, ⟨_, ⟨mark, hm, rfl⟩, sign, hs, rfl⟩, ds, hd, rfl⟩
    exact ⟨mark, sign, ds, rfl, by simpa using hm, hs, hd⟩
  · rintro ⟨mark, sign, ds, rfl, hm, hs, hd⟩
    exact ⟨mark :: sign, ⟨[mark], ⟨mark, by simpa using hm, rfl⟩, sign, hs, rfl⟩, ds, hd, rfl⟩

/-- The words of the expression are the texts of numerals. -/
lemma mem_grammar : w ∈ grammar.matches' ↔ ∃ n : Numeral, n.WellFormed ∧ n.text = w := by
  rw [grammar, matches'_mul, Language.mem_mul]
  simp only [matches'_mul optionalSign, Language.mem_mul, mem_optionalSign, mem_mantissa,
    mem_maybe, mem_exponent]
  constructor
  · rintro ⟨_, ⟨sign, hs, _, ⟨whole, fraction, hm, rfl⟩, rfl⟩, exponent, he, rfl⟩
    refine ⟨⟨sign, whole, fraction, exponent⟩, ⟨hs, hm, he⟩, ?_⟩
    rw [text, List.append_assoc sign]
  · rintro ⟨n, ⟨hs, hm, he⟩, rfl⟩
    refine ⟨n.sign ++ (n.whole ++ n.fraction), ⟨n.sign, hs, _, ⟨n.whole, n.fraction, hm, rfl⟩, rfl⟩,
      n.exponent, he, ?_⟩
    rw [text, ← List.append_assoc n.sign]

lemma WellFormed.text_ne_nil {n : Numeral} (wf : n.WellFormed) : n.text ≠ [] := by
  intro none
  simp only [text, List.append_eq_nil_iff] at none
  exact wf.mantissa.nonempty.elim (absurd none.1.1.2) (absurd none.1.2)

end Numeral

/-! ## What the scan takes -/

section Taking

variable {sign rest : List Char}

lemma takeSign_cases (cs : List Char) :
    ∃ sign rest, takeSign cs = (sign, rest) ∧ OptionalSign sign ∧ cs = sign ++ rest := by
  cases cs with
  | nil => exact ⟨[], [], rfl, Or.inl rfl, rfl⟩
  | cons c rest =>
    by_cases h : isSign c = true
    · exact ⟨[c], rest, if_pos h, Or.inr ⟨c, h, rfl⟩, rfl⟩
    · exact ⟨[], c :: rest, if_neg h, Or.inl rfl, rfl⟩

lemma takeSign_append (h : OptionalSign sign) (ends : ∀ c ∈ rest.head?, isSign c = false) :
    takeSign (sign ++ rest) = (sign, rest) := by
  rcases h with rfl | ⟨c, hc, rfl⟩
  · cases rest with
    | nil => rfl
    | cons c rest =>
      have none : ¬ isSign c = true := by simp [ends c rfl]
      exact if_neg none
  · exact if_pos hc

lemma takeWhile_digits {cs : List Char} (ends : ∀ c ∈ cs.head?, isDigit c = false) :
    cs.takeWhile isDigit = [] ∧ cs.dropWhile isDigit = cs := by
  cases cs with
  | nil => exact ⟨rfl, rfl⟩
  | cons c cs =>
    rw [List.takeWhile_cons, List.dropWhile_cons, ends c rfl]
    exact ⟨rfl, rfl⟩

end Taking

namespace Numeral

variable {whole places rest : List Char}

lemma scanFraction_of_head? {cs : List Char} (h : ∀ c ∈ cs.head?, c ≠ '.') (afterDigits : Bool) :
    scanFraction afterDigits cs = [] := by
  cases cs with
  | nil => rfl
  | cons c rest => simp [scanFraction, h c rfl]

lemma scanFraction_append (digits : ∀ d ∈ places, isDigit d = true)
    (lone : whole = [] → places ≠ []) (rest : List Char) :
    scanFraction (!whole.isEmpty) ('.' :: places ++ rest) =
      '.' :: places ++ rest.takeWhile isDigit := by
  have taken : (places ++ rest).takeWhile isDigit = places ++ rest.takeWhile isDigit :=
    List.takeWhile_append_of_pos digits
  rw [List.cons_append, scanFraction]
  simp only [taken]
  apply if_pos
  by_cases none : whole = []
  · simp [none, lone none]
  · simp [none]

lemma scanExponent_append {exponent : List Char} (h : Exponent exponent) (rest : List Char) :
    scanExponent (exponent ++ rest) = exponent ++ rest.takeWhile isDigit := by
  obtain ⟨mark, sign, ds, rfl, hm, hs, hd⟩ := h
  obtain ⟨d, more, rfl⟩ := List.exists_cons_of_ne_nil hd.1
  have split : takeSign (sign ++ (d :: more ++ rest)) = (sign, d :: more ++ rest) :=
    takeSign_append hs fun c hc => by
      obtain rfl := Option.some.inj hc
      exact not_isSign_of_isDigit (hd.2 _ List.mem_cons_self)
  have taken : (d :: more ++ rest).takeWhile isDigit = d :: more ++ rest.takeWhile isDigit :=
    List.takeWhile_append_of_pos hd.2
  rw [List.cons_append, List.append_assoc, scanExponent]
  simp only [split, taken]
  rw [if_pos (by simpa using hm)]
  simp

lemma Exponent.ne_nil {exponent : List Char} (h : Exponent exponent) : exponent ≠ [] := by
  obtain ⟨mark, sign, ds, rfl, -⟩ := h
  exact List.cons_ne_nil _ _

/-- Neither digits nor a fraction go on with an exponent. -/
lemma Exponent.ends {exponent : List Char} (h : Exponent exponent) (rest : List Char) :
    ∀ c ∈ (exponent ++ rest).head?, isDigit c = false ∧ c ≠ '.' := by
  obtain ⟨mark, sign, ds, rfl, hm, -, -⟩ := h
  rintro c ⟨⟩
  rcases hm with rfl | rfl <;> decide

lemma scanFraction_cases (whole cs : List Char) :
    (scanFraction (!whole.isEmpty) cs = [] ∨ Fraction whole (scanFraction (!whole.isEmpty) cs)) ∧
      scanFraction (!whole.isEmpty) cs <+: cs := by
  cases cs with
  | nil => exact ⟨Or.inl rfl, List.nil_prefix⟩
  | cons c rest =>
    rw [scanFraction]
    split
    · next h =>
      simp only [Bool.and_eq_true, decide_eq_true_eq, Bool.or_eq_true, Bool.not_eq_true',
        List.isEmpty_eq_false_iff] at h
      obtain ⟨rfl, lone⟩ := h
      have places : whole = [] → rest.takeWhile isDigit ≠ [] := fun none =>
        lone.resolve_left (absurd none)
      exact ⟨Or.inr ⟨_, rfl, fun d => List.mem_takeWhile_imp, places⟩,
        List.cons_prefix_cons.mpr ⟨rfl, List.takeWhile_prefix _⟩⟩
    · exact ⟨Or.inl rfl, List.nil_prefix⟩

lemma scanExponent_cases (cs : List Char) :
    (scanExponent cs = [] ∨ Exponent (scanExponent cs)) ∧ scanExponent cs <+: cs := by
  cases cs with
  | nil => exact ⟨Or.inl rfl, List.nil_prefix⟩
  | cons c rest =>
    obtain ⟨sign, afterSign, split, hs, rfl⟩ := takeSign_cases rest
    rw [scanExponent]
    simp only [split]
    split
    · next h =>
      simp only [Bool.and_eq_true, decide_eq_true_eq, Bool.or_eq_true, Bool.not_eq_true',
        List.isEmpty_eq_false_iff] at h
      exact ⟨Or.inr ⟨c, sign, _, rfl, h.1, hs, h.2, fun d => List.mem_takeWhile_imp⟩,
        List.cons_prefix_cons.mpr ⟨rfl, (List.prefix_append_right_inj sign).mpr
          (List.takeWhile_prefix _)⟩⟩
    · exact ⟨Or.inl rfl, List.nil_prefix⟩

/-! ## The scan -/

variable {cs sign tail afterWhole fraction : List Char}

/-- The scan by its parts. -/
lemma scan_eq_some (split : takeSign cs = (sign, tail)) (first : tail.takeWhile isDigit = whole)
    (left : tail.dropWhile isDigit = afterWhole)
    (second : scanFraction (!whole.isEmpty) afterWhole = fraction)
    (nonempty : whole ≠ [] ∨ fraction ≠ []) :
    scan cs = some ⟨sign, whole, fraction, scanExponent (afterWhole.drop fraction.length)⟩ := by
  rw [scan]
  simp only [split, first, left, second]
  rw [if_neg]
  simpa only [Bool.and_eq_true, List.isEmpty_iff, not_and_or] using nonempty

/-- What the scan finds is a numeral at the start of the text. -/
lemma of_scan {n : Numeral} (found : scan cs = some n) : n.WellFormed ∧ n.text <+: cs := by
  obtain ⟨sign, tail, split, hs, rfl⟩ := takeSign_cases cs
  obtain ⟨point, rest, hf⟩ := scanFraction_cases (tail.takeWhile isDigit) (tail.dropWhile isDigit)
  have whole : tail.takeWhile isDigit ++ tail.dropWhile isDigit = tail :=
    List.takeWhile_append_dropWhile
  have digits : ∀ d ∈ tail.takeWhile isDigit, isDigit d = true := fun d => List.mem_takeWhile_imp
  rw [scan] at found
  simp only [split] at found
  generalize
    scanFraction (!(tail.takeWhile isDigit).isEmpty) (tail.dropWhile isDigit) = fraction at *
  generalize tail.takeWhile isDigit = first at *
  rw [← hf] at found whole
  rw [List.drop_left] at found
  split at found
  · cases found
  · next some =>
    simp only [Bool.and_eq_true, List.isEmpty_iff, not_and_or] at some
    obtain ⟨exponent, he⟩ := scanExponent_cases rest
    obtain rfl := Option.some.inj found
    refine ⟨⟨hs, ⟨digits, point, some⟩, exponent⟩, ?_⟩
    rw [text, ← whole, List.append_assoc, List.append_assoc]
    exact (List.prefix_append_right_inj _).mpr ((List.prefix_append_right_inj _).mpr
      ((List.prefix_append_right_inj _).mpr he))

/-- Digits before anything else are all part of the first run. -/
lemma run_append (digits : ∀ d ∈ whole, isDigit d = true) (rest : List Char) :
    (whole ++ rest).takeWhile isDigit = whole ++ rest.takeWhile isDigit ∧
      (whole ++ rest).dropWhile isDigit = rest.dropWhile isDigit :=
  ⟨List.takeWhile_append_of_pos digits, List.dropWhile_append_of_pos digits⟩

lemma Mantissa.not_isSign (h : Mantissa whole fraction) (rest : List Char) :
    ∀ c ∈ (whole ++ (fraction ++ rest)).head?, isSign c = false := by
  intro c hc
  cases whole with
  | cons d whole =>
    obtain rfl := Option.some.inj hc
    exact not_isSign_of_isDigit (h.digits _ List.mem_cons_self)
  | nil =>
    obtain ⟨places, rfl, _⟩ := h.point.resolve_left (h.nonempty.resolve_left (absurd rfl))
    obtain rfl := Option.some.inj hc
    rfl

/-- The numeral with what a following text adds to its last part, and with the parts behind it. -/
def extend (n : Numeral) (rest : List Char) : Numeral :=
  let more := rest.takeWhile isDigit
  let after := rest.dropWhile isDigit
  if n.exponent ≠ [] then { n with exponent := n.exponent ++ more }
  else if n.fraction ≠ [] then
    { n with fraction := n.fraction ++ more, exponent := scanExponent after }
  else
    let fraction := scanFraction true after
    { n with
      whole := n.whole ++ more
      fraction := fraction
      exponent := scanExponent (after.drop fraction.length) }

lemma text_prefix_extend (n : Numeral) (rest : List Char) : n.text <+: (n.extend rest).text := by
  obtain ⟨sign, whole, fraction, exponent⟩ := n
  rw [extend]
  split
  · simp [text, List.prefix_append]
  split
  · next none _ =>
    obtain rfl : exponent = [] := not_not.mp none
    simp [text, List.prefix_append]
  · next none none' =>
    obtain rfl : exponent = [] := not_not.mp none
    obtain rfl : fraction = [] := not_not.mp none'
    simp [text, List.prefix_append]

/-- The scan goes on with a numeral as long as the text does. -/
lemma scan_append {n : Numeral} (wf : n.WellFormed) (rest : List Char) :
    scan (n.text ++ rest) = some (n.extend rest) := by
  obtain ⟨sign, whole, fraction, exponent⟩ := n
  obtain ⟨hs, mantissa, he⟩ := wf
  dsimp only at hs mantissa he
  have split := takeSign_append hs (mantissa.not_isSign (exponent ++ rest))
  obtain ⟨run, after⟩ := run_append mantissa.digits (fraction ++ (exponent ++ rest))
  simp only [text, List.append_assoc]
  rcases mantissa.point with rfl | ⟨places, rfl, hp, lone⟩
  · have some : whole ≠ [] := mantissa.nonempty.resolve_right (absurd rfl)
    rcases he with rfl | exponential
    · have longer : whole ++ rest.takeWhile isDigit ≠ [] := List.append_ne_nil_of_left_ne_nil some _
      have before : (!(whole ++ rest.takeWhile isDigit).isEmpty) = true := by simpa using longer
      rw [scan_eq_some split run after rfl (Or.inl longer), List.nil_append, List.nil_append,
        before]
      rfl
    · obtain ⟨stop, left⟩ := takeWhile_digits fun c hc => (exponential.ends rest c hc).1
      have none := scanFraction_of_head? fun c hc => (exponential.ends rest c hc).2
      rw [List.nil_append, stop, List.append_nil] at run
      rw [List.nil_append, left] at after
      rw [scan_eq_some split run after (none _) (Or.inl some)]
      simp [extend, scanExponent_append exponential, exponential.ne_nil]
  · obtain ⟨stop, left⟩ := @takeWhile_digits ('.' :: places ++ (exponent ++ rest)) (by
      rintro c ⟨⟩
      rfl)
    rw [stop, List.append_nil] at run
    rw [left] at after
    have second := scanFraction_append hp lone (exponent ++ rest)
    rcases he with rfl | exponential
    · have parts : '.' :: places ++ ([] ++ rest) =
          '.' :: places ++ rest.takeWhile isDigit ++ rest.dropWhile isDigit := by
        rw [List.append_assoc, List.takeWhile_append_dropWhile, List.nil_append]
      rw [scan_eq_some split run after second (Or.inr nofun), parts, List.nil_append,
        List.drop_left]
      rfl
    · have none := (takeWhile_digits fun c hc => (exponential.ends rest c hc).1).1
      rw [none, List.append_nil] at second
      rw [scan_eq_some split run after second (Or.inr nofun), List.drop_left,
        scanExponent_append exponential]
      simp [extend, exponential.ne_nil]

/-- A numeral at the start of the text is part of what the scan finds. -/
lemma exists_scan {n : Numeral} (wf : n.WellFormed) (start : n.text <+: cs) :
    ∃ m, scan cs = some m ∧ n.text <+: m.text := by
  obtain ⟨rest, rfl⟩ := start
  exact ⟨n.extend rest, scan_append wf rest, n.text_prefix_extend rest⟩

/-- What does not go on with the last part of a numeral, nor with a part behind it. -/
structure Ends (n : Numeral) (rest : List Char) : Prop where
  digit : ∀ c ∈ rest.head?, isDigit c = false
  fraction : n.fraction = [] → n.exponent = [] → scanFraction true rest = []
  exponent : n.exponent = [] → scanExponent rest = []

lemma extend_of_ends {n : Numeral} {rest : List Char} (h : n.Ends rest) : n.extend rest = n := by
  obtain ⟨sign, whole, fraction, exponent⟩ := n
  obtain ⟨stop, left⟩ := takeWhile_digits h.digit
  rw [extend]
  simp only [stop, left, List.append_nil]
  split
  · rfl
  next none =>
  obtain rfl : exponent = [] := not_not.mp none
  rw [h.exponent rfl]
  split
  · rfl
  next none' =>
  obtain rfl : fraction = [] := not_not.mp none'
  rw [h.fraction rfl rfl, List.length_nil, List.drop_zero, h.exponent rfl]

end Numeral

end Clausal.Number
