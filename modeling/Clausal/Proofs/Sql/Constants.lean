import Clausal.Proofs.Sql.Lexer

/-!
# Literals as constants

What the literal of a value that is no list consists of: a string, NULL, or a number with at most
one sign before it and one point in it. The numbers without digits are written as words that are no
constants of SQL.
-/

namespace Clausal.Sql

open Lexer Number

/-! ## Numbers -/

def Digits (cs : List Char) : Prop :=
  cs ≠ [] ∧ ∀ c ∈ cs, c.isDigit = true

/-- A number without a sign. The digits after the point may be missing. -/
inductive Unsigned : List Token → Prop where
  | whole {cs : List Char} (h : Digits cs) : Unsigned [.word (String.ofList cs)]
  | point {cs : List Char} (h : Digits cs) : Unsigned [.word (String.ofList cs), .sign '.']
  | decimal {cs ds : List Char} (whole : Digits cs) (fraction : Digits ds) :
      Unsigned [.word (String.ofList cs), .sign '.', .word (String.ofList ds)]

inductive Constant : List Token → Prop where
  | null : Constant [.word "NULL"]
  | text (s : String) : Constant [.text s]
  | number {ts : List Token} (h : Unsigned ts) : Constant ts
  | negative {ts : List Token} (h : Unsigned ts) : Constant (.sign '-' :: ts)

/-- The text is read as a number; it begins with a digit, so a minus sign may stand before it. -/
structure Numeric (cs : List Char) (ts : List Token) : Prop where
  lex : lex cs = some ts
  unsigned : Unsigned ts
  first : ∃ c rest, cs = c :: rest ∧ c.isDigit = true

lemma Digits.numeric {cs : List Char} (h : Digits cs) : Numeric cs [.word (String.ofList cs)] := by
  obtain ⟨nonempty, digits⟩ := h
  obtain ⟨c, rest, rfl⟩ := List.exists_cons_of_ne_nil nonempty
  have word : ∀ d ∈ c :: rest, isWordChar d = true := by
    intro d hd
    exact isWordChar_of_isDigit (digits d hd)
  rw [List.forall_mem_cons] at word
  exact ⟨lex_word word.1 word.2, .whole ⟨nonempty, digits⟩, c, rest, rfl,
    digits c List.mem_cons_self⟩

/-- Digits around a point; there may be none behind it. -/
lemma Digits.numeric_point {cs ds : List Char} (h : Digits cs) (hd : ∀ d ∈ ds, d.isDigit = true) :
    ∃ ts, Numeric (cs ++ '.' :: ds) ts := by
  obtain ⟨whole, _, c, rest, rfl, first⟩ := h.numeric
  have breaks : Breaks ('.' :: ds) := (by decide : Breaking '.')
  have point : Closes ['.'] [.sign '.'] := rfl
  by_cases empty : ds = []
  · subst empty
    exact ⟨_, lex_append whole point.lex breaks, .point h, c, _, rfl, first⟩
  · have fraction : Digits ds := ⟨empty, hd⟩
    exact ⟨_, lex_append whole (point.lex_append fraction.numeric.lex) breaks,
      .decimal h fraction, c, _, rfl, first⟩

/-- A minus sign before a word is a token of its own. -/
lemma lex_minus_cons {c : Char} {cs : List Char} {ts : List Token} (hc : isWordChar c = true)
    (h : lex (c :: cs) = some ts) : lex ('-' :: c :: cs) = some (.sign '-' :: ts) := by
  obtain ⟨us, mode, vs, scan, finish, rfl⟩ := lex_eq_some_iff.mp h
  obtain ⟨ws, next, xs, head, tail, rfl⟩ := scan.of_cons
  have single : c ≠ '-' := by
    rintro rfl
    cases hc
  have second : Mode.minus.step c = some (.sign '-' :: ws, next) := by
    have first : start c = some (ws, next) := head
    simp [Mode.step, single, emit, first]
  have opening : Mode.gap.step '-' = some ([], .minus) := rfl
  exact lex_eq_some_iff.mpr ⟨_, mode, vs, (tail.cons second).silent opening, finish, rfl⟩

lemma Numeric.constant {cs : List Char} {ts : List Token} (h : Numeric cs ts) (negative : Bool) :
    ∃ us, Sql.lex ((if negative then ['-'] else []) ++ cs) = some us ∧ Constant us := by
  obtain ⟨read, unsigned, c, rest, rfl, digit⟩ := h
  cases negative with
  | false => exact ⟨ts, read, .number unsigned⟩
  | true => exact ⟨_, lex_minus_cons (isWordChar_of_isDigit digit) read, .negative unsigned⟩

lemma digits_toDigits (n : Nat) : Digits (Nat.toDigits 10 n) :=
  ⟨Nat.toDigits_ne_nil, fun _ hc => Nat.isDigit_of_mem_toDigits (by decide) (by decide) hc⟩

lemma exists_constant_integer (n : Int) :
    ∃ ts, lex (toString n).toList = some ts ∧ Constant ts := by
  have digits (n : Nat) : Numeric n.repr.toList [.word (String.ofList (Nat.toDigits 10 n))] := by
    rw [Nat.toList_repr]
    exact (digits_toDigits n).numeric
  cases n with
  | ofNat n => exact (digits n).constant false
  | negSucc n =>
    change ∃ ts, lex ("-" ++ (n + 1).repr).toList = some ts ∧ Constant ts
    rw [String.toList_append]
    exact (digits (n + 1)).constant true

/-! ## Binary64 numbers -/

lemma isDigit_zeros (n : Nat) : ∀ c ∈ List.replicate n '0', c.isDigit = true := by
  intro c hc
  obtain ⟨_, rfl⟩ := List.mem_replicate.mp hc
  rfl

lemma isDigit_dropZeros (n : Nat) :
    ∀ c ∈ Shortest.dropZeros (Nat.toDigits 10 n), c.isDigit = true := by
  intro c hc
  rw [Shortest.dropZeros, List.mem_reverse] at hc
  have mem := List.mem_reverse.mp ((List.dropWhile_sublist _).subset hc)
  exact (digits_toDigits n).2 c mem

lemma isDigit_shortest (tie : Tie) (units : Nat) :
    ∀ c ∈ (shortest tie units).digits, c.isDigit = true := by
  unfold shortest
  -- which grid the digits are taken from does not matter, and is not to be computed
  generalize Shortest.onGrid tie units = grid
  dsimp only
  split
  · next digits places found =>
    obtain ⟨n, _, hn⟩ := List.exists_of_findSome?_eq_some found
    simp only [Option.map_eq_some_iff] at hn
    obtain ⟨d, _, same⟩ := hn
    obtain ⟨rfl, -⟩ := Prod.mk.inj same
    exact isDigit_dropZeros d
  · exact isDigit_zeros 1

/-- Positional notation is digits with at most one point between them. -/
lemma exists_numeric_spread {d : Decimal} (h : ∀ c ∈ d.digits, c.isDigit = true) :
    ∃ ts, Numeric (Layout.spread false d) ts := by
  rw [Layout.spread]
  by_cases small : d.point ≤ 0
  · rw [if_pos small]
    have zero : Digits ['0'] := ⟨List.cons_ne_nil _ _, isDigit_zeros 1⟩
    exact zero.numeric_point (List.forall_mem_append.mpr ⟨isDigit_zeros _, h⟩)
  · rw [if_neg small]
    by_cases whole : (d.digits.length : Int) ≤ d.point
    · rw [if_pos whole]
      have digits : Digits (d.digits ++ List.replicate (d.point - d.digits.length).toNat '0') := by
        refine ⟨?_, List.forall_mem_append.mpr ⟨h, isDigit_zeros _⟩⟩
        rw [← List.length_pos_iff, List.length_append, List.length_replicate]
        omega
      simp only [Bool.false_eq_true, if_false, List.append_nil]
      exact ⟨_, digits.numeric⟩
    · rw [if_neg whole]
      have digits : Digits (d.digits.take d.point.toNat) := by
        refine ⟨?_, fun c hc => h c (List.mem_of_mem_take hc)⟩
        rw [← List.length_pos_iff, List.length_take]
        omega
      exact digits.numeric_point fun c hc => h c (List.mem_of_mem_drop hc)

lemma exists_numeric_magnitude (units : Nat) :
    ∃ ts, Numeric (Layout.plain.magnitude units) ts := by
  rw [Layout.magnitude]
  by_cases zero : units = 0
  · rw [if_pos zero]
    have digits : Digits ['0'] := ⟨List.cons_ne_nil _ _, isDigit_zeros 1⟩
    exact ⟨_, digits.numeric⟩
  · rw [if_neg zero]
    exact exists_numeric_spread (isDigit_shortest _ _)

/-! ## Values -/

def IsList : Value → Prop
  | .list _ => True
  | _ => False

/-- The value is no list and has digits if it is a number. -/
def HasConstant : Value → Prop
  | .float .nan | .float (.infinite _) | .list _ => False
  | _ => True

lemma exists_constant {v : Value} (h : HasConstant v) :
    ∃ ts, lex (literal v).toList = some ts ∧ Constant ts := by
  cases v with
  | null => exact ⟨_, rfl, .null⟩
  | bool b =>
    have digit (c : Char) (hc : c.isDigit = true) : Digits [c] :=
      ⟨List.cons_ne_nil _ _, List.forall_mem_singleton.mpr hc⟩
    cases b with
    | false => exact ⟨_, rfl, .number (.whole (digit '0' rfl))⟩
    | true => exact ⟨_, rfl, .number (.whole (digit '1' rfl))⟩
  | int n => simpa only [literal] using exists_constant_integer n.toInt
  | float x =>
    cases x with
    | finite negative units =>
      obtain ⟨ts, numeric⟩ := exists_numeric_magnitude units
      simpa only [literal, Layout.write, String.toList_ofList] using numeric.constant negative
    | infinite negative => exact h.elim
    | nan => exact h.elim
  | text s => exact ⟨_, lex_literal_of_quotes (.text s), .text s⟩
  | datetime dt => exact ⟨_, lex_literal_of_quotes (.datetime dt), .text dt.toText⟩
  | list items => exact h.elim

/-- No comma and no bracket. -/
def Flat (ts : List Token) : Prop :=
  ∀ t ∈ ts, t ∉ [Token.sign ',', .sign '(', .sign ')']

/-- One expression: it has tokens, and none of them could divide it or enclose another. -/
def Undivided (ts : List Token) : Prop :=
  ts ≠ [] ∧ Flat ts

instance (ts : List Token) : Decidable (Flat ts) :=
  inferInstanceAs (Decidable (∀ t ∈ ts, _))

instance (ts : List Token) : Decidable (Undivided ts) :=
  inferInstanceAs (Decidable (_ ∧ _))

lemma Unsigned.undivided {ts : List Token} (h : Unsigned ts) : Undivided ts := by
  cases h <;> simp [Undivided, Flat]

lemma Constant.undivided {ts : List Token} (h : Constant ts) : Undivided ts := by
  cases h with
  | null => decide
  | text s => simp [Undivided, Flat]
  | number h => exact h.undivided
  | negative h =>
    refine ⟨List.cons_ne_nil _ _, List.forall_mem_cons.mpr ⟨by decide, h.undivided.2⟩⟩

/-- The words for numbers without digits. -/
lemma literal_of_not_hasConstant {v : Value} (h : ¬ HasConstant v) (scalar : ¬ IsList v) :
    literal v ∈ ["NaN", "inf", "-inf"] := by
  cases v with
  | float x =>
    cases x with
    | finite negative units => exact absurd trivial h
    | infinite negative => cases negative <;> decide
    | nan => decide
  | list items => exact absurd trivial scalar
  | _ => exact absurd trivial h

lemma not_constant_word {w : String} (null : w ≠ "NULL") {c : Char} (hc : c ∈ w.toList)
    (letter : c.isDigit = false) : ¬ Constant [.word w] ∧ ¬ Constant [.sign '-', .word w] := by
  have noDigits {cs : List Char} (same : w = String.ofList cs) : ¬ Digits cs := by
    rintro ⟨_, digits⟩
    rw [same, String.toList_ofList] at hc
    rw [digits c hc] at letter
    cases letter
  constructor
  · intro h
    cases h with
    | null => exact null rfl
    | number h =>
      cases h with
      | whole h => exact noDigits rfl h
  · intro h
    cases h with
    | number h => cases h
    | negative h =>
      cases h with
      | whole h => exact noDigits rfl h

/-- A literal that is no constant is one word with at most a sign. -/
lemma exists_undivided {v : Value} (scalar : ¬ IsList v) :
    ∃ ts, lex (literal v).toList = some ts ∧ Undivided ts ∧ (Constant ts ↔ HasConstant v) := by
  by_cases h : HasConstant v
  · obtain ⟨ts, read, constant⟩ := exists_constant h
    exact ⟨ts, read, constant.undivided, iff_of_true constant h⟩
  · have words := literal_of_not_hasConstant h scalar
    simp only [List.mem_cons, List.not_mem_nil, or_false] at words
    rcases words with word | word | word
    · rw [word]
      refine ⟨[.word "NaN"], rfl, by decide, iff_of_false ?_ h⟩
      exact (not_constant_word (by decide) (c := 'N') (by decide) rfl).1
    · rw [word]
      refine ⟨[.word "inf"], rfl, by decide, iff_of_false ?_ h⟩
      exact (not_constant_word (by decide) (c := 'i') (by decide) rfl).1
    · rw [word]
      refine ⟨[.sign '-', .word "inf"], rfl, by decide, iff_of_false ?_ h⟩
      exact (not_constant_word (by decide) (c := 'i') (by decide) rfl).2

end Clausal.Sql
