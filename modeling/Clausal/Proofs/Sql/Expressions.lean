import Clausal.Proofs.Sql.Constants
import Clausal.Proofs.Sql.Lexemes
import Clausal.Proofs.Value

/-!
# Expressions between commas

A list of expressions is divided at the commas outside of brackets. The literal of a list is written
without brackets, so it is divided wherever its members are: a value stands for one expression only
if there is exactly one value in it that is no list, and an empty list anywhere in a value leaves an
empty expression.
-/

namespace Clausal.Sql

open Lexer

/-! ## Dividing -/

/-- Cuts at the commas outside of brackets; `depth` is the number of brackets that are open. -/
def divide (depth : Nat) : List Token → List (List Token)
  | [] => [[]]
  | t :: ts =>
    if t = .sign ',' ∧ depth = 0 then [] :: divide 0 ts
    else
      let inner := if t = .sign '(' then depth + 1 else if t = .sign ')' then depth - 1 else depth
      (divide inner ts).modifyHead (t :: ·)

/-- The expressions of a list. There are none where nothing is written. -/
def expressions (ts : List Token) : List (List Token) :=
  if ts = [] then [] else divide 0 ts

lemma divide_eq_splitOn {ts : List Token} (opening : .sign '(' ∉ ts) (closing : .sign ')' ∉ ts) :
    divide 0 ts = ts.splitOn (.sign ',') := by
  induction ts with
  | nil => rfl
  | cons t ts ih =>
    rw [List.mem_cons, not_or] at opening closing
    have tail := ih opening.2 closing.2
    rw [List.splitOn] at tail ⊢
    rw [List.splitOnP_cons_eq_if_modifyHead, ← tail, divide]
    by_cases comma : t = .sign ','
    · simp [comma]
    · simp [comma, Ne.symm opening.1, Ne.symm closing.1]

variable {parts : List (List Token)}

lemma mem_intercalate {α : Type} {separator : List α} {lists : List (List α)} {x : α}
    (h : x ∈ separator.intercalate lists) : x ∈ separator ∨ ∃ list ∈ lists, x ∈ list := by
  induction lists with
  | nil => cases h
  | cons list rest ih =>
    cases rest with
    | nil => exact Or.inr ⟨list, List.mem_cons_self, by simpa using h⟩
    | cons next more =>
      rw [List.intercalate_cons_cons, List.mem_append, List.mem_append] at h
      rcases h with (h | h) | h
      · exact Or.inr ⟨list, List.mem_cons_self, h⟩
      · exact Or.inl h
      · rcases ih h with h | ⟨other, mem, h⟩
        · exact Or.inl h
        · exact Or.inr ⟨other, List.mem_cons_of_mem list mem, h⟩

/-- What is joined by commas is divided into what was joined. -/
lemma divide_intercalate (flat : ∀ part ∈ parts, Flat part) (some : parts ≠ []) :
    divide 0 ([.sign ','].intercalate parts) = parts := by
  have without (c : Char) (other : c ≠ ',')
      (bracket : Token.sign c ∈ [Token.sign ',', .sign '(', .sign ')']) :
      Token.sign c ∉ [Token.sign ','].intercalate parts := by
    intro mem
    rcases mem_intercalate mem with comma | ⟨part, hp, mem⟩
    · simp [other] at comma
    · exact flat part hp _ mem bracket
  rw [divide_eq_splitOn (without '(' (by decide) (by decide)) (without ')' (by decide) (by decide))]
  exact List.splitOn_intercalate _ (fun part hp comma => flat part hp _ comma (by decide)) some

lemma intercalate_append {α : Type} (separator : List α) {lists more : List (List α)}
    (hl : lists ≠ []) (hm : more ≠ []) :
    separator.intercalate (lists ++ more) =
      separator.intercalate lists ++ separator ++ separator.intercalate more := by
  induction lists with
  | nil => exact absurd rfl hl
  | cons list rest ih =>
    cases rest with
    | nil =>
      rw [List.singleton_append, List.intercalate_cons_of_ne_nil hm, List.intercalate_singleton]
    | cons next others =>
      have tail := ih (List.cons_ne_nil _ _)
      rw [List.cons_append] at tail ⊢
      rw [List.cons_append, List.intercalate_cons_cons, tail, List.intercalate_cons_cons]
      simp only [List.append_assoc]

lemma intercalate_modifyHead {α : Type} (separator start : List α) {lists : List (List α)}
    (some : lists ≠ []) :
    separator.intercalate (lists.modifyHead (start ++ ·)) =
      start ++ separator.intercalate lists := by
  obtain ⟨list, rest, rfl⟩ := List.exists_cons_of_ne_nil some
  cases rest with
  | nil => simp
  | cons next more => simp [List.intercalate_cons_cons]

lemma intercalate_eq_nil (h : [Token.sign ','].intercalate parts = []) (some : parts ≠ []) :
    parts = [[]] := by
  obtain ⟨part, rest, rfl⟩ := List.exists_cons_of_ne_nil some
  cases rest with
  | nil =>
    rw [List.intercalate_singleton] at h
    rw [h]
  | cons next more => simp [List.intercalate_cons_cons] at h

lemma expressions_intercalate (flat : ∀ part ∈ parts, Flat part) (written : parts ≠ [[]]) :
    expressions ([.sign ','].intercalate parts) = parts := by
  by_cases none : parts = []
  · subst none
    rfl
  · rw [expressions, if_neg fun empty => written (intercalate_eq_nil empty none)]
    exact divide_intercalate flat none

/-! ## One part for each item -/

section Items

variable {ι : Type} {items : List ι} {g : ι → List (List Token)}

/-- If every item has parts, there are as many parts as items only if each has one. -/
lemma forall₂_flatMap_iff {R : ι → List Token → Prop} (parts : ∀ i ∈ items, g i ≠ []) :
    List.Forall₂ R items (items.flatMap g) ↔ ∀ i ∈ items, ∃ part, g i = [part] ∧ R i part := by
  have long (l : List ι) (h : ∀ i ∈ l, g i ≠ []) : l.length ≤ (l.flatMap g).length := by
    induction l with
    | nil => exact Nat.le_refl 0
    | cons i l ih =>
      rw [List.forall_mem_cons] at h
      have first := List.length_pos_iff.mpr h.1
      have rest := ih h.2
      simp only [List.flatMap_cons, List.length_append, List.length_cons]
      omega
  induction items with
  | nil => simp
  | cons i rest ih =>
    rw [List.forall_mem_cons] at parts
    obtain ⟨part, others, hg⟩ := List.exists_cons_of_ne_nil parts.1
    rw [List.flatMap_cons, hg, List.cons_append, List.forall₂_cons, List.forall_mem_cons, hg]
    constructor
    · rintro ⟨head, tail⟩
      have none : others = [] := by
        have length := tail.length_eq
        have enough := long rest parts.2
        rw [List.length_append] at length
        exact List.eq_nil_of_length_eq_zero (by omega)
      subst none
      exact ⟨⟨part, rfl, head⟩, (ih parts.2).mp tail⟩
    · rintro ⟨⟨_, same, head⟩, tail⟩
      obtain ⟨rfl, rfl⟩ := List.cons.inj same
      exact ⟨head, (ih parts.2).mpr tail⟩

/-- A list has one expression for each item exactly if each item is written as one. -/
lemma forall₂_expressions_iff {R : ι → List Token → Prop} (filled : ∀ i part, R i part → part ≠ [])
    (flat : ∀ i ∈ items, ∀ part ∈ g i, Flat part) (parts : ∀ i ∈ items, g i ≠ []) :
    List.Forall₂ R items (expressions ([.sign ','].intercalate (items.flatMap g))) ↔
      ∀ i ∈ items, ∃ part, g i = [part] ∧ R i part := by
  rw [← forall₂_flatMap_iff parts]
  by_cases written : items.flatMap g = [[]]
  · -- one item, of which nothing is written
    rw [written]
    have empty : expressions ([.sign ','].intercalate [[]]) = [] := rfl
    rw [empty]
    constructor
    · intro none
      cases none
      cases written
    · intro one
      cases one with
      | cons head _ => exact absurd rfl (filled _ _ head)
  · rw [expressions_intercalate _ written]
    intro part mem
    obtain ⟨i, hi, hp⟩ := List.mem_flatMap.mp mem
    exact flat i hi part hp

/-- What is written with commas between the items has the parts of the items, in order. -/
lemma lex_items {f : ι → String} (parts : ∀ i ∈ items, g i ≠ [])
    (each : ∀ i ∈ items, lex (f i).toList = some ([.sign ','].intercalate (g i))) :
    lex (", ".intercalate (items.map f)).toList =
      some ([.sign ','].intercalate (items.flatMap g)) := by
  induction items with
  | nil => rfl
  | cons i rest ih =>
    rw [List.forall_mem_cons] at parts each
    cases rest with
    | nil => simpa using each.1
    | cons next more =>
      have tail := ih parts.2 each.2
      have some : (next :: more).flatMap g ≠ [] := by
        rw [List.flatMap_cons]
        exact List.append_ne_nil_of_left_ne_nil (parts.2 next List.mem_cons_self) _
      have read := lex_append each.1 (parts_comma.closes.lex_append tail) parts_comma.breaks
      rw [List.flatMap_cons, intercalate_append _ parts.1 some, List.append_assoc]
      simpa only [List.map_cons, String.intercalate_cons_cons, String.toList_append,
        List.append_assoc] using read

end Items

lemma forall₂_ne_nil_iff {ι : Type} (items : List ι) (parts : List (List Token)) :
    List.Forall₂ (fun _ part => part ≠ []) items parts ↔
      parts.length = items.length ∧ [] ∉ parts := by
  induction items generalizing parts with
  | nil => cases parts <;> simp
  | cons i items ih =>
    cases parts with
    | nil => simp
    | cons part rest =>
      rw [List.forall₂_cons, ih, List.length_cons, List.length_cons, Nat.add_right_cancel_iff,
        List.mem_cons, not_or, and_left_comm, ne_comm]

/-! ## The parts of a value -/

mutual

/-- The parts of the literal: one for each value in it that is no list, an empty one for an empty
list. -/
def cells : Value → List (List Token)
  | .list [] => [[]]
  | .list (v :: vs) => cells v ++ cellsOfAll vs
  | v => [Placeholder.literal.tokens v]

def cellsOfAll : List Value → List (List Token)
  | [] => []
  | v :: vs => cells v ++ cellsOfAll vs

end

/-- What holds of a list if it holds of its members, and of all that is no list, holds of every
value. -/
theorem members_induction {P : Value → Prop} (scalar : ∀ v, ¬ IsList v → P v)
    (list : ∀ items : List Value, (∀ v ∈ items, P v) → P (.list items)) (v : Value) : P v := by
  induction v using Value.nested_induction with
  | list items ih => exact list items ih
  | _ => exact scalar _ id

lemma cellsOfAll_eq (items : List Value) : cellsOfAll items = items.flatMap cells := by
  induction items with
  | nil => rfl
  | cons v vs ih => rw [cellsOfAll, ih, List.flatMap_cons]

lemma cells_list {items : List Value} (some : items ≠ []) :
    cells (.list items) = items.flatMap cells := by
  obtain ⟨v, vs, rfl⟩ := List.exists_cons_of_ne_nil some
  rw [cells, cellsOfAll_eq, List.flatMap_cons]

lemma cells_scalar {v : Value} (h : ¬ IsList v) : cells v = [Placeholder.literal.tokens v] := by
  cases v with
  | list items => exact absurd trivial h
  | _ => rfl

lemma undivided_tokens {v : Value} (h : ¬ IsList v) :
    lex (literal v).toList = some (Placeholder.literal.tokens v) ∧
      Undivided (Placeholder.literal.tokens v) ∧
      (Constant (Placeholder.literal.tokens v) ↔ HasConstant v) := by
  obtain ⟨ts, read, undivided, constant⟩ := exists_undivided h
  have same : Placeholder.literal.tokens v = ts := by
    simp only [Placeholder.tokens, Placeholder.write, read, Option.getD_some]
  rw [same]
  exact ⟨read, undivided, constant⟩

lemma cells_ne_nil (v : Value) : cells v ≠ [] := by
  induction v using members_induction with
  | scalar v h =>
    rw [cells_scalar h]
    exact List.cons_ne_nil _ _
  | list items ih =>
    cases items with
    | nil => exact List.cons_ne_nil _ _
    | cons v vs =>
      rw [cells]
      exact List.append_ne_nil_of_left_ne_nil (ih v List.mem_cons_self) _

lemma flat_cells (v : Value) : ∀ part ∈ cells v, Flat part := by
  induction v using members_induction with
  | scalar v h =>
    rw [cells_scalar h, List.forall_mem_singleton]
    exact (undivided_tokens h).2.1.2
  | list items ih =>
    by_cases none : items = []
    · subst none
      exact List.forall_mem_singleton.mpr (List.forall_mem_nil _)
    · rw [cells_list none]
      intro part mem
      obtain ⟨v, hv, hp⟩ := List.mem_flatMap.mp mem
      exact ih v hv part hp

lemma literals_eq_map (items : List Value) : literals items = items.map literal := by
  induction items with
  | nil => rfl
  | cons v vs ih => rw [literals, ih, List.map_cons]

/-- The literal of every value has tokens, which are its parts with commas between them. -/
lemma lex_literal (v : Value) :
    lex (literal v).toList = some ([.sign ','].intercalate (cells v)) := by
  induction v using members_induction with
  | scalar v h =>
    rw [cells_scalar h, List.intercalate_singleton]
    exact (undivided_tokens h).1
  | list items ih =>
    by_cases none : items = []
    · subst none
      rfl
    · rw [literal, literals_eq_map, cells_list none]
      exact lex_items (fun v _ => cells_ne_nil v) ih

/-! ## Values that stand for one expression -/

/-- No list, or a list of one such value. -/
inductive Single : Value → Prop where
  | scalar {v : Value} (h : ¬ IsList v) : Single v
  | list {v : Value} (h : Single v) : Single (.list [v])

/-- No list in the value is empty. -/
inductive Filled : Value → Prop where
  | scalar {v : Value} (h : ¬ IsList v) : Filled v
  | list {items : List Value} (some : items ≠ []) (members : ∀ v ∈ items, Filled v) :
      Filled (.list items)

lemma single_iff (v : Value) : Single v ↔ ∃ part, cells v = [part] ∧ part ≠ [] := by
  induction v using members_induction with
  | scalar v h =>
    rw [cells_scalar h]
    exact iff_of_true (.scalar h) ⟨_, rfl, (undivided_tokens h).2.1.1⟩
  | list items ih =>
    have inner : Single (.list items) ↔ ∃ v, items = [v] ∧ Single v := by
      constructor
      · intro h
        cases h with
        | scalar h => exact absurd trivial h
        | list h => exact ⟨_, rfl, h⟩
      · rintro ⟨v, rfl, h⟩
        exact .list h
    rw [inner]
    match items with
    | [] => exact iff_of_false (by simp) (by simp [cells])
    | [v] => simpa [cells, cellsOfAll] using ih v List.mem_cons_self
    | v :: w :: vs =>
      refine iff_of_false (by simp) ?_
      rintro ⟨part, one, -⟩
      have length := congrArg List.length one
      have first := List.length_pos_iff.mpr (cells_ne_nil v)
      have second := List.length_pos_iff.mpr (cells_ne_nil w)
      simp only [cells, cellsOfAll, List.length_append, List.length_singleton] at length
      omega

lemma filled_iff (v : Value) : Filled v ↔ [] ∉ cells v := by
  induction v using members_induction with
  | scalar v h =>
    rw [cells_scalar h, List.mem_singleton]
    exact iff_of_true (.scalar h) (undivided_tokens h).2.1.1.symm
  | list items ih =>
    have inner : Filled (.list items) ↔ items ≠ [] ∧ ∀ v ∈ items, Filled v := by
      constructor
      · intro h
        cases h with
        | scalar h => exact absurd trivial h
        | list some members => exact ⟨some, members⟩
      · rintro ⟨some, members⟩
        exact .list some members
    rw [inner]
    by_cases none : items = []
    · subst none
      simp [cells]
    · rw [cells_list none, List.mem_flatMap]
      simp only [not_exists, not_and, ne_eq, none, not_false_eq_true, true_and]
      exact forall₂_congr fun v hv => ih v hv

/-! ## Operands -/

/-- A value that a column is compared with. A list stands in brackets. -/
def operandText : Value → String
  | .list items => "(" ++ literal (.list items) ++ ")"
  | v => literal v

/-- One constant, or a list in brackets that has an expression and no empty one. -/
inductive Operand : List Token → Prop where
  | constant {ts : List Token} (h : Constant ts) : Operand ts
  | list {ts : List Token} (some : expressions ts ≠ []) (filled : [] ∉ expressions ts) :
      Operand (.sign '(' :: (ts ++ [.sign ')']))

/-- A constant, or a list in which no list is empty. -/
def FitsOperand : Value → Prop
  | .list items => Filled (.list items)
  | v => HasConstant v

lemma operand_undivided {ts : List Token} (h : Undivided ts) : Operand ts ↔ Constant ts := by
  constructor
  · intro operand
    cases operand with
    | constant h => exact h
    | list => exact absurd (by decide) (h.2 _ List.mem_cons_self)
  · exact .constant

lemma operand_brackets {ts : List Token} :
    Operand (.sign '(' :: (ts ++ [.sign ')'])) ↔ expressions ts ≠ [] ∧ [] ∉ expressions ts := by
  constructor
  · intro operand
    generalize brackets : Token.sign '(' :: (ts ++ [.sign ')']) = us at operand
    cases operand with
    | constant h =>
      subst brackets
      exact absurd (by decide) (h.undivided.2 _ List.mem_cons_self)
    | list some filled =>
      obtain rfl := List.append_cancel_right (List.cons.inj brackets).2
      exact ⟨some, filled⟩
  · rintro ⟨some, filled⟩
    exact .list some filled

lemma expressions_cells (v : Value) :
    (expressions ([.sign ','].intercalate (cells v)) ≠ [] ∧
      [] ∉ expressions ([.sign ','].intercalate (cells v))) ↔ [] ∉ cells v := by
  by_cases empty : cells v = [[]]
  · rw [empty]
    exact iff_of_false (fun h => h.1 rfl) (by simp)
  · rw [expressions_intercalate (flat_cells v) empty]
    exact and_iff_right (cells_ne_nil v)

/-- The text of every operand has tokens, and they are an operand if the value fits. -/
theorem exists_lex_operand (v : Value) :
    ∃ ts, lex (operandText v).toList = some ts ∧ (Operand ts ↔ FitsOperand v) := by
  by_cases h : IsList v
  · cases v with
    | list items =>
      have opening : Closes "(".toList [.sign '('] := rfl
      have closing : lex ")".toList = some [.sign ')'] := rfl
      have inner := lex_append (lex_literal (.list items)) closing (by decide : Breaks ")".toList)
      refine ⟨.sign '(' :: ([.sign ','].intercalate (cells (.list items)) ++ [.sign ')']), ?_, ?_⟩
      · rw [operandText, String.append_assoc, String.toList_append, String.toList_append]
        exact opening.lex_append inner
      · rw [operand_brackets, expressions_cells, ← filled_iff, FitsOperand]
    | _ => exact h.elim
  · obtain ⟨read, undivided, constant⟩ := undivided_tokens h
    refine ⟨Placeholder.literal.tokens v, ?_, ?_⟩
    · cases v with
      | list items => exact absurd trivial h
      | _ => exact read
    · rw [operand_undivided undivided, constant]
      cases v with
      | list items => exact absurd trivial h
      | _ => rfl

end Clausal.Sql
