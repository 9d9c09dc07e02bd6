import Clausal.Text.Separated
import Mathlib.Data.List.Infix
import Mathlib.Tactic.Lemma

/-!
# Cutting text

What cutting a text at a separator gives, without the search for it: the text is cut where the
separator stands for the first time, and what follows is cut again until it has no separator. The
parts have no separator in them, and joining them gives the text back.
-/

namespace Clausal.Text

variable {sep start cs rest before after : List Char}

lemma dropStart?_eq_some_iff : dropStart? start cs = some rest ↔ cs = start ++ rest := by
  constructor
  · exact eq_append_of_dropStart?
  · rintro rfl
    exact dropStart?_append start rest

lemma dropStart?_eq_none_iff : dropStart? start cs = none ↔ ¬ start <+: cs := by
  constructor
  · rintro none ⟨rest, rfl⟩
    rw [dropStart?_append] at none
    cases none
  · intro other
    cases h : dropStart? start cs with
    | none => rfl
    | some rest => exact absurd ⟨rest, (eq_append_of_dropStart? h).symm⟩ other

/-! ## The first separator -/

/-- The text is cut where the separator stands for the first time. -/
structure Cut (sep cs before after : List Char) : Prop where
  eq : cs = before ++ sep ++ after
  first : ∀ b a, cs = b ++ sep ++ a → before.length ≤ b.length

lemma Cut.unique {before' after' : List Char} (h : Cut sep cs before after)
    (h' : Cut sep cs before' after') : before = before' ∧ after = after' := by
  have length : before.length = before'.length :=
    Nat.le_antisymm (h.first _ _ h'.eq) (h'.first _ _ h.eq)
  have same : before ++ (sep ++ after) = before' ++ (sep ++ after') := by
    rw [← List.append_assoc, ← List.append_assoc, ← h.eq, h'.eq]
  obtain ⟨rfl, rest⟩ := List.append_inj same length
  exact ⟨rfl, List.append_cancel_left rest⟩

lemma Cut.infix (h : Cut sep cs before after) : sep <:+: cs := ⟨before, after, h.eq.symm⟩

/-- Before the first separator there is none. -/
lemma Cut.uncut (nonempty : sep ≠ []) (h : Cut sep cs before after) : ¬ sep <:+: before := by
  rintro ⟨b, a, found⟩
  have earlier := h.first b (a ++ sep ++ after) (by rw [h.eq, ← found]; simp)
  have longer := congrArg List.length found
  rw [List.length_append, List.length_append] at longer
  have := List.length_pos_iff.mpr nonempty
  omega

/-- Where the separator does not stand at the start, it is looked for further on. -/
lemma Cut.cons (h : Cut sep cs before after) {c : Char} (other : ¬ sep <+: c :: cs) :
    Cut sep (c :: cs) (c :: before) after where
  eq := by rw [h.eq]; rfl
  first := by
    intro b a found
    cases b with
    | nil => exact absurd ⟨a, found.symm⟩ other
    | cons d b =>
      obtain ⟨_, found⟩ := List.cons.inj found
      exact Nat.succ_le_succ (h.first b a found)

lemma splitOnce_cases (sep cs : List Char) :
    (∃ before after, splitOnce sep cs = some (before, after) ∧ Cut sep cs before after) ∨
      (splitOnce sep cs = none ∧ ¬ sep <:+: cs) := by
  induction cs with
  | nil =>
    by_cases h : sep = []
    · subst h
      exact Or.inl ⟨[], [], rfl, rfl, fun b _ _ => Nat.zero_le b.length⟩
    · exact Or.inr ⟨if_neg h, fun found => h (List.infix_nil.mp found)⟩
  | cons c cs ih =>
    rw [splitOnce]
    cases hd : dropStart? sep (c :: cs) with
    | some rest =>
      exact Or.inl ⟨[], rest, rfl, eq_append_of_dropStart? hd, fun b _ _ => Nat.zero_le b.length⟩
    | none =>
      have other := dropStart?_eq_none_iff.mp hd
      rcases ih with ⟨before, after, found, cut⟩ | ⟨none, uncut⟩
      · exact Or.inl ⟨c :: before, after, by rw [found]; rfl, cut.cons other⟩
      · refine Or.inr ⟨by rw [none]; rfl, fun found => ?_⟩
        exact (List.infix_cons_iff.mp found).elim other uncut

theorem splitOnce_eq_some_iff :
    splitOnce sep cs = some (before, after) ↔ Cut sep cs before after := by
  rcases splitOnce_cases sep cs with ⟨b, a, found, cut⟩ | ⟨none, uncut⟩
  · rw [found]
    constructor
    · rintro ⟨⟩
      exact cut
    · intro cut'
      obtain ⟨rfl, rfl⟩ := cut.unique cut'
      rfl
  · rw [none]
    exact iff_of_false nofun fun cut => uncut cut.infix

theorem splitOnce_eq_none_iff : splitOnce sep cs = none ↔ ¬ sep <:+: cs := by
  rcases splitOnce_cases sep cs with ⟨b, a, found, cut⟩ | ⟨none, uncut⟩
  · exact iff_of_false (by rw [found]; nofun) fun uncut => uncut cut.infix
  · exact iff_of_true none uncut

/-! ## All parts -/

/-- The text is cut at every separator, from the left and without overlaps. -/
inductive Splits (sep : List Char) : List Char → List (List Char) → Prop where
  | whole {cs : List Char} (uncut : ¬ sep <:+: cs) : Splits sep cs [cs]
  | cut {cs before after : List Char} {parts : List (List Char)} (first : Cut sep cs before after)
      (others : Splits sep after parts) : Splits sep cs (before :: parts)

lemma Splits.ne_nil {parts : List (List Char)} (h : Splits sep cs parts) : parts ≠ [] := by
  cases h <;> nofun

/-- Joining the parts gives the text back. -/
lemma Splits.intercalate {parts : List (List Char)} (h : Splits sep cs parts) :
    sep.intercalate parts = cs := by
  induction h with
  | whole => exact List.intercalate_singleton
  | cut first others ih => rw [List.intercalate_cons_of_ne_nil others.ne_nil, ih, first.eq]

lemma Splits.isInfix {parts : List (List Char)} (h : Splits sep cs parts) {part : List Char}
    (mem : part ∈ parts) : part <:+: cs := by
  induction h with
  | whole => rw [List.mem_singleton.mp mem]
  | @cut cs before after parts first _ ih =>
    rcases List.mem_cons.mp mem with rfl | mem
    · exact ⟨[], sep ++ after, by rw [first.eq]; simp⟩
    · exact (ih mem).trans ⟨before ++ sep, [], by rw [first.eq]; simp⟩

/-- No part has a separator in it. -/
lemma Splits.uncut (nonempty : sep ≠ []) {parts : List (List Char)} (h : Splits sep cs parts)
    {part : List Char} (mem : part ∈ parts) : ¬ sep <:+: part := by
  induction h with
  | whole uncut => rwa [List.mem_singleton.mp mem]
  | cut first _ ih =>
    rcases List.mem_cons.mp mem with rfl | mem
    · exact first.uncut nonempty
    · exact ih mem

lemma splits_splitAll (nonempty : sep ≠ []) (cs : List Char) :
    Splits sep cs (splitAll sep nonempty cs) := by
  induction cs using splitAll.induct sep nonempty with
  | case1 cs none =>
    have all : splitAll sep nonempty cs = [cs] := by
      rw [splitAll]
      split
      · rfl
      · next found => cases none.symm.trans found
    rw [all]
    exact .whole (splitOnce_eq_none_iff.mp none)
  | case2 cs before after found ih =>
    have all : splitAll sep nonempty cs = before :: splitAll sep nonempty after := by
      rw [splitAll]
      split
      · next none => cases none.symm.trans found
      · next found' =>
        cases found.symm.trans found'
        rfl
    rw [all]
    exact .cut (splitOnce_eq_some_iff.mp found) ih

lemma Splits.unique {parts parts' : List (List Char)} (h : Splits sep cs parts)
    (h' : Splits sep cs parts') : parts = parts' := by
  induction h generalizing parts' with
  | whole uncut =>
    cases h' with
    | whole _ => rfl
    | cut first _ => exact absurd first.infix uncut
  | cut first _ ih =>
    cases h' with
    | whole uncut => exact absurd first.infix uncut
    | cut first' others' =>
      obtain ⟨rfl, rfl⟩ := first.unique first'
      rw [ih others']

theorem splitAll_eq_iff (nonempty : sep ≠ []) {parts : List (List Char)} :
    splitAll sep nonempty cs = parts ↔ Splits sep cs parts := by
  constructor
  · rintro rfl
    exact splits_splitAll nonempty cs
  · exact (splits_splitAll nonempty cs).unique

end Clausal.Text
