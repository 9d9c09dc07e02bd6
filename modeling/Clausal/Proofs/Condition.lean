import Clausal.Condition
import Clausal.Proofs.Sql.Rendering
import Mathlib.Tactic.Lemma

/-!
# Trees of conditions

Conditions are added to the last group of a tree, which is made if there is none. Only groups that
hold a condition count.
-/

namespace Clausal.ConditionTree

open Sql

variable {tree : ConditionTree} {group : List Condition}

lemma mem_filled : group ∈ tree.filled ↔ group ∈ tree.groups ∧ group ≠ [] := by
  simp [filled]

lemma isEmpty_of_mem (mem : group ∈ tree.groups) (full : group ≠ []) : tree.isEmpty = false := by
  rw [isEmpty, List.isEmpty_eq_false_iff]
  exact List.ne_nil_of_mem (mem_filled.mpr ⟨mem, full⟩)

lemma pushTo_concat (groups : List (List Condition)) (last : List Condition) (item : Condition) :
    pushTo (groups ++ [last]) item = groups ++ [last ++ [item]] := by
  induction groups with
  | nil => rfl
  | cons group groups ih =>
    rw [List.cons_append, pushTo, ih]
    · rfl
    · simp

lemma isEmpty_push (tree : ConditionTree) (item : Condition) :
    (tree.push item).isEmpty = false := by
  obtain ⟨groups⟩ := tree
  rcases List.eq_nil_or_concat groups with rfl | ⟨groups, last, rfl⟩
  · rfl
  · have pushed : (ConditionTree.mk (groups.concat last)).push item =
        ⟨groups ++ [last ++ [item]]⟩ := by
      rw [push, List.concat_eq_append, pushTo_concat]
    rw [pushed]
    exact isEmpty_of_mem (List.mem_append_right groups List.mem_cons_self) (by simp)

lemma add_concat (groups : List (List Condition)) (last items : List Condition) :
    (ConditionTree.mk (groups ++ [last])).add false items = ⟨groups ++ [last ++ items]⟩ := by
  have pushed : items.foldl push ⟨groups ++ [last]⟩ = ⟨groups ++ [last ++ items]⟩ := by
    induction items generalizing last with
    | nil => rw [List.append_nil]; rfl
    | cons item items ih =>
      rw [List.foldl_cons, push, pushTo_concat, ih, List.append_assoc]
      rfl
  exact pushed

lemma add_opening (tree : ConditionTree) (items : List Condition) :
    tree.add true items = ⟨tree.groups ++ [items]⟩ :=
  add_concat tree.groups [] items

/-- The first group of a tree is made for a condition only. -/
lemma add_first (items : List Condition) :
    ConditionTree.add {} false items = ⟨if items = [] then [] else [items]⟩ := by
  cases items with
  | nil => rfl
  | cons item items => exact add_concat [] [item] items

lemma exists_mem_add (tree : ConditionTree) (newGroup : Bool) {items : List Condition} :
    ∀ item ∈ items, ∃ group ∈ (tree.add newGroup items).groups, item ∈ group := by
  intro item mem
  obtain ⟨groups⟩ := tree
  cases newGroup with
  | true =>
    rw [add_opening]
    exact ⟨items, List.mem_append_right _ List.mem_cons_self, mem⟩
  | false =>
    rcases List.eq_nil_or_concat groups with rfl | ⟨groups, last, rfl⟩
    · rw [add_first, if_neg (List.ne_nil_of_mem mem)]
      exact ⟨items, List.mem_cons_self, mem⟩
    · rw [List.concat_eq_append, add_concat]
      exact ⟨last ++ items, List.mem_append_right _ List.mem_cons_self,
        List.mem_append_right _ mem⟩

lemma add_append (tree : ConditionTree) (newGroup : Bool) (items more : List Condition) :
    tree.add newGroup (items ++ more) = (tree.add newGroup items).add false more :=
  List.foldl_append

/-- The group that conditions are added to holds one, if there is a group. -/
def Current (tree : ConditionTree) : Prop :=
  tree.groups.getLast? ≠ some []

/-- Where the current group holds a condition, further ones are added to it. -/
lemma groups_add (filled : tree.isEmpty = false) (current : tree.Current)
    (items : List Condition) : ∃ groups last, last ≠ [] ∧ tree.groups = groups ++ [last] ∧
      (tree.add false items).groups = groups ++ [last ++ items] := by
  obtain ⟨groups⟩ := tree
  rcases List.eq_nil_or_concat groups with rfl | ⟨groups, last, rfl⟩
  · cases filled
  · rw [List.concat_eq_append] at current ⊢
    refine ⟨groups, last, by simpa [Current] using current, rfl, ?_⟩
    rw [add_concat]

lemma isEmpty_add (filled : tree.isEmpty = false) (current : tree.Current)
    (items : List Condition) : (tree.add false items).isEmpty = false := by
  obtain ⟨groups, last, some, _, after⟩ := groups_add filled current items
  exact isEmpty_of_mem (after ▸ List.mem_append_right groups List.mem_cons_self)
    (List.append_ne_nil_of_left_ne_nil some items)

/-- Conditions that are added to a group that holds one narrow the alternatives. -/
lemma narrows_add (filled : tree.isEmpty = false) (current : tree.Current)
    {items : List Condition} {P : Condition → Prop}
    (h : ∃ group ∈ (tree.add false items).filled, ∀ item ∈ group, P item) :
    ∃ group ∈ tree.filled, ∀ item ∈ group, P item := by
  obtain ⟨groups, last, some, before, after⟩ := groups_add filled current items
  obtain ⟨group, mem, holds⟩ := h
  rw [mem_filled, after, List.mem_append, List.mem_singleton] at mem
  obtain ⟨mem | rfl, full⟩ := mem
  · exact ⟨group, mem_filled.mpr ⟨before ▸ List.mem_append_left _ mem, full⟩, holds⟩
  · refine ⟨last, mem_filled.mpr ⟨before ▸ List.mem_append_right _ List.mem_cons_self, some⟩, ?_⟩
    exact fun item hi => holds item (List.mem_append_left _ hi)

/-! ## What is written -/

lemma template_pieces (tree : ConditionTree) :
    template tree.pieces = " OR ".intercalate (tree.filled.map fun group =>
      "( " ++ " AND ".intercalate (group.map fun item => template item.pieces) ++ " )") := by
  have between (group : List Condition) :
      template (.text "( " :: (Piece.join " AND " (group.map Condition.pieces) ++ [.text " )"])) =
        "( " ++ " AND ".intercalate (group.map fun item => template item.pieces) ++ " )" := by
    rw [template_text_cons, template_append, template_join, List.map_map, template_text_cons,
      String.append_assoc]
    rfl
  rw [pieces, template_join, List.map_map]
  exact congrArg _ (List.map_congr_left fun group _ => between group)

lemma arguments_pieces (tree : ConditionTree) :
    arguments tree.pieces = tree.filled.flatten.flatMap fun item => arguments item.pieces := by
  have between (group : List Condition) :
      arguments (.text "( " :: (Piece.join " AND " (group.map Condition.pieces) ++ [.text " )"])) =
        group.flatMap fun item => arguments item.pieces := by
    simp [Piece.args, arguments_join, List.flatMap_map]
  rw [pieces, arguments_join, List.flatMap_map, ← List.flatMap_id, List.flatMap_assoc]
  simp only [between, id]

end Clausal.ConditionTree
