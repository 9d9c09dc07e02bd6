import Mathlib.Algebra.GroupWithZero.Nat
import Mathlib.Data.List.Basic
import Mathlib.Tactic.Lemma

/-!
# Complementary groupings

A list can be cut into groups in two ways, one of which begins a group wherever the other does not.
Each further element then joins the last group of one and begins a new group of the other.
-/

namespace Clausal

variable {α β : Type}

/-- One of the groups begins at this place of the list that they make up. -/
def StartsAt (groups : List (List α)) (i : Nat) : Prop :=
  ∃ before group after, groups = before ++ group :: after ∧ before.flatten.length = i

lemma length_flatten_concat (groups : List (List α)) (group : List α) :
    (groups ++ [group]).flatten.length = groups.flatten.length + group.length := by
  rw [List.flatten_append, List.flatten_singleton, List.length_append]

lemma startsAt_concat (groups : List (List α)) (group : List α) {i : Nat} :
    StartsAt (groups ++ [group]) i ↔ StartsAt groups i ∨ i = groups.flatten.length := by
  constructor
  · rintro ⟨before, first, after, split, rfl⟩
    rcases List.eq_nil_or_concat after with rfl | ⟨after, last, rfl⟩
    · obtain ⟨rfl, _⟩ := List.append_inj' split rfl
      exact Or.inr rfl
    · refine Or.inl ⟨before, first, after, ?_, rfl⟩
      rw [List.concat_eq_append, ← List.cons_append, ← List.append_assoc] at split
      exact (List.append_inj' split rfl).1
  · rintro (⟨before, first, after, rfl, rfl⟩ | rfl)
    · exact ⟨before, first, after ++ [group], by simp, rfl⟩
    · exact ⟨groups, group, [], rfl, rfl⟩

lemma StartsAt.lt {groups : List (List α)} {i : Nat} (h : StartsAt groups i)
    (filled : ∀ group ∈ groups, group ≠ []) : i < groups.flatten.length := by
  obtain ⟨before, group, after, rfl, rfl⟩ := h
  have some := List.length_pos_iff.mpr (filled group (by simp))
  rw [List.flatten_append, List.flatten_cons, List.length_append, List.length_append]
  omega

lemma filled_concat {groups : List (List α)} {group : List α}
    (h : ∀ g ∈ groups ++ [group], g ≠ []) {other : List α} (some : other ≠ []) :
    ∀ g ∈ groups ++ [other], g ≠ [] := by
  rw [List.forall_mem_append] at h ⊢
  exact ⟨h.1, List.forall_mem_singleton.mpr some⟩

/-- The items begin a group at the front, and elsewhere just where the columns do not. -/
structure Complements (columns : List (List α)) (items : List (List β)) : Prop where
  length : items.flatten.length = columns.flatten.length
  columns_filled : ∀ group ∈ columns, group ≠ []
  filled : ∀ group ∈ items, group ≠ []
  starts : ∀ i < columns.flatten.length, StartsAt items i ↔ i = 0 ∨ ¬ StartsAt columns i
  /-- Each place but the front begins a group of one of the two. -/
  count : columns ≠ [] → items.length + columns.length = columns.flatten.length + 1

namespace Complements

lemma nil : Complements ([] : List (List α)) ([] : List (List β)) := by
  constructor <;> simp

lemma columns_eq_nil {columns : List (List α)} (h : Complements columns ([] : List (List β))) :
    columns = [] := by
  cases columns with
  | nil => rfl
  | cons group rest =>
    have full := List.length_pos_iff.mpr (h.columns_filled group List.mem_cons_self)
    have length := h.length
    rw [List.flatten_cons, List.length_append, List.flatten_nil, List.length_nil] at length
    omega

/-- The very first column begins a group of both. -/
lemma single (column : α) (item : β) : Complements [[column]] [[item]] := by
  have start {γ : Type} (c : γ) : StartsAt [[c]] 0 := ⟨[], [c], [], rfl, rfl⟩
  constructor <;> simp [start]

/-- The first column of a group joins the items before it. -/
lemma join {columns : List (List α)} {items : List (List β)} {last : List β}
    (h : Complements columns (items ++ [last])) (column : α) (item : β) :
    Complements (columns ++ [[column]]) (items ++ [last ++ [item]]) := by
  have full := List.length_pos_iff.mpr (h.filled last (by simp))
  have length := h.length
  rw [length_flatten_concat] at length
  have some : columns ≠ [] := by
    rintro rfl
    rw [List.flatten_nil, List.length_nil] at length
    omega
  have count := h.count some
  have both : (columns ++ [[column]]).flatten.length = columns.flatten.length + 1 :=
    length_flatten_concat columns [column]
  refine ⟨?_, ?_, filled_concat h.filled (by simp), ?_, ?_⟩
  · rw [length_flatten_concat, both, List.length_append, List.length_singleton]
    omega
  · rw [List.forall_mem_append]
    exact ⟨h.columns_filled, by simp⟩
  · intro i inside
    rw [both] at inside
    rw [startsAt_concat, ← startsAt_concat items last, startsAt_concat columns]
    rcases Nat.lt_or_eq_of_le (Nat.le_of_lt_succ inside) with earlier | rfl
    · rw [h.starts i earlier, or_iff_left (Nat.ne_of_lt earlier)]
    · refine iff_of_false (fun starts => ?_) (by omega)
      have early := starts.lt h.filled
      rw [h.length] at early
      exact Nat.lt_irrefl _ early
  · intro _
    rw [both]
    simp only [List.length_append, List.length_singleton] at count ⊢
    omega

/-- Any other column begins a new group of items. -/
lemma next {columns : List (List α)} {group : List α} {items : List (List β)}
    (h : Complements (columns ++ [group]) items) (column : α) (item : β) :
    Complements (columns ++ [group ++ [column]]) (items ++ [[item]]) := by
  have full := List.length_pos_iff.mpr (h.columns_filled group (by simp))
  have length := h.length
  have count := h.count (by simp)
  have before := length_flatten_concat columns group
  have after := length_flatten_concat columns (group ++ [column])
  rw [List.length_append, List.length_singleton] at after
  refine ⟨?_, filled_concat h.columns_filled (by simp), ?_, ?_, ?_⟩
  · rw [length_flatten_concat, List.length_singleton]
    omega
  · rw [List.forall_mem_append]
    exact ⟨h.filled, by simp⟩
  · intro i inside
    rw [startsAt_concat, startsAt_concat, ← startsAt_concat columns group]
    rcases Nat.lt_or_eq_of_le (Nat.le_of_lt_succ (by omega : i < items.flatten.length + 1))
      with earlier | rfl
    · rw [h.starts i (by omega), or_iff_left (Nat.ne_of_lt earlier)]
    · refine iff_of_true (Or.inr rfl) (Or.inr fun starts => ?_)
      have early := starts.lt h.columns_filled
      omega
  · intro _
    simp only [List.length_append, List.length_singleton] at count ⊢
    omega

lemma sum_add_length {columns : List (List α)} (filled : ∀ group ∈ columns, group ≠ []) :
    (columns.map fun group => group.length - 1).sum + columns.length = columns.flatten.length := by
  induction columns with
  | nil => rfl
  | cons group rest ih =>
    rw [List.forall_mem_cons] at filled
    have full := List.length_pos_iff.mpr filled.1
    have rest := ih filled.2
    rw [List.map_cons, List.sum_cons, List.length_cons, List.flatten_cons, List.length_append]
    omega

/-- There is one group of items, and one more for every column that is not the first of its
group. -/
lemma length_items {columns : List (List α)} {items : List (List β)}
    (h : Complements columns items) (some : columns ≠ []) :
    items.length = 1 + (columns.map fun group => group.length - 1).sum := by
  have count := h.count some
  have sum := sum_add_length h.columns_filled
  omega

end Complements

end Clausal
