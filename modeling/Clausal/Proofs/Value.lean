import Clausal.Value
import Mathlib.Tactic.Lemma

/-!
# Values in values

A value that is a list holds others, at any depth. Its nesting is how deep these lists go.
-/

namespace Clausal.Value

/-- `Inside part v`: the value `part` stands somewhere in `v`. -/
inductive Inside (part : Value) : Value → Prop
  | self : Inside part part
  | item {items : List Value} {v : Value} (mem : v ∈ items) (inside : Inside part v) :
      Inside part (.list items)

@[simp] lemma inside_list {part : Value} {items : List Value} :
    Inside part (.list items) ↔ part = .list items ∨ ∃ v ∈ items, Inside part v := by
  constructor
  · rintro (_ | ⟨mem, inside⟩)
    · exact .inl rfl
    · exact .inr ⟨_, mem, inside⟩
  · rintro (rfl | ⟨v, mem, inside⟩)
    · exact .self
    · exact .item mem inside

@[simp] lemma inside_scalar {part v : Value} (scalar : ∀ items, v ≠ .list items) :
    Inside part v ↔ part = v := by
  constructor
  · rintro (_ | _)
    · rfl
    · exact absurd rfl (scalar _)
  · rintro rfl
    exact .self

/-- What is no list stands in a list only if it stands in one of its members. -/
lemma forall_not_inside_list {α : Type} {part : α → Value} {items : List Value}
    (other : ∀ a, part a ≠ .list items) :
    (∀ a, ¬ Inside (part a) (.list items)) ↔ ∀ v ∈ items, ∀ a, ¬ Inside (part a) v := by
  constructor
  · intro absent v mem a inside
    exact absent a (.item mem inside)
  · intro absent a inside
    obtain same | ⟨v, mem, inside⟩ := inside_list.mp inside
    · exact other a same
    · exact absent v mem a inside

/-- What holds of a list if it holds of its members holds of every value if it holds of all that is
no list. -/
@[elab_as_elim]
theorem nested_induction {P : Value → Prop} (null : P .null) (bool : ∀ b, P (.bool b))
    (int : ∀ n, P (.int n)) (float : ∀ x, P (.float x)) (text : ∀ s, P (.text s))
    (datetime : ∀ dt, P (.datetime dt))
    (list : ∀ items : List Value, (∀ v ∈ items, P v) → P (.list items)) (v : Value) : P v :=
  @Value.rec P (fun items => ∀ v ∈ items, P v) null bool int float text datetime list
    (List.forall_mem_nil P) (fun _ _ head tail => List.forall_mem_cons.mpr ⟨head, tail⟩) v

mutual

/-- How many lists stand in one another at most. -/
def nesting : Value → Nat
  | .list items => nestingOfItems items + 1
  | _ => 0

def nestingOfItems : List Value → Nat
  | [] => 0
  | v :: vs => max (nesting v) (nestingOfItems vs)

end

end Clausal.Value
