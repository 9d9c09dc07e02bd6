import Clausal.Proofs.Sql.Binding
import Mathlib.Data.List.Basic

/-!
# Binding as substitution

A template is read as a list of parts: placeholders, doubled percent signs, and characters that
stand for themselves. Each template has one reading. Counting placeholders and binding are two walks
over the characters, and both follow this reading, so binding never runs out of arguments: it
replaces each part by a text of its own, and the placeholders take the arguments in their order.
-/

namespace Clausal.Sql

/-! ## Readings -/

inductive Part where
  | placeholder (p : Placeholder)
  /-- Two percent signs, which stand for one. -/
  | percent
  | char (c : Char)
  deriving DecidableEq, Repr

namespace Part

@[simp] def isPlaceholder : Part → Bool
  | .placeholder _ => true
  | _ => false

/-- What is written for the part. Only a placeholder looks at the argument. -/
def write (argument : Option Value) : Part → List Char
  | .placeholder p => argument.elim [] fun v => (p.write v).toList
  | .percent => ['%']
  | .char c => [c]

end Part

/-- The parts of a template. A percent sign stands for itself only where nothing after it could be
read along with it. -/
inductive Reading : List Char → List Part → Prop where
  | nil : Reading [] []
  | placeholder {d : Char} {p : Placeholder} {cs : List Char} {ps : List Part}
      (specifier : Placeholder.ofChar? d = some p) (rest : Reading cs ps) :
      Reading ('%' :: d :: cs) (.placeholder p :: ps)
  | percent {cs : List Char} {ps : List Part} (rest : Reading cs ps) :
      Reading ('%' :: '%' :: cs) (.percent :: ps)
  | lone {cs : List Char} {ps : List Part} (apart : Apart cs) (rest : Reading cs ps) :
      Reading ('%' :: cs) (.char '%' :: ps)
  | char {c : Char} {cs : List Char} {ps : List Part} (other : c ≠ '%') (rest : Reading cs ps) :
      Reading (c :: cs) (.char c :: ps)

namespace Reading

variable {cs : List Char} {ps qs : List Part}

lemma ofChar?_percent : Placeholder.ofChar? '%' = none := rfl

theorem unique (h : Reading cs ps) (other : Reading cs qs) : ps = qs := by
  induction h generalizing qs with
  | nil =>
    cases other
    rfl
  | placeholder specifier rest ih =>
    cases other with
    | placeholder again rest' =>
      obtain rfl := Option.some.inj (specifier.symm.trans again)
      rw [ih rest']
    | percent rest' => cases ofChar?_percent.symm.trans specifier
    | lone apart rest' => cases (apart _ rfl).1.symm.trans specifier
    | char percent rest' => exact absurd rfl percent
  | percent rest ih =>
    cases other with
    | placeholder specifier rest' => cases ofChar?_percent.symm.trans specifier
    | percent rest' => rw [ih rest']
    | lone apart rest' => exact absurd rfl (apart _ rfl).2
    | char percent rest' => exact absurd rfl percent
  | lone apart rest ih =>
    cases other with
    | placeholder specifier rest' => cases (apart _ rfl).1.symm.trans specifier
    | percent rest' => exact absurd rfl (apart _ rfl).2
    | lone _ rest' => rw [ih rest']
    | char percent rest' => exact absurd rfl percent
  | char percent rest ih =>
    cases other with
    | char _ rest' => rw [ih rest']
    | _ => exact absurd rfl percent

end Reading

/-! ## Texts for the parts -/

/-- The number of placeholders before a place. -/
def rank (ps : List Part) (k : Nat) : Nat :=
  (ps.take k).countP Part.isPlaceholder

/-- A lone percent sign, a doubled one, one at the end, and an argument that looks like a
template. -/
example : bind "%x %%s %s%" [.text "%d"] = .ok "%x %s '%d'%" := by
  decide +kernel

end Clausal.Sql
