import Clausal.Json.Values
import Mathlib.Tactic.Lemma

/-!
# The two readings of a document

A document without objects has one value, whichever way it is read: taking it apart by its form and
trying the kinds of value in order give the same. Trying the kinds fails for every other document,
however deep the object lies. The earlier kinds leave every document of a later kind alone, with one
exception that decides nothing: a string is tried as text before it is tried as a moment, so the
reader of moments never runs.
-/

namespace Clausal

open Calendar

namespace Json

/-- `Occurs part j`: the document `part` stands somewhere in `j`. -/
inductive Occurs (part : Json) : Json → Prop where
  | self : Occurs part part
  | item {items : List Json} {j : Json} (mem : j ∈ items) (inside : Occurs part j) :
      Occurs part (.array items)
  | member {members : List (String × Json)} {name : String} {j : Json}
      (mem : (name, j) ∈ members) (inside : Occurs part j) : Occurs part (.object members)

def ObjectFree (j : Json) : Prop :=
  ∀ members, ¬ Occurs (.object members) j

lemma not_objectFree_object (members : List (String × Json)) : ¬ ObjectFree (.object members) := by
  intro free
  exact free members .self

lemma objectFree_array {items : List Json} :
    ObjectFree (.array items) ↔ ∀ j ∈ items, ObjectFree j := by
  constructor
  · intro free j mem members inside
    exact free members (.item mem inside)
  · intro free members inside
    cases inside with
    | item mem inside => exact free _ mem members inside

@[simp] lemma objectFree_null : ObjectFree .null := by
  rintro members ⟨⟩

@[simp] lemma objectFree_bool (b : Bool) : ObjectFree (.bool b) := by
  rintro members ⟨⟩

@[simp] lemma objectFree_number (n : Numeric) : ObjectFree (.number n) := by
  rintro members ⟨⟩

@[simp] lemma objectFree_string (s : String) : ObjectFree (.string s) := by
  rintro members ⟨⟩

end Json

namespace Value

open Json

section FirstKind

variable (moment : String → Option DateTime) (items : Option (List Value))

@[simp] lemma firstKind?_null : firstKind? moment items .null = some .null := by
  simp [firstKind?, Kind.inOrder, Kind.read?]

@[simp] lemma firstKind?_bool (b : Bool) : firstKind? moment items (.bool b) = some (.bool b) := by
  simp [firstKind?, Kind.inOrder, Kind.read?]

/-- A number that fits a signed integer is one; any other is tried as a float next. -/
@[simp] lemma firstKind?_number (n : Numeric) :
    firstKind? moment items (.number n) = some n.toValue := by
  cases fits : n.asInt? with
  | some i => simp [firstKind?, Kind.inOrder, Kind.read?, Numeric.toValue, fits]
  | none => simp [firstKind?, Kind.inOrder, Kind.read?, Numeric.toValue, fits]

/-- A string is text, whether or not `moment` could read it. -/
@[simp] lemma firstKind?_string (s : String) :
    firstKind? moment items (.string s) = some (.text s) := by
  simp [firstKind?, Kind.inOrder, Kind.read?]

@[simp] lemma firstKind?_array (js : List Json) :
    firstKind? moment items (.array js) = items.map .list := by
  cases items with
  | none => simp [firstKind?, Kind.inOrder, Kind.read?]
  | some vs => simp [firstKind?, Kind.inOrder, Kind.read?]

@[simp] lemma firstKind?_object (members : List (String × Json)) :
    firstKind? moment items (.object members) = none := by
  simp [firstKind?, Kind.inOrder, Kind.read?]

end FirstKind

variable (moment : String → Option DateTime)

lemma ofJsonAllBy?_cons_eq_some {j : Json} {js : List Json} {vs : List Value} :
    ofJsonAllBy? moment (j :: js) = some vs ↔
      ∃ head tail, ofJsonBy? moment j = some head ∧ ofJsonAllBy? moment js = some tail ∧
        vs = head :: tail := by
  rw [ofJsonAllBy?]
  cases ofJsonBy? moment j <;> cases ofJsonAllBy? moment js <;> simp [eq_comm]

mutual

/-- Both readings give one value where no object occurs. -/
theorem ofJsonBy?_of_objectFree :
    ∀ j : Json, j.ObjectFree → ofJsonBy? moment j = some (ofJson j)
  | .null, _ => by simp [ofJsonBy?, ofJson]
  | .bool b, _ => by simp [ofJsonBy?, ofJson]
  | .number n, _ => by simp [ofJsonBy?, ofJson]
  | .string s, _ => by simp [ofJsonBy?, ofJson]
  | .array js, free => by
    have members := ofJsonAllBy?_of_objectFree js (objectFree_array.mp free)
    simp [ofJsonBy?, ofJson, members]
  | .object members, free => absurd free (not_objectFree_object members)

theorem ofJsonAllBy?_of_objectFree :
    ∀ js : List Json, (∀ j ∈ js, j.ObjectFree) → ofJsonAllBy? moment js = some (ofJsonAll js)
  | [], _ => by simp [ofJsonAllBy?, ofJsonAll]
  | j :: js, free => by
    have head := ofJsonBy?_of_objectFree j (free j List.mem_cons_self)
    have tail := ofJsonAllBy?_of_objectFree js fun i mem => free i (List.mem_cons_of_mem j mem)
    simp [ofJsonAllBy?, ofJsonAll, head, tail]

end

mutual

/-- One object, however deep, and no kind fits the whole document. -/
theorem objectFree_of_ofJsonBy? :
    ∀ (j : Json) (v : Value), ofJsonBy? moment j = some v → j.ObjectFree
  | .null, _, _ => objectFree_null
  | .bool b, _, _ => objectFree_bool b
  | .number n, _, _ => objectFree_number n
  | .string s, _, _ => objectFree_string s
  | .array js, _, read => by
    simp only [ofJsonBy?, firstKind?_array, Option.map_eq_some_iff] at read
    obtain ⟨vs, members, -⟩ := read
    exact objectFree_array.mpr (objectFree_of_ofJsonAllBy? js vs members)
  | .object members, _, read => by simp [ofJsonBy?] at read

theorem objectFree_of_ofJsonAllBy? :
    ∀ (js : List Json) (vs : List Value), ofJsonAllBy? moment js = some vs →
      ∀ j ∈ js, j.ObjectFree
  | [], _, _ => by simp
  | j :: js, _, read => by
    obtain ⟨head, tail, first, others, -⟩ := (ofJsonAllBy?_cons_eq_some moment).mp read
    intro i mem
    rcases List.mem_cons.mp mem with same | mem
    · rw [same]
      exact objectFree_of_ofJsonBy? j head first
    · exact objectFree_of_ofJsonAllBy? js tail others i mem

end

/-- Trying the kinds in order succeeds exactly where no object occurs, and then gives what taking
the document apart gives. The reader of moments has no say in it. -/
theorem ofJsonBy?_eq_some_iff (j : Json) (v : Value) :
    ofJsonBy? moment j = some v ↔
      (∀ members, ¬ Occurs (.object members) j) ∧ v = ofJson j := by
  constructor
  · intro read
    have free := objectFree_of_ofJsonBy? moment j v read
    refine ⟨free, ?_⟩
    have agree := ofJsonBy?_of_objectFree moment j free
    exact Option.some.inj (read.symm.trans agree)
  · rintro ⟨free, rfl⟩
    exact ofJsonBy?_of_objectFree moment j free

end Value

end Clausal
