import Clausal.Json.Values
import Clausal.Proofs.Json.Documents

/-!
# Entries of an object

A row is read from JSON entry by entry, each assigned as soon as it is read. The same reader without
the row gives the entries as they are written, repeated names included, and the row is what they
come to.
-/

namespace Clausal.Row

open Json (Fault skipSpace)
open Json.Reading (nestingLimit)

/-- The entries of an object up to the closing brace, in the order they are written. -/
def readEntries : Nat → List Char → Except Fault (List (String × Value) × List Char)
  | 0, _ => .error .malformed
  | fuel + 1, cs =>
    match Json.Reading.member Json.Reading.nested cs with
    | none => .error .malformed
    | some ((name, j), rest) =>
      match Value.ofJson? j with
      | none => .error .unsuitable
      | some value =>
        match skipSpace rest with
        | ',' :: rest => (readEntries fuel rest).map fun (entries, rest) =>
          ((name, value) :: entries, rest)
        | '\x7d' :: rest => .ok ([(name, value)], rest)
        | _ => .error .malformed

/-- How a text begins where an object is read. -/
inductive Opening where
  | empty (rest : List Char)
  | members (rest : List Char)
  | array
  | other (rest : List Char)

def inside : List Char → Opening
  | '\x7d' :: rest => .empty rest
  | rest => .members rest

def opening (cs : List Char) : Opening :=
  match skipSpace cs with
  | '\x7b' :: rest => inside (skipSpace rest)
  | '[' :: _ => .array
  | rest => .other rest

/-- What is read behind an opening, the members by their own reader. -/
def Opening.read {α : Type} (none : α) (members : List Char → Except Fault (α × List Char)) :
    Opening → Except Fault (α × List Char)
  | .empty rest => .ok (none, rest)
  | .members rest => members rest
  | .array => .error .unsuitable
  | .other rest =>
    .error (if (Json.Reading.document nestingLimit rest).isSome then .unsuitable else .malformed)

/-- The entries of an object at the front of a text. -/
def objectEntries (cs : List Char) : Except Fault (List (String × Value) × List Char) :=
  (opening cs).read [] fun rest => readEntries rest.length rest

/-- The entries of the object that the whole text writes. -/
def entries (s : String) : Except Fault (List (String × Value)) :=
  match objectEntries s.toList with
  | .ok (entries, rest) => if (skipSpace rest).isEmpty then .ok entries else .error .malformed
  | .error fault => .error fault

lemma readMembers_eq (row : Row) (fuel : Nat) (cs : List Char) :
    readMembers row fuel cs = (readEntries fuel cs).map fun (entries, rest) =>
      (⟨entries.foldl (fun cols (column, value) => cols.put column value) row.columns⟩, rest) := by
  induction fuel generalizing row cs with
  | zero => rfl
  | succ fuel ih =>
    have step : readMembers row (fuel + 1) cs =
        match Json.Reading.member Json.Reading.nested cs with
        | none => .error .malformed
        | some ((name, j), rest) =>
          match Value.ofJson? j with
          | none => .error .unsuitable
          | some value =>
            match skipSpace rest with
            | ',' :: rest => readMembers (row.put name value) fuel rest
            | '\x7d' :: rest => .ok (row.put name value, rest)
            | _ => .error .malformed := rfl
    rw [step, readEntries]
    cases Json.Reading.member Json.Reading.nested cs with
    | none => rfl
    | some found =>
      obtain ⟨⟨name, j⟩, rest⟩ := found
      dsimp only
      cases Value.ofJson? j with
      | none => rfl
      | some value =>
        dsimp only
        split
        · rw [ih]
          cases readEntries fuel _ <;> rfl
        · rfl
        · rfl

lemma opening_other {cs : List Char} (object : ∀ rest, skipSpace cs = '\x7b' :: rest → False)
    (array : ∀ rest, skipSpace cs = '[' :: rest → False) : opening cs = .other (skipSpace cs) := by
  unfold opening
  split
  · next found => exact absurd found (object _)
  · next found => exact absurd found (array _)
  · rfl

lemma inside_members {cs : List Char} (filled : ∀ rest, cs = '\x7d' :: rest → False) :
    inside cs = .members cs := by
  unfold inside
  split
  · exact absurd rfl (filled _)
  · rfl

lemma readObject_eq_read (cs : List Char) :
    readObject cs = (opening cs).read ⟨[]⟩ fun rest => readMembers ⟨[]⟩ rest.length rest := by
  unfold readObject
  split
  · next rest found =>
    have object : opening cs = inside (skipSpace rest) := by
      rw [opening, found]
      rfl
    rw [object]
    split
    · next close =>
      rw [close]
      rfl
    · next filled =>
      rw [inside_members filled]
      rfl
  · next found =>
    rw [opening, found]
    rfl
  · next object array =>
    rw [opening_other object array, Opening.read]
    cases Json.Reading.document nestingLimit (skipSpace cs) <;> rfl

lemma readObject_eq (cs : List Char) :
    readObject cs = (objectEntries cs).map fun (entries, rest) => (ofPairs entries, rest) := by
  rw [readObject_eq_read, objectEntries]
  cases opening cs with
  | members rest => exact readMembers_eq ..
  | empty rest => rfl
  | array => rfl
  | other rest => rfl

/-- A row that is read has been collected from its entries. -/
lemma readJson_eq (s : String) : readJson s = (entries s).map ofPairs := by
  rw [readJson, readObject_eq, entries]
  cases objectEntries s.toList with
  | error fault => rfl
  | ok found =>
    obtain ⟨entries, rest⟩ := found
    dsimp only [Except.map]
    split <;> rfl

end Clausal.Row
