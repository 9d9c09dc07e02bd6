import Clausal.Proofs.Columns
import Clausal.Proofs.Database.Running
import Clausal.Record.Attributes

/-!
# The memo of a record

The memo of a record holds casts of what is stored, and nothing else: it is written when a column is
read, and a column that is assigned or removed is dropped from it. So reading a column gives the
cast of what is stored, whatever was read before.
-/

namespace Clausal.Attributes

/-- The memo has nothing but casts of what is stored. -/
def Remembers (casts : Casts) (a : Attributes) : Prop :=
  ∀ column value, a.memo.get? column = some value →
    ∃ stored, a.raw? column = some stored ∧ casts.cast column stored = value

/-- Each column is there once, and the memo has nothing but casts of what is stored. -/
structure Sound (casts : Casts) (a : Attributes) : Prop where
  columns : a.row.names.Nodup
  entries : a.memo.names.Nodup
  memo : ∀ column value, a.memo.get? column = some value →
    ∃ stored, a.raw? column = some stored ∧ casts.cast column stored = value

variable {casts : Casts} {a : Attributes}

lemma raw?_setRaw (a : Attributes) (column other : String) (value : Value) :
    (a.setRaw column value).raw? other = if column = other then some value else a.raw? other :=
  Columns.get?_put a.row.columns column other value

lemma raw?_remove (h : a.row.names.Nodup) (column other : String) :
    (a.remove column).2.raw? other = if column = other then none else a.raw? other :=
  Columns.get?_erase h column other

lemma remembers_ofRow (casts : Casts) (row : Row) : Remembers casts (ofRow row) := by
  intro column value h
  cases h

lemma Remembers.put (h : Remembers casts a) {column : String} {stored : Value}
    (hs : a.raw? column = some stored) :
    Remembers casts { a with memo := a.memo.put column (casts.cast column stored) } := by
  intro other value hv
  rw [Columns.get?_put] at hv
  by_cases hc : column = other
  · subst hc
    rw [if_pos rfl] at hv
    exact ⟨stored, hs, Option.some.inj hv⟩
  · rw [if_neg hc] at hv
    exact h other value hv

lemma sound_ofPairs (casts : Casts) (pairs : List (String × Value)) :
    Sound casts (ofPairs pairs) where
  columns := Columns.nodup_collect pairs
  entries := List.nodup_nil
  memo _ _ h := by cases h

namespace Sound

/-- A column that changes leaves the memo. -/
lemma of_erased (h : Sound casts a) {row : Row} {column : String} (columns : row.names.Nodup)
    (same : ∀ other, column ≠ other → row.get? other = a.raw? other) :
    Sound casts ⟨row, a.memo.erase column⟩ where
  columns := columns
  entries := Columns.nodup_erase h.entries column
  memo other value hv := by
    rw [Columns.get?_erase h.entries] at hv
    by_cases hc : column = other
    · rw [if_pos hc] at hv
      cases hv
    · rw [if_neg hc] at hv
      obtain ⟨stored, hs, hcast⟩ := h.memo other value hv
      exact ⟨stored, (same other hc).trans hs, hcast⟩

lemma setRaw (h : Sound casts a) (column : String) (value : Value) :
    Sound casts (a.setRaw column value) := by
  apply h.of_erased (Columns.nodup_put h.columns column value)
  intro other hc
  exact (raw?_setRaw a column other value).trans (if_neg hc)

lemma remove (h : Sound casts a) (column : String) : Sound casts (a.remove column).2 := by
  apply h.of_erased (Columns.nodup_erase h.columns column)
  intro other hc
  exact (raw?_remove h.columns column other).trans (if_neg hc)

lemma remember (h : Sound casts a) {column : String} {stored : Value}
    (hs : a.raw? column = some stored) :
    Sound casts { a with memo := a.memo.put column (casts.cast column stored) } where
  columns := h.columns
  entries := Columns.nodup_put h.entries column _
  memo := Remembers.put h.memo hs

end Sound

/-! ## Reading -/

lemma read_eq (casts : Casts) (column : String) (a : Attributes) :
    read casts column a = (match a.memo.get? column, a.raw? column with
      | some value, _ => pure (some value)
      | none, none => pure none
      | none, some stored => do
        Action.emit (casts.reports column stored)
        Action.update fun a => { a with memo := a.memo.put column (casts.cast column stored) }
        return some (casts.cast column stored) : Action Attributes (Option Value)) a := rfl

/-- A value that is remembered is not cast again. -/
lemma read_of_remembered {column : String} {value : Value} (h : a.memo.get? column = some value) :
    read casts column a = ⟨.ok (some value), a, []⟩ := by
  rw [read_eq, h]
  rfl

lemma read_of_absent {column : String} (memo : a.memo.get? column = none)
    (absent : a.raw? column = none) : read casts column a = ⟨.ok none, a, []⟩ := by
  rw [read_eq, memo, absent]
  rfl

lemma read_of_stored {column : String} {stored : Value} (memo : a.memo.get? column = none)
    (hs : a.raw? column = some stored) :
    read casts column a = ⟨.ok (some (casts.cast column stored)),
      { a with memo := a.memo.put column (casts.cast column stored) },
      casts.reports column stored⟩ := by
  rw [read_eq, memo, hs]
  change Outcome.mk _ _ (casts.reports column stored ++ ([] ++ [])) = _
  rw [List.append_nil, List.append_nil]
  rfl

/-- A read fills the place of its column in the memo, and no other. -/
lemma get?_memo_read (casts : Casts) (a : Attributes) (column other : String) :
    (read casts column a).state.memo.get? other =
      (a.memo.get? other).or
        (if column = other then (a.raw? column).map (casts.cast column) else none) := by
  cases memo : a.memo.get? column with
  | some value =>
    rw [read_of_remembered memo]
    by_cases hc : column = other
    · rw [← hc, memo, Option.some_or]
    · rw [if_neg hc, Option.or_none]
  | none =>
    cases hs : a.raw? column with
    | none => rw [read_of_absent memo hs, Option.map_none, ite_self, Option.or_none]
    | some stored =>
      rw [read_of_stored memo hs, Columns.get?_put]
      by_cases hc : column = other
      · rw [if_pos hc, if_pos hc, ← hc, memo, Option.map_some, Option.none_or]
      · rw [if_neg hc, if_neg hc, Option.or_none]

/-- Reading gives the cast of what is stored, and at most this cast is remembered. -/
lemma read_cases (h : Remembers casts a) (column : String) :
    (read casts column a).result = .ok ((a.raw? column).map (casts.cast column)) ∧
      ((read casts column a).state = a ∨ ∃ stored, a.raw? column = some stored ∧
        (read casts column a).state =
          { a with memo := a.memo.put column (casts.cast column stored) }) := by
  cases memo : a.memo.get? column with
  | some value =>
    obtain ⟨stored, hs, hcast⟩ := h column value memo
    rw [read_of_remembered memo, hs, Option.map_some, hcast]
    exact ⟨rfl, Or.inl rfl⟩
  | none =>
    cases hs : a.raw? column with
    | none =>
      rw [read_of_absent memo hs]
      exact ⟨rfl, Or.inl rfl⟩
    | some stored =>
      rw [read_of_stored memo hs]
      exact ⟨rfl, Or.inr ⟨stored, rfl, rfl⟩⟩

/-- Reading gives the cast of what is stored, and changes nothing but the memo. -/
theorem read_result (h : Sound casts a) (column : String) :
    (read casts column a).result = .ok ((a.raw? column).map (casts.cast column)) ∧
      (read casts column a).state.row = a.row ∧ Sound casts (read casts column a).state := by
  obtain ⟨result, same | ⟨stored, hs, remembered⟩⟩ := read_cases h.memo column
  · rw [same]
    exact ⟨result, rfl, h⟩
  · rw [remembered]
    exact ⟨result, rfl, h.remember hs⟩

/-- The record after columns were read, one after another. -/
def afterReads (casts : Casts) (a : Attributes) (columns : List String) : Attributes :=
  columns.foldl (fun a column => (read casts column a).state) a

lemma remembers_afterReads (h : Remembers casts a) (columns : List String) :
    (a.afterReads casts columns).row = a.row ∧ Remembers casts (a.afterReads casts columns) := by
  induction columns generalizing a with
  | nil => exact ⟨rfl, h⟩
  | cons column rest ih =>
    rw [afterReads, List.foldl_cons]
    obtain ⟨_, same | ⟨stored, hs, remembered⟩⟩ := read_cases h column
    · rw [same]
      exact ih h
    · rw [remembered]
      exact ih (h.put hs)

/-- What is read does not depend on what was read before. -/
theorem read_afterReads (h : Remembers casts a) (columns : List String) (column : String) :
    (read casts column (a.afterReads casts columns)).result =
      .ok ((a.raw? column).map (casts.cast column)) := by
  obtain ⟨row, remembers⟩ := remembers_afterReads h columns
  rw [(read_cases remembers column).1, raw?, row]
  rfl

lemma state_readId (casts : Casts) (a : Attributes) :
    (readId casts a).state = (read casts "id" a).state :=
  Action.state_bind_quiet (fun _ => .pure _) a

lemma readId_result (h : Sound casts a) :
    (readId casts a).result =
        .ok (((a.raw? "id").map (casts.cast "id")).filter fun value => !value.isNull) ∧
      (readId casts a).state.row = a.row ∧ Sound casts (readId casts a).state := by
  obtain ⟨result, row, sound⟩ := read_result h "id"
  obtain ⟨found, _⟩ := Action.bind_of_ok (fun value =>
    (pure (value.filter fun v => !v.isNull) : Action Attributes (Option Value))) result
  rw [state_readId]
  exact ⟨found, row, sound⟩

end Clausal.Attributes
