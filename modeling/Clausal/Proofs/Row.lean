import Clausal.Proofs.Columns
import Clausal.Proofs.Json.Entries

/-!
# The history of a row

However a row came about, it is what the writes come to that no later edit undid: each column has
the value that was written last, and the columns stand in the order in which they were first written
since they were last removed. A row that is collected or read from JSON starts a history of its own.
-/

namespace Clausal.Row

/-- What is done with a row. A row that is collected or read takes its place; a text that is no row
leaves it as it is. -/
inductive Call where
  | put (column : String) (value : Value)
  | insert (column : String) (value : Value)
  | remove (column : String)
  | collect (pairs : List (String × Value))
  | readJson (text : String)

def perform (row : Row) : Call → Row
  | .put column value => row.put column value
  | .insert column value => (row.insert column value).2
  | .remove column => (row.remove column).2
  | .collect pairs => ofPairs pairs
  | .readJson text => (readJson text).toOption.getD row

/-- The row after some calls. -/
def after (calls : List Call) : Row := calls.foldl perform {}

/-- What happens to the columns. -/
inductive Edit where
  | write (column : String) (value : Value)
  | remove (column : String)
  | clear

def Edit.undoes (column : String) : Edit → Bool
  | .write .. => false
  | .remove other => other == column
  | .clear => true

def writes (pairs : List (String × Value)) : List Edit :=
  pairs.map fun (column, value) => .write column value

def Call.edits : Call → List Edit
  | .put column value => [.write column value]
  | .insert column value => [.write column value]
  | .remove column => [.remove column]
  | .collect pairs => .clear :: writes pairs
  | .readJson text => match entries text with
    | .ok pairs => .clear :: writes pairs
    | .error _ => []

def history (calls : List Call) : List Edit := calls.flatMap Call.edits

/-- The writes that no later edit undoes, in their order. -/
def standing : List Edit → List (String × Value)
  | [] => []
  | .write column value :: later =>
    if later.any (Edit.undoes column) then standing later else (column, value) :: standing later
  | _ :: later => standing later

/-- The last value that is written for a column. -/
def last? (writes : List (String × Value)) (column : String) : Option Value :=
  Columns.get? writes.reverse column

/-- A row of some writes: the last one of each column, in the order of the first ones. -/
structure Holding (row : Row) (writes : List (String × Value)) : Prop where
  distinct : row.names.Nodup
  order : row.names = (Columns.names writes).eraseDups
  get : ∀ column, row.get? column = last? writes column
  contains : ∀ column, row.contains column = (last? writes column).isSome
  require : ∀ column, row.require column = match last? writes column with
    | some value => .ok value
    | none => .error (.decode column "column not present in row")
  replaced : ∀ column value, (row.insert column value).1 = last? writes column
  removed : ∀ column, (row.remove column).1 = last? writes column

/-- The columns besides one, as they stand. -/
def others (row : Row) (column : String) : Columns Value :=
  row.columns.filter (·.1 != column)

lemma others_put (row : Row) (column : String) (value : Value) :
    (row.put column value).others column = row.others column :=
  Columns.filter_put row.columns column value

lemma others_remove (row : Row) (column : String) :
    (row.remove column).2.others column = row.others column :=
  Columns.filter_erase row.columns column

/-! ## What stands of a history -/

lemma standing_append_write (edits : List Edit) (column : String) (value : Value) :
    standing (edits ++ [.write column value]) = standing edits ++ [(column, value)] := by
  induction edits with
  | nil => rfl
  | cons edit later ih =>
    cases edit with
    | write other v =>
      have same : (later ++ [Edit.write column value]).any (Edit.undoes other) =
          later.any (Edit.undoes other) := by
        rw [List.any_append]
        exact Bool.or_false _
      rw [List.cons_append, standing, standing, same, ih]
      split <;> rfl
    | remove other => exact ih
    | clear => exact ih

lemma standing_append_remove (edits : List Edit) (column : String) :
    standing (edits ++ [.remove column]) = (standing edits).filter (·.1 != column) := by
  induction edits with
  | nil => rfl
  | cons edit later ih =>
    cases edit with
    | write other v =>
      have also : (later ++ [Edit.remove column]).any (Edit.undoes other) =
          (later.any (Edit.undoes other) || column == other) := by
        rw [List.any_append]
        exact congrArg _ (Bool.or_false _)
      rw [List.cons_append, standing, standing, also, ih]
      by_cases gone : later.any (Edit.undoes other) = true
      · simp [gone]
      · by_cases same : column = other
        · simp [gone, same]
        · simp [gone, same, Ne.symm same]
    | remove other => exact ih
    | clear => exact ih

lemma standing_append_clear (edits : List Edit) : standing (edits ++ [.clear]) = [] := by
  induction edits with
  | nil => rfl
  | cons edit later ih =>
    cases edit with
    | write other v =>
      have undone : (later ++ [Edit.clear]).any (Edit.undoes other) = true := by
        rw [List.any_append]
        exact Bool.or_true _
      rw [List.cons_append, standing, if_pos undone, ih]
    | remove other => exact ih
    | clear => exact ih

/-! ## Rows by their history -/

def apply (cols : Columns Value) : Edit → Columns Value
  | .write column value => cols.put column value
  | .remove column => cols.erase column
  | .clear => []

/-- One edit keeps a row to what stands of its history. -/
lemma apply_standing (edits : List Edit) (edit : Edit) :
    apply (Columns.collect (standing edits)) edit =
      Columns.collect (standing (edits ++ [edit])) := by
  cases edit with
  | write column value => rw [standing_append_write, Columns.collect_concat, apply]
  | remove column => rw [standing_append_remove, Columns.collect_filter, apply]
  | clear => rw [standing_append_clear]; rfl

lemma foldl_apply (edits : List Edit) :
    edits.foldl apply [] = Columns.collect (standing edits) := by
  induction edits using List.reverseRecOn with
  | nil => rfl
  | append_singleton edits edit ih => rw [List.foldl_concat, ih, apply_standing]

lemma foldl_writes (cols : Columns Value) (pairs : List (String × Value)) :
    (writes pairs).foldl apply cols =
      pairs.foldl (fun cols (column, value) => cols.put column value) cols := by
  rw [writes, List.foldl_map]
  rfl

/-- A call edits the columns as its history says. -/
lemma perform_columns (row : Row) (call : Call) :
    (row.perform call).columns = call.edits.foldl apply row.columns := by
  cases call with
  | put column value => rfl
  | insert column value => rfl
  | remove column => rfl
  | collect pairs => exact (foldl_writes [] pairs).symm
  | readJson text =>
    rw [perform, readJson_eq, Call.edits]
    cases entries text with
    | error fault => rfl
    | ok pairs => exact (foldl_writes [] pairs).symm

/-- After any calls a row is what stands of its history. -/
lemma after_columns (calls : List Call) :
    (after calls).columns = Columns.collect (standing (history calls)) := by
  rw [← foldl_apply]
  induction calls using List.reverseRecOn with
  | nil => rfl
  | append_singleton calls call ih =>
    rw [after, List.foldl_concat, perform_columns, history, List.flatMap_append, List.foldl_append]
    change call.edits.foldl apply (after calls).columns = _
    rw [ih, List.flatMap_singleton]
    rfl

lemma holding_collect (writes : List (String × Value)) : (ofPairs writes).Holding writes := by
  have get (column : String) : (ofPairs writes).get? column = last? writes column :=
    Columns.get?_collect writes column
  refine ⟨Columns.nodup_collect writes, Columns.names_collect writes, get, fun column => ?_,
    fun column => ?_, fun column value => get column, get⟩
  · rw [contains, get]
  · cases found : last? writes column with
    | some value => rw [require, get, found]
    | none => rw [require, get, found]

/-- After any calls a row holds the writes that stand. -/
lemma holding_after (calls : List Call) : (after calls).Holding (standing (history calls)) := by
  have row : after calls = ofPairs (standing (history calls)) :=
    congrArg Row.mk (after_columns calls)
  rw [row]
  exact holding_collect _

example : (after [.put "a" (.int 1), .put "b" (.int 2), .remove "a", .put "b" (.int 3),
    .insert "a" (.int 4)]).columns = [("b", .int 3), ("a", .int 4)] :=
  rfl

end Clausal.Row
