import Clausal.Proofs.Columns
import Clausal.Proofs.Query.Faults
import Clausal.Record

/-!
# The statements of a record

Saving a new record inserts it, saving any other assigns all its columns where its id stands, and
deleting removes that row. What is prepared for each names the columns in the order they are stored.
-/

namespace Clausal.RecordType

open Query Sql

variable (R : RecordType)

/-- The value that the row of a record is found by. -/
def key (a : Attributes) : Value :=
  ((a.raw? "id").map (R.casts.cast "id")).getD .null

/-- The columns that are inserted. -/
def insertedColumns (a : Attributes) : Columns Value :=
  a.row.columns.filter (·.1 != "id")

def insertCalls (columns : Columns Value) : List Call :=
  [.insert [boundPairs columns]]

def updateCalls (columns : Columns Value) (id : Value) : List Call :=
  [.setAll (boundPairs columns), .filter false (idFilter id)]

def deleteCalls (id : Value) : List Call :=
  [.delete, .filter false (idFilter id)]

/-- The query that calls make on the table of the records. -/
def building (cs : List Call) : Query :=
  built (.record R.table R.casts) cs

/-! ## What is prepared -/

/-- A value as it is stored: NULL is written out. -/
def storedPiece (v : Value) : Piece := (Slot.bound v).normalize.piece

def idPieces (id : Value) : List Piece :=
  .text "WHERE " :: .text "( " ::
    ((Condition.compare (.name "id") "=" (.bound id)).pieces ++ [.text " )"])

def insertion (columns : Columns Value) : Preparation where
  kind := .insert
  pieces := Piece.join " \n" [
    [.text ("INSERT INTO" ++ " " ++ quoteName R.table)],
    .text ("(" ++ ", ".intercalate (columns.names.map quoteName) ++ ") VALUES ") ::
      .text "(" :: (Piece.join ", " (columns.map fun (_, v) => [storedPiece v]) ++ [.text ")"])]

/-- All columns assigned, in the rows of one condition. -/
def updatingWhere (columns : Columns Value) (item : Condition) : Preparation where
  kind := .update
  pieces := Piece.join " \n" [
    [.text ("UPDATE" ++ " " ++ quoteName R.table)],
    .text "SET " :: Piece.join ", " (columns.map fun (column, v) =>
      [.text (quoteName column ++ " = "), storedPiece v]),
    .text "WHERE " :: .text "( " :: (item.pieces ++ [.text " )"])]

def updating (columns : Columns Value) (id : Value) : Preparation where
  kind := .update
  pieces := Piece.join " \n" [
    [.text ("UPDATE" ++ " " ++ quoteName R.table)],
    .text "SET " :: Piece.join ", " (columns.map fun (column, v) =>
      [.text (quoteName column ++ " = "), storedPiece v]),
    idPieces id]

def deletion (id : Value) : Preparation where
  kind := .delete
  pieces := Piece.join " \n" [[.text ("DELETE FROM" ++ " " ++ quoteName R.table)], idPieces id]

/-! ## Preparing -/

/-- The columns with their values in slots. -/
def slots (columns : Columns Value) : Columns Slot :=
  columns.map fun (column, v) => (column, (Slot.bound v).normalize)

lemma names_slots (columns : Columns Value) : (slots columns).names = columns.names :=
  Columns.names_map (fun _ v => (Slot.bound v).normalize) columns

lemma rowOf_boundPairs {columns : Columns Value} (h : columns.names.Nodup) :
    rowOf (boundPairs columns) = slots columns := by
  have collected : rowOf (boundPairs columns) = Columns.collect (slots columns) := by
    rw [rowOf, boundPairs, List.map_map]
    rfl
  rw [collected]
  apply Columns.collect_eq_self
  rwa [names_slots]

lemma tuplePieces_names {cells : Columns Slot} (h : cells.names.Nodup) :
    tuplePieces cells.names cells =
      .ok (.text "(" :: (Piece.join ", " (cells.map fun (_, slot) => [slot.piece]) ++
        [.text ")"])) := by
  have listed : cells.names.map (fun column =>
      ((cells.get? column).map fun slot => [slot.piece]).getD []) =
        cells.map fun (_, slot) => [slot.piece] := by
    rw [Columns.names, List.map_map]
    apply List.map_congr_left
    intro cell mem
    simp [Columns.get?_of_mem h mem]
  rw [← listed]
  refine bind_eq_ok.mpr ⟨_, mapM_eq_ok_map fun column hc => ?_, rfl⟩
  obtain ⟨slot, hs⟩ := Option.isSome_iff_exists.mp ((Columns.isSome_get? cells column).mpr hc)
  rw [hs]
  rfl

lemma prepare_insert {columns : Columns Value} (h : columns.names.Nodup) :
    (R.building (insertCalls columns)).prepare = .ok (R.insertion columns) := by
  have query : R.building (insertCalls columns) =
      { target := .record R.table R.casts, kind := some .insert, used := [.values],
        insertRows := [slots columns] } := by
    rw [← rowOf_boundPairs h]
    rfl
  have tuple : tuplePieces (slots columns).names (slots columns) = .ok (.text "(" ::
      (Piece.join ", " (columns.map fun (_, v) => [storedPiece v]) ++ [.text ")"])) := by
    rw [tuplePieces_names (by rwa [names_slots]), slots, List.map_map]
    rfl
  have values : (R.building (insertCalls columns)).valuesPieces =
      .ok [.text ("(" ++ ", ".intercalate (columns.names.map quoteName) ++ ") VALUES ") ::
        .text "(" :: (Piece.join ", " (columns.map fun (_, v) => [storedPiece v]) ++
          [.text ")"])] := by
    rw [query, ← names_slots, valuesPieces]
    simp only [List.mapM_cons, List.mapM_nil, tuple]
    rfl
  rw [query] at values ⊢
  refine bind_eq_ok.mpr ⟨(), rfl, bind_eq_ok.mpr ⟨_, bind_eq_ok.mpr ⟨(), rfl,
    bind_eq_ok.mpr ⟨_, rfl, bind_eq_ok.mpr ⟨_, values, bind_eq_ok.mpr ⟨_, rfl, rfl⟩⟩⟩⟩, ?_⟩⟩
  rfl

/-! ## Preparing with a condition -/

lemma set_of_update {q : Query} (hk : q.kind = some .update) (column : String) (slot : Slot) :
    ∃ used, q.set column slot =
      { q with used := used, assignments := q.assignments.put column slot.normalize } := by
  have accepts : q.Accepts .set := by
    rw [Accepts]
    simp [Clause.fixedKind?, Admits, hk]
  rcases q.withClause_cases .set
      (fun q => { q with assignments := q.assignments.put column slot.normalize }) with h | h
  · refine ⟨(q.marked .set).used, h.2.trans ?_⟩
    have kind : (q.marked .set).kind = q.kind := by
      rw [hk]
      rfl
    rw [← kind]
    rfl
  · exact absurd accepts h.1

/-- Assignments of an UPDATE are all accepted. -/
lemma foldl_set {q : Query} (hk : q.kind = some .update) (pairs : List (String × Slot)) :
    ∃ used, pairs.foldl (fun q (column, slot) => q.set column slot) q =
      { q with
        used := used
        assignments := (pairs.map fun (column, slot) => (column, slot.normalize)).foldl
          (fun cols (column, slot) => cols.put column slot) q.assignments } := by
  induction pairs generalizing q with
  | nil => exact ⟨q.used, rfl⟩
  | cons pair rest ih =>
    obtain ⟨used, first⟩ := set_of_update hk pair.1 pair.2
    have next : (q.set pair.1 pair.2).kind = some .update := by
      rw [first]
      exact hk
    obtain ⟨later, tail⟩ := ih next
    refine ⟨later, ?_⟩
    rw [List.foldl_cons, tail, first]
    rfl

lemma conditions_idFilter {id : Value} (h : id.isNull = false) (list : id ≠ .list []) :
    (idFilter id).conditions = .ok [.compare (.name "id") "=" (.bound id)] := by
  cases id with
  | null => cases h
  | list items =>
    cases items with
    | nil => exact absurd rfl list
    | cons item items => rfl
  | _ => rfl

lemma filter_of_fits {q : Query} (fits : ∀ kind ∈ q.kind, Clause.filter.fits kind) (f : Filter) :
    q.call (.filter false f) =
      match f.conditions with
      | .ok items => { q.marked .filter with filters := q.filters.add false items }
      | .error fault => (q.marked .filter).fail (.malformedCondition fault) := by
  have accepts : q.Accepts .filter := fits
  rcases q.withClause_cases .filter (fun q => match f.conditions with
    | .ok items => { q with filters := q.filters.add false items }
    | .error fault => q.fail (.malformedCondition fault)) with h | h
  · exact h.2
  · exact absurd accepts h.1

/-- A filter with one condition adds it, and changes nothing else. -/
lemma filter_single {q : Query} (fits : ∀ kind ∈ q.kind, Clause.filter.fits kind) {f : Filter}
    {item : Condition} (ok : f.conditions = .ok [item]) :
    ∃ used, q.call (.filter false f) =
      { q with used := used, filters := q.filters.push item } := by
  refine ⟨(q.marked .filter).used, ?_⟩
  rw [filter_of_fits fits, ok]
  rfl

lemma error_filter_of_fault {q : Query} (fits : ∀ kind ∈ q.kind, Clause.filter.fits kind)
    {f : Filter} {fault : ConditionFault} (failed : f.conditions = .error fault) :
    (q.call (.filter false f)).error = q.error.or (some (.malformedCondition fault)) := by
  rw [filter_of_fits fits, failed]
  rfl

/-- An id that is an empty list has no condition. -/
def emptyId : Error := .malformedCondition (.emptyList (quoteName "id"))

/-- An UPDATE that assigns all columns of a record, and has no condition yet. -/
def assigning (columns : Columns Value) (used : List Clause) : Query where
  target := .record R.table R.casts
  kind := some .update
  assignments := slots columns
  used := used

lemma building_setAll {columns : Columns Value} (h : columns.names.Nodup) :
    ∃ used, R.building [.setAll (boundPairs columns)] = R.assigning columns used := by
  let start : Query := { target := .record R.table R.casts, kind := some .update }
  obtain ⟨used, assigned⟩ := foldl_set (q := start) rfl (boundPairs columns)
  refine ⟨used, ?_⟩
  rw [assigning, ← rowOf_boundPairs h]
  exact assigned

lemma fits_update : ∀ kind ∈ some StatementKind.update, Clause.filter.fits kind := by
  rintro kind ⟨⟩
  rfl

lemma prepare_updateWhere {columns : Columns Value} (h : columns.names.Nodup)
    (nonempty : columns ≠ []) {f : Filter} {item : Condition} (ok : f.conditions = .ok [item]) :
    (R.building [.setAll (boundPairs columns), .filter false f]).prepare =
      .ok (R.updatingWhere columns item) := by
  obtain ⟨used, assigned⟩ := R.building_setAll h
  obtain ⟨used', filtered⟩ := filter_single (q := R.assigning columns used) fits_update ok
  have building : R.building [.setAll (boundPairs columns), .filter false f] =
      (R.building [.setAll (boundPairs columns)]).call (.filter false f) := rfl
  rw [building, assigned, filtered]
  cases columns with
  | nil => exact absurd rfl nonempty
  | cons column rest =>
    have assignments : (slots (column :: rest)).map (fun (column, slot) =>
        [Piece.text (quoteName column ++ " = "), slot.piece]) =
        (column :: rest).map fun (column, v) =>
          [.text (quoteName column ++ " = "), storedPiece v] := by
      rw [slots, List.map_map]
      rfl
    rw [updatingWhere, ← assignments]
    rfl

lemma prepare_update {columns : Columns Value} (h : columns.names.Nodup) (nonempty : columns ≠ [])
    {id : Value} (stored : id.isNull = false) :
    (id ≠ .list [] →
        (R.building (updateCalls columns id)).prepare = .ok (R.updating columns id)) ∧
      (id = .list [] → (R.building (updateCalls columns id)).prepare = .error emptyId) := by
  constructor
  · intro list
    exact R.prepare_updateWhere h nonempty (conditions_idFilter stored list)
  · rintro rfl
    obtain ⟨used, assigned⟩ := R.building_setAll h
    rw [show R.building (updateCalls columns (.list [])) = (R.building
      [.setAll (boundPairs columns)]).call (.filter false (idFilter (.list []))) from rfl, assigned]
    exact prepare_of_error (error_filter_of_fault fits_update rfl)

lemma prepare_delete {id : Value} (stored : id.isNull = false) :
    (id ≠ .list [] → (R.building (deleteCalls id)).prepare = .ok (R.deletion id)) ∧
      (id = .list [] → (R.building (deleteCalls id)).prepare = .error emptyId) := by
  let start : Query := { target := .record R.table R.casts, kind := some .delete }
  have building : R.building (deleteCalls id) = start.call (.filter false (idFilter id)) := rfl
  have fits : ∀ kind ∈ some StatementKind.delete, Clause.filter.fits kind := by
    rintro kind ⟨⟩
    rfl
  rw [building]
  constructor
  · intro list
    obtain ⟨used, filtered⟩ := filter_single (q := start) fits (conditions_idFilter stored list)
    rw [filtered]
    rfl
  · rintro rfl
    exact prepare_of_error (error_filter_of_fault (q := start) fits rfl)

end Clausal.RecordType
