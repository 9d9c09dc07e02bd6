import Clausal.Proofs.Query.Faults
import Clausal.Proofs.Query.Kind

/-!
# Rows of an INSERT

The first row of an INSERT fixes the column list. A later row has to name all of these columns, in
any order and in whichever call it stands, and each place of its tuple takes what the row gives last
for the column of that place. What a later row gives for any other column is left out without an
error.
-/

namespace Clausal

open Sql

/-! ## Slots of a tuple -/

namespace Slot

/-- A value has a place in the text; NULL and raw text are written out. -/
def written : Slot → String
  | .bound .null => "NULL"
  | .bound _ => "%s"
  | .raw sql => sql

def bindings : Slot → List Value
  | .bound .null => []
  | .bound v => [v]
  | .raw _ => []

lemma template_normalize (slot : Slot) : slot.normalize.piece.template = slot.written := by
  cases slot with
  | raw sql => rfl
  | bound v => cases v <;> rfl

lemma args_normalize (slot : Slot) : slot.normalize.piece.args = slot.bindings := by
  cases slot with
  | raw sql => rfl
  | bound v => cases v <;> rfl

end Slot

namespace Query

/-! ## What a row gives -/

/-- The columns of a row, in the order they are first named. -/
def columnsOf (row : List (String × Slot)) : List String :=
  (row.map (·.1)).eraseDups

/-- What a row gives last for a column. -/
def given? (row : List (String × Slot)) (column : String) : Option Slot :=
  Columns.get? row.reverse column

/-- The slots are what the row gives for the columns, one by one. -/
def Gives (columns : List String) (row : List (String × Slot)) (slots : List Slot) : Prop :=
  List.Forall₂ (fun column slot => given? row column = some slot) columns slots

section Rows

variable {row : List (String × Slot)} {column : String} {columns : List String} {slots : List Slot}

lemma names_rowOf (row : List (String × Slot)) : (rowOf row).names = columnsOf row := by
  rw [rowOf, Columns.names_collect]
  exact congrArg List.eraseDups (Columns.names_map (fun _ slot => slot.normalize) row)

lemma get?_rowOf (row : List (String × Slot)) (column : String) :
    (rowOf row).get? column = (given? row column).map Slot.normalize := by
  rw [rowOf, Columns.get?_collect, ← List.map_reverse]
  exact Columns.get?_map (fun _ slot => slot.normalize) row.reverse column

lemma isSome_given? : (given? row column).isSome ↔ column ∈ columnsOf row := by
  rw [given?, Columns.isSome_get?, columnsOf, List.mem_eraseDups, Columns.names, List.map_reverse,
    List.mem_reverse]

lemma given?_eq_none : given? row column = none ↔ column ∉ columnsOf row := by
  rw [← isSome_given?, Option.not_isSome_iff_eq_none]

lemma exists_gives (named : columns ⊆ columnsOf row) : ∃ slots, Gives columns row slots :=
  exists_forall₂ fun _ mem => Option.isSome_iff_exists.mp (isSome_given?.mpr (named mem))

lemma Gives.named (h : Gives columns row slots) : columns ⊆ columnsOf row := by
  intro column mem
  obtain ⟨slot, _, given⟩ := exists_of_mem_right h.flip mem
  exact isSome_given?.mp (Option.isSome_iff_exists.mpr ⟨slot, given⟩)

lemma Gives.mem_zip_iff (h : Gives columns row slots) {slot : Slot} :
    (column, slot) ∈ columns.zip slots ↔ column ∈ columns ∧ given? row column = some slot := by
  induction h with
  | nil => simp
  | @cons first head columns slots given _ ih =>
    rw [List.zip_cons_cons, List.mem_cons, List.mem_cons, ih, Prod.mk.injEq]
    constructor
    · rintro (⟨rfl, rfl⟩ | ⟨mem, other⟩)
      · exact ⟨Or.inl rfl, given⟩
      · exact ⟨Or.inr mem, other⟩
    · rintro ⟨rfl | mem, other⟩
      · exact Or.inl ⟨rfl, Option.some.inj (other.symm.trans given)⟩
      · exact Or.inr ⟨mem, other⟩

end Rows

/-! ## The statement of given slots -/

def tuple (slots : List Slot) : List Piece :=
  .text "(" :: (Piece.join ", " (slots.map fun slot => [slot.normalize.piece]) ++ [.text ")"])

/-- The insertion of these tuples under these columns. -/
def insertion (table : String) (columns : List String) (tuples : List (List Slot)) :
    Preparation where
  kind := .insert
  pieces := Piece.join " \n" [
    [.text ("INSERT INTO" ++ " " ++ quoteName table)],
    .text ("(" ++ ", ".intercalate (columns.map quoteName) ++ ") VALUES ") ::
      Piece.join ", " (tuples.map tuple)]

def insertionText (table : String) (columns : List String) (tuples : List (List Slot)) : String :=
  " \n".intercalate [
    "INSERT INTO " ++ quoteName table,
    "(" ++ ", ".intercalate (columns.map quoteName) ++ ") VALUES " ++
      ", ".intercalate (tuples.map fun slots =>
        "(" ++ ", ".intercalate (slots.map Slot.written) ++ ")")]

lemma template_tuple (slots : List Slot) :
    template (tuple slots) = "(" ++ ", ".intercalate (slots.map Slot.written) ++ ")" := by
  have written : (slots.map fun slot => [slot.normalize.piece]).map template =
      slots.map Slot.written := by
    rw [List.map_map]
    refine List.map_congr_left fun slot _ => ?_
    rw [← slot.template_normalize]
    exact template_singleton _
  rw [tuple, template_enclosed, template_join, written]

lemma arguments_tuple (slots : List Slot) :
    arguments (tuple slots) = slots.flatMap Slot.bindings := by
  have each (slot : Slot) : arguments [slot.normalize.piece] = slot.bindings := by
    rw [arguments_cons, arguments_nil, List.append_nil, slot.args_normalize]
  simp [tuple, Piece.args, arguments_join, List.flatMap_map, each]

lemma sql_insertion (table : String) (columns : List String) (tuples : List (List Slot)) :
    (insertion table columns tuples).sql = insertionText table columns tuples := by
  have texts : (tuples.map tuple).map template = tuples.map fun slots =>
      "(" ++ ", ".intercalate (slots.map Slot.written) ++ ")" := by
    rw [List.map_map]
    exact List.map_congr_left fun slots _ => template_tuple slots
  have opening : "INSERT INTO" ++ " " = "INSERT INTO " := by decide
  rw [Preparation.sql, insertion, insertionText, template_join, List.map_cons, List.map_singleton,
    template_text_cons, template_text_cons, template_join, texts, opening]
  exact congrArg (fun line => " \n".intercalate [line, _]) (String.append_empty ..)

lemma args_insertion (table : String) (columns : List String) (tuples : List (List Slot)) :
    (insertion table columns tuples).args = tuples.flatten.flatMap Slot.bindings := by
  rw [← List.flatMap_id, List.flatMap_assoc]
  simp [Preparation.args, insertion, Piece.join, Piece.args, arguments_join, List.flatMap_map,
    arguments_tuple]

lemma tuplePieces_of_gives {columns : List String} {row : List (String × Slot)} {slots : List Slot}
    (h : Gives columns row slots) : tuplePieces columns (rowOf row) = .ok (tuple slots) := by
  refine bind_eq_ok.mpr ⟨_, mapM_eq_ok ?_, rfl⟩
  rw [List.forall₂_map_right_iff]
  refine h.imp fun column slot given => ?_
  rw [get?_rowOf, given]
  rfl

lemma kindOrSelect_of_rows {q : Query} (consistent : q.Consistent) (listed : q.Listed)
    (some : q.insertRows ≠ []) : q.kindOrSelect = .insert := by
  have has : q.Has .values := some
  rw [kindOrSelect, (kind_of_has consistent listed has).1 .insert rfl]
  rfl

/-- An INSERT of rows that give these slots. -/
lemma prepare_rows {q : Query} (consistent : q.Consistent) (listed : q.Listed)
    (valid : q.error = none) {table : String} (target : q.table? = some table)
    {first : List (String × Slot)} {later : List (List (String × Slot))}
    (stored : q.insertRows = (first :: later).map rowOf) {tuples : List (List Slot)}
    (given : List.Forall₂ (Gives (columnsOf first)) (first :: later) tuples) :
    q.prepare = .ok (insertion table (columnsOf first) tuples) := by
  have kind : q.kindOrSelect = .insert :=
    kindOrSelect_of_rows consistent listed (by rw [stored]; exact List.cons_ne_nil _ _)
  have required : q.requireClauses = .ok () := by
    rw [requireClauses, kind, stored]
    rfl
  have head : q.headPieces = .ok [[.text ("INSERT INTO" ++ " " ++ quoteName table)]] := by
    rw [headPieces, kind, requireTable, target]
    rfl
  have values : q.valuesPieces =
      .ok [.text ("(" ++ ", ".intercalate ((columnsOf first).map quoteName) ++ ") VALUES ") ::
        Piece.join ", " (tuples.map tuple)] := by
    have tuples : ((first :: later).map rowOf).mapM (tuplePieces (columnsOf first)) =
        .ok (tuples.map tuple) := by
      refine mapM_eq_ok ?_
      rw [List.forall₂_map_left_iff, List.forall₂_map_right_iff]
      exact given.imp fun _ _ => tuplePieces_of_gives
    simp only [valuesPieces, stored, List.map_cons, names_rowOf]
    rw [← List.map_cons, tuples, ok_bind]
    rfl
  rw [prepare_eq_prepareOfKind consistent listed, prepareOfKind, validate, valid, clausesOfKind,
    required, head, kind]
  simp only [ok_bind, values]
  rfl

/-! ## Rows that fit together -/

/-- Every row names all columns of the first row. -/
def Complete (rows : List (List (String × Slot))) : Prop :=
  ∀ first ∈ rows.head?, ∀ row ∈ rows, columnsOf first ⊆ columnsOf row

/-- The first column of the first row that a further row does not name. -/
def lacking? (rows : List (List (String × Slot))) (row : List (String × Slot)) : Option String :=
  rows.head?.bind fun first => (columnsOf first).find? (· ∉ columnsOf row)

/-- The first row that does not fit those before it, counted from zero, and the column it lacks. -/
def FirstGap (rows : List (List (String × Slot))) (i : Nat) (column : String) : Prop :=
  ∃ before row after, rows = before ++ row :: after ∧ before.length = i ∧ Complete before ∧
    lacking? before row = some column

section Fitting

variable {rows more : List (List (String × Slot))} {row : List (String × Slot)}

lemma Complete.exists_tuples {first : List (String × Slot)}
    {later : List (List (String × Slot))} (h : Complete (first :: later)) :
    ∃ tuples, List.Forall₂ (Gives (columnsOf first)) (first :: later) tuples :=
  exists_forall₂ fun row mem => exists_gives (h first rfl row mem)

lemma complete_concat (h : Complete rows) (fits : lacking? rows row = none) :
    Complete (rows ++ [row]) := by
  cases rows with
  | nil =>
    rintro first hf other ho
    obtain rfl := List.mem_singleton.mp ho
    obtain rfl := Option.some.inj hf
    exact List.Subset.refl _
  | cons head rest =>
    rintro first hf
    obtain rfl : head = first := Option.some.inj hf
    rw [List.forall_mem_append, List.forall_mem_singleton]
    refine ⟨h head rfl, fun column mem => ?_⟩
    have named := List.find?_eq_none.mp fits column mem
    simpa using named

lemma FirstGap.append {i : Nat} {column : String} (h : FirstGap rows i column) :
    FirstGap (rows ++ more) i column := by
  obtain ⟨before, row, after, rfl, count, complete, lacks⟩ := h
  exact ⟨before, row, after ++ more, by simp, count, complete, lacks⟩

/-- A row with a gap stands behind the first and lacks one of its columns. -/
lemma FirstGap.exists_lacking {i : Nat} {column : String} (h : FirstGap rows i column) :
    ∃ first later, rows = first :: later ∧ ∃ row ∈ later, column ∈ columnsOf first ∧
      column ∉ columnsOf row := by
  obtain ⟨before, row, after, rfl, _, _, lacks⟩ := h
  obtain ⟨first, hf, found⟩ := Option.bind_eq_some_iff.mp lacks
  obtain ⟨rest, rfl⟩ := List.head?_eq_some_iff.mp hf
  refine ⟨first, rest ++ row :: after, rfl, row, by simp, List.mem_of_find?_eq_some found, ?_⟩
  simpa using List.find?_some found

lemma not_complete_of_lacking {first : List (String × Slot)}
    {later : List (List (String × Slot))} (mem : row ∈ later) {column : String}
    (named : column ∈ columnsOf first) (lacks : column ∉ columnsOf row) :
    ¬ Complete (first :: later) :=
  fun complete => lacks (complete first rfl row (List.mem_cons_of_mem first mem) named)

end Fitting

/-! ## Adding rows -/

section Adding

variable {q : Query} {done : List (List (String × Slot))}

lemma addRow_eq (same : q.insertRows = done.map rowOf) (row : List (String × Slot)) :
    q.addRow (rowOf row) = match lacking? done row with
      | some column => .error (.malformedRow (.lacks done.length column))
      | none => .ok { q with insertRows := (done ++ [row]).map rowOf } := by
  have missing : (q.insertRows.head?.bind fun first =>
      first.names.find? fun column => ((rowOf row).get? column).isNone) = lacking? done row := by
    rw [same, List.head?_map, Option.bind_map, lacking?]
    refine congrArg done.head?.bind (funext fun first => ?_)
    rw [Function.comp_apply, names_rowOf]
    refine congrFun (congrArg List.find? (funext fun column => ?_)) _
    rw [get?_rowOf, Option.isNone_map, ← Option.not_isSome, Bool.eq_iff_iff]
    simp [given?_eq_none]
  rw [addRow, missing, same, List.map_append, List.length_map]
  rfl

/-- The rows of one call are all added, or one of them does not fit those before it. -/
lemma addRows_cases (same : q.insertRows = done.map rowOf) (complete : Complete done)
    (rows : List (List (String × Slot))) :
    (Complete (done ++ rows) ∧
        q.addRows rows = { q with insertRows := (done ++ rows).map rowOf }) ∨
      ∃ i column stored, FirstGap (done ++ rows) i column ∧
        q.addRows rows =
          { q with insertRows := stored }.fail (.malformedRow (.lacks i column)) := by
  induction rows generalizing q done with
  | nil =>
    refine Or.inl ⟨by rwa [List.append_nil], ?_⟩
    rw [List.append_nil, ← same]
    rfl
  | cons row rest ih =>
    rw [addRows_cons, addRow_eq same]
    cases lacks : lacking? done row with
    | some column =>
      refine Or.inr ⟨done.length, column, q.insertRows, ?_, rfl⟩
      exact ⟨done, row, rest, rfl, rfl, complete, lacks⟩
    | none =>
      have next := ih (q := { q with insertRows := (done ++ [row]).map rowOf }) rfl
        (complete_concat complete lacks)
      rw [List.append_assoc, List.singleton_append] at next
      exact next

/-- Rows are added across calls as within one. -/
lemma calls_insert_cases (admits : q.Admits .insert) (valid : q.error = none)
    (same : q.insertRows = done.map rowOf) (complete : Complete done)
    (calls : List (List (List (String × Slot)))) :
    (Complete (done ++ calls.flatten) ∧ (q.calls (calls.map Call.insert)).error = none ∧
        (q.calls (calls.map Call.insert)).insertRows = (done ++ calls.flatten).map rowOf) ∨
      ∃ i column, FirstGap (done ++ calls.flatten) i column ∧
        (q.calls (calls.map Call.insert)).error = some (.malformedRow (.lacks i column)) := by
  induction calls generalizing q done with
  | nil =>
    rw [List.flatten_nil, List.append_nil]
    exact Or.inl ⟨complete, valid, same⟩
  | cons rows calls ih =>
    have added : q.call (.insert rows) = (q.marked .values).addRows rows := by
      rcases q.withClause_cases .values (·.addRows rows) with ⟨_, added⟩ | ⟨refused, _⟩
      · exact added
      · exact absurd admits refused
    rw [List.map_cons, calls_cons, added, List.flatten_cons, ← List.append_assoc]
    rcases addRows_cases (q := q.marked .values) same complete rows with
      ⟨complete, stored⟩ | ⟨i, column, rows, gap, failed⟩
    · rw [stored]
      exact ih rfl valid rfl complete
    · refine Or.inr ⟨i, column, gap.append, error_calls ?_ _⟩
      rw [failed]
      change q.error.or _ = _
      rw [valid, Option.none_or]

lemma built_insert_cases (target : Target) (calls : List (List (List (String × Slot)))) :
    (Complete calls.flatten ∧ (built target (calls.map Call.insert)).error = none ∧
        (built target (calls.map Call.insert)).insertRows = calls.flatten.map rowOf) ∨
      ∃ i column, FirstGap calls.flatten i column ∧
        (built target (calls.map Call.insert)).error = some (.malformedRow (.lacks i column)) := by
  have admits : Admits { target := target } .insert := List.forall_mem_nil _
  have nothing : Complete [] := fun _ none => by cases none
  exact calls_insert_cases admits rfl rfl nothing calls

end Adding

/-! ## Insertions -/

lemma shortfall_ne_malformedRow (q : Query) (fault : RowFault) :
    q.shortfall ≠ some (.malformedRow fault) := by
  rw [shortfall, lackingClause, lackingTable]
  cases q.kindOrSelect <;> simp only [Option.none_or] <;> split <;> simp

section Insertions

variable {target : Target} {calls : List (List (List (String × Slot)))}

/-- Rows that give the slots of tuples are prepared as these. -/
lemma prepare_of_given {table : String} (named : target.table? = some table)
    {first : List (String × Slot)} {later : List (List (String × Slot))}
    (rows : calls.flatten = first :: later) {tuples : List (List Slot)}
    (given : List.Forall₂ (Gives (columnsOf first)) (first :: later) tuples) :
    (built target (calls.map Call.insert)).prepare =
      .ok (insertion table (columnsOf first) tuples) := by
  rcases built_insert_cases target calls with ⟨_, valid, stored⟩ | ⟨i, column, gap, _⟩
  · refine prepare_rows (consistent_built _ _) (listed_built _ _) valid ?_ (rows ▸ stored) given
    rw [table?, target_built, named]
  · obtain ⟨head, rest, split, row, mem, hc, lacks⟩ := gap.exists_lacking
    obtain ⟨rfl, rfl⟩ := List.cons.inj (rows.symm.trans split)
    obtain ⟨slots, _, gives⟩ := exists_of_mem_right given.flip (List.mem_cons_of_mem _ mem)
    exact absurd (Gives.named gives hc) lacks

lemma table_of_prepared {p : Preparation}
    (prepared : (built target (calls.map Call.insert)).prepare = .ok p)
    (some : (built target (calls.map Call.insert)).insertRows ≠ []) :
    ∃ table, target.table? = .some table := by
  obtain ⟨_, parts, clauses, _⟩ := prepare_eq_ok prepared
  obtain ⟨head, _, _, headed, _⟩ := clauses_eq_ok clauses
  rcases headPieces_eq_ok headed with ⟨_, table, _, named, _⟩ | ⟨select, _⟩
  · rw [table?, target_built] at named
    exact ⟨table, named⟩
  · rw [kindOrSelect_of_rows (consistent_built _ _) (listed_built _ _) some] at select
    cases select

lemma malformed_iff (target : Target) (calls : List (List (List (String × Slot)))) :
    (∃ fault, (built target (calls.map Call.insert)).prepare = .error (.malformedRow fault)) ↔
      ∃ first later, calls.flatten = first :: later ∧ ∃ row ∈ later, ∃ column ∈ columnsOf first,
        column ∉ columnsOf row := by
  rcases built_insert_cases target calls with ⟨complete, valid, _⟩ | ⟨i, column, gap, failed⟩
  · refine iff_of_false ?_ ?_
    · rintro ⟨fault, failed⟩
      rcases prepare_cases (rowsFit_built target (calls.map Call.insert)) with
        ⟨e, short, failed'⟩ | ⟨_, p, prepared⟩
      · obtain rfl := Except.error.inj (failed'.symm.trans failed)
        rw [valid, Option.none_or] at short
        exact shortfall_ne_malformedRow _ fault short
      · cases failed.symm.trans prepared
    · rintro ⟨first, later, rows, row, mem, column, named, lacks⟩
      exact not_complete_of_lacking mem named lacks (rows ▸ complete)
  · obtain ⟨first, later, rows, row, mem, named, lacks⟩ := gap.exists_lacking
    exact iff_of_true ⟨_, prepare_of_error failed⟩
      ⟨first, later, rows, row, mem, column, named, lacks⟩

end Insertions

/-- Rows without an error are prepared: the column list is that of the first row, and each tuple has
what its row gives last for these columns. A row is rejected just if it lacks one of them, and never
as late as when the tuples are written. -/
theorem prepare_insertions (target : Target) (calls : List (List (List (String × Slot)))) :
    let q := built target (calls.map Call.insert)
    (∀ table first later, target.table? = some table → calls.flatten = first :: later →
      q.error = none → ∃ tuples p,
        List.Forall₂ (Gives (columnsOf first)) calls.flatten tuples ∧ q.prepare = .ok p ∧
        p.sql = insertionText table (columnsOf first) tuples ∧
        p.args = tuples.flatten.flatMap Slot.bindings) ∧
    ((∃ fault, q.prepare = .error (.malformedRow fault)) ↔
      ∃ first later, calls.flatten = first :: later ∧ ∃ row ∈ later, ∃ column ∈ columnsOf first,
        column ∉ columnsOf row) ∧
    (∀ e, q.error = some e → ∃ i column, FirstGap calls.flatten i column ∧
      e = .malformedRow (.lacks i column)) ∧
    ∀ cs, ∃ parts, (built target cs).valuesPieces = .ok parts := by
  intro q
  refine ⟨fun table first later named rows valid => ?_, malformed_iff target calls,
    fun e failed => ?_, fun cs => valuesPieces_of_rowsFit (rowsFit_built target cs)⟩
  · rcases built_insert_cases target calls with ⟨complete, _, _⟩ | ⟨_, _, _, failed⟩
    · rw [rows] at complete
      obtain ⟨tuples, given⟩ := complete.exists_tuples
      exact ⟨tuples, _, rows ▸ given, prepare_of_given named rows given, sql_insertion _ _ _,
        args_insertion _ _ _⟩
    · cases valid.symm.trans failed
  · rcases built_insert_cases target calls with ⟨_, valid, _⟩ | ⟨i, column, gap, failed'⟩
    · cases valid.symm.trans failed
    · exact ⟨i, column, gap, Option.some.inj (failed.symm.trans failed')⟩

/-- The second row names the columns the other way round, the third one leaves one out. -/
theorem prepare_insertions_reordered :
    let first : List (String × Slot) :=
      [("a", .bound (.int 1)), ("b", .bound .null), ("a", .bound (.int 2))]
    let second : List (String × Slot) := [("b", .raw "NOW()"), ("a", .bound (.text "x"))]
    let third : List (String × Slot) := [("b", .bound (.int 3))]
    let q := built (.table "t") [.insert [first], .insert [second]]
    let q' := built (.table "t") [.insert [first], .insert [second, third]]
    q.error = none ∧
      (∃ tuples p, List.Forall₂ (Gives ["a", "b"]) [first, second] tuples ∧ q.prepare = .ok p ∧
        p.sql = insertionText "t" ["a", "b"] tuples ∧
        p.sql = "INSERT INTO `t` \n(`a`, `b`) VALUES (%s, NULL), (%s, NOW())" ∧
        p.args.map literal = ["2", "'x'"]) ∧
      (∃ fault, q'.prepare = .error (.malformedRow fault)) ∧
      ∃ i column, FirstGap [first, second, third] i column ∧
        q'.error = some (.malformedRow (.lacks i column)) := by
  intro first second third q q'
  obtain ⟨aligned, _, _, _⟩ := prepare_insertions (.table "t") [[first], [second]]
  obtain ⟨_, rejected, named, _⟩ := prepare_insertions (.table "t") [[first], [second, third]]
  have columns : columnsOf first = ["a", "b"] := by decide +kernel
  have valid : q.error = none := by decide +kernel
  obtain ⟨tuples, p, given, prepared, text, _⟩ := aligned "t" first [second] rfl rfl valid
  rw [columns] at given text
  have prepared : q.prepare = .ok p := prepared
  have written : q.prepare.toOption.map (·.sql) =
      some "INSERT INTO `t` \n(`a`, `b`) VALUES (%s, NULL), (%s, NOW())" := by decide +kernel
  have bound : q.prepare.toOption.map (·.args.map literal) = some ["2", "'x'"] := by
    decide +kernel
  rw [prepared] at written bound
  have failed : q'.error = some (.malformedRow (.lacks 2 "a")) := by decide +kernel
  obtain ⟨i, column, gap, same⟩ := named _ failed
  exact ⟨valid, ⟨tuples, p, given, prepared, text, Option.some.inj written,
      Option.some.inj bound⟩,
    rejected.mpr ⟨first, [second, third], rfl, third, List.mem_cons_of_mem _ List.mem_cons_self,
      "a", by decide, by decide⟩,
    i, column, gap, same ▸ failed⟩

/-! ## What is left out -/

/-- What a row gives for these columns. -/
def cutDown (columns : List String) (row : List (String × Slot)) : List (String × Slot) :=
  row.filter (·.1 ∈ columns)

section CutDown

variable {columns : List String} {row : List (String × Slot)}

lemma given?_cutDown {column : String} (mem : column ∈ columns) :
    given? (cutDown columns row) column = given? row column := by
  rw [given?, given?, cutDown, ← List.filter_reverse, Columns.get?, Columns.get?, List.find?_filter]
  congr 2
  funext cell
  by_cases h : cell.1 = column
  · simp [h, mem]
  · simp [h]

lemma Gives.cutDown {slots : List Slot} (h : Gives columns row slots) :
    Gives columns (cutDown columns row) slots := by
  refine List.forall₂_iff_zip.mpr ⟨h.length_eq, fun {column slot} mem => ?_⟩
  obtain ⟨named, given⟩ := (Gives.mem_zip_iff h).mp mem
  rw [given?_cutDown named, given]

lemma cutDown_columnsOf (row : List (String × Slot)) : cutDown (columnsOf row) row = row := by
  rw [cutDown, List.filter_eq_self]
  intro cell mem
  rw [decide_eq_true_iff, columnsOf, List.mem_eraseDups]
  exact List.mem_map_of_mem mem

end CutDown

/-- A pair stands in the statement just if its column is one of the first row, which is no reason
for an error otherwise: the statement is that of the rows cut down to these columns. Only rows that
lack a column are rejected. -/
theorem prepare_insertions_cutDown (target : Target)
    (calls : List (List (List (String × Slot)))) :
    (∀ first later p, calls.flatten = first :: later →
      (built target (calls.map Call.insert)).prepare = .ok p → ∃ table tuples,
        target.table? = some table ∧ p.sql = insertionText table (columnsOf first) tuples ∧
        p.args = tuples.flatten.flatMap Slot.bindings ∧
        List.Forall₂ (fun row slots => slots.length = (columnsOf first).length ∧
          ∀ column slot, given? row column = some slot →
            ((column, slot) ∈ (columnsOf first).zip slots ↔ column ∈ columnsOf first))
          calls.flatten tuples ∧
        (built target (calls.map fun rows =>
          .insert (rows.map (cutDown (columnsOf first))))).prepare = .ok p) ∧
    ((∃ fault, (built target (calls.map Call.insert)).prepare = .error (.malformedRow fault)) ↔
      ∃ first later, calls.flatten = first :: later ∧ ∃ row ∈ later, ∃ column ∈ columnsOf first,
        column ∉ columnsOf row) := by
  refine ⟨fun first later p rows prepared => ?_, malformed_iff target calls⟩
  rcases built_insert_cases target calls with ⟨complete, valid, stored⟩ | ⟨_, _, _, failed⟩
  · obtain ⟨table, named⟩ := table_of_prepared prepared (by rw [stored, rows]; exact nofun)
    rw [rows] at complete
    obtain ⟨tuples, given⟩ := complete.exists_tuples
    obtain rfl := Except.ok.inj ((prepare_of_given named rows given).symm.trans prepared)
    refine ⟨table, tuples, named, sql_insertion _ _ _, args_insertion _ _ _, ?_, ?_⟩
    · rw [rows]
      refine given.imp fun row slots gives => ⟨gives.length_eq.symm, fun column slot has => ?_⟩
      rw [Gives.mem_zip_iff gives, has]
      exact and_iff_left rfl
    · have cut : (calls.map fun rows => rows.map (cutDown (columnsOf first))).flatten =
          first :: later.map (cutDown (columnsOf first)) := by
        rw [← List.map_flatten, rows, List.map_cons, cutDown_columnsOf]
      have left : List.Forall₂ (Gives (columnsOf first))
          (first :: later.map (cutDown (columnsOf first))) tuples := by
        cases given with
        | cons head tail =>
          refine .cons head (List.forall₂_map_left_iff.mpr ?_)
          exact tail.imp fun _ _ gives => Gives.cutDown gives
      have whole := prepare_of_given named cut left
      rwa [List.map_map] at whole
  · cases (prepare_of_error failed).symm.trans prepared

/-- The second row gives `a` and `b`, and also a `c` that the statement does not have. -/
theorem prepare_insertions_cutDown_extra :
    let first : List (String × Slot) := [("a", .bound (.int 1)), ("b", .bound .null)]
    let second : List (String × Slot) :=
      [("b", .bound (.text "x")), ("c", .bound (.int 3)), ("a", .bound (.int 2))]
    let q := built (.table "t") [.insert [first], .insert [second]]
    let short : List (String × Slot) := [("a", .bound (.int 1))]
    ∃ p, q.prepare = .ok p ∧
      (∃ table tuples, p.sql = insertionText table ["a", "b"] tuples ∧
        (built (.table "t") [.insert [first],
          .insert [[("b", .bound (.text "x")), ("a", .bound (.int 2))]]]).prepare = .ok p) ∧
      p.sql = "INSERT INTO `t` \n(`a`, `b`) VALUES (%s, NULL), (%s, %s)" ∧
      ∃ fault, (built (.table "t") [.insert [first], .insert [short]]).prepare =
        .error (.malformedRow fault) := by
  intro first second q short
  obtain ⟨left, _⟩ := prepare_insertions_cutDown (.table "t") [[first], [second]]
  obtain ⟨_, rejected⟩ := prepare_insertions_cutDown (.table "t") [[first], [short]]
  have columns : columnsOf first = ["a", "b"] := by decide +kernel
  have written : q.prepare.toOption.map (·.sql) =
      some "INSERT INTO `t` \n(`a`, `b`) VALUES (%s, NULL), (%s, %s)" := by decide +kernel
  cases prepared : q.prepare with
  | error e => rw [prepared] at written; cases written
  | ok p =>
    rw [prepared] at written
    obtain ⟨table, tuples, _, text, _, _, cut⟩ := left first [second] p rfl prepared
    rw [columns] at text cut
    exact ⟨p, rfl, ⟨table, tuples, text, cut⟩, Option.some.inj written,
      rejected.mpr ⟨first, [short], rfl, short, List.mem_cons_self, "b", by decide, by decide⟩⟩

/-- A column that only a later row names is left out without an error, and so is all that stands
behind an empty first row. -/
theorem insertion_drops_pairs :
    let first : List (String × Slot) := [("a", .bound (.int 1))]
    let second : List (String × Slot) := [("a", .bound (.int 2)), ("b", .bound (.int 3))]
    let q := built (.table "t") [.insert [first, second]]
    let q' := built (.table "t") [.insert [[]], .insert [second]]
    q.error = none ∧ given? second "b" = some (.bound (.int 3)) ∧ "b" ∉ columnsOf first ∧
      q.prepare.toOption.map (·.sql) = some "INSERT INTO `t` \n(`a`) VALUES (%s), (%s)" ∧
      q.prepare.toOption.map (·.args.map literal) = some ["1", "2"] ∧
      q'.error = none ∧
      q'.prepare.toOption.map (·.sql) = some "INSERT INTO `t` \n() VALUES (), ()" ∧
      q'.prepare.toOption.map (·.args.map literal) = some [] := by
  intro first second q q'
  exact ⟨by decide +kernel, rfl, by decide, by decide +kernel, by decide +kernel,
    by decide +kernel, by decide +kernel, by decide +kernel⟩

end Query

end Clausal
