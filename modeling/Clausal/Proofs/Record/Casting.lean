import Clausal.Database.Script
import Clausal.Proofs.Query.Delivery
import Clausal.Proofs.Record.Memo
import Clausal.Proofs.Record.Statements

/-!
# Casting at once and casting on access

The rows of a query are cast when they come back, or handed over as records whose columns are cast
when they are read. Both give the same values, whatever was read before; so does the selected column
alone, where the rows begin with it.
-/

namespace Clausal

open Query

variable {σ α β : Type}

/-! ## Narrower queries -/

/-- The narrower queries give what they give by default. -/
structure Database.Narrows (db : Database σ) : Prop where
  row : ∀ sql s, (db.queryRow sql s).result = (db.firstRow sql s).result
  column : ∀ sql s, (db.queryColumn sql s).result = (db.firstColumn sql s).result
  scalar : ∀ sql s, (db.queryScalar sql s).result = (db.firstValue sql s).result

lemma Adapter.narrows (adapter : Adapter σ) : adapter.database.Narrows :=
  ⟨fun _ _ => rfl, fun _ _ => rfl, fun _ _ => rfl⟩

namespace Adapter

lemma result_firstRow (adapter : Adapter σ) (sql : String) (s : σ) :
    (adapter.firstRow sql s).result = (adapter.queryRows sql s).result.map List.head? :=
  Action.result_bind _ _ s

lemma result_firstColumn (adapter : Adapter σ) (sql : String) (s : σ) :
    (adapter.firstColumn sql s).result =
      (adapter.queryRows sql s).result.map (List.map fun row => row.first?.getD .null) :=
  Action.result_bind _ _ s

lemma result_firstValue (adapter : Adapter σ) (sql : String) (s : σ) :
    (adapter.firstValue sql s).result =
      (adapter.queryRows sql s).result.map fun rows => rows.head?.bind Row.first? := by
  refine (Action.result_bind _ _ s).trans ?_
  rw [result_firstRow]
  cases (adapter.queryRows sql s).result with
  | ok rows => rfl
  | error e => rfl

end Adapter

namespace Query

/-! ## What comes back -/

/-- The answer of the database to the final text of a query. -/
def answer (q : Query) (db : Database σ) (s : σ) (operation : String → Action σ α) :
    Except Error α :=
  ((do operation (← q.finalSql db)) s).result

lemma answer_of_error {q : Query} {e : Error} (fault : q.error = some e) (db : Database σ) (s : σ)
    (operation : String → Action σ α) : q.answer db s operation = .error e := by
  have final := (finalSql_eq q db s).1.trans (sql_of_error (prepare_of_error fault) db s).1
  exact (Action.bind_of_error operation final).1

/-- The answer is passed on, and nothing else decides what comes back. -/
lemma result_finalSql_bind (q : Query) (db : Database σ) (s : σ)
    (operation : String → Action σ α) {finish : α → Action σ β} {g : α → Except Error β}
    (h : ∀ a s, (finish a s).result = g a) :
    ((do finish (← operation (← q.finalSql db))) s).result = q.answer db s operation >>= g := by
  rw [answer, Action.result_bind, Action.result_bind]
  cases (q.finalSql db s).result with
  | error e => rfl
  | ok sql =>
    refine (Action.result_bind _ _ _).trans ?_
    simp only [h]
    rfl

lemma answer_congr (q : Query) (db : Database σ) (s : σ) {narrow : String → Action σ β}
    {wide : String → Action σ α} {f : α → β}
    (h : ∀ sql s, (narrow sql s).result = (wide sql s).result.map f) :
    q.answer db s narrow = (q.answer db s wide).map f := by
  rw [answer, answer, Action.result_bind, Action.result_bind]
  cases (q.finalSql db s).result with
  | error e => rfl
  | ok sql => exact h sql _

lemma result_getResults (q : Query) (db : Database σ) (s : σ) :
    (q.getResults db s).result = (q.answer db s db.queryRows).map (List.map q.castRow) :=
  q.result_finalSql_bind db s db.queryRows fun _ _ => rfl

lemma result_getRow (q : Query) (db : Database σ) (s : σ) :
    (q.getRow db s).result = (q.answer db s db.queryRow).map (Option.map q.castRow) :=
  q.result_finalSql_bind db s db.queryRow fun _ _ => rfl

lemma result_get (q : Query) (decode : Row → Except Error α) (db : Database σ) (s : σ) :
    (q.get decode db s).result = q.answer db s db.queryRows >>= List.mapM decode :=
  q.result_finalSql_bind db s db.queryRows fun _ _ => rfl

/-- The first row is decoded as a list of at most one row. -/
lemma result_getOne (q : Query) (decode : Row → Except Error α) (db : Database σ) (s : σ) :
    (q.getOne decode db s).result.map Option.toList =
      (q.answer db s db.queryRow).map Option.toList >>= List.mapM decode := by
  have first : (q.getOne decode db s).result = q.answer db s db.queryRow >>= fun found =>
      found.elim (.ok none) fun row => (decode row).map some := by
    refine q.result_finalSql_bind db s db.queryRow fun row s => ?_
    cases row with
    | none => rfl
    | some row => exact Action.result_bind _ _ s
  rw [first]
  cases q.answer db s db.queryRow with
  | error e => rfl
  | ok found =>
    cases found with
    | none => rfl
    | some row =>
      change ((decode row).map some).map Option.toList = [row].mapM decode
      rw [List.mapM_cons]
      cases decode row with
      | error e => rfl
      | ok a => rfl

/-- An error made in building comes before the check of the columns, and is the same. -/
lemma singleColumn_cases {q : Query} {column : String} (selected : q.selectList = [column])
    (operation : ColumnOperation) :
    (∃ e, q.error = some e ∧ q.singleColumn operation = .error e) ∨
      q.singleColumn operation = .ok column := by
  cases fault : q.error with
  | some e =>
    refine Or.inl ⟨e, rfl, ?_⟩
    rw [singleColumn, validate, fault]
    rfl
  | none =>
    refine Or.inr ?_
    rw [singleColumn, validate, fault, selected]
    rfl

lemma result_getColumn {q : Query} {column : String} (selected : q.selectList = [column])
    (db : Database σ) (s : σ) :
    (q.getColumn db s).result =
      (q.answer db s db.queryColumn).map (List.map (q.castValue column)) := by
  rcases singleColumn_cases selected .column with ⟨e, fault, refused⟩ | single
  · rw [getColumn, Action.ofExcept_bind_of_error refused, answer_of_error fault]
    rfl
  · rw [getColumn, Action.ofExcept_bind_of_ok single]
    exact q.result_finalSql_bind db s db.queryColumn fun _ _ => rfl

lemma result_getScalar {q : Query} {column : String} (selected : q.selectList = [column])
    (db : Database σ) (s : σ) :
    (q.getScalar db s).result =
      (q.answer db s db.queryScalar).map (Option.map (q.castValue column)) := by
  rcases singleColumn_cases selected .scalar with ⟨e, fault, refused⟩ | single
  · rw [getScalar, Action.ofExcept_bind_of_error refused, answer_of_error fault]
    rfl
  · rw [getScalar, Action.ofExcept_bind_of_ok single]
    exact q.result_finalSql_bind db s db.queryScalar fun _ _ => rfl

end Query

/-! ## Rows and records -/

namespace Row

lemma names_mapValues (f : String → Value → Value) (row : Row) :
    (row.mapValues f).names = row.names :=
  Columns.names_map f row.columns

lemma get?_mapValues (f : String → Value → Value) (row : Row) (column : String) :
    (row.mapValues f).get? column = (row.get? column).map (f column) :=
  Columns.get?_map f row.columns column

lemma get?_of_first {row : Row} {column : String} {value : Value}
    (name : row.names.head? = some column) (first : row.first? = some value) :
    row.get? column = some value := by
  obtain ⟨columns⟩ := row
  cases columns with
  | nil => cases first
  | cons cell rest =>
    obtain rfl := Option.some.inj name
    obtain rfl := Option.some.inj first
    rw [get?, Columns.get?_cons, if_pos rfl]

end Row

namespace RecordType

variable (R : RecordType)

/-- The row has all columns that a record needs. -/
def Readable (row : Row) : Prop :=
  ∀ column ∈ R.required, row.contains column = true

def missing (column : String) : Error := .decode column "column not present in row"

/-- A row has all required columns, or the first that it lacks is reported. -/
lemma require_cases (row : Row) (required : List String) :
    ((∀ column ∈ required, row.contains column = true) ∧
        required.forM (fun column => (row.require column).map fun _ => ()) = .ok ()) ∨
      ∃ column ∈ required, row.contains column = false ∧
        required.forM (fun column => (row.require column).map fun _ => ()) =
          .error (missing column) := by
  induction required with
  | nil => exact Or.inl ⟨List.forall_mem_nil _, rfl⟩
  | cons column rest ih =>
    simp only [List.forM]
    cases found : row.get? column with
    | none =>
      refine Or.inr ⟨column, List.mem_cons_self, by simp [Row.contains, found], ?_⟩
      simp only [Row.require, found]
      rfl
    | some value =>
      have present : row.contains column = true := by simp [Row.contains, found]
      simp only [Row.require, found]
      rcases ih with ⟨all, passed⟩ | ⟨other, mem, absent, failed⟩
      · exact Or.inl ⟨List.forall_mem_cons.mpr ⟨present, all⟩, passed⟩
      · exact Or.inr ⟨other, List.mem_cons_of_mem column mem, absent, failed⟩

/-- A row is a record as it is, or a column that it needs is missing. -/
lemma decode_cases (row : Row) :
    (R.Readable row ∧ R.decode row = .ok (.ofRow row)) ∨
      ∃ column ∈ R.required, row.contains column = false ∧
        R.decode row = .error (missing column) := by
  rcases require_cases row R.required with ⟨all, passed⟩ | ⟨column, mem, absent, failed⟩
  · refine Or.inl ⟨all, ?_⟩
    rw [decode, passed]
    rfl
  · refine Or.inr ⟨column, mem, absent, ?_⟩
    rw [decode, failed]
    rfl

lemma decode_of_readable {row : Row} (h : R.Readable row) : R.decode row = .ok (.ofRow row) := by
  rcases R.decode_cases row with ⟨_, decoded⟩ | ⟨column, mem, absent, _⟩
  · exact decoded
  · rw [h column mem] at absent
    cases absent

/-- The rows are records as they are, or a column is missing in one of them. -/
lemma mapM_decode_cases (rows : List Row) :
    ((∀ row ∈ rows, R.Readable row) ∧ rows.mapM R.decode = .ok (rows.map .ofRow)) ∨
      ∃ row ∈ rows, ∃ column ∈ R.required, row.contains column = false ∧
        rows.mapM R.decode = .error (missing column) := by
  induction rows with
  | nil => exact Or.inl ⟨List.forall_mem_nil _, rfl⟩
  | cons row rest ih =>
    rw [List.mapM_cons]
    rcases R.decode_cases row with ⟨readable, decoded⟩ | ⟨column, mem, absent, failed⟩
    · rw [decoded]
      rcases ih with ⟨all, passed⟩ | ⟨other, hr, column, mem, absent, failed⟩
      · rw [passed]
        exact Or.inl ⟨List.forall_mem_cons.mpr ⟨readable, all⟩, rfl⟩
      · rw [failed]
        exact Or.inr ⟨other, List.mem_cons_of_mem row hr, column, mem, absent, rfl⟩
    · rw [failed]
      exact Or.inr ⟨row, List.mem_cons_self, column, mem, absent, rfl⟩

lemma ofRow_of_decoded {rows : List Row} {records : List Attributes}
    (decoded : rows.mapM R.decode = .ok records) : records = rows.map .ofRow := by
  rcases R.mapM_decode_cases rows with ⟨_, all⟩ | ⟨_, _, _, _, _, failed⟩
  · exact Except.ok.inj (decoded.symm.trans all)
  · cases failed.symm.trans decoded

/-! ## The two ways -/

/-- Reading the column of a record gives this value, whatever was read of it before. -/
def Reads (record : Attributes) (column : String) (value : Option Value) : Prop :=
  ∀ before, (Attributes.read R.casts column (record.afterReads R.casts before)).result = .ok value

/-- The columns of a row that was cast at once are those of the row, in its order, and have what is
read of the record. -/
structure CastAlike (row casted : Row) (record : Attributes) : Prop where
  names : casted.names = row.names
  reads : ∀ column, R.Reads record column (casted.get? column)

/-- What cast rows and records have to do with the rows that were found, place by place. Rows that
cannot be read as records are cast all the same. -/
inductive RowsAgree : Except Error (List Row) → Except Error (List Row) →
    Except Error (List Attributes) → Prop where
  | failed (e : Error) : RowsAgree (.error e) (.error e) (.error e)
  | read {rows casted : List Row} {records : List Attributes}
      (readable : ∀ row ∈ rows, R.Readable row) (casted_length : casted.length = rows.length)
      (records_length : records.length = rows.length)
      (alike : ∀ (i : Nat) row c r, rows[i]? = some row → casted[i]? = some c →
        records[i]? = some r → R.CastAlike row c r) :
      RowsAgree (.ok rows) (.ok casted) (.ok records)
  | unreadable {rows casted : List Row} {row : Row} {column : String}
      (names : casted.map Row.names = rows.map Row.names) (mem : row ∈ rows)
      (required : column ∈ R.required) (absent : row.contains column = false) :
      RowsAgree (.ok rows) (.ok casted) (.error (missing column))

/-- What the values of one column have to do with the rows that were found, and with the records
that are made of rows with this column first. -/
inductive ColumnAgrees (column : String) (records : Except Error (List Attributes))
    (record : Except Error (Option Attributes)) :
    Except Error (List Row) → Except Error (List Value) → Except Error (Option Value) → Prop where
  | failed (e : Error) : ColumnAgrees column records record (.error e) (.error e) (.error e)
  | read {rows : List Row} {values : List Value} {value : Option Value}
      (length : values.length = rows.length)
      (each : ∀ (i : Nat) row stored, rows[i]? = some row → row.first? = some stored →
        values[i]? = some (R.casts.cast column stored))
      (first : value = (rows.head?.bind Row.first?).map (R.casts.cast column))
      (records_read : ∀ rs, records = .ok rs → ∀ (i : Nat) row r, rows[i]? = some row →
        rs[i]? = some r → row.names.head? = some column → R.Reads r column values[i]?)
      (record_read : ∀ r, record = .ok (some r) → ∀ row, rows.head? = some row →
        row.names.head? = some column → R.Reads r column value) :
      ColumnAgrees column records record (.ok rows) (.ok values) (.ok value)

variable {R}

lemma castAlike (row : Row) : R.CastAlike row (row.mapValues R.casts.cast) (.ofRow row) where
  names := Row.names_mapValues _ row
  reads column before := by
    rw [Attributes.read_afterReads (Attributes.remembers_ofRow R.casts row), Row.get?_mapValues]
    rfl

lemma rowsAgree (rows : List Row) :
    R.RowsAgree (.ok rows) (.ok (rows.map (Row.mapValues R.casts.cast))) (rows.mapM R.decode) := by
  rcases R.mapM_decode_cases rows with
    ⟨readable, records⟩ | ⟨row, mem, column, required, absent, failed⟩
  · rw [records]
    refine .read readable (List.length_map _) (List.length_map _) fun i row c r hrow hc hr => ?_
    rw [List.getElem?_map, hrow] at hc hr
    obtain rfl := Option.some.inj hc
    obtain rfl := Option.some.inj hr
    exact castAlike row
  · rw [failed]
    refine .unreadable ?_ mem required absent
    rw [List.map_map]
    exact List.map_congr_left fun row _ => Row.names_mapValues _ row

/-- The first column of a row, read of the record that is made of it. -/
lemma reads_first {row : Row} {column : String} (name : row.names.head? = some column) :
    ∃ stored, row.first? = some stored ∧
      R.Reads (.ofRow row) column (some (R.casts.cast column stored)) := by
  cases first : row.first? with
  | none =>
    obtain ⟨_ | ⟨cell, rest⟩⟩ := row
    · cases name
    · cases first
  | some stored =>
    refine ⟨stored, rfl, fun before => ?_⟩
    rw [Attributes.read_afterReads (Attributes.remembers_ofRow R.casts row)]
    exact congrArg (fun found => Except.ok (Option.map _ found)) (Row.get?_of_first name first)

variable (R) {σ : Type}

lemma castValue_building (cs : List Call) : (R.building cs).castValue = R.casts.cast := by
  funext column value
  simp only [castValue, building, target_built, Target.casts?]

lemma castRow_building (cs : List Call) :
    (R.building cs).castRow = Row.mapValues R.casts.cast := by
  funext row
  rw [castRow, castValue_building]

lemma getResults_agree (cs : List Call) (db : Database σ) (s : σ) :
    R.RowsAgree ((R.building cs).answer db s db.queryRows) ((R.building cs).getResults db s).result
      ((R.building cs).get R.decode db s).result := by
  rw [result_getResults, result_get, castRow_building]
  cases (R.building cs).answer db s db.queryRows with
  | error e => exact .failed e
  | ok rows => exact rowsAgree rows

/-- The first row is the case of at most one row. -/
lemma getRow_agrees (cs : List Call) (db : Database σ) (s : σ) :
    R.RowsAgree (((R.building cs).answer db s db.queryRow).map Option.toList)
      (((R.building cs).getRow db s).result.map Option.toList)
      (((R.building cs).getOne R.decode db s).result.map Option.toList) := by
  rw [result_getRow, result_getOne, castRow_building]
  cases (R.building cs).answer db s db.queryRow with
  | error e => exact .failed e
  | ok found =>
    cases found with
    | none => exact rowsAgree []
    | some row => exact rowsAgree [row]

lemma getColumn_agrees {cs : List Call} {column : String}
    (selected : (R.building cs).selectList = [column]) {db : Database σ} (narrows : db.Narrows)
    (s : σ) :
    R.ColumnAgrees column ((R.building cs).get R.decode db s).result
      ((R.building cs).getOne R.decode db s).result ((R.building cs).answer db s db.queryRows)
      ((R.building cs).getColumn db s).result ((R.building cs).getScalar db s).result := by
  have firstColumn := answer_congr (R.building cs) db s (fun sql s =>
    (narrows.column sql s).trans (db.toAdapter.result_firstColumn sql s))
  have firstValue := answer_congr (R.building cs) db s (fun sql s =>
    (narrows.scalar sql s).trans (db.toAdapter.result_firstValue sql s))
  have firstRow := answer_congr (R.building cs) db s (fun sql s =>
    (narrows.row sql s).trans (db.toAdapter.result_firstRow sql s))
  have one := result_getOne (R.building cs) R.decode db s
  rw [firstRow] at one
  rw [result_getColumn selected, result_getScalar selected, castValue_building, firstColumn,
    firstValue, result_get]
  cases found : (R.building cs).answer db s db.queryRows with
  | error e => exact .failed e
  | ok rows =>
    refine .read (by simp) ?_ rfl ?_ ?_
    · intro i row stored hrow hfirst
      simp [hrow, hfirst]
    · intro records decoded i row record hrow hrecord name
      obtain ⟨stored, hfirst, reads⟩ := reads_first (R := R) name
      obtain rfl := R.ofRow_of_decoded decoded
      rw [List.getElem?_map, hrow] at hrecord
      obtain rfl := Option.some.inj hrecord
      simpa [hrow, hfirst] using reads
    · intro record decoded row hrow name
      obtain ⟨stored, hfirst, reads⟩ := reads_first (R := R) name
      rw [decoded, found] at one
      have single : [row].mapM R.decode = .ok [record] := by
        have same : rows.head?.toList.mapM R.decode = .ok [record] := one.symm
        rwa [hrow] at same
      obtain rfl := List.head_eq_of_cons_eq (R.ofRow_of_decoded single)
      simpa [hrow, hfirst] using reads

/-- Casting at once and casting on access agree: all rows, the first row, and the selected column
where the narrower queries are the default ones. -/
theorem eager_eq_lazy (cs : List Call) (db : Database σ) (s : σ) :
    R.RowsAgree ((R.building cs).answer db s db.queryRows)
        ((R.building cs).getResults db s).result ((R.building cs).get R.decode db s).result ∧
      R.RowsAgree (((R.building cs).answer db s db.queryRow).map Option.toList)
        (((R.building cs).getRow db s).result.map Option.toList)
        (((R.building cs).getOne R.decode db s).result.map Option.toList) ∧
      (db.Narrows → ∀ column, (R.building cs).selectList = [column] →
        R.ColumnAgrees column ((R.building cs).get R.decode db s).result
          ((R.building cs).getOne R.decode db s).result
          ((R.building cs).answer db s db.queryRows)
          ((R.building cs).getColumn db s).result ((R.building cs).getScalar db s).result) :=
  ⟨R.getResults_agree cs db s, R.getRow_agrees cs db s, fun narrows _ selected =>
    R.getColumn_agrees selected narrows s⟩

/-- A type with two rules for a column. -/
def masked : RecordType where
  table := "t"
  casts := ⟨[("a", .custom (some fun v => if v.isNull then .null else .bool true) none),
    ("a", .named "int")]⟩

def maskedRows : List Row := [⟨[("a", .int 7), ("b", .int 7)]⟩, ⟨[("a", .null)]⟩]

/-- The first of the two rules counts, and a column without a rule is as it was found. -/
theorem eager_eq_lazy_masked :
    let q := masked.building [.select ["a"]]
    let db := Script.adapter.database
    let s : Script := { replies := [.rows maskedRows] }
    db.Narrows ∧ q.selectList = ["a"] ∧
      masked.RowsAgree (.ok maskedRows)
        (.ok [⟨[("a", .bool true), ("b", .int 7)]⟩, ⟨[("a", .null)]⟩])
        (.ok (maskedRows.map .ofRow)) ∧
      masked.RowsAgree (.ok (maskedRows.take 1)) (.ok [⟨[("a", .bool true), ("b", .int 7)]⟩])
        (.ok ((maskedRows.take 1).map .ofRow)) ∧
      masked.ColumnAgrees "a" (q.get masked.decode db s).result (q.getOne masked.decode db s).result
        (.ok maskedRows) (.ok [.bool true, .null]) (.ok (some (.bool true))) :=
  have agree := masked.eager_eq_lazy [.select ["a"]] Script.adapter.database
    { replies := [.rows maskedRows] }
  ⟨Script.adapter.narrows, rfl, agree.1, agree.2.1, agree.2.2 Script.adapter.narrows "a" rfl⟩

end RecordType

end Clausal
