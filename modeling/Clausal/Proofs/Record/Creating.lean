import Clausal.Proofs.Record.Lifecycle

/-!
# Creating records

Creating a record assigns the given values one after the other and saves what they come to. The last
value that was given for a column is the one that is stored, and so it is the last id that decides
which statement is sent: an INSERT of the other columns if there is none, and an UPDATE of the row
with that id if there is one.
-/

namespace Clausal

open Query Sql

namespace RecordType

variable {σ : Type} (R : RecordType) (values : List (String × Value))

/-- The last value that is given for a column, as it is stored. -/
def given? (column : String) : Option Value :=
  (Columns.get? values.reverse column).map (R.casts.decast column)

/-- The columns that are given, each with the last value for it as it is stored. -/
def givenColumns : Columns Value :=
  Columns.collect (values.map fun (column, value) => (column, R.casts.decast column value))

/-- A record that the values were assigned to. -/
def assigned : Attributes :=
  values.foldl (fun a (column, value) => a.assign R.casts column value) {}

/-- No id is given last, or NULL. -/
def WithoutId : Prop := ∀ id ∈ Columns.get? values.reverse "id", id.isNull = true

lemma get?_givenColumns (column : String) :
    (R.givenColumns values).get? column = R.given? values column := by
  rw [givenColumns, Columns.get?_collect, ← List.map_reverse, given?,
    Columns.get?_map fun column => R.casts.decast column]

lemma names_givenColumns :
    (R.givenColumns values).names = (Columns.names values).eraseDups := by
  rw [givenColumns, Columns.names_collect, Columns.names_map fun column => R.casts.decast column]

/-- Assigning stores what was given, and memorises nothing. -/
lemma foldl_assign (a : Attributes) (plain : a.memo = []) :
    values.foldl (fun a (column, value) => a.assign R.casts column value) a =
      ⟨⟨(values.map fun (column, value) => (column, R.casts.decast column value)).foldl
        (fun cols (column, value) => Columns.put cols column value) a.row.columns⟩, []⟩ := by
  induction values generalizing a with
  | nil =>
    obtain ⟨row, memo⟩ := a
    obtain rfl : memo = [] := plain
    rfl
  | cons pair rest ih =>
    refine ih (a.assign R.casts pair.1 pair.2) ?_
    change a.memo.erase pair.1 = []
    rw [plain]
    rfl

lemma assigned_eq : R.assigned values = .ofRow ⟨R.givenColumns values⟩ :=
  R.foldl_assign values {} rfl

lemma sound_assigned : (R.assigned values).Sound R.casts := by
  rw [assigned_eq]
  exact Attributes.sound_ofPairs R.casts _

variable {R}

lemma IntegerId.isNull_decast (int : R.IntegerId) (v : Value) :
    (R.casts.decast "id" v).isNull = v.isNull := by
  unfold Casts.decast
  cases found : R.casts.rule? "id" with
  | none => rfl
  | some rule =>
    have kind := int rule found
    cases rule with
    | named name =>
      have named : CastKind.ofName? name = some .int := kind
      simp only [CastRule.decast, named]
      cases v <;> rfl
    | custom cast decast => cases kind

variable (R) in
lemma raw?_assigned (column : String) :
    (R.assigned values).raw? column = R.given? values column := by
  rw [assigned_eq]
  exact R.get?_givenColumns values column

lemma isNew_assigned (int : R.IntegerId) :
    (R.assigned values).isNew = true ↔ WithoutId values := by
  rw [Attributes.isNew, raw?_assigned, given?, WithoutId]
  cases Columns.get? values.reverse "id" with
  | none => simp
  | some id => simp [int.isNull_decast]

/-! ## What is sent -/

/-- The text of a statement that the calls prepare. Inert names stand in it as they are. -/
structure Becomes (R : RecordType) (cs : List Call) (p : Preparation) (db : Database σ) (s : σ)
    (values : List (String × Value)) (text : String) : Prop where
  prepared : (R.building cs).prepare = .ok p
  final : ((R.building cs).sql db s).result = .ok text
  written : Inert R.table.toList → (∀ name ∈ Columns.names values, Inert name.toList) →
    Written (R.building cs) p db s

variable {values} {db : Database σ} {s : Recorded σ}

/-- A statement that is delivered with success is sent. -/
lemma Delivers.becomes {cs : List Call} {p : Preparation} {after : Recorded σ}
    (h : R.Delivers (R.assigned values) cs p db s after (.ok ())) :
    ∃ text, after.statements = s.statements ++ [(.execute, text)] ∧
      R.Becomes cs p db s.inner values text := by
  obtain ⟨prepared, sent, written⟩ := h
  obtain ⟨e, failed, -⟩ | ⟨text, final, one⟩ := sent
  · cases failed
  · refine ⟨text, one, prepared, final, fun table names => written ⟨table, fun name mem => ?_⟩⟩
    have given : name ∈ (R.givenColumns values).names := by
      rwa [assigned_eq] at mem
    rw [names_givenColumns, List.mem_eraseDups] at given
    exact names name given

/-- A created record was sent in one statement, with the last value that was given for each column
as it is stored. It is an INSERT of all columns but the id if no id was given last, and an UPDATE of
all columns in the row with the last id otherwise. -/
theorem create_sends (int : R.IntegerId) (db : Database σ) (s : Recorded σ)
    (values : List (String × Value)) {record : Attributes}
    (ok : (R.create db.recorded values s).result = .ok record) :
    ∃ text columns, (R.create db.recorded values s).state.statements =
        s.statements ++ [(.execute, text)] ∧
      Columns.names columns = (Columns.names values).eraseDups ∧
      (∀ column, Columns.get? columns column =
        (Columns.get? values.reverse column).map (R.casts.decast column)) ∧
      (WithoutId values →
        R.Becomes (insertCalls (columns.filter (·.1 != "id")))
          (R.insertion (columns.filter (·.1 != "id"))) db s.inner values text) ∧
      ∀ id, Columns.get? values.reverse "id" = some id → id.isNull = false →
        R.Becomes (updateCalls columns (R.casts.cast "id" (R.casts.decast "id" id)))
          (R.updating columns (R.casts.cast "id" (R.casts.decast "id" id))) db s.inner values
          text := by
  have saves : R.Saves db ⟨s, R.assigned values⟩ := saves int (R.sound_assigned values)
  have saved : (R.save db.recorded ⟨s, R.assigned values⟩).result = .ok () := by
    have created : (R.save db.recorded ⟨s, R.assigned values⟩).result.map (fun _ =>
      (R.save db.recorded ⟨s, R.assigned values⟩).state.attributes) = .ok record := ok
    cases run : (R.save db.recorded ⟨s, R.assigned values⟩).result with
    | error e =>
      rw [run] at created
      cases created
    | ok _ => rfl
  have state : (R.create db.recorded values s).state =
    (R.save db.recorded ⟨s, R.assigned values⟩).state.adapter := rfl
  have columns : (R.assigned values).row.columns = R.givenColumns values := by
    rw [assigned_eq]
    rfl
  rw [state]
  cases new : (R.assigned values).isNew with
  | true =>
    have inserts := saves.inserts new
    rw [saved] at inserts
    obtain ⟨text, one, becomes⟩ := inserts.becomes
    rw [insertedColumns, columns] at becomes
    refine ⟨text, R.givenColumns values, one, R.names_givenColumns values,
      R.get?_givenColumns values, fun _ => becomes, fun id last stored => ?_⟩
    have absent := (isNew_assigned values int).mp new id last
    rw [stored] at absent
    cases absent
  | false =>
    have filled : R.key (R.assigned values) ≠ .list [] := by
      intro list
      have refused := (saves.refuses new list).1
      rw [saved] at refused
      cases refused
    have updates := saves.updates new filled
    rw [saved] at updates
    obtain ⟨text, one, becomes⟩ := updates.becomes
    rw [columns] at becomes
    refine ⟨text, R.givenColumns values, one, R.names_givenColumns values,
      R.get?_givenColumns values, fun none => ?_, fun id last stored => ?_⟩
    · have absent := (isNew_assigned values int).mpr none
      rw [new] at absent
      cases absent
    · have key : R.key (R.assigned values) = R.casts.cast "id" (R.casts.decast "id" id) := by
        rw [RecordType.key, raw?_assigned, given?, last]
        rfl
      rwa [key] at becomes

/-- A flag is given twice and stored as a number, and the id is taken back. -/
theorem create_sends_reassigned :
    let R : RecordType := { table := "t", casts := ⟨[("id", .named "int"), ("on", .named "bool")]⟩ }
    let values := [("id", .int 7), ("on", .bool false), ("a", .text "x"), ("on", .bool true),
      ("id", .null)]
    R.IntegerId ∧
      (∃ record, (R.create Script.adapter.database.recorded values { inner := {} }).result =
        .ok record) ∧
      ∃ text columns, (R.create Script.adapter.database.recorded values
          { inner := {} }).state.statements = [] ++ [(.execute, text)] ∧
        Columns.names columns = (Columns.names values).eraseDups ∧
        (∀ column, Columns.get? columns column =
          (Columns.get? values.reverse column).map (R.casts.decast column)) ∧
        (WithoutId values →
          R.Becomes (insertCalls (columns.filter (·.1 != "id")))
            (R.insertion (columns.filter (·.1 != "id"))) Script.adapter.database {} values text) ∧
        ∀ id, Columns.get? values.reverse "id" = some id → id.isNull = false →
          R.Becomes (updateCalls columns (R.casts.cast "id" (R.casts.decast "id" id)))
            (R.updating columns (R.casts.cast "id" (R.casts.decast "id" id)))
            Script.adapter.database {} values text := by
  intro R values
  have int : R.IntegerId := by
    rintro rule ⟨⟩
    decide +kernel
  have done : (R.create Script.adapter.database.recorded values { inner := {} }).result.isOk =
      true := by decide +kernel
  cases created : (R.create Script.adapter.database.recorded values { inner := {} }).result with
  | error e =>
    rw [created] at done
    cases done
  | ok record => exact ⟨int, ⟨record, rfl⟩, create_sends int _ _ _ created⟩

/-- With an id other than NULL nothing is inserted, whether there is such a row or not. -/
theorem create_updates :
    (RecordType.create { table := "t" } Script.adapter.database.recorded
        [("id", .int 7), ("name", .text "x")]
        { inner := { replies := [.affected 0 none] } }).result.isOk = true ∧
      (RecordType.create { table := "t" } Script.adapter.database.recorded
        [("id", .int 7), ("name", .text "x")]
        { inner := { replies := [.affected 0 none] } }).state.statements =
          [(.execute, "UPDATE `t` \nSET `id` = 7, `name` = 'x' \nWHERE ( `id` = 7 )")] := by
  decide +kernel

end RecordType

end Clausal
