import Clausal.Database.Adapter
import Clausal.Query.Prepare

/-!
# Running queries

A query is prepared, bound and sent as one statement. Rows of a record type are cast on the way
back, except where they are handed over as they are.
-/

namespace Clausal

namespace Query

variable {σ : Type}

/-- The final SQL. A statement without arguments is its template, unbound. -/
def sql (q : Query) (db : Database σ) : Action σ String := do
  let p ← q.prepared
  if p.args.isEmpty then return p.sql else db.prepare p.sql p.args

/-- The final SQL of a statement that is about to run. -/
def finalSql (q : Query) (db : Database σ) : Action σ String := do
  let sql ← q.sql db
  Action.emit [.running sql]
  return sql

/-- The only selected column. -/
def singleColumn (q : Query) (operation : ColumnOperation) : Except Error String := do
  q.validate
  match q.selectList with
  | [column] => .ok column
  | columns => .error (.selectArity operation columns.length)

def castValue (q : Query) (column : String) (value : Value) : Value :=
  match q.target.casts? with
  | some casts => casts.cast column value
  | none => value

def castReports (q : Query) (column : String) (value : Value) : List Event :=
  match q.target.casts? with
  | some casts => casts.reports column value
  | none => []

def castRow (q : Query) (row : Row) : Row :=
  row.mapValues q.castValue

def rowReports (q : Query) (row : Row) : List Event :=
  row.columns.flatMap fun (column, value) => q.castReports column value

/-- Runs a statement; gives the number of affected rows. -/
def execute (q : Query) (db : Database σ) : Action σ UInt64 := do
  db.execute (← q.finalSql db)

/-- All rows, cast. -/
def getResults (q : Query) (db : Database σ) : Action σ (List Row) := do
  let rows ← db.queryRows (← q.finalSql db)
  Action.emit (rows.flatMap q.rowReports)
  return rows.map q.castRow

/-- The first row, cast. -/
def getRow (q : Query) (db : Database σ) : Action σ (Option Row) := do
  let row ← db.queryRow (← q.finalSql db)
  Action.emit (row.toList.flatMap q.rowReports)
  return row.map q.castRow

/-- The selected column of every row, cast by the rule of that column. -/
def getColumn (q : Query) (db : Database σ) : Action σ (List Value) := do
  let column ← Action.ofExcept (q.singleColumn .column)
  let values ← db.queryColumn (← q.finalSql db)
  Action.emit (values.flatMap (q.castReports column))
  return values.map (q.castValue column)

/-- The selected column of the first row, cast. -/
def getScalar (q : Query) (db : Database σ) : Action σ (Option Value) := do
  let column ← Action.ofExcept (q.singleColumn .scalar)
  let value ← db.queryScalar (← q.finalSql db)
  Action.emit (value.toList.flatMap (q.castReports column))
  return value.map (q.castValue column)

/-- All rows as they are, each through `decode`. -/
def get {α : Type} (q : Query) (decode : Row → Except Error α) (db : Database σ) :
    Action σ (List α) := do
  let rows ← db.queryRows (← q.finalSql db)
  Action.ofExcept (rows.mapM decode)

/-- The first row as it is, through `decode`. -/
def getOne {α : Type} (q : Query) (decode : Row → Except Error α) (db : Database σ) :
    Action σ (Option α) := do
  match ← db.queryRow (← q.finalSql db) with
  | some row => return some (← Action.ofExcept (decode row))
  | none => return none

end Query

end Clausal
