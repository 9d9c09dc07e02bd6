import Clausal.Finder
import Clausal.Query.Run
import Clausal.Record.Attributes

/-!
# Records

A record is a row of a table that is identified by its `id`. Saving inserts a new record, which then
takes the generated id, and otherwise updates the stored one; deleting drops the id, so that the
record is new again.
-/

namespace Clausal

structure RecordType where
  table : String
  casts : Casts := Casts.standard
  /-- The columns that a row must have to be read as a record. -/
  required : List String := []

/-- A record while it is worked on: the state of the adapter and the attributes. -/
structure Session (σ : Type) where
  adapter : σ
  attributes : Attributes := {}

namespace Session

variable {σ α : Type}

def onAdapter (x : Action σ α) : Action (Session σ) α :=
  x.within Session.adapter fun adapter s => { s with adapter := adapter }

def onAttributes (x : Action Attributes α) : Action (Session σ) α :=
  x.within Session.attributes fun attributes s => { s with attributes := attributes }

def modifyAttributes (f : Attributes → Attributes) : Action (Session σ) Unit :=
  Action.update fun s => { s with attributes := f s.attributes }

end Session

def boundPairs (pairs : Columns Value) : List (String × Slot) :=
  pairs.map fun (column, value) => (column, .bound value)

namespace RecordType

variable {σ : Type}

def query (R : RecordType) : Query := Query.ofRecord R.table R.casts

/-- A row as a record. The first missing column is an error. -/
def decode (R : RecordType) (row : Row) : Except Error Attributes := do
  R.required.forM fun column => (row.require column).map fun _ => ()
  return Attributes.ofRow row

def idFilter (id : Value) : Filter :=
  .compare (.name "id") none (.bound id)

/-- Inserts a row; gives the generated id. -/
def insert (R : RecordType) (db : Database σ) (row : Row) : Action σ (Option Int64) := do
  let _ ← (R.query.insert (boundPairs row.columns)).execute db
  return db.lastInsertId (← Action.state)

/-- The query that assigns the columns of a row in every stored record; conditions narrow it. -/
def updateAll (R : RecordType) (row : Row) : Query :=
  R.query.setAll (boundPairs row.columns)

def deleteById (R : RecordType) (db : Database σ) (id : Value) : Action σ UInt64 :=
  (R.query.delete.filter (idFilter id)).execute db

def find (R : RecordType) (db : Database σ) (id : Value) : Action σ (Option Attributes) :=
  (R.query.filter (idFilter id)).getOne R.decode db

def findOrFail (R : RecordType) (db : Database σ) (id : Value) : Action σ Attributes := do
  match ← R.find db id with
  | some record => return record
  | none => Action.fail (.notFound (R.table ++ " with id " ++ id.display))

def all (R : RecordType) (db : Database σ) : Action σ (List Attributes) :=
  R.query.get R.decode db

/-- Stores the record of the session. -/
def save (R : RecordType) (db : Database σ) : Action (Session σ) Unit := do
  let record := (← Action.state).attributes
  if record.isNew then
    let row : Row := ⟨record.row.columns.filter (·.1 != "id")⟩
    match ← Session.onAdapter (R.insert db row) with
    | some id => Session.modifyAttributes (·.setRaw "id" (.int id))
    | none => return ()
  else
    let id ← Session.onAttributes (Attributes.read R.casts "id")
    let q := (R.updateAll record.row).filter (idFilter (id.getD .null))
    let _ ← Session.onAdapter (q.execute db)
    return ()

/-- Deletes the stored record of the session; a new one is left alone. -/
def delete (R : RecordType) (db : Database σ) : Action (Session σ) Unit := do
  match ← Session.onAttributes (Attributes.readId R.casts) with
  | none => return ()
  | some id =>
    let _ ← Session.onAdapter (R.deleteById db id)
    Session.modifyAttributes fun a => (a.remove "id").2

/-- A record of domain values, saved. -/
def create (R : RecordType) (db : Database σ) (values : List (String × Value)) :
    Action σ Attributes := fun s =>
  let record := values.foldl (fun a (column, value) => a.assign R.casts column value) {}
  let out := R.save db ⟨s, record⟩
  ⟨out.result.map fun _ => out.state.attributes, out.state.adapter, out.events⟩

end RecordType

/-- What a finder found. -/
inductive Found where
  | records (records : List Attributes)
  | record (record : Option Attributes)
  | rows (rows : List Row)
  | row (row : Option Row)
  | values (values : List Value)
  | value (value : Option Value)

namespace Found

def records? : Found → Option (List Attributes)
  | .records x => some x
  | _ => none

def record? : Found → Option Attributes
  | .record x => x
  | _ => none

def rows? : Found → Option (List Row)
  | .rows x => some x
  | _ => none

def row? : Found → Option Row
  | .row x => x
  | _ => none

def values? : Found → Option (List Value)
  | .values x => some x
  | _ => none

def value? : Found → Option Value
  | .value x => x
  | _ => none

end Found

/-- Runs a finder on the records of a type. -/
def RecordType.findBy {σ : Type} (R : RecordType) (db : Database σ) (finder : Finder)
    (args : List Value) : Action σ Found := do
  let q ← Action.ofExcept (finder.apply R.query args)
  match finder.kind with
  | .records => return .records (← q.get R.decode db)
  | .record => return .record (← q.getOne R.decode db)
  | .row => return .row (← q.getRow db)
  | .rows => return .rows (← q.getResults db)
  | .value => return .value (← q.getScalar db)
  | .values => return .values (← q.getColumn db)

end Clausal
