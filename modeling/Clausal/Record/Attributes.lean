import Clausal.Cast
import Clausal.Database.Action
import Clausal.Row

/-!
# Attributes

The values of a record as they are stored, and a memo of the values that were cast from them. A
column is cast on its first read and again after it was assigned.
-/

namespace Clausal

structure Attributes where
  row : Row := {}
  memo : Columns Value := []
  deriving Repr, Inhabited

namespace Attributes

def ofRow (row : Row) : Attributes := ⟨row, []⟩

def ofPairs (pairs : List (String × Value)) : Attributes := ofRow (Row.ofPairs pairs)

/-- The stored value of a column. -/
def raw? (a : Attributes) (column : String) : Option Value :=
  a.row.get? column

def setRaw (a : Attributes) (column : String) (value : Value) : Attributes :=
  ⟨a.row.put column value, a.memo.erase column⟩

def remove (a : Attributes) (column : String) : Option Value × Attributes :=
  let (value, row) := a.row.remove column
  (value, ⟨row, a.memo.erase column⟩)

def contains (a : Attributes) (column : String) : Bool :=
  a.row.contains column

def isEmpty (a : Attributes) : Bool :=
  a.row.isEmpty

/-- The same stored values. -/
def same (a b : Attributes) : Bool :=
  a.row.same b.row

/-- The cast value of a column, from the memo where it is there. -/
def read (casts : Casts) (column : String) : Action Attributes (Option Value) := do
  let a ← Action.state
  match a.memo.get? column, a.raw? column with
  | some value, _ => return some value
  | none, none => return none
  | none, some stored =>
    let value := casts.cast column stored
    Action.emit (casts.reports column stored)
    Action.update fun a => { a with memo := a.memo.put column value }
    return some value

/-- Assigns a domain value. -/
def assign (a : Attributes) (casts : Casts) (column : String) (value : Value) : Attributes :=
  a.setRaw column (casts.decast column value)

/-- A record without an id is not stored yet. -/
def isNew (a : Attributes) : Bool :=
  match a.raw? "id" with
  | some value => value.isNull
  | none => true

/-- The cast id, unless it is NULL. -/
def readId (casts : Casts) : Action Attributes (Option Value) := do
  return (← read casts "id").filter (!·.isNull)

end Attributes

end Clausal
