import Clausal.Columns
import Clausal.Error
import Clausal.Value

/-!
# Rows

A row is an ordered list of columns with values.
-/

namespace Clausal

structure Row where
  columns : Columns Value := []
  deriving Repr, Inhabited

namespace Row

def ofPairs (pairs : List (String × Value)) : Row :=
  ⟨Columns.collect pairs⟩

def get? (row : Row) (column : String) : Option Value :=
  row.columns.get? column

/-- The value of a column that has to be there. -/
def require (row : Row) (column : String) : Except Error Value :=
  match row.get? column with
  | some value => .ok value
  | none => .error (.decode column "column not present in row")

/-- Assigns a column; the value it had before comes back with the row. -/
def insert (row : Row) (column : String) (value : Value) : Option Value × Row :=
  (row.get? column, ⟨row.columns.put column value⟩)

def put (row : Row) (column : String) (value : Value) : Row :=
  (row.insert column value).2

/-- Drops a column; the value it had comes back with the row. -/
def remove (row : Row) (column : String) : Option Value × Row :=
  (row.get? column, ⟨row.columns.erase column⟩)

def contains (row : Row) (column : String) : Bool :=
  (row.get? column).isSome

def size (row : Row) : Nat :=
  row.columns.length

def isEmpty (row : Row) : Bool :=
  row.columns.isEmpty

def names (row : Row) : List String :=
  row.columns.names

/-- The value of the first column. -/
def first? (row : Row) : Option Value :=
  row.columns.head?.map (·.2)

/-- The same columns in the same order, with the same values. -/
def same (a b : Row) : Bool :=
  a.names == b.names && Value.sameAll (a.columns.map (·.2)) (b.columns.map (·.2))

def mapValues (f : String → Value → Value) (row : Row) : Row :=
  ⟨row.columns.map fun (column, value) => (column, f column value)⟩

end Row

end Clausal
