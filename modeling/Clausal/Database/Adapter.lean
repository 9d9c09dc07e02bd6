import Clausal.Database.Action
import Clausal.Row
import Clausal.Sql.Template

/-!
# Adapters

An adapter runs final SQL. Three operations are its own; a database adds the binding of templates
and three narrower queries, which by default are made of the query for rows.
-/

namespace Clausal

structure Adapter (σ : Type) where
  execute : String → Action σ UInt64
  /-- The id that the last INSERT generated. -/
  lastInsertId : σ → Option Int64
  queryRows : String → Action σ (List Row)

structure Database (σ : Type) extends Adapter σ where
  prepare : String → List Value → Action σ String
  queryRow : String → Action σ (Option Row)
  queryColumn : String → Action σ (List Value)
  queryScalar : String → Action σ (Option Value)

namespace Adapter

variable {σ : Type}

/-- The first row. -/
def firstRow (adapter : Adapter σ) (sql : String) : Action σ (Option Row) := do
  return (← adapter.queryRows sql).head?

/-- The first value of every row; a row without columns counts as NULL. -/
def firstColumn (adapter : Adapter σ) (sql : String) : Action σ (List Value) := do
  return (← adapter.queryRows sql).map fun row => row.first?.getD .null

/-- The first value of the first row. -/
def firstValue (adapter : Adapter σ) (sql : String) : Action σ (Option Value) := do
  return (← adapter.firstRow sql).bind Row.first?

def database (adapter : Adapter σ) : Database σ where
  toAdapter := adapter
  prepare template args := .ofExcept (Sql.bind template args)
  queryRow := adapter.firstRow
  queryColumn := adapter.firstColumn
  queryScalar := adapter.firstValue

end Adapter

end Clausal
