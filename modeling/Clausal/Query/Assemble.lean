import Clausal.Query.Prepare

/-!
# Assembling in one pass

The renderers write a statement from left to right: each returns its text and pushes the values for
its places to one argument list. No pieces are kept, so that text and arguments stay in step has to
be shown.
-/

namespace Clausal

open Sql

/-- A text, or lines of one, that are written while arguments are pushed. -/
abbrev Assembly := StateT (List Value) (Except Error)

namespace Assembly

def push (values : List Value) : Assembly Unit :=
  modify (· ++ values)

def fragment (f : Fragment) : Assembly String := do
  push f.args
  return f.sql

end Assembly

def Slot.render : Slot → Assembly String
  | .raw sql => return sql
  | .bound v => do
    Assembly.push [v]
    return "%s"

/-- A list has a placeholder for each of its members, between parentheses. -/
def Slot.renderOperand : Slot → Assembly String
  | .bound (.list items) => do
    Assembly.push items
    return "(" ++ ", ".intercalate (items.map fun _ => "%s") ++ ")"
  | slot => slot.render

def Condition.render : Condition → Assembly String
  | .raw f => Assembly.fragment f
  | .compare column operator value => do
    return column.sql ++ " " ++ operator ++ " " ++ (← value.renderOperand)

def ConditionTree.render (tree : ConditionTree) : Assembly String := do
  let groups ← tree.filled.mapM fun group => do
    return "( " ++ " AND ".intercalate (← group.mapM Condition.render) ++ " )"
  return " OR ".intercalate groups

def OrderItem.render : OrderItem → Assembly String
  | .column name direction => return quoteName name ++ " " ++ direction.keyword
  | .raw f => Assembly.fragment f

def Bound.render (keyword : String) : Bound → Assembly String
  | .count n => do
    Assembly.push [Value.ofUnsigned n]
    return keyword ++ " %d"
  | .raw f => do return keyword ++ " " ++ (← Assembly.fragment f)

def Join.render (base : String) (j : Join) : String :=
  j.kind.keyword ++ " JOIN " ++ quoteName j.table ++ " ON " ++ quoteName base ++ "." ++
    quoteName j.localColumn ++ " = " ++ quoteName j.table ++ "." ++ quoteName j.foreignColumn

namespace Query

def headLines (q : Query) : Assembly (List String) :=
  let overTable (start : String) : Assembly (List String) := do
    return [start ++ " " ++ quoteName (← q.requireTable)]
  match q.kindOrSelect with
  | .delete => overTable "DELETE FROM"
  | .update => overTable "UPDATE"
  | .insert => overTable "INSERT INTO"
  | .select =>
    let columns := if q.selectList.isEmpty then "*" else ", ".intercalate q.selectList
    return ("SELECT " ++ columns) :: (q.table?.map fun table => "FROM " ++ quoteName table).toList

/-- A clause that is written if it has parts. -/
def clauseLines {α : Type} (start separator : String) (parts : List α)
    (render : α → Assembly String) : Assembly (List String) := do
  if parts.isEmpty then return []
  else return [start ++ separator.intercalate (← parts.mapM render)]

def renderAssignment (assignment : String × Slot) : Assembly String := do
  return quoteName assignment.1 ++ " = " ++ (← assignment.2.render)

/-- The values of a row under a column list. -/
def renderTuple (columns : List String) (row : Columns Slot) : Assembly String := do
  let values ← columns.mapM fun column =>
    match row.get? column with
    | some slot => slot.render
    | none => throw (.malformedRow (.lacksColumn column))
  return "(" ++ ", ".intercalate values ++ ")"

def valuesLines (q : Query) : Assembly (List String) :=
  match q.insertRows with
  | [] => return []
  | first :: _ => do
    let columns := first.names
    let tuples ← q.insertRows.mapM (renderTuple columns)
    let names := ", ".intercalate (columns.map quoteName)
    return ["(" ++ names ++ ") VALUES " ++ ", ".intercalate tuples]

def joinLines (q : Query) : Assembly (List String) := do
  if q.joins.isEmpty then return []
  else
    let base ← q.requireTable
    return q.joins.map (·.render base)

def conditionLines (start : String) (tree : ConditionTree) : Assembly (List String) := do
  if tree.isEmpty then return [] else return [start ++ (← tree.render)]

def limitLines (q : Query) : Assembly (List String) :=
  match q.limit, q.offset with
  | some bound, _ => do return [← bound.render "LIMIT"]
  | none, some _ => return ["LIMIT 18446744073709551615"]
  | none, none => return []

def offsetLines (q : Query) : Assembly (List String) :=
  match q.offset with
  | some bound => do return [← bound.render "OFFSET"]
  | none => return []

/-- The lines of the statement, in the order they are written. -/
def lines (q : Query) : Assembly (List String) := do
  q.requireClauses
  let head ← q.headLines
  let set ← clauseLines "SET " ", " q.assignments renderAssignment
  let values ← q.valuesLines
  let joins ← q.joinLines
  let filters ← conditionLines "WHERE " q.filters
  let groups ← clauseLines "GROUP BY " ", " q.groupBy OrderItem.render
  let having ← conditionLines "HAVING " q.having
  let orders ← clauseLines "ORDER BY " ", " q.orderBy OrderItem.render
  let limit ← q.limitLines
  let offset ← q.offsetLines
  return head ++ set ++ values ++ joins ++ filters ++ groups ++ having ++ orders ++ limit ++ offset

/-- The template and its arguments. -/
def assemble (q : Query) : Except Error (String × List Value) := do
  q.validate
  let (lines, args) ← q.lines.run []
  return (" \n".intercalate lines, args)

end Query

end Clausal
