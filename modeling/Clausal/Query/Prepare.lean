import Clausal.Database.Action
import Clausal.Query

/-!
# Preparing statements

The clauses of a query become a statement, always in the same order: head, SET, VALUES, JOIN, WHERE,
GROUP BY, HAVING, ORDER BY, LIMIT, OFFSET.
-/

namespace Clausal

open Sql

def OrderItem.pieces : OrderItem → List Piece
  | .column name direction => [.text (quoteName name ++ " " ++ direction.keyword)]
  | .raw fragment => [.fragment fragment]

def Bound.pieces (keyword : String) : Bound → List Piece
  | .count n => [.text (keyword ++ " "), .count n]
  | .raw fragment => [.text (keyword ++ " "), .fragment fragment]

def Join.pieces (base : String) (j : Join) : List Piece :=
  [.text (j.kind.keyword ++ " JOIN " ++ quoteName j.table ++ " ON " ++ quoteName base ++ "." ++
    quoteName j.localColumn ++ " = " ++ quoteName j.table ++ "." ++ quoteName j.foreignColumn)]

/-- A statement ready for binding. -/
structure Preparation where
  kind : StatementKind
  pieces : List Piece
  deriving Repr

namespace Preparation

def sql (p : Preparation) : String := template p.pieces

def args (p : Preparation) : List Value := arguments p.pieces

end Preparation

namespace Query

/-- A query without a kind selects. -/
def kindOrSelect (q : Query) : StatementKind := q.kind.getD .select

def requireTable (q : Query) : Except Error String :=
  match q.table? with
  | some table => .ok table
  | none => .error (.missingTable q.kindOrSelect)

/-- An UPDATE needs an assignment and an INSERT a row. -/
def requireClauses (q : Query) : Except Error Unit :=
  match q.kindOrSelect with
  | .update => if q.assignments.isEmpty then .error (.missingClause .set .update) else .ok ()
  | .insert => if q.insertRows.isEmpty then .error (.missingClause .values .insert) else .ok ()
  | _ => .ok ()

def headPieces (q : Query) : Except Error (List (List Piece)) :=
  let overTable (start : String) : Except Error (List (List Piece)) := do
    return [[.text (start ++ " " ++ quoteName (← q.requireTable))]]
  match q.kindOrSelect with
  | .delete => overTable "DELETE FROM"
  | .update => overTable "UPDATE"
  | .insert => overTable "INSERT INTO"
  | .select =>
    let columns := if q.selectList.isEmpty then "*" else ", ".intercalate q.selectList
    let start := [.text ("SELECT " ++ columns)]
    .ok (match q.table? with
      | some table => [start, [.text ("FROM " ++ quoteName table)]]
      | none => [start])

/-- A clause that is written if it has parts. -/
def clausePieces (start separator : String) (parts : List (List Piece)) : List (List Piece) :=
  if parts.isEmpty then [] else [.text start :: Piece.join separator parts]

def setPieces (q : Query) : List (List Piece) :=
  clausePieces "SET " ", " (q.assignments.map fun (column, slot) =>
    [.text (quoteName column ++ " = "), slot.piece])

/-- The values of a row under a column list. -/
def tuplePieces (columns : List String) (row : Columns Slot) : Except Error (List Piece) := do
  let slots ← columns.mapM fun column =>
    match row.get? column with
    | some slot => .ok [slot.piece]
    | none => .error (.malformedRow (.lacksColumn column))
  return .text "(" :: (Piece.join ", " slots ++ [.text ")"])

/-- The first row gives the column list, also when it is empty. -/
def valuesPieces (q : Query) : Except Error (List (List Piece)) :=
  match q.insertRows with
  | [] => .ok []
  | first :: _ => do
    let columns := first.names
    let tuples ← q.insertRows.mapM (tuplePieces columns)
    let names := ", ".intercalate (columns.map quoteName)
    return [.text ("(" ++ names ++ ") VALUES ") :: Piece.join ", " tuples]

def joinPieces (q : Query) : Except Error (List (List Piece)) :=
  if q.joins.isEmpty then .ok []
  else do
    let base ← q.requireTable
    return q.joins.map (·.pieces base)

def conditionPieces (start : String) (tree : ConditionTree) : List (List Piece) :=
  if tree.isEmpty then [] else [.text start :: tree.pieces]

/-- An offset without a limit is written after the largest limit there is. -/
def boundPieces (q : Query) : List (List Piece) :=
  let limit := match q.limit, q.offset with
    | some bound, _ => [bound.pieces "LIMIT"]
    | none, some _ => [[.text "LIMIT 18446744073709551615"]]
    | none, none => []
  limit ++ (q.offset.map (·.pieces "OFFSET")).toList

/-- The clauses of the statement, in the order they are written. -/
def clauses (q : Query) : Except Error (List (List Piece)) := do
  q.requireClauses
  let head ← q.headPieces
  let values ← q.valuesPieces
  let joins ← q.joinPieces
  return head ++ q.setPieces ++ values ++ joins ++ conditionPieces "WHERE " q.filters ++
    clausePieces "GROUP BY " ", " (q.groupBy.map OrderItem.pieces) ++
    conditionPieces "HAVING " q.having ++
    clausePieces "ORDER BY " ", " (q.orderBy.map OrderItem.pieces) ++ q.boundPieces

def validate (q : Query) : Except Error Unit :=
  match q.error with
  | some e => .error e
  | none => .ok ()

def prepare (q : Query) : Except Error Preparation := do
  q.validate
  return ⟨q.kindOrSelect, Piece.join " \n" (← q.clauses)⟩

/-- Prepares and reports it. -/
def prepared {σ : Type} (q : Query) : Action σ Preparation := do
  let p ← Action.ofExcept q.prepare
  Action.emit [.prepared p.kind p.args.length p.sql]
  return p

end Query

end Clausal
