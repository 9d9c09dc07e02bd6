import Clausal.Error
import Clausal.Sql.Piece
import Clausal.Sql.Quoted
import Clausal.Text.LetterCase

/-!
# Conditions

A filter is what a caller asks for; checking it gives conditions, or the first fault in the order
the filter was written. A tree holds groups of conditions: the members of a group are joined by AND
inside parentheses, the groups by OR.
-/

namespace Clausal

open Sql

/-- Where a value stands in an assignment, a row or a condition. -/
inductive Slot where
  | bound (v : Value)
  | raw (sql : String)
  deriving Repr, Inhabited

namespace Slot

def null : Slot := .raw "NULL"

/-- A NULL, whether bound or written out in any letter case. -/
def isNull : Slot → Bool
  | .bound v => v.isNull
  | .raw sql => Text.equalIgnoringCase sql "NULL"

/-- NULL is written out and never bound. -/
def normalize : Slot → Slot
  | .bound .null => null
  | slot => slot

def piece : Slot → Piece
  | .bound v => .value v
  | .raw sql => .text sql

end Slot

/-- The column of a condition: a name, which is quoted, or an expression as it stands. -/
inductive ColumnRef where
  | name (s : String)
  | raw (sql : String)
  deriving DecidableEq, Repr

namespace ColumnRef

def written : ColumnRef → String
  | .name s | .raw s => s

def sql : ColumnRef → String
  | .name s => quoteName s
  | .raw s => s

end ColumnRef

inductive Filter where
  /-- Without an operator, NULL is compared by `IS` and anything else by `=`. -/
  | compare (column : ColumnRef) (operator : Option String) (value : Slot)
  | raw (fragment : Fragment)
  | each (filters : List Filter)
  deriving Repr, Inhabited

inductive Condition where
  | compare (column : ColumnRef) (operator : String) (value : Slot)
  | raw (fragment : Fragment)
  deriving Repr

namespace Condition

/-- A list has a place for each of its members, between parentheses. -/
def pieces : Condition → List Piece
  | .raw fragment => [.fragment fragment]
  | .compare column operator (.bound (.list items)) =>
    .text (column.sql ++ " " ++ operator ++ " (") ::
      (Piece.join ", " (items.map fun v => [.value v]) ++ [.text ")"])
  | .compare column operator value =>
    [.text (column.sql ++ " " ++ operator ++ " "), value.piece]

end Condition

namespace Filter

def defaultOperator (value : Slot) : String :=
  if value.isNull then "IS" else "="

def checkComparison (column : ColumnRef) (operator : Option String) (value : Slot) :
    Except ConditionFault Condition :=
  if Text.allBlank column.written then .error .emptyColumn
  else if operator.any Text.allBlank then .error (.emptyOperator column.sql)
  else match value with
    | .bound (.list []) => .error (.emptyList column.sql)
    | _ =>
      let written := match operator with
        | some op => Text.uppercase (Text.trim op)
        | none => defaultOperator value
      .ok (.compare column written value.normalize)

mutual

/-- The conditions of a filter, in the order they were written. -/
def conditions : Filter → Except ConditionFault (List Condition)
  | .compare column operator value => do return [← checkComparison column operator value]
  | .raw fragment =>
    if Text.allBlank fragment.sql then .error .emptyFragment else .ok [.raw fragment]
  | .each filters => conditionsOfAll filters

def conditionsOfAll : List Filter → Except ConditionFault (List Condition)
  | [] => .ok []
  | filter :: filters => do return (← conditions filter) ++ (← conditionsOfAll filters)

end

end Filter

structure ConditionTree where
  groups : List (List Condition) := []
  deriving Repr, Inhabited

namespace ConditionTree

/-- The groups that hold a condition. -/
def filled (tree : ConditionTree) : List (List Condition) :=
  tree.groups.filter (!·.isEmpty)

def isEmpty (tree : ConditionTree) : Bool :=
  tree.filled.isEmpty

def groupCount (tree : ConditionTree) : Nat :=
  tree.filled.length

def openGroup (tree : ConditionTree) : ConditionTree :=
  ⟨tree.groups ++ [[]]⟩

/-- Adds a condition to the last group. -/
def pushTo (groups : List (List Condition)) (item : Condition) : List (List Condition) :=
  match groups with
  | [] => [[item]]
  | [group] => [group ++ [item]]
  | group :: rest => group :: pushTo rest item

def push (tree : ConditionTree) (item : Condition) : ConditionTree :=
  ⟨pushTo tree.groups item⟩

/-- Adds conditions to the last group, or to a new one. -/
def add (tree : ConditionTree) (newGroup : Bool) (items : List Condition) : ConditionTree :=
  items.foldl push (if newGroup then tree.openGroup else tree)

def pieces (tree : ConditionTree) : List Piece :=
  Piece.join " OR " (tree.filled.map fun group =>
    .text "( " :: (Piece.join " AND " (group.map Condition.pieces) ++ [.text " )"]))

end ConditionTree

end Clausal
