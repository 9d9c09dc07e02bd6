import Clausal.Cast
import Clausal.Condition
import Clausal.Columns

/-!
# Queries

A query collects clauses in any order. The first error made on the way is kept; later calls go on,
but what is prepared in the end is that error.
-/

namespace Clausal

inductive Direction where
  | asc
  | desc
  deriving DecidableEq, Repr, Inhabited

namespace Direction

def keyword : Direction → String
  | .asc => "ASC"
  | .desc => "DESC"

def ofAscending (ascending : Bool) : Direction :=
  if ascending then .asc else .desc

/-- Ascending is written `ASC`, in any letter case; anything else descends. -/
def ofText (s : String) : Direction :=
  ofAscending (Text.equalIgnoringCase s "ASC")

end Direction

inductive OrderItem where
  | column (name : String) (direction : Direction)
  | raw (fragment : Fragment)
  deriving Repr

/-- What LIMIT and OFFSET take. -/
inductive Bound where
  | count (n : UInt64)
  | raw (fragment : Fragment)
  deriving Repr

inductive JoinKind where
  | inner
  | left
  | right
  deriving DecidableEq, Repr, Inhabited

def JoinKind.keyword : JoinKind → String
  | .inner => "INNER"
  | .left => "LEFT"
  | .right => "RIGHT"

structure Join where
  kind : JoinKind := .inner
  table : String
  localColumn : String
  foreignColumn : String
  deriving Repr

/-- What a query runs against. The results of a record type are cast. -/
inductive Target where
  | none
  | table (name : String)
  | record (table : String) (casts : Casts)

def Target.table? : Target → Option String
  | .none => Option.none
  | .table name | .record name _ => some name

def Target.casts? : Target → Option Casts
  | .record _ casts => some casts
  | _ => Option.none

structure Query where
  target : Target := .none
  kind : Option StatementKind := none
  selectList : List String := []
  assignments : Columns Slot := []
  insertRows : List (Columns Slot) := []
  joins : List Join := []
  filters : ConditionTree := {}
  groupBy : List OrderItem := []
  having : ConditionTree := {}
  orderBy : List OrderItem := []
  limit : Option Bound := none
  offset : Option Bound := none
  /-- The clauses used so far, in the order of their first use. -/
  used : List Clause := []
  error : Option Error := none

namespace Query

def ofTable (name : String) : Query := { target := .table name }

def ofRecord (table : String) (casts : Casts) : Query := { target := .record table casts }

def table? (q : Query) : Option String := q.target.table?

/-- Keeps the first error. -/
def fail (q : Query) (e : Error) : Query :=
  { q with error := q.error.or (some e) }

/-- Fixes the kind of statement. -/
def fix (q : Query) (kind : StatementKind) : Except Error Query :=
  match q.kind with
  | some current =>
    if current = kind then .ok q else .error (.conflictingKind current kind)
  | none =>
    match q.used.find? (!·.fits kind) with
    | some clause => .error (.clauseNotAllowed clause kind)
    | none => .ok { q with kind := some kind }

/-- Notes the use of a clause, which fixes the kind or has to fit it. -/
def allow (q : Query) (clause : Clause) : Except Error Query :=
  let allowed := match clause.fixedKind?, q.kind with
    | some kind, _ => q.fix kind
    | none, some kind => if clause.fits kind then .ok q else .error (.clauseNotAllowed clause kind)
    | none, none => .ok q
  allowed.map fun q =>
    if clause ∈ q.used then q else { q with used := q.used ++ [clause] }

/-- Goes on from a step that may have failed. -/
def proceed (q : Query) (step : Except Error Query) (next : Query → Query) : Query :=
  match step with
  | .ok q => next q
  | .error e => q.fail e

def withClause (q : Query) (clause : Clause) (next : Query → Query) : Query :=
  q.proceed (q.allow clause) next

def ofKind (q : Query) (kind : StatementKind) : Query :=
  q.proceed (q.fix kind) id

/-! ## Building -/

def select (q : Query) (columns : List String) : Query :=
  q.withClause .select fun q => { q with selectList := q.selectList ++ columns }

def selectAll (q : Query) : Query :=
  q.withClause .select id

def update (q : Query) : Query :=
  q.ofKind .update

def delete (q : Query) : Query :=
  q.ofKind .delete

/-- Assigns a column; a repeated column keeps its place. -/
def set (q : Query) (column : String) (slot : Slot) : Query :=
  q.withClause .set fun q => { q with assignments := q.assignments.put column slot.normalize }

def setAll (q : Query) (pairs : List (String × Slot)) : Query :=
  pairs.foldl (fun q (column, slot) => q.set column slot) q.update

/-- Adds a row, if it has all columns of the first row. -/
def addRow (q : Query) (row : Columns Slot) : Except Error Query :=
  match q.insertRows.head?.bind fun first => first.names.find? (row.get? · |>.isNone) with
  | some column => .error (.malformedRow (.lacks q.insertRows.length column))
  | none => .ok { q with insertRows := q.insertRows ++ [row] }

/-- Adds rows up to the first that does not fit. -/
def addRows (q : Query) : List (List (String × Slot)) → Query
  | [] => q
  | pairs :: rest =>
    let row := Columns.collect (pairs.map fun (column, slot) => (column, slot.normalize))
    q.proceed (q.addRow row) fun q => q.addRows rest

def insertAll (q : Query) (rows : List (List (String × Slot))) : Query :=
  q.withClause .values fun q => q.addRows rows

def insert (q : Query) (row : List (String × Slot)) : Query :=
  q.insertAll [row]

def join (q : Query) (j : Join) : Query :=
  q.withClause .join fun q => { q with joins := q.joins ++ [j] }

/-- Adds the conditions of a filter to the tree of a clause. -/
def addConditions (q : Query) (clause : Clause) (filter : Filter)
    (store : List Condition → Query → Query) : Query :=
  q.withClause clause fun q =>
    match filter.conditions with
    | .ok items => store items q
    | .error fault => q.fail (.malformedCondition fault)

def addFilter (q : Query) (newGroup : Bool) (filter : Filter) : Query :=
  q.addConditions .filter filter fun items q =>
    { q with filters := q.filters.add newGroup items }

def addHaving (q : Query) (newGroup : Bool) (filter : Filter) : Query :=
  q.addConditions .having filter fun items q =>
    { q with having := q.having.add newGroup items }

/-- Adds to the current group of the WHERE clause. -/
def filter (q : Query) (f : Filter) : Query := q.addFilter false f

/-- Opens a new group of the WHERE clause. -/
def orFilter (q : Query) (f : Filter) : Query := q.addFilter true f

def andHaving (q : Query) (f : Filter) : Query := q.addHaving false f

def orHaving (q : Query) (f : Filter) : Query := q.addHaving true f

def addGroupBy (q : Query) (item : OrderItem) : Query :=
  q.withClause .groupBy fun q => { q with groupBy := q.groupBy ++ [item] }

def addOrderBy (q : Query) (item : OrderItem) : Query :=
  q.withClause .orderBy fun q => { q with orderBy := q.orderBy ++ [item] }

def setLimit (q : Query) (bound : Bound) : Query :=
  q.withClause .limit fun q => { q with limit := some bound }

def setOffset (q : Query) (bound : Bound) : Query :=
  q.withClause .offset fun q => { q with offset := some bound }

/-- One call of the builder. -/
inductive Call where
  | select (columns : List String)
  | selectAll
  | update
  | delete
  | set (column : String) (slot : Slot)
  | setAll (pairs : List (String × Slot))
  | insert (rows : List (List (String × Slot)))
  | join (j : Join)
  | filter (newGroup : Bool) (f : Filter)
  | having (newGroup : Bool) (f : Filter)
  | groupBy (items : List OrderItem)
  | orderBy (items : List OrderItem)
  | limit (bound : Bound)
  | offset (bound : Bound)

def call (q : Query) : Call → Query
  | .select columns => q.select columns
  | .selectAll => q.selectAll
  | .update => q.update
  | .delete => q.delete
  | .set column slot => q.set column slot
  | .setAll pairs => q.setAll pairs
  | .insert rows => q.insertAll rows
  | .join j => q.join j
  | .filter newGroup f => q.addFilter newGroup f
  | .having newGroup f => q.addHaving newGroup f
  | .groupBy items => items.foldl addGroupBy q
  | .orderBy items => items.foldl addOrderBy q
  | .limit bound => q.setLimit bound
  | .offset bound => q.setOffset bound

def calls (q : Query) (cs : List Call) : Query :=
  cs.foldl call q

end Query

end Clausal
