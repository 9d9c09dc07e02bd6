import Clausal.Query
import Clausal.Text.Separated

/-!
# Finders

A finder is a query named by convention, such as `get_one_by_name_and_category_id`. After a start
that says what is wanted, and a selected column where one value is, come the columns to compare:
groups between `_and_`, and columns between `_or_` inside a group. The first column of a group joins
the current group of conditions and every further one opens a new group.
-/

namespace Clausal

open Text

/-- What a finder gives. -/
inductive FinderKind where
  | records
  | record
  | row
  | rows
  | value
  | values
  deriving DecidableEq, Repr

def FinderKind.start : FinderKind → String
  | .records => "get"
  | .record => "get_one"
  | .row => "get_row"
  | .rows => "get_results"
  | .value => "get_var"
  | .values => "get_col"

structure Finder where
  kind : FinderKind
  /-- The selected column of a finder for values. -/
  select : Option String := none
  groups : List (List String) := []
  deriving DecidableEq, Repr

namespace Finder

def bySeparator : List Char := ['_', 'b', 'y', '_']

def andSeparator : List Char := ['_', 'a', 'n', 'd', '_']

def orSeparator : List Char := ['_', 'o', 'r', '_']

/-- The columns between separators, unless one of them is empty. -/
def readGroup? (cs : List Char) : Option (List String) :=
  let columns := splitAll orSeparator (by decide) cs
  if columns.any List.isEmpty then none else some (columns.map String.ofList)

def readGroups? (cs : List Char) : Option (List (List String)) :=
  if cs.isEmpty then some []
  else (splitAll andSeparator (by decide) cs).mapM readGroup?

/-- The kind, the selected column and the conditions, as the name has them. -/
def readParts? (cs : List Char) : Option (FinderKind × Option (List Char) × List Char) :=
  let starting (start : String) := dropStart? start.toList cs
  match starting "get_by_" with
  | some rest => some (.records, none, rest)
  | none => match starting "get_one_by_" with
  | some rest => some (.record, none, rest)
  | none => match starting "get_row_by_" with
  | some rest => some (.row, none, rest)
  | none => match starting "get_results_by_" with
  | some rest => some (.rows, none, rest)
  | none => match starting "get_var_" with
  | some rest => (splitOnce bySeparator rest).map fun (column, conditions) =>
    (.value, some column, conditions)
  | none => (starting "get_col_").map fun rest =>
    match splitOnce bySeparator rest with
    | some (column, conditions) => (.values, some column, conditions)
    | none => (.values, some rest, [])

def read? (cs : List Char) : Option Finder := do
  let (kind, select, conditions) ← readParts? cs
  guard !(select.any List.isEmpty)
  return ⟨kind, select.map String.ofList, ← readGroups? conditions⟩

def parse (name : String) : Except Error Finder :=
  match read? name.toList with
  | some finder => .ok finder
  | none => .error (.unknownFinder name)

/-- The name of a finder. -/
def name (finder : Finder) : String :=
  let column := match finder.select with
    | some column => "_" ++ column
    | none => ""
  let conditions :=
    if finder.groups.isEmpty then ""
    else "_by_" ++ "_and_".intercalate (finder.groups.map ("_or_".intercalate ·))
  finder.kind.start ++ column ++ conditions

def columnCount (finder : Finder) : Nat :=
  finder.groups.flatten.length

/-- Adds the conditions of one group, taking its arguments off the front. -/
def applyGroup (q : Query) (newGroup : Bool) : List String → List Value → Query × List Value
  | [], args => (q, args)
  | column :: columns, args =>
    let value := args.head?.getD .null
    let q := q.addFilter newGroup (.compare (.name column) none (.bound value))
    applyGroup q true columns args.tail

def applyGroups (q : Query) (args : List Value) : List (List String) → Query
  | [] => q
  | group :: groups =>
    let (q, args) := applyGroup q false group args
    applyGroups q args groups

/-- Adds the selected column and the conditions to a query, with one argument for each column. -/
def apply (finder : Finder) (q : Query) (args : List Value) : Except Error Query :=
  if args.length = finder.columnCount then
    let q := q.selectAll
    let q := match finder.select with
      | some column => q.select [column]
      | none => q
    .ok (applyGroups q args finder.groups)
  else
    .error (.malformedCondition
      (.argumentCount finder.name finder.columnCount args.length))

end Finder

end Clausal
