import Clausal.Statement

/-!
# Errors

Each error names its cause; `Error.message` words it.
-/

namespace Clausal

/-- Why a filter is no condition. -/
inductive ConditionFault where
  | emptyFragment
  | emptyColumn
  | emptyOperator (column : String)
  | emptyList (column : String)
  | argumentCount (finder : String) (expected given : Nat)
  | other (detail : String)
  deriving DecidableEq, Repr

def ConditionFault.message : ConditionFault → String
  | .emptyFragment => "empty raw condition"
  | .emptyColumn => "empty column name"
  | .emptyOperator column => "empty operator for column " ++ column
  | .emptyList column => "empty value list for column " ++ column
  | .argumentCount finder expected given =>
    "finder " ++ finder ++ " expects " ++ toString expected ++ " argument(s), " ++ toString given ++
      " given"
  | .other detail => detail

/-- Why a row cannot join an INSERT. Rows are counted from zero. -/
inductive RowFault where
  | lacks (row : Nat) (column : String)
  | lacksColumn (column : String)
  | other (detail : String)
  deriving DecidableEq, Repr

def RowFault.message : RowFault → String
  | .lacks row column => "row " ++ toString row ++ " is missing column '" ++ column ++ "'"
  | .lacksColumn column => "missing column '" ++ column ++ "'"
  | .other detail => detail

/-- The operations that need exactly one selected column. -/
inductive ColumnOperation where
  | column
  | scalar
  deriving DecidableEq, Repr

def ColumnOperation.name : ColumnOperation → String
  | .column => "get_col"
  | .scalar => "get_var"

inductive Error where
  | conflictingKind (current requested : StatementKind)
  | clauseNotAllowed (clause : Clause) (kind : StatementKind)
  | selectArity (operation : ColumnOperation) (found : Nat)
  | malformedCondition (fault : ConditionFault)
  | malformedRow (fault : RowFault)
  | missingClause (clause : Clause) (kind : StatementKind)
  | missingTable (kind : StatementKind)
  | unknownFinder (name : String)
  | placeholderMismatch (placeholders args : Nat)
  | notFound (what : String)
  | decode (column detail : String)
  | database (detail : String)
  deriving DecidableEq, Repr

namespace Error

def message : Error → String
  | .conflictingKind current requested =>
    "The type of query is already '" ++ current.keyword ++ "', it cannot become '" ++
      requested.keyword ++ "'"
  | .clauseNotAllowed clause kind =>
    clause.name ++ " is not allowed in a " ++ kind.keyword ++ " statement"
  | .selectArity operation found =>
    "Query." ++ operation.name ++ ": exactly one select argument is required, found " ++
      toString found
  | .malformedCondition fault => "Malformed condition argument: " ++ fault.message
  | .malformedRow fault => "Malformed insert row: " ++ fault.message
  | .missingClause clause kind =>
    kind.keyword ++ " statement requires a " ++ clause.name ++ " clause"
  | .missingTable kind => kind.keyword ++ " statement requires a table"
  | .unknownFinder name => "No finder method with name '" ++ name ++ "'"
  | .placeholderMismatch placeholders args =>
    "Placeholder mismatch: template has " ++ toString placeholders ++ " placeholder(s), " ++
      toString args ++ " argument(s) given"
  | .notFound what => "Not found: " ++ what
  | .decode column detail => "Decode error on column '" ++ column ++ "': " ++ detail
  | .database detail => "Database error: " ++ detail

def isConflictingKind : Error → Bool
  | .conflictingKind .. | .clauseNotAllowed .. => true
  | _ => false

def isSelectArity : Error → Bool
  | .selectArity .. => true
  | _ => false

def isNotFound : Error → Bool
  | .notFound _ => true
  | _ => false

def isDatabase : Error → Bool
  | .database _ => true
  | _ => false

end Error

end Clausal
