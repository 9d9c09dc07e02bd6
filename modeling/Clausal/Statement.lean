/-!
# Kinds of statements

A clause fixes the kind of statement it occurs in, or is open to every kind but INSERT.
-/

namespace Clausal

inductive StatementKind where
  | select
  | insert
  | update
  | delete
  deriving DecidableEq, Repr, Inhabited

def StatementKind.keyword : StatementKind → String
  | .select => "SELECT"
  | .insert => "INSERT"
  | .update => "UPDATE"
  | .delete => "DELETE"

inductive Clause where
  | select
  | set
  | values
  | join
  | filter
  | groupBy
  | having
  | orderBy
  | limit
  | offset
  deriving DecidableEq, Repr

namespace Clause

def name : Clause → String
  | .select => "SELECT list"
  | .set => "SET"
  | .values => "VALUES"
  | .join => "JOIN"
  | .filter => "WHERE"
  | .groupBy => "GROUP BY"
  | .having => "HAVING"
  | .orderBy => "ORDER BY"
  | .limit => "LIMIT"
  | .offset => "OFFSET"

/-- The kind that the use of a clause fixes. -/
def fixedKind? : Clause → Option StatementKind
  | .select | .join | .groupBy | .having => some .select
  | .set => some .update
  | .values => some .insert
  | .filter | .orderBy | .limit | .offset => none

/-- Whether a statement of this kind can carry the clause. -/
def fits (clause : Clause) (kind : StatementKind) : Bool :=
  match clause.fixedKind? with
  | some fixed => fixed == kind
  | none => kind != .insert

end Clause

end Clausal
