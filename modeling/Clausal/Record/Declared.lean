import Clausal.Declaration
import Clausal.Record

/-!
# Record types from declarations

A declared type stands for a record type. The paths of its custom casts name transforms, which the
program around the declaration supplies.
-/

namespace Clausal.Declaration

variable (transform : List String → Value → Value)

def CastSpec.rule : CastSpec → CastRule
  | .named kind => .named kind
  | .custom cast decast => .custom (cast.map transform) (decast.map transform)

/-- The entries of all cast lists in their order; without a list, the standard rules. -/
def Declared.rules (d : Declared) : Casts :=
  match d.casts with
  | some entries => ⟨entries.map fun (column, spec) => (column, spec.rule transform)⟩
  | none => Casts.standard

/-- A declared type reads every row. -/
def Declared.recordType (d : Declared) : RecordType :=
  { table := d.table, casts := d.rules transform }

end Clausal.Declaration
