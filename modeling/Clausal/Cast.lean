import Clausal.Database.Event
import Clausal.Value

/-!
# Casts

A cast rule takes a column's values from what is stored to what the program works with, and back. A
built-in kind leaves NULL alone; a custom rule sees it, and is the identity in a direction it does
not give. A moment that cannot be read is left as it is, and casting one is reported.
-/

namespace Clausal

inductive CastKind where
  | int
  | float
  | boolean
  | datetime
  deriving DecidableEq, Repr

namespace CastKind

def name : CastKind → String
  | .int => "int"
  | .float => "float"
  | .boolean => "boolean"
  | .datetime => "datetime"

/-- The names of the kinds, with aliases. -/
def names : List (String × CastKind) :=
  [("int", .int), ("integer", .int), ("float", .float), ("number", .float), ("boolean", .boolean),
    ("bool", .boolean), ("datetime", .datetime)]

/-- The kind of a name in any letter case, with blanks around it. Only ASCII letters have a lower
case that occurs in a name, so no others are lowered. -/
def ofName? (s : String) : Option CastKind :=
  names.lookup ((Text.trim s).map Char.toLower)

/-- The moment that a value names: itself, a number of seconds since 1970, or a text. -/
def moment? : Value → Option Calendar.DateTime
  | .datetime dt => some dt
  | .int n => Calendar.DateTime.ofTimestamp? n.toInt 0
  | .text s => Calendar.DateTime.read? (Text.strip s.toList)
  | _ => none

/-- From stored to domain values. -/
def cast (kind : CastKind) (v : Value) : Value :=
  if v.isNull then v
  else match kind with
    | .int => .int v.toInt
    | .float => .float v.toFloat
    | .boolean => .bool v.isTruthy
    | .datetime => match moment? v with
      | some dt => .datetime dt
      | none => v

/-- From domain to stored values. -/
def decast (kind : CastKind) (v : Value) : Value :=
  if v.isNull then v
  else match kind with
    | .int | .float => v
    | .boolean => .int (if v.isTruthy then 1 else 0)
    | .datetime => match moment? v with
      | some dt => .text dt.toText
      | none => v

/-- What casting a value reports. -/
def reports (kind : CastKind) (v : Value) : List Event :=
  if kind = .datetime && !v.isNull && (moment? v).isNone then [.unparsable v.display] else []

end CastKind

inductive CastRule where
  /-- A kind by its name; a name of no kind leaves values alone. -/
  | named (name : String)
  | custom (cast decast : Option (Value → Value))

namespace CastRule

def kind? : CastRule → Option CastKind
  | .named name => CastKind.ofName? name
  | .custom .. => none

def cast (rule : CastRule) (v : Value) : Value :=
  match rule with
  | .named name => match CastKind.ofName? name with
    | some kind => kind.cast v
    | none => v
  | .custom cast _ => cast.getD id v

def decast (rule : CastRule) (v : Value) : Value :=
  match rule with
  | .named name => match CastKind.ofName? name with
    | some kind => kind.decast v
    | none => v
  | .custom _ decast => decast.getD id v

def reports (rule : CastRule) (v : Value) : List Event :=
  match rule.kind? with
  | some kind => kind.reports v
  | none => []

end CastRule

/-- The rules of a record type, by column. The first rule for a column counts. -/
structure Casts where
  rules : List (String × CastRule) := []

namespace Casts

def standard : Casts := ⟨[("id", .named "int")]⟩

def none : Casts := ⟨[]⟩

def rule? (casts : Casts) (column : String) : Option CastRule :=
  (casts.rules.find? (·.1 == column)).map (·.2)

def names (casts : Casts) : List String :=
  casts.rules.map (·.1)

def cast (casts : Casts) (column : String) (v : Value) : Value :=
  match casts.rule? column with
  | some rule => rule.cast v
  | Option.none => v

def decast (casts : Casts) (column : String) (v : Value) : Value :=
  match casts.rule? column with
  | some rule => rule.decast v
  | Option.none => v

def reports (casts : Casts) (column : String) (v : Value) : List Event :=
  match casts.rule? column with
  | some rule => rule.reports v
  | Option.none => []

end Casts

end Clausal
