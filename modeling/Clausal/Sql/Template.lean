import Clausal.Error
import Clausal.Sql.Quoted

/-!
# Templates

A template holds the placeholders `%s`, `%d` and `%f`; `%%` stands for one percent sign, and a
percent sign before anything else for itself. Binding replaces the placeholders, from the left, by
the arguments. Each argument is used once, and what is inserted is not read again.
-/

namespace Clausal.Sql

inductive Placeholder where
  | literal
  | integer
  | decimal
  deriving DecidableEq, Repr

namespace Placeholder

def ofChar? (c : Char) : Option Placeholder :=
  if c = 's' then some .literal
  else if c = 'd' then some .integer
  else if c = 'f' then some .decimal
  else none

/-- The text of an argument: its literal, its integer, or six decimal places. -/
def write (v : Value) : Placeholder → String
  | .literal => Sql.literal v
  | .integer => toString v.toInt.toInt
  | .decimal => Number.fixed 6 v.toFloat

end Placeholder

/-- The number of placeholders. -/
def placeholders : List Char → Nat
  | [] => 0
  | [_] => 0
  | c :: d :: rest =>
    if c = '%' then (if (Placeholder.ofChar? d).isSome then 1 else 0) + placeholders rest
    else placeholders (d :: rest)

/-- Replaces the placeholders while there are arguments. `expected` is the number of placeholders
that a missing argument is reported with. -/
def fill (expected : Nat) : List Char → List Value → Except Error (List Char)
  | [], _ => .ok []
  | [c], _ => .ok [c]
  | c :: d :: rest, args =>
    if c = '%' then
      match Placeholder.ofChar? d with
      | some placeholder =>
        match args with
        | [] => .error (.placeholderMismatch expected 0)
        | v :: vs => do return (placeholder.write v).toList ++ (← fill expected rest vs)
      | none =>
        if d = '%' then do return '%' :: (← fill expected rest args)
        else do return '%' :: (← fill expected (d :: rest) args)
    else do return c :: (← fill expected (d :: rest) args)

/-- The template with its arguments in place, if it has a placeholder for each and no more. -/
def bind (template : String) (args : List Value) : Except Error String :=
  let expected := placeholders template.toList
  if expected = args.length then
    (fill expected template.toList args).map String.ofList
  else .error (.placeholderMismatch expected args.length)

end Clausal.Sql
