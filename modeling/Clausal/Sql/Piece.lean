import Clausal.Value

/-!
# Pieces of a statement

A statement before binding is a list of pieces: verbatim text, and places for values. The template
and the argument list are two views of the same pieces, so they are in step by construction.
`Query.assemble` writes both in one pass, without pieces.
-/

namespace Clausal.Sql

inductive Piece where
  | text (s : String)
  /-- A place for the literal of a value. -/
  | value (v : Value)
  /-- A place for a count, which is written as an integer. -/
  | count (n : UInt64)
  | fragment (f : Fragment)
  deriving Repr

namespace Piece

def template : Piece → String
  | .text s => s
  | .value _ => "%s"
  | .count _ => "%d"
  | .fragment f => f.sql

def args : Piece → List Value
  | .text _ => []
  | .value v => [v]
  | .count n => [Value.ofUnsigned n]
  | .fragment f => f.args

/-- The pieces of all parts, with a text between neighbours. -/
def join (separator : String) : List (List Piece) → List Piece
  | [] => []
  | [part] => part
  | part :: parts => part ++ .text separator :: join separator parts

end Piece

/-- The text of a statement, with a placeholder at every place. -/
def template (pieces : List Piece) : String :=
  String.join (pieces.map Piece.template)

/-- The values for the places, in order. -/
def arguments (pieces : List Piece) : List Value :=
  pieces.flatMap Piece.args

end Clausal.Sql
