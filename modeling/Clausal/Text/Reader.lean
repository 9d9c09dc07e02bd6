import Clausal.Number.Digit
import Clausal.Text.Blank

/-!
# Readers

A reader takes a value off the front of a text, or fails.
-/

namespace Clausal.Text

open Number (isDigit valueOf)

abbrev Reader (α : Type) := StateT (List Char) Option α

namespace Reader

def blanks : Reader Unit :=
  modify skipBlanks

def literal (c : Char) : Reader Unit := fun
  | d :: rest => if d = c then some ((), rest) else none
  | [] => none

/-- Whether one of `cs` comes next; it is then taken. -/
def optional (cs : List Char) : Reader Bool := fun
  | d :: rest => if d ∈ cs then some (true, rest) else some (false, d :: rest)
  | [] => some (false, [])

/-- Between `least` and `most` digits, as many as there are. -/
def digits (least most : Nat) : Reader (List Char) := fun cs =>
  let found := (cs.take most).takeWhile isDigit
  if found.length < least then none else some (found, cs.drop found.length)

def number (least most : Nat) : Reader Nat :=
  valueOf <$> digits least most

/-- As many digits as there are, at least one. -/
def longNumber : Reader Nat := fun cs =>
  number 1 cs.length cs

def ofOption {α : Type} (a : Option α) : Reader α := fun cs =>
  a.map (·, cs)

/-- The value read, if nothing is left over. -/
def whole {α : Type} (r : Reader α) (cs : List Char) : Option α :=
  match r cs with
  | some (a, []) => some a
  | _ => none

end Reader

end Clausal.Text
