import Clausal.Calendar.Format
import Clausal.Calendar.Reading
import Clausal.Number.Layout
import Clausal.Number.Numeral

/-!
# Values

A database value: what statements bind and what rows hold. Texts and other values are read as
numbers by the numeral they begin with.
-/

namespace Clausal

open Number Calendar

inductive Value where
  | null
  | bool (b : Bool)
  | int (n : Int64)
  | float (x : Binary64)
  | text (s : String)
  | datetime (dt : DateTime)
  | list (items : List Value)
  deriving Repr, Inhabited

namespace Value

def isNull : Value → Bool
  | .null => true
  | _ => false

def asInt? : Value → Option Int64
  | .int n => some n
  | _ => none

def asFloat? : Value → Option Binary64
  | .float x => some x
  | .int n => some (Binary64.ofInt n.toInt)
  | _ => none

def asText? : Value → Option String
  | .text s => some s
  | _ => none

def asBool? : Value → Option Bool
  | .bool b => some b
  | _ => none

def asDateTime? : Value → Option DateTime
  | .datetime dt => some dt
  | _ => none

/-- Only the empty text, the text `0`, zero, `false`, NULL and the empty list are false. -/
def isTruthy : Value → Bool
  | .null => false
  | .bool b => b
  | .int n => n != 0
  | .float x => !x.isZero
  | .text s => !(s == "" || s == "0")
  | .datetime _ => true
  | .list items => !items.isEmpty

/-- The longest numeral a text begins with, after blanks. -/
def leadingNumeral (s : String) : Option Numeral :=
  Numeral.scan (Text.skipBlanks s.toList)

/-- The value as an integer; what is no number is zero. -/
def toInt : Value → Int64
  | .null => 0
  | .bool b => if b then 1 else 0
  | .int n => n
  | .float x => x.truncate
  | .text s => match leadingNumeral s with
    | some n => n.toSigned
    | none => 0
  | .datetime dt => clampSigned dt.timestamp
  | .list items => if items.isEmpty then 0 else 1

/-- The value as a binary64 number; what is no number is zero. -/
def toFloat : Value → Binary64
  | .float x => x
  | .text s => match leadingNumeral s with
    | some n => n.toBinary64
    | none => Binary64.zero
  | v => Binary64.ofInt v.toInt.toInt

/-- An unsigned integer; from `2 ^ 63` on it is held as the nearest binary64 number. -/
def ofUnsigned (n : UInt64) : Value :=
  match signed? n.toNat with
  | some i => .int i
  | none => .float (Binary64.ofInt n.toNat)

def ofOption {α : Type} (f : α → Value) : Option α → Value
  | some a => f a
  | none => .null

mutual

/-- Equality of values; a float compares as a number. -/
def same : Value → Value → Bool
  | .null, .null => true
  | .bool a, .bool b => a == b
  | .int a, .int b => a == b
  | .float a, .float b => a.same b
  | .text a, .text b => a == b
  | .datetime a, .datetime b => a == b
  | .list as, .list bs => sameAll as bs
  | _, _ => false

def sameAll : List Value → List Value → Bool
  | [], [] => true
  | a :: as, b :: bs => same a b && sameAll as bs
  | _, _ => false

end

mutual

/-- The plain text of a value. -/
def display : Value → String
  | .null => "NULL"
  | .bool b => if b then "1" else "0"
  | .int n => toString n.toInt
  | .float x => Layout.plain.write x
  | .text s => s
  | .datetime dt => dt.toText
  | .list items => ", ".intercalate (displayAll items)

def displayAll : List Value → List String
  | [] => []
  | v :: vs => display v :: displayAll vs

end

end Value

/-- Verbatim SQL with the arguments of its own placeholders. -/
structure Fragment where
  sql : String
  args : List Value := []
  deriving Repr, Inhabited

namespace Fragment

def bind (f : Fragment) (v : Value) : Fragment :=
  { f with args := f.args ++ [v] }

end Fragment

end Clausal
