import Clausal.Json.Reading
import Clausal.Row

/-!
# Values and rows in JSON

Values are written as JSON scalars and arrays, moments as strings in the exchange form. There are
two ways back: `Value.ofJson` takes a document apart by its form, and keeps an object as the text of
its sorted form; `Value.ofJson?` tries the kinds of value one after another, and refuses objects. A
row is an object, its columns in order.
-/

namespace Clausal

open Number Calendar

namespace Json

/-- Why a text is no row: it is no JSON, or it is JSON of another shape. -/
inductive Fault where
  | malformed
  | unsuitable
  deriving DecidableEq, Repr

def Numeric.ofInt (n : Int64) : Numeric :=
  if n < 0 then .negative n else .natural n.toUInt64

def Numeric.asInt? : Numeric → Option Int64
  | .natural n => signed? n.toNat
  | .negative n => some n
  | .real _ => none

def Numeric.toBinary64 : Numeric → Binary64
  | .natural n => Binary64.ofInt n.toNat
  | .negative n => Binary64.ofInt n.toInt
  | .real x => x

def Numeric.toValue (n : Numeric) : Value :=
  match n.asInt? with
  | some i => .int i
  | none => .float n.toBinary64

end Json

namespace Value

mutual

def toJson : Value → Json
  | .null => .null
  | .bool b => .bool b
  | .int n => .number (.ofInt n)
  | .float (.finite negative units) => .number (.real (.finite negative units))
  | .float _ => .null
  | .text s => .string s
  | .datetime dt => .string dt.toExchangeText
  | .list items => .array (toJsonAll items)

def toJsonAll : List Value → List Json
  | [] => []
  | v :: vs => toJson v :: toJsonAll vs

end

mutual

/-- The value of any document; an object becomes its text. -/
def ofJson : Json → Value
  | .null => .null
  | .bool b => .bool b
  | .number n => n.toValue
  | .string s => .text s
  | .array items => .list (ofJsonAll items)
  | .object members => .text (Json.object members).sorted.text

def ofJsonAll : List Json → List Value
  | [] => []
  | j :: js => ofJson j :: ofJsonAll js

end

/-- The kinds of value. -/
inductive Kind where
  | null
  | bool
  | int
  | float
  | text
  | datetime
  | list
  deriving DecidableEq, Repr

/-- The kinds in the order in which a document is tried. -/
def Kind.inOrder : List Kind :=
  [.null, .bool, .int, .float, .text, .datetime, .list]

section

variable (moment : String → Option DateTime)

/-- A document read as a value of one kind. `moment` reads the text of a moment; `items` are the
values of the members of an array, if each of them has one. -/
def Kind.read? (items : Option (List Value)) : Kind → Json → Option Value
  | .null, .null => some .null
  | .bool, .bool b => some (.bool b)
  | .int, .number n => n.asInt?.map .int
  | .float, .number n => some (.float n.toBinary64)
  | .text, .string s => some (.text s)
  | .datetime, .string s => (moment s).map .datetime
  | .list, .array _ => items.map .list
  | _, _ => none

/-- The value of a document as the first kind that it can be read as. -/
def firstKind? (items : Option (List Value)) (j : Json) : Option Value :=
  Kind.inOrder.findSome? fun kind => kind.read? moment items j

mutual

def ofJsonBy? : Json → Option Value
  | .array js => firstKind? moment (ofJsonAllBy? js) (.array js)
  | j => firstKind? moment none j

def ofJsonAllBy? : List Json → Option (List Value)
  | [] => some []
  | j :: js => match ofJsonBy? j, ofJsonAllBy? js with
    | some v, some vs => some (v :: vs)
    | _, _ => none

end

end

/-- The value of a document as the first kind it can be; a moment is text in the exchange form. -/
def ofJson? : Json → Option Value :=
  ofJsonBy? fun s => Reading.exchange.whole s.toList

end Value

namespace Row

def toJson (row : Row) : Json :=
  .object (row.columns.map fun (column, value) => (column, value.toJson))

/-- The row of an object, its members assigned one after another. -/
def ofJson? : Json → Option Row
  | .object members =>
    (members.mapM fun member => (Value.ofJson? member.2).map (member.1, ·)).map Row.ofPairs
  | _ => none

open Text (Reader)
open Text.Reader

/-- Reads members up to the closing brace; they stand in the object of the row. The first fault
from the left decides. -/
def readMembers (row : Row) : Nat → List Char → Except Json.Fault (Row × List Char)
  | 0, _ => .error .malformed
  | fuel + 1, cs =>
    let member : Reader (String × Json) := do
      Json.Reading.space
      let name ← Json.Reading.string
      Json.Reading.space
      literal ':'
      return (name, ← Json.Reading.nested)
    match member cs with
    | none => .error .malformed
    | some ((name, j), rest) =>
      match Value.ofJson? j with
      | none => .error .unsuitable
      | some value =>
        match Json.skipSpace rest with
        | ',' :: rest => readMembers (row.put name value) fuel rest
        | '\x7d' :: rest => .ok (row.put name value, rest)
        | _ => .error .malformed

/-- Reads a row off the front of a text. What cannot begin an object is still read, to tell a
malformed text from one of another shape; an array is refused at its bracket. -/
def readObject (cs : List Char) : Except Json.Fault (Row × List Char) :=
  match Json.skipSpace cs with
  | '\x7b' :: rest =>
    match Json.skipSpace rest with
    | '\x7d' :: rest => .ok (⟨[]⟩, rest)
    | rest => readMembers ⟨[]⟩ rest.length rest
  | '[' :: _ => .error .unsuitable
  | rest => match Json.Reading.document Json.Reading.nestingLimit rest with
    | some _ => .error .unsuitable
    | none => .error .malformed

/-- The row that the whole text writes. -/
def readJson (s : String) : Except Json.Fault Row :=
  match readObject s.toList with
  | .ok (row, rest) => if (Json.skipSpace rest).isEmpty then .ok row else .error .malformed
  | .error fault => .error fault

end Row

end Clausal
