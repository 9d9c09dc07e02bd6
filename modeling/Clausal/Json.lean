import Clausal.Number.Layout

/-!
# JSON

A JSON document as a tree, in which an object keeps its members in the order they were written, and
its compact text. Characters outside printable ASCII are written as they are; only quotes,
backslashes and control characters are escaped.
-/

namespace Clausal

open Number

namespace Json

/-- A number as JSON tells it apart: whole numbers that fit 64 bits, and all others. -/
inductive Numeric where
  | natural (n : UInt64)
  | negative (n : Int64)
  | real (x : Binary64)
  deriving DecidableEq, Repr

end Json

inductive Json where
  | null
  | bool (b : Bool)
  | number (n : Json.Numeric)
  | string (s : String)
  | array (items : List Json)
  | object (members : List (String × Json))
  deriving Repr, Inhabited

namespace Json

def hexDigit (n : Nat) : Char :=
  Nat.digitChar (n % 16)

def escapeChar (c : Char) : List Char :=
  if c = '"' then ['\\', '"']
  else if c = '\\' then ['\\', '\\']
  else if c = '\x08' then ['\\', 'b']
  else if c = '\x0c' then ['\\', 'f']
  else if c = '\n' then ['\\', 'n']
  else if c = '\r' then ['\\', 'r']
  else if c = '\t' then ['\\', 't']
  else if c.toNat < 0x20 then ['\\', 'u', '0', '0', hexDigit (c.toNat / 16), hexDigit c.toNat]
  else [c]

def quote (s : String) : String :=
  String.ofList ('"' :: (s.toList.flatMap escapeChar ++ ['"']))

def Numeric.text : Numeric → String
  | .natural n => toString n.toNat
  | .negative n => toString n.toInt
  | .real x => Layout.json.write x

mutual

/-- The compact text of a document. -/
def text : Json → String
  | .null => "null"
  | .bool b => if b then "true" else "false"
  | .number n => n.text
  | .string s => quote s
  | .array items => "[" ++ ",".intercalate (texts items) ++ "]"
  | .object members => "\x7b" ++ ",".intercalate (memberTexts members) ++ "\x7d"

def texts : List Json → List String
  | [] => []
  | j :: js => text j :: texts js

def memberTexts : List (String × Json) → List String
  | [] => []
  | (name, j) :: rest => (quote name ++ ":" ++ text j) :: memberTexts rest

end

/-- Inserts a member in the order of names; of two members of one name the later stays. -/
def insertMember (name : String) (j : Json) : List (String × Json) → List (String × Json)
  | [] => [(name, j)]
  | (n, i) :: rest =>
    if name = n then (n, j) :: rest
    else if name < n then (name, j) :: (n, i) :: rest
    else (n, i) :: insertMember name j rest

mutual

/-- The document with the members of every object in the order of their names. -/
def sorted : Json → Json
  | .array items => .array (sortedAll items)
  | .object members => .object (sortedMembers [] members)
  | j => j

def sortedAll : List Json → List Json
  | [] => []
  | j :: js => sorted j :: sortedAll js

def sortedMembers (done : List (String × Json)) : List (String × Json) → List (String × Json)
  | [] => done
  | (name, j) :: rest => sortedMembers (insertMember name (sorted j) done) rest

end

end Json

end Clausal
