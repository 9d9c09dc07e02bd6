import Clausal.Value

/-!
# Quoted names and literals

A name stands between backticks, with every backtick in it doubled. A text stands between single
quotes, with a backslash before the characters that would end it or that the server reads otherwise.
-/

namespace Clausal.Sql

def backtick : Char := '\x60'

def nameChars (cs : List Char) : List Char :=
  backtick ::
    (cs.flatMap (fun c => if c = backtick then [backtick, backtick] else [c]) ++ [backtick])

def quoteName (name : String) : String :=
  String.ofList (nameChars name.toList)

def escapeChar (c : Char) : List Char :=
  if c = '\\' then ['\\', '\\']
  else if c = '\'' then ['\\', '\'']
  else if c = '"' then ['\\', '"']
  else if c = '\x00' then ['\\', '0']
  else if c = '\n' then ['\\', 'n']
  else if c = '\r' then ['\\', 'r']
  else if c = '\x1a' then ['\\', 'Z']
  else [c]

def textChars (cs : List Char) : List Char :=
  '\'' :: (cs.flatMap escapeChar ++ ['\''])

def quoteText (s : String) : String :=
  String.ofList (textChars s.toList)

mutual

/-- The literal of a value. A list is written as its members, without parentheses. -/
def literal : Value → String
  | .null => "NULL"
  | .bool b => if b then "1" else "0"
  | .int n => toString n.toInt
  | .float x => Number.Layout.plain.write x
  | .text s => quoteText s
  | .datetime dt => quoteText dt.toText
  | .list items => ", ".intercalate (literals items)

def literals : List Value → List String
  | [] => []
  | v :: vs => literal v :: literals vs

end

end Clausal.Sql
