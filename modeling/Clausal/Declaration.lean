import Clausal.Text.Snake

/-!
# Record declarations

A declared type becomes a record type if it is a structure with named fields, exactly one of which
holds the attributes. Markings name the table and the casts; a table that is not named is the
name of the type in snake case. What is wrong is reported in the order of the text, the shape first
and the field for the attributes last.
-/

namespace Clausal

namespace Declaration

/-- The kind of item that is declared. -/
inductive Shape where
  | named
  | tuple
  | unit
  | choice
  | union
  deriving DecidableEq, Repr

/-- The right-hand side of `name = literal`. -/
inductive Literal where
  | text (s : String)
  | other
  deriving DecidableEq, Repr

/-- One entry of a cast list: `column = literal`, or `column(direction = path, …)`. -/
inductive CastEntry where
  | named (column : List String) (kind : Literal)
  | custom (column : List String) (directions : List (String × List String))
  deriving DecidableEq, Repr

/-- One entry of a marking. -/
inductive Entry where
  | word (name : String)
  | assign (name : String) (value : Literal)
  | casts (entries : List CastEntry)
  deriving DecidableEq, Repr

structure Marking where
  path : String
  entries : List Entry
  deriving DecidableEq, Repr

/-- The type of a field, as far as it tells where attributes are held. -/
inductive FieldType where
  | path (segments : List String)
  | other
  deriving DecidableEq, Repr

structure Field where
  name : String
  type : FieldType
  markings : List Marking := []
  deriving DecidableEq, Repr

structure Item where
  name : String
  shape : Shape
  markings : List Marking := []
  fields : List Field := []
  deriving DecidableEq, Repr

inductive Fault where
  | notStructure
  | notNamed
  | unknownCast (name : String)
  | columnName
  | direction
  | unsupported
  | noAttributes
  | severalAttributes
  /-- A list without entries. -/
  | noEntry
  | notText
  | noEquals
  | noParentheses
  | endedBeforeParentheses
  deriving DecidableEq, Repr

/-- The cast names that may be declared, in any letter case. -/
def castNames : List String :=
  ["int", "integer", "float", "number", "boolean", "bool", "datetime"]

def Fault.message : Fault → String
  | .notStructure => "Record can only be derived for structs"
  | .notNamed => "Record can only be derived for structs with named fields"
  | .unknownCast name =>
    "unknown cast '" ++ name ++ "', expected one of: " ++ ", ".intercalate castNames
  | .columnName => "expected a column name"
  | .direction => "expected \x60cast\x60 or \x60decast\x60"
  | .unsupported => "unsupported record attribute, expected \x60table\x60 or \x60casts\x60"
  | .noAttributes =>
    "Record requires a field of type \x60Attributes\x60 (or marked \x60#[record(attributes)]\x60)"
  | .severalAttributes => "Record allows only one \x60Attributes\x60 field"
  | .noEntry => "unexpected end of input, expected nested attribute"
  | .notText => "expected string literal"
  | .noEquals => "expected \x60=\x60"
  | .noParentheses => "expected parentheses"
  | .endedBeforeParentheses => "unexpected end of input, expected parentheses"

/-- A declared cast; the paths name transforms. -/
inductive CastSpec where
  | named (kind : String)
  | custom (cast decast : Option (List String))
  deriving DecidableEq, Repr

/-- What the markings read so far declare. -/
structure Settings where
  table : Option String := none
  casts : Option (List (String × CastSpec)) := none
  deriving DecidableEq, Repr

/-- Of several paths for a direction the last counts. -/
def readDirections (cast decast : Option (List String)) :
    List (String × List String) → Except Fault CastSpec
  | [] => .ok (.custom cast decast)
  | (name, path) :: rest =>
    if name = "cast" then readDirections (some path) decast rest
    else if name = "decast" then readDirections cast (some path) rest
    else .error .direction

def readColumn : List String → Except Fault String
  | [name] => .ok name
  | _ => .error .columnName

def readCast : CastEntry → Except Fault (String × CastSpec)
  | .named column kind => do
    let column ← readColumn column
    match kind with
    | .other => .error .notText
    | .text name =>
      if castNames.contains (name.map Char.toLower) then .ok (column, .named name)
      else .error (.unknownCast name)
  | .custom column directions => do
    let column ← readColumn column
    if directions.isEmpty then .error .noEntry
    else return (column, ← readDirections none none directions)

/-- Cast lists add up; of several tables the last counts. `last` says that nothing follows. -/
def readEntry (settings : Settings) (last : Bool) : Entry → Except Fault Settings
  | .casts entries =>
    if entries.isEmpty then .error .noEntry
    else do
      let casts ← entries.mapM readCast
      return { settings with casts := some (settings.casts.getD [] ++ casts) }
  | .assign name value =>
    if name = "table" then
      match value with
      | .text table => .ok { settings with table := some table }
      | .other => .error .notText
    else if name = "casts" then .error .noParentheses
    else .error .unsupported
  | .word name =>
    if name = "table" then .error .noEquals
    else if name = "casts" then
      .error (if last then .endedBeforeParentheses else .noParentheses)
    else .error .unsupported

def readEntries (settings : Settings) : List Entry → Except Fault Settings
  | [] => .ok settings
  | entry :: rest => do readEntries (← readEntry settings rest.isEmpty entry) rest

/-- Reads the markings that are meant for records. -/
def readMarkings (markings : List Marking) : Except Fault Settings :=
  (markings.filter (·.path == "record")).foldlM (fun s a => readEntries s a.entries) {}

/-- A field is marked by a sole word, or by the last name of its type. -/
def Field.holdsAttributes (field : Field) : Bool :=
  field.markings.any (fun a => a.path == "record" && a.entries == [.word "attributes"]) ||
    match field.type with
    | .path segments => segments.getLast? == some "Attributes"
    | .other => false

/-- A record type as declared: `none` for the casts means the standard ones. -/
structure Declared where
  table : String
  casts : Option (List (String × CastSpec))
  store : String
  /-- The other fields, which take their default. -/
  defaults : List String
  deriving DecidableEq, Repr

def read (item : Item) : Except Fault Declared :=
  match item.shape with
  | .choice | .union => .error .notStructure
  | .tuple | .unit => .error .notNamed
  | .named => do
    let settings ← readMarkings item.markings
    match item.fields.filter Field.holdsAttributes with
    | [] => .error .noAttributes
    | [store] =>
      let others := (item.fields.map Field.name).filter (· != store.name)
      .ok ⟨settings.table.getD (Text.snakeCase item.name), settings.casts, store.name, others⟩
    | _ => .error .severalAttributes

end Declaration

end Clausal
