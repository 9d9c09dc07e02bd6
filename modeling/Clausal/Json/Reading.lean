import Clausal.Json
import Clausal.Number.Signed
import Clausal.Text.Reader

/-!
# Reading JSON

The grammar of JSON texts. A number without point and exponent is read exactly while it fits 64
bits. Any other is read in two roundings: the digits that fit 64 bits, then their product with, or
quotient by, a power of ten. Arrays and objects are refused at their bracket where too many of them
stand in one another.
-/

namespace Clausal.Json

open Number
open Clausal.Text (Reader)
open Clausal.Text.Reader

def isSpace (c : Char) : Bool :=
  c == ' ' || c == '\n' || c == '\t' || c == '\r'

def skipSpace (cs : List Char) : List Char :=
  cs.dropWhile isSpace

namespace Reading

def space : Reader Unit :=
  modify skipSpace

def peek : Reader (Option Char) := fun cs =>
  some (cs.head?, cs)

def word (w : List Char) : Reader Unit :=
  w.forM literal

/-! ## Numbers -/

def powerOfTen (n : Nat) : Nat :=
  Binary64.roundUnits (Nat.pow 10 n * Binary64.one) 1

/-- A quotient of two magnitudes in units. -/
def quotient (units divisor : Nat) : Nat :=
  Binary64.roundUnits (units * Binary64.one) divisor

/-- A significand times a power of ten, unless that is too large for a number. -/
def scaled (negative : Bool) (significand : Nat) (exponent : Int) : Option Binary64 :=
  let units := Binary64.roundUnits (significand * Binary64.one) 1
  if significand = 0 then some (.finite negative 0)
  else if 308 < exponent then none
  else if 0 ≤ exponent then
    let product := Binary64.roundUnits (units * powerOfTen exponent.toNat) Binary64.one
    if product < Binary64.limit then some (.finite negative product) else none
  else if -308 ≤ exponent then
    some (.finite negative (quotient units (powerOfTen (-exponent).toNat)))
  else if -616 ≤ exponent then
    let low := quotient units (powerOfTen 308)
    some (.finite negative (quotient low (powerOfTen (-exponent - 308).toNat)))
  else some (.finite negative 0)

/-- The digits that a significand of 64 bits can still take. -/
def significand (n : Nat) : List Char → Nat × List Char
  | [] => (n, [])
  | c :: rest =>
    let next := 10 * n + digitValue c
    if isDigit c && next < 18446744073709551616 then significand next rest else (n, c :: rest)

def exponent : Reader Int := do
  if ← optional ['e', 'E'] then
    let negative ← optional ['-']
    let _ ← if negative then pure false else optional ['+']
    let n ← longNumber
    return if negative then -(n : Int) else n
  else return 0

def number : Reader Numeric := do
  let negative ← optional ['-']
  let zero ← optional ['0']
  let first ← peek
  guard (if zero then !first.any isDigit else first.any isDigit)
  let (whole, afterWhole) := significand 0 (← get)
  let dropped := (afterWhole.takeWhile isDigit).length
  set (afterWhole.drop dropped)
  if ← optional ['.'] then
    let places ← get
    guard (places.head?.any isDigit)
    let (all, afterPlaces) := significand whole places
    set (afterPlaces.dropWhile isDigit)
    let read : Int := (places.length - afterPlaces.length : Nat)
    let x ← ofOption (scaled negative all ((← exponent) + dropped - read))
    return .real x
  else
    let marked := (← peek).any fun c => c == 'e' || c == 'E'
    if marked || 0 < dropped then
      let x ← ofOption (scaled negative whole ((← exponent) + dropped))
      return .real x
    else if !negative then return .natural (UInt64.ofNat whole)
    else match if whole = 0 then none else signed? (-(whole : Int)) with
      | some n => return .negative n
      | none => return .real (Binary64.ofRatio true whole 1)

/-! ## Strings -/

def hexValue? (c : Char) : Option Nat :=
  if isDigit c then some (digitValue c)
  else if 'a' ≤ c && c ≤ 'f' then some (c.toNat - 'a'.toNat + 10)
  else if 'A' ≤ c && c ≤ 'F' then some (c.toNat - 'A'.toNat + 10)
  else none

def hexDigits : Reader Nat := fun
  | a :: b :: c :: d :: rest => do
    let n := (← hexValue? a) * 4096 + (← hexValue? b) * 256 + (← hexValue? c) * 16 + (← hexValue? d)
    some (n, rest)
  | _ => none

/-- A code unit of four digits; a leading surrogate has to be followed by a trailing one. -/
def escapedUnit : Reader Char := do
  let n ← hexDigits
  if 0xDC00 ≤ n ∧ n ≤ 0xDFFF then failure
  else if 0xD800 ≤ n ∧ n ≤ 0xDBFF then
    literal '\\'
    literal 'u'
    let m ← hexDigits
    guard (0xDC00 ≤ m ∧ m ≤ 0xDFFF)
    return Char.ofNat (0x10000 + (n - 0xD800) * 1024 + (m - 0xDC00))
  else return Char.ofNat n

def escaped : Reader Char := fun
  | '"' :: rest => some ('"', rest)
  | '\\' :: rest => some ('\\', rest)
  | '/' :: rest => some ('/', rest)
  | 'b' :: rest => some ('\x08', rest)
  | 'f' :: rest => some ('\x0c', rest)
  | 'n' :: rest => some ('\n', rest)
  | 'r' :: rest => some ('\r', rest)
  | 't' :: rest => some ('\t', rest)
  | 'u' :: rest => escapedUnit rest
  | _ => none

/-- The characters up to the closing quote. -/
def characters : Nat → Reader (List Char)
  | 0, _ => none
  | _, [] => none
  | fuel + 1, c :: rest =>
    if c = '"' then some ([], rest)
    else if c = '\\' then do
      let (d, rest) ← escaped rest
      let (ds, rest) ← characters fuel rest
      some (d :: ds, rest)
    else if c.toNat < 0x20 then none
    else do
      let (ds, rest) ← characters fuel rest
      some (c :: ds, rest)

def string : Reader String := do
  literal '"'
  let cs ← fun cs => characters cs.length cs
  return String.ofList cs

/-! ## Documents -/

/-- How many arrays and objects may stand in one another. -/
def nestingLimit : Nat := 127

mutual

/-- A document in which no more than `depth` arrays and objects stand in one another. -/
def value : Nat → Nat → Reader Json
  | _, 0 => failure
  | depth, fuel + 1 => do
    space
    match ← peek with
    | some 'n' => word ['n', 'u', 'l', 'l']; return .null
    | some 't' => word ['t', 'r', 'u', 'e']; return .bool true
    | some 'f' => word ['f', 'a', 'l', 's', 'e']; return .bool false
    | some '"' => return .string (← string)
    | some '[' =>
      guard (0 < depth)
      literal '['
      space
      if ← optional [']'] then return .array []
      else return .array (← elements (depth - 1) fuel)
    | some '\x7b' =>
      guard (0 < depth)
      literal '\x7b'
      space
      if ← optional ['\x7d'] then return .object []
      else return .object (← members (depth - 1) fuel)
    | _ => return .number (← number)

def elements : Nat → Nat → Reader (List Json)
  | _, 0 => failure
  | depth, fuel + 1 => do
    let j ← value depth fuel
    space
    if ← optional [','] then return j :: (← elements depth fuel)
    else
      literal ']'
      return [j]

def members : Nat → Nat → Reader (List (String × Json))
  | _, 0 => failure
  | depth, fuel + 1 => do
    space
    let name ← string
    space
    literal ':'
    let j ← value depth fuel
    space
    if ← optional [','] then return (name, j) :: (← members depth fuel)
    else
      literal '\x7d'
      return [(name, j)]

end

/-- A value with as much fuel as the text can need: two steps for each character. -/
def document (depth : Nat) : Reader Json := fun cs =>
  value depth (2 * cs.length + 2) cs

/-- A document that stands in one array or object already. -/
def nested : Reader Json := document (nestingLimit - 1)

end Reading

/-- The document that the whole text writes. -/
def read? (s : String) : Option Json :=
  (do
    let j ← Reading.document Reading.nestingLimit
    Reading.space
    return j : Reader Json).whole s.toList

end Clausal.Json
