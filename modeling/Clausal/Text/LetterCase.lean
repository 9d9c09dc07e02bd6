import Clausal.Text.CaseTable
import Clausal.Text.ClassTable

/-!
# Letter case

Upper-casing a text maps each character on its own, to one character or to several. Lower-casing a
single character does the same; a word that is lowered as a whole ends in `ς` where it ended in `Σ`.
-/

namespace Clausal.Text

/-- The offset of the run that holds `n`, if one does. -/
def shiftOf (runs : List CaseRun) (n : Nat) : Option Int :=
  (runs.find? fun (first, last, step, _) =>
    first ≤ n && n ≤ last && (n - first) % step == 0).map fun (_, _, _, offset) => offset

def mapCase (runs : List CaseRun) (expansions : List (Nat × List Nat)) (c : Char) : List Char :=
  match expansions.lookup c.toNat with
  | some codes => codes.map Char.ofNat
  | none => match shiftOf runs c.toNat with
    | some offset => [Char.ofNat (c.toNat + offset).toNat]
    | none => [c]

def upperChar (c : Char) : List Char :=
  mapCase upperRuns upperExpansions c

def lowerChar (c : Char) : List Char :=
  mapCase lowerRuns lowerExpansions c

def uppercase (s : String) : String :=
  String.ofList (s.toList.flatMap upperChar)

def inRuns (runs : List ClassRun) (c : Char) : Bool :=
  runs.any fun (first, last, step) =>
    first ≤ c.toNat && c.toNat ≤ last && (c.toNat - first) % step == 0

def isUppercase (c : Char) : Bool :=
  inRuns uppercaseRuns c

def isLowercase (c : Char) : Bool :=
  inRuns lowercaseRuns c

def isAlphanumeric (c : Char) : Bool :=
  alphanumericRanges.any fun (first, last) => first ≤ c.toNat && c.toNat ≤ last

/-- Lower-cases a word; a final `Σ` becomes `ς`. -/
def lowerWord : List Char → List Char
  | [] => []
  | [c] => if c = 'Σ' then ['ς'] else lowerChar c
  | c :: rest => lowerChar c ++ lowerWord rest

/-- Equality that does not tell the two cases of an ASCII letter apart. -/
def equalIgnoringCase (s t : String) : Bool :=
  s.toList.map Char.toLower == t.toList.map Char.toLower

end Clausal.Text
