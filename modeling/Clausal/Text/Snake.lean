import Clausal.Text.LetterCase

/-!
# Snake case

A name is cut into runs of letters and digits, and a run into words: before an upper-case letter
that follows a lower-case one, and before the last letter of an upper-case run that a lower-case
letter follows. The words are lower-cased and joined by `_`.
-/

namespace Clausal.Text

/-- The case of the letters read so far in a word. -/
inductive WordCase where
  | undecided
  | lower
  | upper
  deriving DecidableEq

def WordCase.after (c : Char) (case : WordCase) : WordCase :=
  if isLowercase c then .lower else if isUppercase c then .upper else case

/-- The words of a run of letters and digits; `word` holds the current one backwards. -/
def caseWords (word : List Char) (case : WordCase) : List Char → List (List Char)
  | [] => []
  | [c] => [(c :: word).reverse]
  | c :: next :: rest =>
    if case.after c = .lower && isUppercase next then
      (c :: word).reverse :: caseWords [] .undecided (next :: rest)
    else if case = .upper && isUppercase c && isLowercase next then
      word.reverse :: caseWords [c] .undecided (next :: rest)
    else
      caseWords (c :: word) (case.after c) (next :: rest)

/-- The maximal runs of letters and digits. -/
def runs (run : List Char) : List Char → List (List Char)
  | [] => if run.isEmpty then [] else [run.reverse]
  | c :: rest =>
    if isAlphanumeric c then runs (c :: run) rest
    else if run.isEmpty then runs [] rest
    else run.reverse :: runs [] rest

def snakeCase (name : String) : String :=
  let words := (runs [] name.toList).flatMap (caseWords [] .undecided)
  "_".intercalate (words.map fun word => String.ofList (lowerWord word))

end Clausal.Text
