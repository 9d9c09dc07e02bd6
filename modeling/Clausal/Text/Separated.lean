/-!
# Separated text

`splitOnce` cuts a text at the first occurrence of a separator and `splitAll` at every one, from the
left and without overlaps. Joining the parts again gives the text back.
-/

namespace Clausal.Text

/-- What follows `start`, if the text begins with it. -/
def dropStart? : (start cs : List Char) → Option (List Char)
  | [], cs => some cs
  | _ :: _, [] => none
  | s :: start, c :: cs => if s = c then dropStart? start cs else none

theorem eq_append_of_dropStart? {start cs rest : List Char} (h : dropStart? start cs = some rest) :
    cs = start ++ rest := by
  induction start generalizing cs with
  | nil => simpa [dropStart?] using h
  | cons s start ih =>
    cases cs with
    | nil => simp [dropStart?] at h
    | cons c cs =>
      by_cases hc : s = c
      · subst hc
        simp only [dropStart?, if_true] at h
        simp [ih h]
      · simp [dropStart?, hc] at h

@[simp] theorem dropStart?_append (start rest : List Char) :
    dropStart? start (start ++ rest) = some rest := by
  induction start with
  | nil => rfl
  | cons s start ih => simp [dropStart?, ih]

/-- The text before and the text after the first occurrence of `sep`. -/
def splitOnce (sep : List Char) : List Char → Option (List Char × List Char)
  | [] => if sep = [] then some ([], []) else none
  | c :: cs =>
    match dropStart? sep (c :: cs) with
    | some rest => some ([], rest)
    | none => (splitOnce sep cs).map fun (before, after) => (c :: before, after)

theorem eq_append_of_splitOnce {sep cs before after : List Char}
    (h : splitOnce sep cs = some (before, after)) : cs = before ++ sep ++ after := by
  induction cs generalizing before with
  | nil =>
    by_cases hs : sep = []
    · simp only [splitOnce, hs, if_true, Option.some.injEq, Prod.mk.injEq] at h
      simp [← h.1, ← h.2, hs]
    · simp [splitOnce, hs] at h
  | cons c cs ih =>
    rw [splitOnce] at h
    split at h
    · next rest hd =>
      simp only [Option.some.injEq, Prod.mk.injEq] at h
      rw [eq_append_of_dropStart? hd, ← h.1, ← h.2]
      rfl
    · obtain ⟨⟨b, a⟩, hba, he⟩ := Option.map_eq_some_iff.1 h
      simp only [Prod.mk.injEq] at he
      rw [ih (show _ = some (b, after) by rw [hba, he.2]), ← he.1]
      rfl

/-- The parts between the occurrences of `sep`. -/
def splitAll (sep : List Char) (nonempty : sep ≠ []) (cs : List Char) : List (List Char) :=
  match _h : splitOnce sep cs with
  | none => [cs]
  | some (before, after) => before :: splitAll sep nonempty after
termination_by cs.length
decreasing_by
  have := List.length_pos_iff.2 nonempty
  simp [eq_append_of_splitOnce ‹_›]
  omega

end Clausal.Text
