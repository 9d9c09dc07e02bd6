import Clausal.Text.Reader
import Mathlib.Tactic.Lemma

/-!
# Steps of readers

What a reader leaves is what the next one begins with. A character that is expected is taken; one
that is optional is left where another one stands. Digits are taken up to the first character that
is none.
-/

namespace Clausal

open Number (isDigit valueOf)

namespace Text

lemma skipBlanks_of_head? {cs : List Char} (h : ∀ c ∈ cs.head?, isBlank c = false) :
    skipBlanks cs = cs := by
  cases cs with
  | nil => rfl
  | cons c cs =>
    rw [skipBlanks, List.dropWhile_cons, h c rfl]
    rfl

/-- A text with no blank at its ends is all that is left of it. -/
lemma strip_of_ends {cs : List Char} (first : ∀ c ∈ cs.head?, isBlank c = false)
    (last : ∀ c ∈ cs.getLast?, isBlank c = false) : strip cs = cs := by
  have back : cs.reverse.dropWhile isBlank = cs.reverse :=
    skipBlanks_of_head? (by rwa [List.head?_reverse])
  rw [strip, skipBlanks_of_head? first, back, List.reverse_reverse]

namespace Reader

variable {α β : Type} {r : Reader α} {f : α → Reader β} {cs rest : List Char} {a : α}

lemma bind_of_some (h : r cs = some (a, rest)) : (r >>= f) cs = f a rest := by
  change (r cs).bind (fun p => f p.1 p.2) = f a rest
  rw [h]
  rfl

lemma bind_of_none (h : r cs = none) : (r >>= f) cs = none := by
  change (r cs).bind (fun p => f p.1 p.2) = none
  rw [h]
  rfl

/-- A reader that reads under a condition only. -/
lemma bind_of_ite {p : Prop} [Decidable p] (h : r cs = if p then some (a, rest) else none) :
    (r >>= f) cs = if p then f a rest else none := by
  by_cases hp : p
  · rw [if_pos hp] at h ⊢
    exact bind_of_some h
  · rw [if_neg hp] at h ⊢
    exact bind_of_none h

lemma literal_cons (c : Char) (rest : List Char) : literal c (c :: rest) = some ((), rest) := by
  rw [literal, if_pos rfl]

lemma optional_of_mem {c : Char} {cs : List Char} (h : c ∈ cs) (rest : List Char) :
    optional cs (c :: rest) = some (true, rest) := by
  rw [optional, if_pos h]

lemma optional_of_head? {cs rest : List Char} (h : ∀ c ∈ rest.head?, c ∉ cs) :
    optional cs rest = some (false, rest) := by
  cases rest with
  | nil => rfl
  | cons c rest => rw [optional, if_neg (h c rfl)]

/-- What comes out of two readers comes out of the second, after the first. -/
lemma exists_of_bind {b : β} (h : (r >>= f) cs = some (b, rest)) :
    ∃ a middle, r cs = some (a, middle) ∧ f a middle = some (b, rest) := by
  change (r cs).bind (fun p => f p.1 p.2) = some (b, rest) at h
  obtain ⟨⟨a, middle⟩, first, second⟩ := Option.bind_eq_some_iff.mp h
  exact ⟨a, middle, first, second⟩

lemma bind_guard {p : Prop} [Decidable p] {f : Unit → Reader β} (h : p) :
    (guard p >>= f) cs = f () cs := by
  have passed : (guard p : Reader Unit) = pure () := if_pos h
  rw [passed]
  rfl

lemma bind_get {f : List Char → Reader β} : (get >>= f) cs = f cs cs := rfl

lemma bind_set {f : PUnit → Reader β} : (set rest >>= f) cs = f ⟨⟩ rest := rfl

lemma whole_of_some (h : r cs = some (a, [])) : r.whole cs = some a := by
  rw [whole, h]

lemma exists_of_whole (h : r.whole cs = some a) : r cs = some (a, []) := by
  unfold whole at h
  split at h
  · next b found =>
    obtain rfl := Option.some.inj h
    exact found
  · cases h

lemma ofOption_some (a : α) (cs : List Char) : ofOption (some a) cs = some (a, cs) := rfl

lemma eq_some_of_ofOption {o : Option α} (h : ofOption o cs = some (a, rest)) : o = some a := by
  obtain ⟨b, same, pair⟩ := Option.map_eq_some_iff.mp h
  rw [same, (Prod.mk.inj pair).1]

/-! ## Blanks and digits -/

lemma blanks_of_head? (h : ∀ c ∈ cs.head?, isBlank c = false) : blanks cs = some ((), cs) := by
  change some ((), skipBlanks cs) = some ((), cs)
  rw [skipBlanks_of_head? h]

variable {ds : List Char} {least most : Nat}

/-- Digits before anything else are all taken, if there are not too few and not too many. -/
lemma digits_append (digits : ∀ d ∈ ds, isDigit d = true) (enough : least ≤ ds.length)
    (fits : ds.length ≤ most) (ends : ∀ c ∈ rest.head?, isDigit c = false) :
    Reader.digits least most (ds ++ rest) = some (ds, rest) := by
  have taken : ((ds ++ rest).take most).takeWhile isDigit = ds := by
    rw [List.take_append, List.take_of_length_le fits, List.takeWhile_append_of_pos digits]
    have stop : (rest.take (most - ds.length)).takeWhile isDigit = [] := by
      cases rest with
      | nil => simp
      | cons c rest =>
        cases most - ds.length with
        | zero => simp
        | succ n => rw [List.take_succ_cons, List.takeWhile_cons, ends c rfl]; rfl
    rw [stop, List.append_nil]
  rw [Reader.digits]
  simp only [taken, List.drop_left]
  rw [if_neg (by omega)]

lemma number_append (digits : ∀ d ∈ ds, isDigit d = true) (enough : least ≤ ds.length)
    (fits : ds.length ≤ most) (ends : ∀ c ∈ rest.head?, isDigit c = false) :
    number least most (ds ++ rest) = some (valueOf ds, rest) := by
  change (Reader.digits least most (ds ++ rest)).bind _ = _
  rw [digits_append digits enough fits ends]
  rfl

lemma longNumber_append (digits : ∀ d ∈ ds, isDigit d = true) (some : ds ≠ [])
    (ends : ∀ c ∈ rest.head?, isDigit c = false) :
    longNumber (ds ++ rest) = .some (valueOf ds, rest) :=
  number_append digits (List.length_pos_iff.mpr some) (by simp) ends

/-- Digits that were read are digits, and not too many. -/
lemma of_digits (h : Reader.digits least most cs = some (ds, rest)) :
    (∀ d ∈ ds, isDigit d = true) ∧ ds.length ≤ most := by
  unfold Reader.digits at h
  dsimp only at h
  split at h
  · cases h
  · obtain ⟨rfl, -⟩ := Prod.mk.inj (Option.some.inj h)
    refine ⟨fun d mem => List.all_eq_true.mp List.all_takeWhile d mem, ?_⟩
    exact Nat.le_trans (List.takeWhile_sublist _).length_le (List.length_take_le _ _)

end Reader

end Text

end Clausal
