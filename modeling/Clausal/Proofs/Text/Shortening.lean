import Clausal.Text.ByteLength
import Mathlib.Data.List.Infix
import Mathlib.Tactic.Lemma

/-!
# Shortened texts

What is shown of a text that is too long is the longest of its beginnings that fits the limit. A
beginning is made of whole characters, so the limit may fall inside of one.
-/

namespace Clausal.Text

lemma byteLength_eq (cs : List Char) : byteLength cs = (String.ofList cs).utf8ByteSize := by
  induction cs with
  | nil => rfl
  | cons c cs ih =>
    rw [byteLength, ih, String.ofList_cons, String.utf8ByteSize_append,
      String.utf8ByteSize_singleton]

lemma byteLength_toList (s : String) : byteLength s.toList = s.utf8ByteSize := by
  rw [byteLength_eq, String.ofList_toList]

lemma takeBytes_prefix (n : Nat) (cs : List Char) : takeBytes n cs <+: cs := by
  induction cs generalizing n with
  | nil => exact List.prefix_rfl
  | cons c cs ih =>
    rw [takeBytes]
    by_cases fits : c.utf8Size ≤ n
    · rw [if_pos fits]
      exact List.cons_prefix_cons.mpr ⟨rfl, ih _⟩
    · rw [if_neg fits]
      exact List.nil_prefix

/-- Every beginning that fits is a beginning of the one that is taken. -/
lemma prefix_takeBytes {n : Nat} {start cs : List Char} (begins : start <+: cs)
    (fits : byteLength start ≤ n) : start <+: takeBytes n cs := by
  induction start generalizing n cs with
  | nil => exact List.nil_prefix
  | cons c start ih =>
    obtain ⟨rest, rfl⟩ := begins
    rw [byteLength] at fits
    rw [List.cons_append, takeBytes, if_pos (by omega)]
    exact List.cons_prefix_cons.mpr ⟨rfl, ih (List.prefix_append start rest) (by omega)⟩

lemma byteLength_append (before after : List Char) :
    byteLength (before ++ after) = byteLength before + byteLength after := by
  induction before with
  | nil => simp [byteLength]
  | cons c before ih =>
    rw [List.cons_append, byteLength, byteLength, ih]
    omega

lemma eq_nil_of_byteLength {cs : List Char} (empty : byteLength cs = 0) : cs = [] := by
  cases cs with
  | nil => rfl
  | cons c cs =>
    have := c.utf8Size_pos
    rw [byteLength] at empty
    omega

/-- What is shown of a text under a limit in bytes: all of it, or its longest beginning that fits,
marked as a part. -/
inductive Shown (text : String) : Option Nat → String → Prop where
  | whole {limit : Option Nat} (fits : ∀ n ∈ limit, text.utf8ByteSize ≤ n) : Shown text limit text
  | part (n : Nat) (kept dropped : String) (long : n < text.utf8ByteSize)
      (split : text = kept ++ dropped) (fits : kept.utf8ByteSize ≤ n)
      (longest : ∀ more rest, text = more ++ rest → more.utf8ByteSize ≤ n →
        more.utf8ByteSize ≤ kept.utf8ByteSize) :
      Shown text (some n) (kept ++ "...")

lemma shown_shorten (limit : Option Nat) (s : String) : Shown s limit (shorten limit s) := by
  cases limit with
  | none => exact .whole nofun
  | some n =>
    rw [shorten]
    by_cases fits : byteLength s.toList ≤ n
    · rw [if_pos fits]
      rw [byteLength_toList] at fits
      refine .whole ?_
      rintro _ ⟨⟩
      exact fits
    · rw [if_neg fits]
      rw [byteLength_toList] at fits
      obtain ⟨rest, split⟩ := takeBytes_prefix n s.toList
      refine .part n _ (String.ofList rest) (by omega) ?_ ?_ ?_
      · rw [← String.ofList_append, split, String.ofList_toList]
      · rw [← byteLength_eq]
        exact byteLength_takeBytes_le n s.toList
      · rintro more left rfl short
        rw [← byteLength_toList] at short
        rw [← byteLength_eq, ← byteLength_toList]
        obtain ⟨gap, taken⟩ := prefix_takeBytes
          (String.toList_append ▸ List.prefix_append more.toList left.toList) short
        rw [← taken, byteLength_append]
        omega

/-- One text is shown, and it is the shortened one. -/
theorem shown_iff {s shown : String} {limit : Option Nat} :
    Shown s limit shown ↔ shown = shorten limit s := by
  constructor
  · intro h
    cases h with
    | whole fits =>
      cases limit with
      | none => rfl
      | some n => rw [shorten, if_pos (by rw [byteLength_toList]; exact fits n rfl)]
    | part n kept dropped long split fits longest =>
      rw [← byteLength_toList] at long fits
      have split : s.toList = kept.toList ++ dropped.toList := by rw [split, String.toList_append]
      obtain ⟨gap, taken⟩ := prefix_takeBytes (split ▸ List.prefix_append _ _) fits
      obtain ⟨rest, whole⟩ := takeBytes_prefix n s.toList
      have most := longest (String.ofList (takeBytes n s.toList)) (String.ofList rest)
        (by rw [← String.ofList_append, whole, String.ofList_toList])
      rw [← byteLength_eq, ← byteLength_toList, ← taken, byteLength_append] at most
      have short := byteLength_takeBytes_le n s.toList
      rw [← taken, byteLength_append] at short
      obtain rfl : gap = [] := eq_nil_of_byteLength (by have := most short; omega)
      rw [shorten, if_neg (by omega), ← taken, List.append_nil, String.ofList_toList]
  · rintro rfl
    exact shown_shorten limit s

/-- The second character takes two bytes, of which one is left. -/
example : Shown "aé" (some 2) "a..." := shown_iff.mpr rfl

end Clausal.Text
