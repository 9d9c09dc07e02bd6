import Clausal.Text.Blank
import Clausal.Text.LetterCase
import Mathlib.Tactic.Lemma

/-!
# What a change of case writes

Upper-casing keeps a character or puts capital letters in its place: those from `A` to `Z` and
characters beyond ASCII. Signs, digits and blanks are never made of anything else. Lower-casing
makes no ASCII character of one beyond, except `k`.
-/

namespace Clausal.Text

/-- A capital ASCII letter, or a character beyond ASCII. -/
def Capital (n : Nat) : Prop :=
  (0x41 ≤ n ∧ n ≤ 0x5A) ∨ (0x80 ≤ n ∧ n < 0xD800) ∨ (0xE000 ≤ n ∧ n < 0x110000)

instance (n : Nat) : Decidable (Capital n) := by
  rw [Capital]
  infer_instance

/-- The characters that a run moves stay together. -/
def RunCapital (run : CaseRun) : Prop :=
  let low := run.1 + run.2.2.2
  let high := run.2.1 + run.2.2.2
  (0x41 ≤ low ∧ high ≤ 0x5A) ∨ (0x80 ≤ low ∧ high < 0xD800) ∨ (0xE000 ≤ low ∧ high < 0x110000)

instance (run : CaseRun) : Decidable (RunCapital run) := by
  rw [RunCapital]
  infer_instance

lemma upperRuns_capital : ∀ run ∈ upperRuns, RunCapital run := by decide +kernel

lemma upperExpansions_capital : ∀ e ∈ upperExpansions, ∀ code ∈ e.2, Capital code := by
  decide +kernel

lemma toNat_ofNat_of_capital {n : Nat} (h : Capital n) : (Char.ofNat n).toNat = n := by
  have valid : n.isValidChar := by
    rw [Capital] at h
    rw [Nat.isValidChar]
    omega
  rw [Char.ofNat, dif_pos valid]
  rfl

lemma mem_of_lookup {α β : Type} [BEq α] [LawfulBEq α] {l : List (α × β)} {a : α} {b : β}
    (h : l.lookup a = some b) : (a, b) ∈ l := by
  induction l with
  | nil => cases h
  | cons entry rest ih =>
    obtain ⟨key, value⟩ := entry
    rw [List.lookup_cons] at h
    split at h
    · next same =>
      obtain rfl := eq_of_beq same
      obtain rfl := Option.some.inj h
      exact List.mem_cons_self
    · exact List.mem_cons_of_mem _ (ih h)

lemma capital_of_shiftOf {n : Nat} {offset : Int} (h : shiftOf upperRuns n = some offset) :
    Capital (n + offset).toNat := by
  obtain ⟨⟨first, last, step, offset⟩, hf, rfl⟩ := Option.map_eq_some_iff.mp h
  have within := List.find?_some hf
  have capital := upperRuns_capital _ (List.mem_of_find?_eq_some hf)
  simp only [Bool.and_eq_true, decide_eq_true_eq] at within
  simp only [RunCapital] at capital
  simp only [Capital]
  omega

/-- Each character of an upper-cased one is that character itself or a capital. -/
theorem eq_or_capital_of_mem_upperChar {c d : Char} (h : d ∈ upperChar c) :
    d = c ∨ Capital d.toNat := by
  rw [upperChar, mapCase] at h
  split at h
  · next codes hl =>
    obtain ⟨code, hc, rfl⟩ := List.mem_map.mp h
    have capital := upperExpansions_capital _ (mem_of_lookup hl) code hc
    exact Or.inr (by rwa [toNat_ofNat_of_capital capital])
  · split at h
    · next offset hs =>
      obtain rfl := List.mem_singleton.mp h
      have capital := capital_of_shiftOf hs
      exact Or.inr (by rwa [toNat_ofNat_of_capital capital])
    · exact Or.inl (List.mem_singleton.mp h)

lemma upperExpansions_ne_nil : ∀ e ∈ upperExpansions, e.2 ≠ [] := by decide +kernel

lemma upperChar_ne_nil (c : Char) : upperChar c ≠ [] := by
  rw [upperChar, mapCase]
  split
  · next codes hl =>
    have nonempty := upperExpansions_ne_nil _ (mem_of_lookup hl)
    rwa [ne_eq, List.map_eq_nil_iff]
  · split <;> exact List.cons_ne_nil _ _

lemma strip_isInfix (cs : List Char) : strip cs <:+: cs := by
  have front : strip cs <+: skipBlanks cs := by
    rw [← List.reverse_suffix, strip, List.reverse_reverse]
    exact List.dropWhile_suffix _
  exact front.isInfix.trans (List.dropWhile_suffix _).isInfix

/-- The characters of a trimmed and upper-cased text. -/
theorem mem_uppercase_trim {s : String} {d : Char} (h : d ∈ (uppercase (trim s)).toList) :
    d ∈ s.toList ∨ Capital d.toNat := by
  rw [uppercase, trim] at h
  rw [String.toList_ofList, String.toList_ofList] at h
  obtain ⟨c, hc, hd⟩ := List.mem_flatMap.mp h
  rcases eq_or_capital_of_mem_upperChar hd with rfl | capital
  · exact Or.inl ((strip_isInfix _).mem hc)
  · exact Or.inr capital

/-! ## Lower-casing -/

lemma toLower_eq_self {c : Char} (h : c.toNat < 0x41 ∨ 0x5A < c.toNat) : c.toLower = c := by
  refine dif_neg fun upper => ?_
  have low : 0x41 ≤ c.toNat := upper.1
  have high : c.toNat ≤ 0x5A := upper.2
  omega

lemma lowerChar_of_ascii {c : Char} (ascii : c.toNat < 0x80) : lowerChar c = [c.toLower] := by
  have each : ∀ n < 0x80, lowerChar (Char.ofNat n) = [(Char.ofNat n).toLower] := by decide +kernel
  have := each c.toNat ascii
  rwa [Char.ofNat_toNat] at this

/-- A character beyond ASCII. -/
def Foreign (n : Nat) : Prop :=
  0x80 ≤ n ∧ (n < 0xD800 ∨ 0xE000 ≤ n ∧ n < 0x110000)

instance (n : Nat) : Decidable (Foreign n) := by
  rw [Foreign]
  infer_instance

lemma Foreign.capital {n : Nat} (h : Foreign n) : Capital n := by
  rw [Foreign] at h
  rw [Capital]
  omega

/-- Runs beyond ASCII stay there, but for the sign of the kelvin. -/
lemma lowerRuns_foreign : ∀ run ∈ lowerRuns,
    let low := run.1 + run.2.2.2
    let high := run.2.1 + run.2.2.2
    run.2.1 < 0x80 ∨ low = 0x6B ∧ high = 0x6B ∨
      0x80 ≤ low ∧ (high < 0xD800 ∨ 0xE000 ≤ low ∧ high < 0x110000) := by
  decide +kernel

lemma lowerExpansions_foreign : ∀ e ∈ lowerExpansions, ∃ code ∈ e.2, Foreign code := by
  decide +kernel

/-- A character beyond ASCII moves to one of its kind, or to `k`. -/
lemma foreign_of_shiftOf {n : Nat} {offset : Int} (h : shiftOf lowerRuns n = some offset)
    (foreign : 0x80 ≤ n) : (n + offset).toNat = 0x6B ∨ Foreign (n + offset).toNat := by
  obtain ⟨⟨first, last, step, offset⟩, hf, rfl⟩ := Option.map_eq_some_iff.mp h
  have within := List.find?_some hf
  have run := lowerRuns_foreign _ (List.mem_of_find?_eq_some hf)
  simp only [Bool.and_eq_true, decide_eq_true_eq] at within run
  simp only [Foreign]
  omega

lemma exists_foreign_of_lowerChar {c : Char} (foreign : 0x80 ≤ c.toNat) :
    ∃ d ∈ lowerChar c, d = 'k' ∨ 0x80 ≤ d.toNat := by
  rw [lowerChar, mapCase]
  split
  · next codes hl =>
    obtain ⟨code, mem, h⟩ := lowerExpansions_foreign _ (mem_of_lookup hl)
    exact ⟨_, List.mem_map_of_mem mem, .inr (by rw [toNat_ofNat_of_capital h.capital]; exact h.1)⟩
  · split
    · next offset hs =>
      refine ⟨_, List.mem_singleton_self _, ?_⟩
      rcases foreign_of_shiftOf hs foreign with kelvin | h
      · rw [kelvin]
        exact .inl rfl
      · exact .inr (by rw [toNat_ofNat_of_capital h.capital]; exact h.1)
    · exact ⟨c, List.mem_singleton_self c, .inr foreign⟩

/-- The second text is the first one in lower case, with `σ` or `ς` for a `Σ` as its place wants. -/
inductive Lowers : List Char → List Char → Prop
  | nil : Lowers [] []
  | char {cs ds : List Char} (c : Char) : Lowers cs ds → Lowers (c :: cs) (lowerChar c ++ ds)
  | final {cs ds : List Char} : Lowers cs ds → Lowers ('Σ' :: cs) ('ς' :: ds)

lemma lowers_lowerWord (cs : List Char) : Lowers cs (lowerWord cs) := by
  fun_induction lowerWord cs with
  | case1 => exact .nil
  | case2 => exact .final .nil
  | case3 c _ => simpa using Lowers.char c .nil
  | case4 c rest _ ih => exact .char c ih

namespace Lowers

variable {cs ds : List Char}

lemma eq_of_ascii (h : Lowers cs ds) (ascii : ∀ c ∈ cs, c.toNat < 0x80) :
    ds = cs.map Char.toLower := by
  induction h with
  | nil => rfl
  | char c _ ih =>
    rw [List.forall_mem_cons] at ascii
    rw [lowerChar_of_ascii ascii.1, ih ascii.2]
    rfl
  | final => exact absurd (ascii 'Σ' List.mem_cons_self) (by decide)

lemma ascii_of_plain (h : Lowers cs ds) (plain : ∀ d ∈ ds, d ≠ 'k' ∧ d.toNat < 0x80) :
    ∀ c ∈ cs, c.toNat < 0x80 := by
  induction h with
  | nil => exact nofun
  | char c _ ih =>
    rw [List.forall_mem_append] at plain
    refine List.forall_mem_cons.mpr ⟨Nat.lt_of_not_le fun foreign => ?_, ih plain.2⟩
    obtain ⟨d, mem, kelvin | beyond⟩ := exists_foreign_of_lowerChar foreign
    · exact (plain.1 d mem).1 kelvin
    · exact absurd (plain.1 d mem).2 (Nat.not_lt.mpr beyond)
  | final => exact absurd (plain 'ς' List.mem_cons_self).2 (by decide)

/-- For a word in ASCII without a `k` it is enough to lower the letters of ASCII: of the characters
beyond, only the sign of the kelvin is lowered to one of ASCII. -/
theorem eq_iff_of_plain (h : Lowers cs ds) {word : List Char}
    (plain : ∀ d ∈ word, d ≠ 'k' ∧ d.toNat < 0x80) : ds = word ↔ cs.map Char.toLower = word := by
  constructor
  · rintro rfl
    exact (h.eq_of_ascii (h.ascii_of_plain plain)).symm
  · rintro rfl
    refine h.eq_of_ascii fun c mem => ?_
    have lowered := (plain _ (List.mem_map_of_mem mem)).2
    refine Nat.lt_of_not_le fun foreign => ?_
    rw [toLower_eq_self (by omega)] at lowered
    omega

end Lowers

end Clausal.Text
