import Clausal.Proofs.Sql.Rendering
import Clausal.Proofs.Text.LetterCase

/-!
# Percent signs that stand for themselves

Binding reads a percent sign together with the character after it if that is a specifier or another
percent sign. A text where this happens nowhere is inert, and inert texts are all that binding
without arguments leaves as they are. A solid text is left as it is before anything else.
-/

namespace Clausal.Sql

instance (cs : List Char) : Decidable (Apart cs) :=
  match cs with
  | [] => isTrue apart_nil
  | c :: cs => decidable_of_iff (Placeholder.ofChar? c = none ∧ c ≠ '%')
      ⟨fun h => apart_cons cs h.1 h.2, fun h => h c rfl⟩

/-- No percent sign is read together with the character after it. -/
def Inert : List Char → Prop
  | [] => True
  | c :: cs => (c = '%' → Apart cs) ∧ Inert cs

instance decidableInert : (cs : List Char) → Decidable (Inert cs)
  | [] => isTrue trivial
  | c :: cs =>
    have := decidableInert cs
    inferInstanceAs (Decidable ((c = '%' → Apart cs) ∧ Inert cs))

lemma inert_cons {c : Char} (hc : c ≠ '%') (cs : List Char) : Inert (c :: cs) ↔ Inert cs := by
  simp [Inert, hc]

lemma inert_of_percentFree {cs : List Char} (h : '%' ∉ cs) : Inert cs := by
  induction cs with
  | nil => trivial
  | cons c cs ih =>
    obtain ⟨hc, hcs⟩ := not_or.mp (fun h' => h (List.mem_cons.mpr h'))
    exact (inert_cons (Ne.symm hc) cs).mpr (ih hcs)

lemma inert_append_of_percentFree {cs : List Char} (h : '%' ∉ cs) (rest : List Char) :
    Inert (cs ++ rest) ↔ Inert rest := by
  induction cs with
  | nil => rfl
  | cons c cs ih =>
    obtain ⟨hc, hcs⟩ := not_or.mp (fun h' => h (List.mem_cons.mpr h'))
    rw [List.cons_append, inert_cons (Ne.symm hc), ih hcs]

/-! ## Trimming and upper-casing -/

lemma Inert.of_isInfix {cs ds : List Char} (h : Inert ds) (within : cs <:+: ds) : Inert cs := by
  obtain ⟨front, back, rfl⟩ := within
  rw [List.append_assoc] at h
  induction front with
  | cons c front ih => exact ih h.2
  | nil =>
    induction cs with
    | nil => trivial
    | cons c cs ih =>
      refine ⟨fun hc => ?_, ih h.2⟩
      cases cs with
      | nil => exact apart_nil
      | cons d cs => exact h.1 hc

lemma not_special_of_capital {c : Char} (h : Text.Capital c.toNat) :
    Placeholder.ofChar? c = none ∧ c ≠ '%' := by
  have other (d : Char) (hd : ¬ Text.Capital d.toNat) : c ≠ d := by
    rintro rfl
    exact hd h
  refine ⟨?_, other '%' (by decide)⟩
  rw [Placeholder.ofChar?, if_neg (other 's' (by decide)), if_neg (other 'd' (by decide)),
    if_neg (other 'f' (by decide))]

lemma Apart.upperCased {cs : List Char} (h : Apart cs) : Apart (cs.flatMap Text.upperChar) := by
  cases cs with
  | nil => exact apart_nil
  | cons c cs =>
    obtain ⟨d, ds, hd⟩ := List.exists_cons_of_ne_nil (Text.upperChar_ne_nil c)
    have first : d ∈ Text.upperChar c := hd ▸ List.mem_cons_self
    rw [List.flatMap_cons, hd, List.cons_append]
    rcases Text.eq_or_capital_of_mem_upperChar first with rfl | capital
    · exact h
    · obtain ⟨specifier, percent⟩ := not_special_of_capital capital
      exact apart_cons _ specifier percent

lemma Inert.upperCased {cs : List Char} (h : Inert cs) : Inert (cs.flatMap Text.upperChar) := by
  induction cs with
  | nil => trivial
  | cons c cs ih =>
    obtain ⟨apart, tail⟩ := h
    rw [List.flatMap_cons]
    by_cases hc : c = '%'
    · subst hc
      exact ⟨fun _ => (apart rfl).upperCased, ih tail⟩
    · have free : '%' ∉ Text.upperChar c := by
        intro mem
        rcases Text.eq_or_capital_of_mem_upperChar mem with same | capital
        · exact hc same.symm
        · exact (not_special_of_capital capital).2 rfl
      exact (inert_append_of_percentFree free _).mpr (ih tail)

/-- No percent sign meets another character when a text is trimmed and upper-cased. -/
lemma inert_written (s : String) (h : Inert s.toList) :
    Inert (Text.uppercase (Text.trim s)).toList := by
  rw [Text.uppercase, Text.trim, String.toList_ofList, String.toList_ofList]
  exact (h.of_isInfix (Text.strip_isInfix _)).upperCased

/-! ## Binding without arguments -/

lemma Inert.binds {cs : List Char} (h : Inert cs) : Binds cs [] cs := by
  induction cs with
  | nil => exact .nil
  | cons c cs ih =>
    obtain ⟨apart, tail⟩ := h
    by_cases hc : c = '%'
    · subst hc
      exact .lone_cons (apart rfl) (ih tail)
    · exact .cons hc (ih tail)

lemma map_eq_ok {x : Except Error (List Char)} {f : List Char → List Char} {out : List Char}
    (h : x.map f = .ok out) : ∃ cs, x = .ok cs ∧ f cs = out := by
  cases x with
  | ok cs => exact ⟨cs, rfl, Except.ok.inj h⟩
  | error e => cases h

/-- Nothing grows that takes no argument, so only an inert text comes out as it went in. -/
lemma fill_nil {expected : Nat} {cs out : List Char} (h : fill expected cs [] = .ok out) :
    out.length ≤ cs.length ∧ (out = cs → Inert cs) := by
  induction cs using placeholders.induct generalizing out with
  | case1 =>
    obtain rfl := Except.ok.inj h
    exact ⟨Nat.le_refl _, fun _ => trivial⟩
  | case2 c =>
    obtain rfl := Except.ok.inj h
    exact ⟨Nat.le_refl _, fun _ => ⟨fun _ => apart_nil, trivial⟩⟩
  | case3 d rest ih =>
    cases hd : Placeholder.ofChar? d with
    | some p => simp [fill, hd] at h
    | none =>
      by_cases hp : d = '%'
      · subst hp
        have step : fill expected ('%' :: '%' :: rest) [] =
            (fill expected rest []).map ('%' :: ·) := by
          simp only [fill, if_true, hd]
          rfl
        obtain ⟨tail, ht, rfl⟩ := map_eq_ok (step ▸ h)
        have short := (ih ht).1
        refine ⟨by simp only [List.length_cons]; omega, fun same => ?_⟩
        have long := congrArg List.length same
        simp only [List.length_cons] at long
        omega
      · have step : fill expected ('%' :: d :: rest) [] =
            (fill expected (d :: rest) []).map ('%' :: ·) := by
          simp only [fill, if_true, hd, if_neg hp]
          rfl
        rw [step, fill_cons expected hp] at h
        obtain ⟨_, hm, rfl⟩ := map_eq_ok h
        obtain ⟨tail, ht, rfl⟩ := map_eq_ok hm
        obtain ⟨short, inert⟩ := ih ht
        refine ⟨by simp only [List.length_cons]; omega, fun same => ?_⟩
        have tails : tail = rest := (List.cons.inj (List.cons.inj same).2).2
        exact ⟨fun _ => apart_cons rest hd hp, (inert_cons hp rest).mpr (inert tails)⟩
  | case4 c d rest hc ih =>
    rw [fill_cons expected hc] at h
    obtain ⟨tail, ht, rfl⟩ := map_eq_ok h
    obtain ⟨short, inert⟩ := ih ht
    refine ⟨by simp only [List.length_cons] at short ⊢; omega, fun same => ?_⟩
    exact (inert_cons hc _).mpr (inert (List.cons.inj same).2)

/-- Binding without arguments leaves the inert texts as they are, and no others. -/
theorem bind_nil_eq_self_iff (s : String) : bind s [] = .ok s ↔ Inert s.toList := by
  constructor
  · intro h
    simp only [bind] at h
    split at h
    · obtain ⟨out, ho, same⟩ : ∃ out, fill (placeholders s.toList) s.toList [] = .ok out ∧
          String.ofList out = s := by
        cases hf : fill (placeholders s.toList) s.toList [] with
        | ok out => exact ⟨out, rfl, by simpa [hf, Except.map] using h⟩
        | error e => simp [hf, Except.map] at h
      refine (fill_nil ho).2 ?_
      rw [← same, String.toList_ofList]
    · cases h
  · intro h
    have bound := h.binds.bind_eq
    rwa [String.ofList_toList] at bound

/-! ## Names -/

lemma apart_doubled {cs : List Char} :
    Apart (cs.flatMap (fun c => if c = backtick then [backtick, backtick] else [c]) ++ [backtick]) ↔
      Apart cs := by
  cases cs with
  | nil => decide
  | cons c cs =>
    by_cases hc : c = backtick
    · subst hc
      simp [Apart]
    · simp [Apart, hc]

/-- Quoting does not tell a percent sign from its successor, and joins none with one. -/
lemma inert_nameChars {cs : List Char} : Inert (nameChars cs) ↔ Inert cs := by
  have other : backtick ≠ '%' := by decide
  rw [nameChars, inert_cons other]
  induction cs with
  | nil => decide
  | cons c cs ih =>
    by_cases hc : c = backtick
    · subst hc
      simp only [List.flatMap_cons, if_true, List.cons_append, List.nil_append, inert_cons other,
        ih]
    · simp only [List.flatMap_cons, if_neg hc, List.cons_append, List.nil_append, Inert, ih,
        apart_doubled]

/-- A quoted name is bound to itself only if the name is inert: quoting protects no percent sign. -/
theorem bind_quoteName_eq_self_iff (name : String) :
    bind (quoteName name) [] = .ok (quoteName name) ↔ Inert name.toList := by
  rw [bind_nil_eq_self_iff, quoteName, String.toList_ofList, inert_nameChars]

/-! ## Solid texts -/

/-- Binding leaves the text as it is, whatever follows. -/
def Solid (s : String) : Prop :=
  ∀ (part out : List Char) (args : List Value), Binds part args out →
    Binds (s.toList ++ part) args (s.toList ++ out)

lemma Solid.of_percentFree {s : String} (hs : PercentFree s) : Solid s :=
  fun _ _ _ h => h.text_append hs

lemma Solid.append {s t : String} (hs : Solid s) (ht : Solid t) : Solid (s ++ t) := by
  intro part out args h
  simpa only [String.toList_append, List.append_assoc] using hs _ _ _ (ht _ _ _ h)

lemma Solid.intercalate {separator : String} (hs : Solid separator) {l : List String}
    (hl : ∀ s ∈ l, Solid s) : Solid (separator.intercalate l) := by
  induction l with
  | nil => exact .of_percentFree (by simp [PercentFree])
  | cons s rest ih =>
    rw [List.forall_mem_cons] at hl
    cases rest with
    | nil => simpa using hl.1
    | cons t rest =>
      rw [String.intercalate_cons_cons]
      exact (hl.1.append hs).append (ih hl.2)

/-- A text that does not end in a percent sign completes nothing with what follows. -/
lemma Inert.solid {cs : List Char} (h : Inert cs) (last : cs.getLast? ≠ some '%') :
    Solid (String.ofList cs) := by
  intro part out args hp
  rw [String.toList_ofList]
  induction cs with
  | nil => exact hp
  | cons c cs ih =>
    obtain ⟨apart, tail⟩ := h
    by_cases hc : c = '%'
    · subst hc
      cases cs with
      | nil => exact absurd rfl last
      | cons d rest =>
        have next := ih tail (by simpa using last)
        exact .lone_cons (apart rfl) next
    · refine .cons hc (ih tail ?_)
      cases cs with
      | nil => simp
      | cons d rest => simpa using last

/-- Nor does one that is followed by a separator. -/
lemma Inert.solid_append {s t : String} (h : Inert s.toList) (ht : Separates t) :
    Solid (s ++ t) := by
  intro part out args hp
  have apart : Apart (t.toList ++ part) := by
    obtain ⟨c, cs, hc⟩ := List.exists_cons_of_ne_nil ht.nonempty
    intro d hd
    refine ht.apart d ?_
    simpa [hc] using hd
  have whole := h.binds.append (hp.text_append ht.percent) apart
  simpa only [String.toList_append, List.append_assoc, List.nil_append] using whole

lemma solid_quoteName {name : String} (h : Inert name.toList) : Solid (quoteName name) := by
  refine Inert.solid (inert_nameChars.mpr h) ?_
  rw [nameChars, ← List.cons_append, List.getLast?_concat]
  decide

lemma Aligned.solid_cons {s : String} {ps : List Piece} (hs : Solid s) (hp : Aligned ps) :
    Aligned (.text s :: ps) :=
  hs _ _ _ hp

lemma Aligned.solid {s : String} (hs : Solid s) : Aligned [.text s] :=
  nil.solid_cons hs

-- A text that a call writes is upper-cased by tables: `Inert` of it is never to be evaluated.
attribute [irreducible] Inert

end Clausal.Sql
