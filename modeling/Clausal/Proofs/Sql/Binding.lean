import Clausal.Sql.Template
import Mathlib.Tactic.Lemma

/-!
# Binding part by part

A template that is bound in parts gives the parts' texts in order. One thing can go wrong where two
parts meet: a percent sign at the end of the first reads the character that follows it. `Apart` says
that a text begins with no such character, and `Binds` is what a part promises before every text
that stands apart.
-/

namespace Clausal.Sql

/-- No percent sign before the text reads its first character as a specifier. -/
def Apart (cs : List Char) : Prop :=
  ∀ c ∈ cs.head?, Placeholder.ofChar? c = none ∧ c ≠ '%'

lemma apart_nil : Apart [] := by
  intro c h
  cases h

lemma apart_cons {c : Char} (cs : List Char) (hc : Placeholder.ofChar? c = none) (hp : c ≠ '%') :
    Apart (c :: cs) := by
  intro d h
  obtain rfl : c = d := Option.some.inj h
  exact ⟨hc, hp⟩

lemma Apart.append {cs ds : List Char} (hcs : Apart cs) (hds : Apart ds) : Apart (cs ++ ds) := by
  cases cs with
  | nil => exact hds
  | cons c cs => exact hcs

lemma placeholders_cons {c : Char} (hc : c ≠ '%') (cs : List Char) :
    placeholders (c :: cs) = placeholders cs := by
  cases cs with
  | nil => rfl
  | cons d rest => simp only [placeholders, if_neg hc]

lemma fill_cons (expected : Nat) {c : Char} (hc : c ≠ '%') (cs : List Char) (args : List Value) :
    fill expected (c :: cs) args = (fill expected cs args).map (c :: ·) := by
  cases cs with
  | nil => rfl
  | cons d rest => simp only [fill, if_neg hc]; rfl

/-- Texts put in front one after the other. -/
lemma map_append_map (x : Except Error (List Char)) (first second : List Char) :
    (x.map (second ++ ·)).map (first ++ ·) = x.map ((first ++ second) ++ ·) := by
  cases x <;> simp [Except.map]

/-- Before every text that stands apart, the part takes its own arguments and gives its text. -/
structure Binds (part : List Char) (args : List Value) (out : List Char) : Prop where
  count : ∀ rest, Apart rest → placeholders (part ++ rest) = args.length + placeholders rest
  fill : ∀ rest, Apart rest → ∀ expected more,
    Sql.fill expected (part ++ rest) (args ++ more) = (Sql.fill expected rest more).map (out ++ ·)

namespace Binds

lemma nil : Binds [] [] [] where
  count := by simp
  fill rest _ expected more := by
    cases h : Sql.fill expected rest more <;> simp [h, Except.map]

lemma append {part rest out more : List Char} {args others : List Value}
    (hp : Binds part args out) (hr : Binds rest others more) (apart : Apart rest) :
    Binds (part ++ rest) (args ++ others) (out ++ more) where
  count tail ht := by
    rw [List.append_assoc, hp.count _ (apart.append ht), hr.count _ ht, List.length_append]
    omega
  fill tail ht expected left := by
    rw [List.append_assoc, List.append_assoc, hp.fill _ (apart.append ht), hr.fill _ ht]
    exact map_append_map _ out more

lemma cons {c : Char} {part out : List Char} {args : List Value} (hc : c ≠ '%')
    (hp : Binds part args out) : Binds (c :: part) args (c :: out) where
  count rest hr := by
    rw [List.cons_append, placeholders_cons hc, hp.count rest hr]
  fill rest hr expected more := by
    rw [List.cons_append, fill_cons expected hc, hp.fill rest hr]
    exact map_append_map _ [c] out

/-- A text without percent signs may stand before anything. -/
lemma text_append {s part out : List Char} {args : List Value} (hs : '%' ∉ s)
    (hp : Binds part args out) : Binds (s ++ part) args (s ++ out) := by
  induction s with
  | nil => exact hp
  | cons c s ih =>
    obtain ⟨hc, hs⟩ := not_or.mp (fun h => hs (List.mem_cons.mpr h))
    exact (ih hs).cons (Ne.symm hc)

lemma placeholder_cons {d : Char} {p : Placeholder} (hd : Placeholder.ofChar? d = some p)
    {part out : List Char} {args : List Value} (v : Value) (hp : Binds part args out) :
    Binds ('%' :: d :: part) (v :: args) ((p.write v).toList ++ out) where
  count rest hr := by
    simp only [List.cons_append, placeholders, if_true, hd, Option.isSome_some, hp.count rest hr,
      List.length_cons]
    omega
  fill rest hr expected more := by
    have step : Sql.fill expected ('%' :: d :: (part ++ rest)) (v :: (args ++ more)) =
        (Sql.fill expected (part ++ rest) (args ++ more)).map ((p.write v).toList ++ ·) := by
      simp only [Sql.fill, if_true, hd]
      rfl
    rw [List.cons_append, List.cons_append, List.cons_append, step, hp.fill rest hr]
    exact map_append_map _ (p.write v).toList out

lemma percent_cons {part out : List Char} {args : List Value} (hp : Binds part args out) :
    Binds ('%' :: '%' :: part) args ('%' :: out) where
  count rest hr := by
    have none : Placeholder.ofChar? '%' = none := rfl
    simp [placeholders, none, hp.count rest hr]
  fill rest hr expected more := by
    have none : Placeholder.ofChar? '%' = none := rfl
    have step : Sql.fill expected ('%' :: '%' :: (part ++ rest)) (args ++ more) =
        (Sql.fill expected (part ++ rest) (args ++ more)).map ('%' :: ·) := by
      simp only [Sql.fill, if_true, none]
      rfl
    rw [List.cons_append, List.cons_append, step, hp.fill rest hr]
    exact map_append_map _ ['%'] out

/-- A percent sign that reads nothing stands for itself. -/
lemma lone_cons {part out : List Char} {args : List Value} (apart : Apart part)
    (hp : Binds part args out) : Binds ('%' :: part) args ('%' :: out) where
  count rest hr := by
    rw [← hp.count rest hr]
    have ha := apart.append hr
    cases h : part ++ rest with
    | nil => simp [h, placeholders]
    | cons d tail =>
      obtain ⟨hd, hne⟩ := ha d (by rw [h]; rfl)
      simp [h, placeholders, hd, placeholders_cons hne]
  fill rest hr expected more := by
    have ha := apart.append hr
    have step : Sql.fill expected ('%' :: (part ++ rest)) (args ++ more) =
        (Sql.fill expected (part ++ rest) (args ++ more)).map ('%' :: ·) := by
      cases h : part ++ rest with
      | nil => simp [Sql.fill, Except.map]
      | cons d tail =>
        obtain ⟨hd, hne⟩ := ha d (by rw [h]; rfl)
        simp only [Sql.fill, if_true, hd, if_neg hne]
        rfl
    rw [List.cons_append, step, hp.fill rest hr]
    exact map_append_map _ ['%'] out

/-- A part that stands alone. -/
lemma bind_eq {part out : List Char} {args : List Value} (h : Binds part args out) :
    bind (String.ofList part) args = .ok (String.ofList out) := by
  have count : placeholders part = args.length := by
    simpa [placeholders] using h.count [] apart_nil
  have fill : Sql.fill args.length part args = .ok out := by
    simpa [Sql.fill, Except.map] using h.fill [] apart_nil args.length []
  simp only [bind, String.toList_ofList, count, if_true, fill]
  rfl

end Binds

/-- A part with an argument for each of its placeholders can be bound. The cases are those of
`placeholders`. -/
theorem exists_binds (part : List Char) (args : List Value)
    (h : placeholders part = args.length) : ∃ out, Binds part args out := by
  induction part using placeholders.induct generalizing args with
  | case1 =>
    obtain rfl := List.eq_nil_of_length_eq_zero h.symm
    exact ⟨[], .nil⟩
  | case2 c =>
    obtain rfl := List.eq_nil_of_length_eq_zero h.symm
    by_cases hc : c = '%'
    · subst hc
      exact ⟨['%'], .lone_cons apart_nil .nil⟩
    · exact ⟨[c], .cons hc .nil⟩
  | case3 d rest ih =>
    cases hd : Placeholder.ofChar? d with
    | some p =>
      simp only [placeholders, if_true, hd, Option.isSome_some] at h
      cases args with
      | nil => simp at h
      | cons v args =>
        obtain ⟨out, ho⟩ := ih args (by rw [List.length_cons] at h; omega)
        exact ⟨_, .placeholder_cons hd v ho⟩
    | none =>
      obtain ⟨out, ho⟩ := ih args (by simpa [placeholders, hd] using h)
      by_cases hp : d = '%'
      · subst hp
        exact ⟨_, .percent_cons ho⟩
      · exact ⟨_, .lone_cons (apart_cons rest hd hp) (.cons hp ho)⟩
  | case4 c d rest hc ih =>
    obtain ⟨out, ho⟩ := ih args (by simpa [placeholders, hc] using h)
    exact ⟨_, .cons hc ho⟩

lemma placeholders_append {part rest : List Char} (apart : Apart rest) :
    placeholders (part ++ rest) = placeholders part + placeholders rest := by
  obtain ⟨out, binds⟩ := exists_binds part (List.replicate (placeholders part) .null) (by simp)
  have count := binds.count rest apart
  rwa [List.length_replicate] at count

end Clausal.Sql
