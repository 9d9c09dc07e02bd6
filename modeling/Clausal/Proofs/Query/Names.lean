import Clausal.Proofs.Query.Final
import Clausal.Proofs.Query.Injection

/-!
# Names in the final text

Quoting protects backticks, and binding reads percent signs, also those inside quotes. So a name
stands in the final text as it was passed exactly if it is inert: a percent sign before a specifier
is taken for a placeholder, and two percent signs become one. A statement whose names and operators
are inert keeps every one of them.
-/

namespace Clausal

open Sql

/-! ## One name in its place -/

lemma apart_quoteName (name : String) (pieces : List Piece) :
    Apart (Rendering.placeholder.chars (.text (quoteName name) :: pieces)) := by
  rw [Rendering.chars_cons, Rendering.piece, quoteName, String.toList_ofList, nameChars,
    List.cons_append]
  exact apart_cons _ (by decide) (by decide)

section Placed

variable {before after : List Piece} (name : String)

/-- Between aligned pieces a quoted name has all the placeholders that are too many. -/
lemma placeholders_name_of_count (hbefore : Aligned before) (hafter : Aligned after)
    (apart : Apart (Rendering.placeholder.chars after))
    (count : placeholders (template (before ++ .text (quoteName name) :: after)).toList =
      (arguments (before ++ .text (quoteName name) :: after)).length) :
    placeholders (quoteName name).toList = 0 := by
  rw [toList_template, Rendering.chars_append, hbefore.count _ (apart_quoteName name after),
    Rendering.chars_cons, Rendering.piece, placeholders_append apart, arguments_append,
    arguments_cons, List.length_append] at count
  have tail := hafter.count [] apart_nil
  simp only [List.append_nil, placeholders, Piece.args, List.nil_append] at count tail
  omega

/-- Binding writes for a name what it writes for the name alone. -/
lemma bind_around_name (hbefore : Aligned before) (hafter : Aligned after)
    (apart : Apart (Rendering.placeholder.chars after)) {out : List Char}
    (written : Binds (quoteName name).toList [] out) :
    Sql.bind (template (before ++ .text (quoteName name) :: after))
        (arguments (before ++ .text (quoteName name) :: after)) =
      .ok (String.ofList (Rendering.direct.chars before ++
        (out ++ Rendering.direct.chars after))) := by
  have whole := (Binds.append hbefore (Binds.append written hafter apart)
    (apart_quoteName name after)).bind_eq
  rw [← whole, ← String.ofList_toList (s := template _), toList_template,
    Rendering.chars_append, Rendering.chars_cons, arguments_append, arguments_cons]
  rfl

/-- Whatever is around a quoted name, binding writes it as it was passed only if it is inert. -/
theorem bind_name_in_place_iff (hbefore : Aligned before) (hafter : Aligned after)
    (apart : Apart (Rendering.placeholder.chars after)) :
    Sql.bind (template (before ++ .text (quoteName name) :: after))
        (arguments (before ++ .text (quoteName name) :: after)) =
      .ok (String.ofList (Rendering.direct.chars (before ++ .text (quoteName name) :: after))) ↔
      Inert name.toList := by
  constructor
  · intro h
    have count : placeholders (template (before ++ .text (quoteName name) :: after)).toList =
        (arguments (before ++ .text (quoteName name) :: after)).length := by
      by_contra differ
      simp only [Sql.bind, if_neg differ] at h
      cases h
    obtain ⟨out, written⟩ := exists_binds (quoteName name).toList []
      (placeholders_name_of_count name hbefore hafter apart count)
    have text := bind_around_name name hbefore hafter apart written
    have chars := String.ofList_injective (Except.ok.inj (text.symm.trans h))
    rw [Rendering.chars_append, Rendering.chars_cons, Rendering.piece] at chars
    have same : out = (quoteName name).toList :=
      List.append_cancel_right (List.append_cancel_left chars)
    have alone := written.bind_eq
    rw [same, String.ofList_toList] at alone
    exact (bind_quoteName_eq_self_iff name).mp alone
  · intro inert
    have named : Aligned (.text (quoteName name) :: after) :=
      hafter.solid_cons (solid_quoteName inert)
    exact (hbefore.append named (apart_quoteName name after)).bind_template

end Placed

/-! ## All names of a statement -/

namespace Query

/-- A steady statement with arguments is sent with the literals between the texts of its pieces. -/
lemma sql_of_steady {q : Query} (h : q.Within steady) {p : Preparation} (hp : q.prepare = .ok p)
    (arguments : p.args ≠ []) {σ : Type} {db : Database σ} (binder : db.BindsByDefault) (s : σ) :
    (q.sql db s).result = .ok (String.ofList (Rendering.direct.chars p.pieces)) := by
  rw [(sql_of_ok hp db s).1, if_neg arguments, binder]
  exact (aligned_of_steady h hp).bind_template

/-- If the names and the operators are inert, a statement with arguments is sent with all that is
not a value as it was written: the literals stand in their places between the texts of the pieces.
Without raw text, its tokens have the names that were passed. -/
theorem sql_of_inert_names {target : Target} {cs : List Call}
    (htarget : ∀ table ∈ target.table?, Inert table.toList) (hcs : ∀ c ∈ cs, c.Within steady)
    {p : Preparation} (hp : (built target cs).prepare = .ok p) (arguments : p.args ≠ [])
    {σ : Type} (adapter : Adapter σ) (s : σ) :
    ∃ text, ((built target cs).sql adapter.database s).result = .ok text ∧
      text.toList = Rendering.direct.chars p.pieces ∧
      ((∀ c ∈ cs, c.Within rawFree) → (built target cs).Tokenized p text) := by
  have steady : (built target cs).Within steady := within_calls (within_start htarget) hcs
  have final := sql_of_steady steady hp arguments adapter.bindsByDefault s
  refine ⟨_, final, String.toList_ofList, fun free => ?_⟩
  have start : Within rawFree { target := target } := within_start fun _ _ => trivial
  have rawFree : (built target cs).Within rawFree := within_calls start free
  obtain ⟨text, ht, tokens⟩ := tokenized_of_steady rawFree steady hp adapter s
  obtain rfl := Except.ok.inj (final.symm.trans ht)
  exact tokens

/-- A condition on one column. -/
def onColumn (name : String) : List Call :=
  [.filter false (.compare (.name name) none (.bound (.int 1)))]

theorem sql_of_inert_percent :
    (∀ table ∈ (Target.table "100% of `t`").table?, Inert table.toList) ∧
      (∀ c ∈ onColumn "50%_", c.Within steady) ∧
      ∃ p text, (built (.table "100% of `t`") (onColumn "50%_")).prepare = .ok p ∧ p.args ≠ [] ∧
        ((built (.table "100% of `t`") (onColumn "50%_")).sql Script.adapter.database {}).result =
          .ok text ∧
        text.toList = Rendering.direct.chars p.pieces ∧
        (built (.table "100% of `t`") (onColumn "50%_")).Tokenized p text := by
  have table : ∀ name ∈ (Target.table "100% of `t`").table?, Inert name.toList := by
    rintro name ⟨⟩
    decide
  have within : ∀ c ∈ onColumn "50%_", c.Within steady := by
    have column : steady.column (.name "50%_") := (by decide : Inert "50%_".toList)
    simp only [onColumn, List.forall_mem_cons]
    exact ⟨⟨column, nofun, nofun⟩, nofun⟩
  have free : ∀ c ∈ onColumn "50%_", c.Within rawFree := by
    simp only [onColumn, List.forall_mem_cons]
    exact ⟨⟨trivial, nofun, trivial⟩, nofun⟩
  obtain ⟨text, ht, direct, tokens⟩ := sql_of_inert_names table within rfl (List.cons_ne_nil _ _)
    Script.adapter {}
  exact ⟨table, within, _, text, rfl, List.cons_ne_nil _ _, ht, direct, tokens free⟩

/-- A specifier in a name is counted as a placeholder, and two percent signs become one. -/
theorem sql_of_percent_names :
    ((built (.table "t") (onColumn "a%s")).sql Script.adapter.database {}).result =
        .error (.placeholderMismatch 2 1) ∧
      ((built (.table "t") (onColumn "100%%")).sql Script.adapter.database {}).result =
        .ok "SELECT * \nFROM `t` \nWHERE ( `100%` = 1 )" :=
  ⟨rfl, rfl⟩

end Query

end Clausal
