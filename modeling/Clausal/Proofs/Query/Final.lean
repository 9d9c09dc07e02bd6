import Clausal.Database.Script
import Clausal.Proofs.Database.Running
import Clausal.Proofs.Query.Building
import Clausal.Proofs.Query.Preparing
import Clausal.Proofs.Sql.Percent
import Clausal.Query.Run

/-!
# The final text

A statement with arguments is bound, one without is sent as it was written. The two ways agree on
a template exactly if it is inert, so a verbatim text that is not changes its meaning when another
clause binds the first argument.
-/

namespace Clausal

open Sql

lemma Sql.Piece.join_concat (separator : String) {parts : List (List Piece)} (h : parts ≠ [])
    (last : List Piece) :
    Piece.join separator (parts ++ [last]) =
      Piece.join separator parts ++ .text separator :: last := by
  induction parts using Piece.join.induct with
  | case1 => exact absurd rfl h
  | case2 part => rfl
  | case3 part rest hne ih =>
    obtain ⟨next, more, rfl⟩ := List.exists_cons_of_ne_nil hne
    have tail := ih hne
    simp only [List.cons_append] at tail ⊢
    simp only [Piece.join, tail, List.cons_append, List.append_assoc]

/-- Templates are bound in the way that an adapter binds them by default. -/
def Database.BindsByDefault {σ : Type} (db : Database σ) : Prop :=
  ∀ template args, db.prepare template args = .ofExcept (Sql.bind template args)

lemma Adapter.bindsByDefault {σ : Type} (adapter : Adapter σ) : adapter.database.BindsByDefault :=
  fun _ _ => rfl

namespace Query

variable {σ : Type} {q : Query} {p : Preparation}

/-! ## One statement -/

lemma sql_of_error {e : Error} (h : q.prepare = .error e) (db : Database σ) (s : σ) :
    (q.sql db s).result = .error e ∧ (q.sql db s).state = s := by
  have stop : (q.prepared s : Outcome σ Preparation).result = .error e := by
    rw [prepared, h]
    rfl
  obtain ⟨result, state⟩ := Action.bind_of_error (fun p =>
    if p.args.isEmpty then pure p.sql else db.prepare p.sql p.args) stop
  refine ⟨result, state.trans ?_⟩
  rw [prepared, h]
  rfl

/-- A statement without arguments is its template; otherwise the database binds it. -/
lemma sql_of_ok (hp : q.prepare = .ok p) (db : Database σ) (s : σ) :
    (q.sql db s).result =
        (if p.args = [] then .ok p.sql else (db.prepare p.sql p.args s).result) ∧
      (q.sql db s).state = if p.args = [] then s else (db.prepare p.sql p.args s).state := by
  have ready : (q.prepared s : Outcome σ Preparation).result = .ok p := by
    rw [prepared, hp]
    rfl
  have kept : (q.prepared s : Outcome σ Preparation).state = s := by
    rw [prepared, hp]
    rfl
  obtain ⟨result, state⟩ := Action.bind_of_ok (fun p =>
    if p.args.isEmpty then pure p.sql else db.prepare p.sql p.args) ready
  rw [kept] at result state
  by_cases none : p.args = []
  · rw [if_pos none, if_pos none]
    simp only [none, List.isEmpty_nil, if_true] at result state
    exact ⟨result, state⟩
  · rw [if_neg none, if_neg none]
    simp only [List.isEmpty_eq_false_iff.mpr none, Bool.false_eq_true, if_false] at result state
    exact ⟨result, state⟩

/-! ## One more clause -/

lemma setLimit_of_select (select : q.kindOrSelect = .select) (bound : Bound) :
    q.setLimit bound = { q.marked .limit with limit := some bound } := by
  have accepts : q.Accepts .limit := by
    intro kind hk
    have kinds : q.kind = some kind := hk
    obtain rfl : kind = .select := by simpa [kindOrSelect, kinds] using select
    rfl
  rcases q.withClause_cases .limit (fun q => { q with limit := some bound }) with h | h
  · exact h.2
  · exact absurd accepts h.1

lemma headPieces_ne_nil {head : List (List Piece)} (hh : q.headPieces = .ok head) :
    head ≠ [] := by
  rcases headPieces_eq_ok hh with ⟨start, table, _, _, rfl⟩ | ⟨_, rfl⟩
  · exact List.cons_ne_nil _ _
  · exact List.cons_ne_nil _ _

lemma clauses_ne_nil {parts : List (List Piece)} (hc : q.clauses = .ok parts) : parts ≠ [] := by
  obtain ⟨head, values, joins, hh, _, _, rfl⟩ := clauses_eq_ok hc
  simp [headPieces_ne_nil hh]

lemma clauses_of_limit (limit : q.limit = none) (offset : q.offset = none) (bound : Bound)
    {parts : List (List Piece)} (hc : q.clauses = .ok parts) :
    clauses { q.marked .limit with limit := some bound } =
      .ok (parts ++ [bound.pieces "LIMIT"]) := by
  have before : q.boundPieces = [] := by simp [boundPieces, limit, offset]
  have after : boundPieces { q.marked .limit with limit := some bound } =
      [bound.pieces "LIMIT"] := by
    simp [boundPieces, marked, offset]
  obtain ⟨_, required, hc⟩ := bind_eq_ok.mp hc
  obtain ⟨head, hh, hc⟩ := bind_eq_ok.mp hc
  obtain ⟨values, hv, hc⟩ := bind_eq_ok.mp hc
  obtain ⟨joins, hj, hc⟩ := bind_eq_ok.mp hc
  obtain rfl := Except.ok.inj hc
  refine bind_eq_ok.mpr ⟨_, required, bind_eq_ok.mpr ⟨head, hh, bind_eq_ok.mpr ⟨values, hv,
    bind_eq_ok.mpr ⟨joins, hj, ?_⟩⟩⟩⟩
  rw [after, before, List.append_nil]
  rfl

/-- A limit on a statement that selects and has no bounds yet adds one clause at its end. -/
lemma prepare_setLimit (hp : q.prepare = .ok p) (select : q.kindOrSelect = .select)
    (limit : q.limit = none) (offset : q.offset = none) (bound : Bound) :
    (q.setLimit bound).prepare =
      .ok ⟨.select, p.pieces ++ .text " \n" :: bound.pieces "LIMIT"⟩ := by
  obtain ⟨valid, parts, hc, rfl⟩ := prepare_eq_ok hp
  rw [setLimit_of_select select]
  refine bind_eq_ok.mpr ⟨(), ?_, bind_eq_ok.mpr ⟨_, clauses_of_limit limit offset bound hc, ?_⟩⟩
  · simp [validate, marked, valid]
  · have kind : kindOrSelect { q.marked .limit with limit := some bound } = .select := select
    rw [kind, Piece.join_concat " \n" (clauses_ne_nil hc)]
    rfl

/-- The clause that a limit adds to a statement. -/
def limitText (n : UInt64) : String :=
  " \nLIMIT " ++ Placeholder.integer.write (Value.ofUnsigned n)

lemma placeholders_of_inert {cs : List Char} (h : Inert cs) : placeholders cs = 0 := by
  simpa [placeholders] using h.binds.count [] apart_nil

/-- The template before the clause is read along with it. -/
lemma bind_limit (template : String) (n : UInt64) :
    Sql.bind (template ++ " \nLIMIT %d") [Value.ofUnsigned n] =
      if placeholders template.toList = 0 then
        (Sql.bind template []).map (· ++ limitText n)
      else .error (.placeholderMismatch (placeholders template.toList + 1) 1) := by
  have clause : Binds " \nLIMIT %d".toList [Value.ofUnsigned n] (limitText n).toList := by
    have count := Binds.nil.placeholder_cons (d := 'd') rfl (Value.ofUnsigned n)
    have text := count.text_append (s := " \nLIMIT ".toList) (by decide)
    rwa [List.append_nil, ← String.toList_append] at text
  have apart : Apart " \nLIMIT %d".toList := by decide
  split
  · next silent =>
    obtain ⟨out, written⟩ := exists_binds template.toList [] silent
    have alone := written.bind_eq
    have whole := (written.append clause apart).bind_eq
    rw [← String.toList_append, String.ofList_toList, List.nil_append, String.ofList_append,
      String.ofList_toList] at whole
    rw [String.ofList_toList] at alone
    rw [whole, alone]
    rfl
  · next speaks =>
    obtain ⟨out, written⟩ := exists_binds template.toList
      (List.replicate (placeholders template.toList) .null) (by simp)
    have count : placeholders (template ++ " \nLIMIT %d").toList =
        placeholders template.toList + 1 := by
      rw [String.toList_append, written.count _ apart, List.length_replicate]
      rfl
    have differ :
        placeholders (template ++ " \nLIMIT %d").toList ≠ [Value.ofUnsigned n].length := by
      rw [count]
      simpa using speaks
    rw [Sql.bind, if_neg differ, count]
    rfl

/-- The text before the clause stays as it was written only if it is inert. -/
lemma bind_limit_eq_iff (template : String) (n : UInt64) :
    Sql.bind (template ++ " \nLIMIT %d") [Value.ofUnsigned n] = .ok (template ++ limitText n) ↔
      Inert template.toList := by
  rw [bind_limit, ← bind_nil_eq_self_iff]
  split
  · constructor
    · intro h
      cases hb : Sql.bind template [] with
      | error e => simp [hb, Except.map] at h
      | ok out =>
        have same : out ++ limitText n = template ++ limitText n := by
          simpa [hb, Except.map] using h
        rw [String.append_left_inj] at same
        rw [same]
    · intro h
      rw [h]
      rfl
  · next speaks =>
    constructor
    · intro h
      cases h
    · intro h
      exact absurd (placeholders_of_inert ((bind_nil_eq_self_iff _).mp h)) speaks

/-- With a limit a statement without arguments is bound, its clause and all before it. -/
lemma sql_setLimit (hp : q.prepare = .ok p) (select : q.kindOrSelect = .select)
    (limit : q.limit = none) (offset : q.offset = none) (none : p.args = []) {db : Database σ}
    (binder : db.BindsByDefault) (n : UInt64) (s : σ) :
    ((q.setLimit (.count n)).sql db s).result =
      Sql.bind (p.sql ++ " \nLIMIT %d") [Value.ofUnsigned n] := by
  have args : arguments (p.pieces ++ .text " \n" :: Bound.pieces "LIMIT" (.count n)) =
      [Value.ofUnsigned n] := by
    rw [arguments_append]
    rw [show arguments p.pieces = [] from none]
    rfl
  have template : template (p.pieces ++ .text " \n" :: Bound.pieces "LIMIT" (.count n)) =
      p.sql ++ " \nLIMIT %d" := by
    simp [Sql.template, Preparation.sql, Bound.pieces, Piece.template]
  rw [(sql_of_ok (prepare_setLimit hp select limit offset (.count n)) db s).1]
  simp only [Preparation.args, Preparation.sql, args, template, List.cons_ne_nil, if_false]
  rw [binder]
  rfl

/-! ## The two ways -/

/-- The final text is the bound template if there are arguments, and otherwise the template as it
was written; that is the bound template only if it is inert. A limit that is added to a `SELECT`
without arguments has the text before it read as a template, so only an inert text stays. -/
theorem sql_of_template (hp : q.prepare = .ok p) {db : Database σ} (binder : db.BindsByDefault)
    (s : σ) :
    (p.args ≠ [] → (q.sql db s).result = (db.prepare p.sql p.args s).result) ∧
      (p.args = [] → (q.sql db s).result = .ok p.sql) ∧
      ((q.sql db s).result = (db.prepare p.sql p.args s).result ↔
        p.args ≠ [] ∨ Inert p.sql.toList) ∧
      (q.kindOrSelect = .select → q.limit = none → q.offset = none → p.args = [] → ∀ n,
        ((q.setLimit (.count n)).sql db s).result =
            (if placeholders p.sql.toList = 0 then
              (Sql.bind p.sql []).map (· ++ limitText n)
            else .error (.placeholderMismatch (placeholders p.sql.toList + 1) 1)) ∧
          (((q.setLimit (.count n)).sql db s).result = .ok (p.sql ++ limitText n) ↔
            Inert p.sql.toList)) := by
  have final := (sql_of_ok hp db s).1
  have bound (template : String) (args : List Value) :
      (db.prepare template args s).result = Sql.bind template args := by
    rw [binder]
    rfl
  refine ⟨fun some => by rw [final, if_neg some], fun none => by rw [final, if_pos none], ?_, ?_⟩
  · by_cases none : p.args = []
    · rw [final, if_pos none, bound, none]
      simp only [ne_eq, not_true_eq_false, false_or, ← bind_nil_eq_self_iff]
      exact eq_comm
    · rw [final, if_neg none]
      simp [none]
  · intro select limit offset none n
    rw [sql_setLimit hp select limit offset none binder n s]
    exact ⟨bind_limit p.sql n, bind_limit_eq_iff p.sql n⟩

/-- A condition without arguments, whose text is not inert. -/
def likePercent : Query :=
  built (.table "t") [.filter false (.raw { sql := "a LIKE '100%%'" })]

theorem sql_of_template_likePercent :
    ∃ p, likePercent.prepare = .ok p ∧ Script.adapter.database.BindsByDefault ∧
      (likePercent.sql Script.adapter.database {}).result = .ok p.sql ∧
      ((likePercent.setLimit (.count 5)).sql Script.adapter.database {}).result =
        .ok "SELECT * \nFROM `t` \nWHERE ( a LIKE '100%' ) \nLIMIT 5" := by
  have binder := Script.adapter.bindsByDefault
  have ways := sql_of_template (q := likePercent) rfl binder {}
  exact ⟨_, rfl, binder, ways.2.1 rfl, (ways.2.2.2 rfl rfl rfl rfl 5).1⟩

/-- The template as it was written is not the bound template. -/
theorem sql_ne_bind_likePercent :
    ∃ p, likePercent.prepare = .ok p ∧
      (likePercent.sql Script.adapter.database {}).result ≠
        (Script.adapter.database.prepare p.sql p.args {}).result := by
  refine ⟨_, rfl, fun same => ?_⟩
  have texts : "SELECT * \nFROM `t` \nWHERE ( a LIKE '100%%' )" =
      "SELECT * \nFROM `t` \nWHERE ( a LIKE '100%' )" := Except.ok.inj same
  exact absurd texts (by decide)

end Query

end Clausal
