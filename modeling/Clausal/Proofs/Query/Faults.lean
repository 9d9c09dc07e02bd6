import Clausal.Proofs.Columns
import Clausal.Proofs.Query.Building
import Clausal.Proofs.Query.Preparing

/-!
# Where an error comes from

The error of a query is that of the first call which failed; no later call changes it. Preparing
adds two reasons of its own, a clause or a table that is missing. The rows of an INSERT were checked
when they were added, so they are never a reason.
-/

namespace Clausal

open Sql

namespace Query

/-! ## Building -/

lemma error_step {entries : List Entry} {q r : Query} (step : Step entries q r) {e : Error}
    (h : q.error = some e) : r.error = some e := by
  cases step with
  | fail e' => simp [fail, h]
  | fix _ => exact h
  | mark _ => exact h
  | @enter entry _ _ _ => cases entry <;> exact h

/-- A recorded error stays. -/
lemma error_calls {q : Query} {e : Error} (h : q.error = some e) (cs : List Call) :
    (q.calls cs).error = some e :=
  calls_induction (P := fun r => r.error = some e) cs h fun _ _ step => error_step step

lemma calls_cons (q : Query) (c : Call) (cs : List Call) :
    q.calls (c :: cs) = (q.call c).calls cs := rfl

/-- The recorded error is that of the first call that failed. -/
lemma error_calls_iff (q : Query) (h : q.error = none) (cs : List Call) (e : Error) :
    (q.calls cs).error = some e ↔
      ∃ before c later, cs = before ++ c :: later ∧ (q.calls before).error = none ∧
        ((q.calls before).call c).error = some e := by
  induction cs generalizing q with
  | nil =>
    constructor
    · intro he
      rw [show q.calls [] = q from rfl, h] at he
      cases he
    · rintro ⟨before, c, later, split, _⟩
      simp at split
  | cons c cs ih =>
    rw [calls_cons]
    constructor
    · intro he
      cases hc : (q.call c).error with
      | some first =>
        have same := error_calls hc cs
        obtain rfl : first = e := Option.some.inj (same.symm.trans he)
        exact ⟨[], c, cs, rfl, h, hc⟩
      | none =>
        obtain ⟨before, d, later, rfl, ok, fails⟩ := (ih (q.call c) hc).mp he
        exact ⟨c :: before, d, later, rfl, ok, fails⟩
    · rintro ⟨before, d, later, split, ok, fails⟩
      cases before with
      | nil =>
        obtain ⟨rfl, rfl⟩ := List.cons.inj split
        exact error_calls fails _
      | cons first before =>
        obtain ⟨rfl, rfl⟩ := List.cons.inj split
        cases hc : (q.call c).error with
        | some first =>
          rw [calls_cons, error_calls hc before] at ok
          cases ok
        | none => exact (ih (q.call c) hc).mpr ⟨before, d, later, rfl, ok, fails⟩

/-! ## Rows -/

/-- Every row has the columns of the first. -/
def RowsFit (q : Query) : Prop :=
  ∀ first ∈ q.insertRows.head?, ∀ row ∈ q.insertRows, ∀ column ∈ first.names,
    (row.get? column).isSome

lemma RowsFit.enter {q : Query} (h : q.RowsFit) {entry : Entry} (fits : entry.Fits q) :
    (entry.enter q).RowsFit := by
  cases entry with
  | row cells =>
    intro first hf row hr column hc
    cases rows : q.insertRows with
    | nil =>
      simp only [Entry.enter, rows, List.nil_append, List.head?_cons, Option.mem_some_iff,
        List.mem_singleton] at hf hr
      subst hf hr
      exact (Columns.isSome_get? _ column).mpr hc
    | cons head rest =>
      simp only [Entry.enter, rows, List.cons_append, List.head?_cons, Option.mem_some_iff] at hf
      have present : first ∈ q.insertRows.head? := by simp [rows, hf]
      rcases List.mem_append.mp hr with hr | hr
      · exact h first present row hr column hc
      · obtain rfl := List.mem_singleton.mp hr
        exact fits first present column hc
  | _ => exact h

lemma rowsFit_built (target : Target) (cs : List Call) : (built target cs).RowsFit := by
  refine calls_induction cs (fun _ hf => by cases hf) fun q r step h => ?_
  cases step with
  | fail e => exact h
  | fix _ => exact h
  | mark _ => exact h
  | enter _ _ fits => exact h.enter fits

lemma tuplePieces_of_columns {columns : List String} {row : Columns Slot}
    (h : ∀ column ∈ columns, (row.get? column).isSome) :
    ∃ tuple, tuplePieces columns row = .ok tuple := by
  refine exists_bind_eq_ok (exists_mapM_eq_ok fun column hc => ?_) fun slots => ⟨_, rfl⟩
  obtain ⟨slot, hs⟩ := Option.isSome_iff_exists.mp (h column hc)
  exact ⟨[slot.piece], by rw [hs]⟩

lemma valuesPieces_of_rowsFit {q : Query} (h : q.RowsFit) :
    ∃ parts, q.valuesPieces = .ok parts := by
  rw [valuesPieces]
  cases rows : q.insertRows with
  | nil => exact ⟨[], rfl⟩
  | cons first rest =>
    refine exists_bind_eq_ok (exists_mapM_eq_ok fun row hr => ?_) fun tuples => ⟨_, rfl⟩
    exact tuplePieces_of_columns (h first (by simp [rows]) row (rows ▸ hr))

/-! ## Preparing -/

/-- An UPDATE without an assignment, or an INSERT without a row. -/
def lackingClause (q : Query) : Option Error :=
  match q.kindOrSelect with
  | .update => if q.assignments = [] then some (.missingClause .set .update) else none
  | .insert => if q.insertRows = [] then some (.missingClause .values .insert) else none
  | _ => none

/-- Only a SELECT without joins does without a table. -/
def lackingTable (q : Query) : Option Error :=
  if q.table? = none ∧ (q.kindOrSelect ≠ .select ∨ q.joins ≠ []) then
    some (.missingTable q.kindOrSelect)
  else none

/-- What a query without an error lacks for a statement. -/
def shortfall (q : Query) : Option Error :=
  q.lackingClause.or q.lackingTable

variable {q : Query}

lemma prepare_of_error {e : Error} (h : q.error = some e) : q.prepare = .error e := by
  rw [prepare, validate, h]
  rfl

lemma requireClauses_eq : q.requireClauses = match q.lackingClause with
    | some e => .error e
    | none => .ok () := by
  rw [requireClauses, lackingClause]
  cases q.kindOrSelect with
  | update => cases q.assignments <;> rfl
  | insert => cases q.insertRows <;> rfl
  | select => rfl
  | delete => rfl

/-- With a table every clause can be written. -/
lemma clauses_of_table (fit : q.RowsFit) {table : String} (ht : q.table? = some table) :
    (∃ e, q.lackingClause = some e ∧ q.clauses = .error e) ∨
      (q.lackingClause = none ∧ ∃ parts, q.clauses = .ok parts) := by
  have required : q.requireTable = .ok table := by rw [requireTable, ht]
  have head : ∃ head, q.headPieces = .ok head := by
    rw [headPieces]
    cases q.kindOrSelect with
    | select => exact ⟨_, rfl⟩
    | _ => exact ⟨_, by simp only [required, ok_bind]; rfl⟩
  have joins : ∃ joins, q.joinPieces = .ok joins := by
    rw [joinPieces]
    split
    · exact ⟨_, rfl⟩
    · exact ⟨_, by rw [required, ok_bind]; rfl⟩
  obtain ⟨head, hh⟩ := head
  obtain ⟨values, hv⟩ := valuesPieces_of_rowsFit fit
  obtain ⟨joins, hj⟩ := joins
  rw [clauses, requireClauses_eq]
  cases q.lackingClause with
  | some e => exact Or.inl ⟨e, rfl, rfl⟩
  | none => exact Or.inr ⟨rfl, _, by rw [ok_bind, hh, ok_bind, hv, ok_bind, hj, ok_bind]; rfl⟩

/-- Without a table only a SELECT without joins can be written. -/
lemma clauses_of_no_table (fit : q.RowsFit) (ht : q.table? = none) :
    (∃ e, q.shortfall = some e ∧ q.clauses = .error e) ∨
      (q.shortfall = none ∧ ∃ parts, q.clauses = .ok parts) := by
  have required : q.requireTable = .error (.missingTable q.kindOrSelect) := by
    rw [requireTable, ht]
  obtain ⟨values, hv⟩ := valuesPieces_of_rowsFit fit
  rw [clauses, requireClauses_eq, shortfall]
  cases q.lackingClause with
  | some e => exact Or.inl ⟨e, rfl, rfl⟩
  | none =>
    rw [Option.none_or, ok_bind, lackingTable]
    by_cases select : q.kindOrSelect = .select
    · have head : q.headPieces = .ok [[.text ("SELECT " ++
          if q.selectList.isEmpty then "*" else ", ".intercalate q.selectList)]] := by
        rw [headPieces, select, ht]
      rw [head, ok_bind, hv, ok_bind, joinPieces, required]
      by_cases joins : q.joins = []
      · exact Or.inr ⟨by simp [select, joins], _, by rw [joins]; rfl⟩
      · refine Or.inl ⟨_, if_pos ⟨ht, Or.inr joins⟩, ?_⟩
        simp [List.isEmpty_eq_false_iff.mpr joins]
    · have head : q.headPieces = .error (.missingTable q.kindOrSelect) := by
        rw [headPieces]
        cases hk : q.kindOrSelect with
        | select => exact absurd hk select
        | _ => simp only [required, hk, error_bind]
      exact Or.inl ⟨_, if_pos ⟨ht, Or.inl select⟩, by rw [head, error_bind]⟩

/-- A query is prepared unless it has an error or lacks something, and then this is the error. -/
lemma prepare_cases (fit : q.RowsFit) :
    (∃ e, q.error.or q.shortfall = some e ∧ q.prepare = .error e) ∨
      (q.error.or q.shortfall = none ∧ ∃ p, q.prepare = .ok p) := by
  rw [prepare, validate]
  cases q.error with
  | some e => exact Or.inl ⟨e, rfl, rfl⟩
  | none =>
    have clauses : (∃ e, q.shortfall = some e ∧ q.clauses = .error e) ∨
        (q.shortfall = none ∧ ∃ parts, q.clauses = .ok parts) := by
      cases ht : q.table? with
      | none => exact clauses_of_no_table fit ht
      | some table =>
        have table : q.lackingTable = none := by simp [lackingTable, ht]
        rw [shortfall, table, Option.or_none]
        exact clauses_of_table fit ht
    rw [Option.none_or, ok_bind]
    rcases clauses with ⟨e, he, hc⟩ | ⟨hn, parts, hc⟩
    · exact Or.inl ⟨e, he, by rw [hc, error_bind]⟩
    · exact Or.inr ⟨hn, _, by rw [hc, ok_bind]; rfl⟩

end Query

end Clausal
