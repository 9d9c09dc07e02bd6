import Clausal.Proofs.Query.Delivery
import Clausal.Proofs.Record.Casting

/-!
# The first result

A run for one result gives the first of what the run for all results gives: rows cast at once, rows
through a decoder that never fails, and the values of the selected column. The narrower queries
have to be the default ones. Both runs send the same statement, since all that reaches the adapter
is a query for rows.
-/

namespace Clausal

open Query

variable {σ α β γ : Type}

/-! ## Default queries -/

/-- The narrower queries are the default ones; templates may be bound in any way. -/
structure Database.NarrowsByDefault (db : Database σ) : Prop where
  row : db.queryRow = db.firstRow
  column : db.queryColumn = db.firstColumn
  scalar : db.queryScalar = db.firstValue

lemma Adapter.narrowsByDefault (adapter : Adapter σ) : adapter.database.NarrowsByDefault :=
  ⟨rfl, rfl, rfl⟩

namespace Adapter

variable (adapter : Adapter σ) (sql : String)

lemma firstRow_bind (k : Option Row → Action σ β) :
    adapter.firstRow sql >>= k = adapter.queryRows sql >>= fun rows => k rows.head? := by
  simp only [firstRow, bind_assoc, pure_bind]

lemma firstColumn_bind (k : List Value → Action σ β) :
    adapter.firstColumn sql >>= k =
      adapter.queryRows sql >>= fun rows => k (rows.map fun row => row.first?.getD .null) := by
  simp only [firstColumn, bind_assoc, pure_bind]

lemma firstValue_bind (k : Option Value → Action σ β) :
    adapter.firstValue sql >>= k =
      adapter.queryRows sql >>= fun rows => k (rows.head?.bind Row.first?) := by
  simp only [firstValue, firstRow_bind, bind_assoc, pure_bind]

end Adapter

/-! ## Heads -/

/-- The first outcome is the head of the second: the same error or the first of the results, the
same state, and reports that the other begins with. -/
structure HeadOf (one : Outcome σ (Option α)) (all : Outcome σ (List α)) : Prop where
  result : one.result = all.result.map List.head?
  state : one.state = all.state
  events : one.events <+: all.events

namespace HeadOf

/-- Two runs that begin in the same way have to agree only where the beginning succeeds. -/
lemma bind {x : Action σ γ} {one : γ → Action σ (Option α)} {all : γ → Action σ (List α)} {s : σ}
    (rest : ∀ c, (x s).result = .ok c → HeadOf (one c (x s).state) (all c (x s).state)) :
    HeadOf ((x >>= one) s) ((x >>= all) s) := by
  rw [Action.run_bind, Action.run_bind, Action.bind, Action.bind]
  cases h : (x s).result with
  | error e => exact ⟨rfl, rfl, List.prefix_rfl⟩
  | ok c =>
    obtain ⟨result, state, events⟩ := rest c h
    exact ⟨result, state, (List.prefix_append_right_inj _).mpr events⟩

/-- What is reported of one value comes first in what is reported of all. -/
lemma reported (reports : β → List Event) (f : β → α) (values : List β) (s : σ) :
    HeadOf
      ((do Action.emit (values.head?.toList.flatMap reports); return values.head?.map f :
        Action σ (Option α)) s)
      ((do Action.emit (values.flatMap reports); return values.map f : Action σ (List α)) s) := by
  cases values with
  | nil => exact ⟨rfl, rfl, List.prefix_rfl⟩
  | cons value rest =>
    refine ⟨rfl, rfl, ?_⟩
    change [value].flatMap reports ++ [] <+: (value :: rest).flatMap reports ++ []
    simp

/-- The first of the decoded rows is the first row, decoded, as long as no row can fail. -/
lemma decoded {decode : Row → Except Error α} (total : ∀ row, ∃ a, decode row = .ok a)
    (rows : List Row) (s : σ) :
    HeadOf
      ((match rows.head? with
        | some row => do return some (← Action.ofExcept (decode row))
        | none => return none : Action σ (Option α)) s)
      ((Action.ofExcept (rows.mapM decode) : Action σ (List α)) s) := by
  choose f hf using total
  have all : rows.mapM decode = .ok (rows.map f) := by
    rw [funext hf]
    exact List.mapM_pure
  rw [all]
  cases rows with
  | nil => exact ⟨rfl, rfl, List.prefix_rfl⟩
  | cons row rest =>
    simp only [List.head?_cons, hf]
    exact ⟨rfl, rfl, List.prefix_rfl⟩

end HeadOf

namespace Query

variable (q : Query) {db : Database σ} (narrows : db.NarrowsByDefault) (s : σ)

include narrows

lemma headOf_rows : HeadOf (q.getRow db s) (q.getResults db s) := by
  rw [getRow, getResults, narrows.row]
  refine .bind fun sql _ => ?_
  rw [Adapter.firstRow_bind]
  refine .bind fun rows _ => ?_
  exact .reported q.rowReports q.castRow rows _

lemma headOf_decoded {decode : Row → Except Error α} (total : ∀ row, ∃ a, decode row = .ok a) :
    HeadOf (q.getOne decode db s) (q.get decode db s) := by
  rw [getOne, get, narrows.row]
  refine .bind fun sql _ => ?_
  rw [Adapter.firstRow_bind]
  refine .bind fun rows _ => ?_
  exact .decoded total rows _

end Query

/-! ## One value -/

/-- The value is the head of the column, or both runs are refused for the number of selected
columns, each under its own name and before anything is done. -/
inductive ValueHead (q : Query) (s : σ) (one : Outcome σ (Option Value))
    (all : Outcome σ (List Value)) : Prop where
  | head (h : HeadOf one all)
  | arity (valid : q.error = none) (wrong : q.selectList.length ≠ 1)
      (value : one = ⟨.error (.selectArity .scalar q.selectList.length), s, []⟩)
      (column : all = ⟨.error (.selectArity .column q.selectList.length), s, []⟩)

namespace Query

/-- Only the complaint about the number of columns depends on the operation. -/
lemma singleColumn_of_operation (q : Query) :
    (∃ r, ∀ operation, q.singleColumn operation = r) ∨
      (q.error = none ∧ q.selectList.length ≠ 1 ∧ ∀ operation,
        q.singleColumn operation = .error (.selectArity operation q.selectList.length)) := by
  simp only [singleColumn, validate]
  cases q.error with
  | some e => exact Or.inl ⟨.error e, fun _ => rfl⟩
  | none =>
    rcases q.selectList with _ | ⟨column, _ | ⟨other, rest⟩⟩
    · exact Or.inr ⟨rfl, by simp, fun _ => rfl⟩
    · exact Or.inl ⟨.ok column, fun _ => rfl⟩
    · exact Or.inr ⟨rfl, by simp, fun _ => rfl⟩

lemma head?_firsts {rows : List Row} (filled : ∀ row ∈ rows, row.columns ≠ []) :
    rows.head?.bind Row.first? = (rows.map fun row => row.first?.getD .null).head? := by
  rcases rows with _ | ⟨⟨_ | ⟨cell, rest⟩⟩, others⟩
  · rfl
  · exact absurd rfl (filled _ List.mem_cons_self)
  · rfl

lemma valueHead (q : Query) {db : Database σ} (narrows : db.NarrowsByDefault) (s : σ)
    (filled : ∀ rows, q.answer db s db.queryRows = .ok rows → ∀ row ∈ rows, row.columns ≠ []) :
    ValueHead q s (q.getScalar db s) (q.getColumn db s) := by
  rw [getScalar, getColumn, narrows.scalar, narrows.column]
  rcases q.singleColumn_of_operation with ⟨r, single⟩ | ⟨valid, wrong, refused⟩
  · rw [single .scalar, single .column]
    refine .head (.bind fun column _ => .bind fun sql final => ?_)
    rw [Adapter.firstValue_bind, Adapter.firstColumn_bind]
    refine .bind fun rows found => ?_
    have answered : q.answer db s db.queryRows = .ok rows :=
      (Action.bind_of_ok db.queryRows final).1.trans found
    rw [head?_firsts (filled rows answered)]
    exact .reported (q.castReports column) (q.castValue column) _ _
  · rw [refused .scalar, refused .column]
    exact .arity valid wrong rfl rfl

end Query

/-! ## One statement -/

/-- The three operations of the adapter below are recorded; templates are bound as before. -/
def Database.recordedBelow (db : Database σ) : Database (Recorded σ) :=
  { db.toAdapter.recorded.database with prepare := db.recorded.prepare }

lemma tracing_recordedBelow (db : Database σ) :
    Tracing db.recordedBelow Recorded.statements Operation.narrowed :=
  { tracing_adapter db.toAdapter with prepare := fun _ _ _ => rfl }

/-- Both runs send the same, which is the final text as a query for rows, once; or both fail and
send nothing. -/
inductive OneStatement (q : Query) (db : Database (Recorded σ)) (s : Recorded σ)
    (one : Outcome (Recorded σ) α) (all : Outcome (Recorded σ) β) : Prop where
  | sent (text : String) (final : (q.sql db s).result = .ok text)
      (one_sent : one.state.statements = s.statements ++ [(.rows, text)])
      (all_sent : all.state.statements = s.statements ++ [(.rows, text)])
  | stopped (one_failed : ∃ e, one.result = .error e) (all_failed : ∃ e, all.result = .error e)
      (one_silent : one.state.statements = s.statements)
      (all_silent : all.state.statements = s.statements)

/-- Two ways to run a query for rows send the same if they refuse the same selections. -/
lemma oneStatement (q : Query) (db : Database σ) (s : Recorded σ) (t : Terminal α) (u : Terminal β)
    (rows : t.operation.narrowed = .rows ∧ u.operation.narrowed = .rows)
    (checks : t.check q = .ok () ↔ u.check q = .ok ()) :
    OneStatement q db.recordedBelow s (t.run q db.recordedBelow s)
      (u.run q db.recordedBelow s) := by
  obtain ⟨stops, sends⟩ := (tracing_recordedBelow db).sent_run t s
  obtain ⟨stops', sends'⟩ := (tracing_recordedBelow db).sent_run u s
  rw [rows.1] at sends
  rw [rows.2] at sends'
  cases passed : t.check q with
  | ok =>
    have first : t.finalText q db.recordedBelow s = (q.sql db.recordedBelow s).result := by
      rw [Terminal.finalText, passed, ok_bind]
    have second : u.finalText q db.recordedBelow s = (q.sql db.recordedBelow s).result := by
      rw [Terminal.finalText, checks.mp passed, ok_bind]
    cases final : (q.sql db.recordedBelow s).result with
    | ok text =>
      exact .sent text final (sends text (first.trans final)).2 (sends' text (second.trans final)).2
    | error e =>
      obtain ⟨failed, silent⟩ := stops e (first.trans final)
      obtain ⟨failed', silent'⟩ := stops' e (second.trans final)
      exact .stopped ⟨e, failed⟩ ⟨e, failed'⟩ silent silent'
  | error e =>
    have refused : ∃ e', u.check q = .error e' := by
      cases h : u.check q with
      | ok => rw [checks.mpr h] at passed; cases passed
      | error e' => exact ⟨e', rfl⟩
    obtain ⟨e', refused⟩ := refused
    obtain ⟨failed, silent⟩ := stops e (by rw [Terminal.finalText, passed, error_bind])
    obtain ⟨failed', silent'⟩ := stops' e' (by rw [Terminal.finalText, refused, error_bind])
    exact .stopped ⟨e, failed⟩ ⟨e', failed'⟩ silent silent'

lemma scalar_checks_column (q : Query) :
    Terminal.scalar.check q = .ok () ↔ Terminal.column.check q = .ok () := by
  simp only [Terminal.check, Terminal.column?]
  rcases q.singleColumn_of_operation with ⟨r, single⟩ | ⟨_, _, refused⟩
  · rw [single .scalar, single .column]
  · simp only [refused, Except.map, reduceCtorEq]

/-! ## The first result -/

/-- A record that needs no column can be made of any row. -/
lemma RecordType.decode_total {R : RecordType} (free : R.required = []) (row : Row) :
    ∃ record, R.decode row = .ok record := by
  refine ⟨.ofRow row, R.decode_of_readable ?_⟩
  rw [RecordType.Readable, free]
  exact List.forall_mem_nil _

/-- A run for one result is the head of the run for all, and sends the same single statement. -/
theorem one_headOf_all (q : Query) {db : Database σ} (narrows : db.NarrowsByDefault)
    {decode : Row → Except Error α} (total : ∀ row, ∃ a, decode row = .ok a) :
    (∀ s, HeadOf (q.getRow db s) (q.getResults db s) ∧
      HeadOf (q.getOne decode db s) (q.get decode db s) ∧
      ((∀ rows, q.answer db s db.queryRows = .ok rows → ∀ row ∈ rows, row.columns ≠ []) →
        ValueHead q s (q.getScalar db s) (q.getColumn db s))) ∧
    ∀ s, OneStatement q db.recordedBelow s (q.getRow db.recordedBelow s)
        (q.getResults db.recordedBelow s) ∧
      OneStatement q db.recordedBelow s (q.getOne decode db.recordedBelow s)
        (q.get decode db.recordedBelow s) ∧
      OneStatement q db.recordedBelow s (q.getScalar db.recordedBelow s)
        (q.getColumn db.recordedBelow s) := by
  constructor
  · intro s
    exact ⟨q.headOf_rows narrows s, q.headOf_decoded narrows s total, q.valueHead narrows s⟩
  · intro s
    refine ⟨?_, ?_, ?_⟩
    · exact oneStatement q db s .row .results ⟨rfl, rfl⟩ Iff.rfl
    · exact oneStatement q db s (.record decode) (.records decode) ⟨rfl, rfl⟩ Iff.rfl
    · exact oneStatement q db s .scalar .column ⟨rfl, rfl⟩ (scalar_checks_column q)

/-- Two rows are found; each run for one result gives the first of them, cast by the first rule. -/
theorem one_headOf_all_masked :
    let q := RecordType.masked.building [.select ["a"]]
    let db := Script.adapter.database
    let s : Script := { replies := [.rows RecordType.maskedRows] }
    db.NarrowsByDefault ∧ (∀ row, ∃ record, RecordType.masked.decode row = .ok record) ∧
      HeadOf (q.getRow db s) (q.getResults db s) ∧
      HeadOf (q.getOne RecordType.masked.decode db s) (q.get RecordType.masked.decode db s) ∧
      ValueHead q s (q.getScalar db s) (q.getColumn db s) ∧
      (q.getScalar db s).result = .ok (some (.bool true)) ∧
      OneStatement q db.recordedBelow ⟨s, []⟩ (q.getScalar db.recordedBelow ⟨s, []⟩)
        (q.getColumn db.recordedBelow ⟨s, []⟩) := by
  intro q db s
  have total : ∀ row, ∃ record, RecordType.masked.decode row = .ok record :=
    RecordType.decode_total rfl
  have first := one_headOf_all q Script.adapter.narrowsByDefault total
  have filled : ∀ rows, q.answer db s db.queryRows = .ok rows →
      ∀ row ∈ rows, row.columns ≠ [] := by
    intro rows found
    obtain rfl : RecordType.maskedRows = rows := Except.ok.inj found
    simp [RecordType.maskedRows]
  exact ⟨Script.adapter.narrowsByDefault, total, (first.1 s).1, (first.1 s).2.1,
    (first.1 s).2.2 filled, rfl, (first.2 ⟨s, []⟩).2.2⟩

end Clausal
