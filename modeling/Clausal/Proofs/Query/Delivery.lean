import Clausal.Proofs.Database.Recording
import Clausal.Proofs.Query.Faults
import Clausal.Proofs.Query.Final

/-!
# What a run sends

Every way to run a query goes the same steps: a check of the selected column where one is needed,
preparing, binding, and one statement. Nothing is sent unless all steps before succeed, the first
that fails gives the error, and what is sent is the final text.
-/

namespace Clausal

open Query

/-- A way to run a query, with the type of what comes back. -/
inductive Terminal : Type → Type 1 where
  | execute : Terminal UInt64
  | results : Terminal (List Row)
  | row : Terminal (Option Row)
  | column : Terminal (List Value)
  | scalar : Terminal (Option Value)
  | records {α : Type} (decode : Row → Except Error α) : Terminal (List α)
  | record {α : Type} (decode : Row → Except Error α) : Terminal (Option α)

namespace Terminal

variable {σ α : Type}

def run (q : Query) (db : Database σ) : Terminal α → Action σ α
  | execute => q.execute db
  | results => q.getResults db
  | row => q.getRow db
  | column => q.getColumn db
  | scalar => q.getScalar db
  | records decode => q.get decode db
  | record decode => q.getOne decode db

/-- What the database is asked to do. -/
def operation : Terminal α → Operation
  | execute => .execute
  | results | records _ => .rows
  | row | record _ => .row
  | column => .column
  | scalar => .scalar

/-- The operation for which exactly one column has to be selected. -/
def column? : Terminal α → Option ColumnOperation
  | column => some .column
  | scalar => some .scalar
  | _ => none

/-- The check of the selected columns. -/
def check (t : Terminal α) (q : Query) : Except Error Unit :=
  match t.column? with
  | some operation => (q.singleColumn operation).map fun _ => ()
  | none => .ok ()

/-- The text that is sent, or why none is. -/
def finalText (t : Terminal α) (q : Query) (db : Database σ) (s : σ) : Except Error String := do
  t.check q
  (q.sql db s).result

/-- Not too many columns are selected, and not too few. -/
def Selects (t : Terminal α) (q : Query) : Prop :=
  t.column? ≠ none → q.selectList.length = 1

/-- Why a run sends nothing: an error made in building, then a wrong number of selected columns,
then a clause or a table that is missing, then arguments that cannot be bound. -/
inductive Stopped (bound : String → List Value → Except Error String) (q : Query) (t : Terminal α) :
    Error → Prop where
  | building {e : Error} (fault : q.error = some e) : Stopped bound q t e
  | arity {operation : ColumnOperation} (valid : q.error = none)
      (checked : t.column? = some operation) (wrong : q.selectList.length ≠ 1) :
      Stopped bound q t (.selectArity operation q.selectList.length)
  | lacking {e : Error} (valid : q.error = none) (selects : t.Selects q)
      (fault : q.shortfall = some e) : Stopped bound q t e
  | binding {p : Preparation} {e : Error} (selects : t.Selects q) (ready : q.prepare = .ok p)
      (args : p.args ≠ []) (fault : bound p.sql p.args = .error e) : Stopped bound q t e

end Terminal

namespace Query

variable {σ : Type} {q : Query}

lemma finalSql_eq (q : Query) (db : Database σ) (s : σ) :
    (q.finalSql db s).result = (q.sql db s).result ∧
      (q.finalSql db s).state = (q.sql db s).state := by
  have report (sql : String) : Action.Quiet (σ := σ) (do Action.emit [.running sql]; return sql) :=
    .bind (.emit _) fun _ => .pure sql
  refine ⟨?_, Action.state_bind_quiet report s⟩
  cases h : (q.sql db s).result with
  | ok sql => exact (Action.bind_of_ok _ h).1
  | error e => exact (Action.bind_of_error _ h).1

end Query

namespace Terminal

variable {σ α : Type} {q : Query} (t : Terminal α)

/-- The error of the query comes before the one about its columns. -/
lemma check_cases (q : Query) :
    (∃ e, q.error = some e ∧ (t.check q = .ok () ∨ t.check q = .error e)) ∨
      (q.error = none ∧ ∃ operation, t.column? = some operation ∧ q.selectList.length ≠ 1 ∧
        t.check q = .error (.selectArity operation q.selectList.length)) ∨
      (q.error = none ∧ t.Selects q ∧ t.check q = .ok ()) := by
  rw [check, Selects]
  cases t.column? with
  | none =>
    cases q.error with
    | some e => exact Or.inl ⟨e, rfl, Or.inl rfl⟩
    | none => exact Or.inr (Or.inr ⟨rfl, fun some => absurd rfl some, rfl⟩)
  | some operation =>
    simp only [singleColumn, validate]
    cases q.error with
    | some e => exact Or.inl ⟨e, rfl, Or.inr rfl⟩
    | none =>
      rcases q.selectList with _ | ⟨column, _ | ⟨other, rest⟩⟩
      · exact Or.inr (Or.inl ⟨rfl, operation, rfl, by simp, rfl⟩)
      · exact Or.inr (Or.inr ⟨rfl, fun _ => rfl, rfl⟩)
      · exact Or.inr (Or.inl ⟨rfl, operation, rfl, by simp, rfl⟩)

lemma singleColumn_of_check (passed : t.check q = .ok ()) :
    ∀ operation ∈ t.column?, ∃ column, q.singleColumn operation = .ok column := by
  intro operation found
  rw [check, show t.column? = some operation from found] at passed
  cases h : q.singleColumn operation with
  | ok column => exact ⟨column, rfl⟩
  | error e => simp [h, Except.map] at passed

/-- Only the runs for one column check anything, and they do it first. -/
lemma run_of_refused {e : Error} (refused : t.check q = .error e) (db : Database σ) :
    t.run q db = Action.fail e := by
  have single {operation : ColumnOperation}
      (h : (q.singleColumn operation).map (fun _ => ()) = .error e) :
      q.singleColumn operation = .error e := by
    cases hc : q.singleColumn operation with
    | ok column => simp [hc, Except.map] at h
    | error e' => simpa [hc, Except.map] using h
  cases t with
  | column => exact Action.ofExcept_bind_of_error (single refused) _
  | scalar => exact Action.ofExcept_bind_of_error (single refused) _
  | _ => cases refused

lemma finalText_of_error (db : Database σ) (s : σ) {e : Error} (fault : q.error = some e) :
    t.finalText q db s = .error e := by
  have sql := (sql_of_error (prepare_of_error fault) db s).1
  rcases t.check_cases q with ⟨e', he, passed | refused⟩ | ⟨valid, _⟩ | ⟨valid, _⟩
  · rw [finalText, passed, ok_bind, sql]
  · obtain rfl := Option.some.inj (fault.symm.trans he)
    rw [finalText, refused, error_bind]
  · rw [fault] at valid
    cases valid
  · rw [fault] at valid
    cases valid

lemma finalText_of_selects (db : Database σ) (s : σ) (valid : q.error = none)
    (selects : t.Selects q) : t.finalText q db s = (q.sql db s).result := by
  rcases t.check_cases q with ⟨e, he, _⟩ | ⟨_, operation, checked, wrong, _⟩ | ⟨_, _, passed⟩
  · rw [valid] at he
    cases he
  · exact absurd (selects (by simp [checked])) wrong
  · rw [finalText, passed, ok_bind]

/-- The reasons are all there are, and in this order. -/
theorem finalText_eq_error_iff (db : Database σ) (s : σ) (fit : q.RowsFit) (e : Error) :
    t.finalText q db s = .error e ↔
      t.Stopped (fun template args => (db.prepare template args s).result) q e := by
  constructor
  · intro h
    rcases t.check_cases q with ⟨e', fault, _⟩ | ⟨valid, operation, checked, wrong, refused⟩ |
      ⟨valid, selects, _⟩
    · rw [t.finalText_of_error db s fault] at h
      exact .building (fault.trans (congrArg some (Except.error.inj h)))
    · rw [finalText, refused, error_bind] at h
      obtain rfl := Except.error.inj h
      exact .arity valid checked wrong
    · rw [t.finalText_of_selects db s valid selects] at h
      rcases prepare_cases fit with ⟨e', lack, failed⟩ | ⟨_, p, ready⟩
      · rw [(sql_of_error failed db s).1] at h
        rw [valid, Option.none_or] at lack
        exact .lacking valid selects (lack.trans (congrArg some (Except.error.inj h)))
      · rw [(sql_of_ok ready db s).1] at h
        by_cases bare : p.args = []
        · rw [if_pos bare] at h
          cases h
        · rw [if_neg bare] at h
          exact .binding selects ready bare h
  · intro stopped
    cases stopped with
    | building fault => exact t.finalText_of_error db s fault
    | arity valid checked wrong =>
      rcases t.check_cases q with ⟨e, he, _⟩ | ⟨_, operation, found, _, refused⟩ | ⟨_, selects, _⟩
      · rw [valid] at he
        cases he
      · obtain rfl := Option.some.inj (checked.symm.trans found)
        rw [finalText, refused, error_bind]
      · exact absurd (selects (by simp [checked])) wrong
    | lacking valid selects lack =>
      rw [t.finalText_of_selects db s valid selects]
      rcases prepare_cases fit with ⟨e', he, failed⟩ | ⟨full, _⟩
      · rw [valid, Option.none_or, lack] at he
        obtain rfl := Option.some.inj he
        exact (sql_of_error failed db s).1
      · rw [valid, Option.none_or, lack] at full
        cases full
    | binding selects ready args failed =>
      rw [t.finalText_of_selects db s (prepare_eq_ok ready).1 selects, (sql_of_ok ready db s).1,
        if_neg args]
      exact failed

end Terminal

namespace Tracing

variable {σ α β : Type} {db : Database σ} {sent : σ → List (Operation × String)}
  {reached : Operation → Operation} (tracing : Tracing db sent reached)

include tracing

/-- Forming the final text sends nothing. -/
lemma sent_sql (q : Query) (s : σ) : sent (q.sql db s).state = sent s := by
  cases hp : q.prepare with
  | error e => rw [(sql_of_error hp db s).2]
  | ok p =>
    rw [(sql_of_ok hp db s).2]
    split
    · rfl
    · exact tracing.prepare p.sql p.args s

/-- What follows the final text is not run without one, and then sends one statement. -/
lemma sent_finalSql {q : Query} {k : String → Action σ α} {operation : Operation}
    (hk : ∀ text s, sent (k text s).state = sent s ++ [(operation, text)]) (s : σ) :
    (∀ e, (q.sql db s).result = .error e →
        ((q.finalSql db >>= k) s).result = .error e ∧
          sent ((q.finalSql db >>= k) s).state = sent s) ∧
      (∀ text, (q.sql db s).result = .ok text →
        sent ((q.finalSql db >>= k) s).state = sent s ++ [(operation, text)]) := by
  obtain ⟨result, state⟩ := finalSql_eq q db s
  constructor
  · intro e he
    obtain ⟨stops, kept⟩ := Action.bind_of_error k (result.trans he)
    refine ⟨stops, ?_⟩
    rw [kept, state]
    exact tracing.sent_sql q s
  · intro text ht
    rw [(Action.bind_of_ok k (result.trans ht)).2, hk, state, tracing.sent_sql]

/-- The steps of a run behind the check of the selected column. -/
lemma sent_run_checked {q : Query} (t : Terminal α) (s : σ)
    (checked : ∀ operation ∈ t.column?, ∃ column, q.singleColumn operation = .ok column) :
    (∀ e, (q.sql db s).result = .error e →
        (t.run q db s).result = .error e ∧ sent (t.run q db s).state = sent s) ∧
      (∀ text, (q.sql db s).result = .ok text →
        sent (t.run q db s).state = sent s ++ [(reached t.operation, text)]) := by
  -- an operation of the database, and then nothing that changes its state
  have asked {β γ : Type} {send : String → Action σ β} {finish : β → Action σ γ}
      {operation : Operation}
      (hs : ∀ text s, sent (send text s).state = sent s ++ [(operation, text)])
      (hf : ∀ b, (finish b).Quiet) (text : String) (s : σ) :
      sent ((send text >>= finish) s).state = sent s ++ [(operation, text)] := by
    rw [Action.state_bind_quiet hf]
    exact hs text s
  cases t with
  | execute => exact tracing.sent_finalSql tracing.execute s
  | results =>
    exact tracing.sent_finalSql (asked tracing.rows fun _ => .bind (.emit _) fun _ => .pure _) s
  | row =>
    exact tracing.sent_finalSql (asked tracing.row fun _ => .bind (.emit _) fun _ => .pure _) s
  | column =>
    obtain ⟨column, hc⟩ := checked .column rfl
    rw [show Terminal.column.run q db = _ from Action.ofExcept_bind_of_ok hc _]
    exact tracing.sent_finalSql (asked tracing.column fun _ => .bind (.emit _) fun _ => .pure _) s
  | scalar =>
    obtain ⟨column, hc⟩ := checked .scalar rfl
    rw [show Terminal.scalar.run q db = _ from Action.ofExcept_bind_of_ok hc _]
    exact tracing.sent_finalSql (asked tracing.scalar fun _ => .bind (.emit _) fun _ => .pure _) s
  | records decode =>
    exact tracing.sent_finalSql (asked tracing.rows fun _ => .ofExcept _) s
  | record decode =>
    refine tracing.sent_finalSql (asked tracing.row fun row => ?_) s
    cases row with
    | none => exact .pure none
    | some row => exact .bind (.ofExcept _) fun _ => .pure _

/-- Without a final text nothing is sent; otherwise it is sent, once. -/
theorem sent_run {q : Query} (t : Terminal α) (s : σ) :
    (∀ e, t.finalText q db s = .error e →
        (t.run q db s).result = .error e ∧ sent (t.run q db s).state = sent s) ∧
      (∀ text, t.finalText q db s = .ok text →
        (q.sql db s).result = .ok text ∧
          sent (t.run q db s).state = sent s ++ [(reached t.operation, text)]) := by
  cases hc : t.check q with
  | error refusal =>
    have final : t.finalText q db s = .error refusal := by
      rw [Terminal.finalText, hc, error_bind]
    rw [final, t.run_of_refused hc db]
    constructor
    · intro e he
      obtain rfl := Except.error.inj he
      exact ⟨rfl, rfl⟩
    · intro text ht
      cases ht
  | ok =>
    have final : t.finalText q db s = (q.sql db s).result := by
      rw [Terminal.finalText, hc, ok_bind]
    obtain ⟨stops, sends⟩ := tracing.sent_run_checked t s (t.singleColumn_of_check hc)
    rw [final]
    exact ⟨stops, fun text ht => ⟨ht, sends text ht⟩⟩

end Tracing

/-! ## Recorded runs -/

section Recorded

variable {σ α : Type}

lemma mirrors_sql (q : Query) (db : Database σ) : Mirrors (q.sql db.recorded) (q.sql db) := by
  have prepared : Mirrors (q.prepared : Action (Recorded σ) Preparation) q.prepared :=
    .bind (.ofExcept _) fun _ => .bind (.emit _) fun _ => .pure _
  refine .bind prepared fun p => ?_
  split
  · exact .pure p.sql
  · exact .prepare db p.sql p.args

lemma mirrors_finalSql (q : Query) (db : Database σ) :
    Mirrors (q.finalSql db.recorded) (q.finalSql db) :=
  .bind (mirrors_sql q db) fun _ => .bind (.emit _) fun _ => .pure _

/-- Recording changes neither what comes back nor what the database inside does. -/
theorem mirrors_run (t : Terminal α) (q : Query) (db : Database σ) :
    Mirrors (t.run q db.recorded) (t.run q db) := by
  have final := mirrors_finalSql q db
  cases t with
  | execute => exact .bind final fun sql => .note .execute sql _
  | results =>
    exact .bind final fun sql => .bind (.note .rows sql _) fun _ => .bind (.emit _) fun _ => .pure _
  | row =>
    exact .bind final fun sql => .bind (.note .row sql _) fun _ => .bind (.emit _) fun _ => .pure _
  | column =>
    exact .bind (.ofExcept _) fun _ => .bind final fun sql => .bind (.note .column sql _) fun _ =>
      .bind (.emit _) fun _ => .pure _
  | scalar =>
    exact .bind (.ofExcept _) fun _ => .bind final fun sql => .bind (.note .scalar sql _) fun _ =>
      .bind (.emit _) fun _ => .pure _
  | records decode =>
    exact .bind final fun sql => .bind (.note .rows sql _) fun _ => .ofExcept _
  | record decode =>
    refine .bind final fun sql => .bind (.note .row sql _) fun row => ?_
    cases row with
    | none => exact .pure none
    | some row => exact .bind (.ofExcept _) fun _ => .pure _

end Recorded

namespace Terminal

variable {σ α : Type}

/-- A query built by calls is stopped, by the first reason that applies, and then sends nothing; or
no reason applies, and it sends its final text once. -/
lemma delivery (target : Target) (cs : List Call) (t : Terminal α) {db : Database σ}
    {sent : σ → List (Operation × String)} {reached : Operation → Operation}
    (tracing : Tracing db sent reached) (s : σ) :
    (∃ e, t.Stopped (fun template args => (db.prepare template args s).result) (built target cs) e ∧
        (t.run (built target cs) db s).result = .error e ∧
        sent (t.run (built target cs) db s).state = sent s) ∨
      ((∀ e, ¬ t.Stopped (fun template args => (db.prepare template args s).result)
          (built target cs) e) ∧
        ∃ text, ((built target cs).sql db s).result = .ok text ∧
          sent (t.run (built target cs) db s).state = sent s ++ [(reached t.operation, text)]) := by
  have reasons := t.finalText_eq_error_iff db s (rowsFit_built target cs)
  obtain ⟨stops, sends⟩ := tracing.sent_run (q := built target cs) t s
  cases final : t.finalText (built target cs) db s with
  | error e => exact Or.inl ⟨e, (reasons e).mp final, stops e final⟩
  | ok text =>
    refine Or.inr ⟨fun e stopped => ?_, text, sends text final⟩
    have failed := (reasons e).mpr stopped
    rw [final] at failed
    cases failed

/-- The error of a query is that of the first call that failed; it stays, and preparing, the final
text and every run give it back. A run sends nothing if it is stopped, and otherwise its final text,
once. -/
theorem run_built (target : Target) (cs : List Call) (t : Terminal α) (db : Database σ)
    (s : Recorded σ) :
    (∀ e, (built target cs).error = some e ↔
        ∃ before c later, cs = before ++ c :: later ∧ (built target before).error = none ∧
          ((built target before).call c).error = some e) ∧
      (∀ e, (built target cs).error = some e →
        (∀ later, (built target (cs ++ later)).error = some e) ∧
          (built target cs).prepare = .error e ∧
          ((built target cs).sql db s.inner).result = .error e ∧
          (t.run (built target cs) db s.inner).result = .error e) ∧
      ((t.run (built target cs) db.recorded s).result =
          (t.run (built target cs) db s.inner).result ∧
        (t.run (built target cs) db.recorded s).state.inner =
          (t.run (built target cs) db s.inner).state) ∧
      ((∃ e, t.Stopped (fun template args => (db.prepare template args s.inner).result)
            (built target cs) e ∧
          (t.run (built target cs) db.recorded s).result = .error e ∧
          (t.run (built target cs) db.recorded s).state.statements = s.statements) ∨
        ((∀ e, ¬ t.Stopped (fun template args => (db.prepare template args s.inner).result)
            (built target cs) e) ∧
          ∃ text, ((built target cs).sql db s.inner).result = .ok text ∧
            (t.run (built target cs) db.recorded s).state.statements =
              s.statements ++ [(t.operation, text)])) := by
  have mirrors := mirrors_run t (built target cs) db
  refine ⟨error_calls_iff { target := target } rfl cs, fun e fault => ?_,
    ⟨mirrors.result s, mirrors.state s⟩, ?_⟩
  · have failed := t.finalText_of_error db.recorded s fault
    have run := ((tracing_recorded db).sent_run t s).1 e failed
    refine ⟨fun later => ?_, prepare_of_error fault, (sql_of_error (prepare_of_error fault) db _).1,
      (mirrors.result s).symm.trans run.1⟩
    have split : built target (cs ++ later) = (built target cs).calls later := List.foldl_append
    rw [split]
    exact error_calls fault later
  · have sql := (mirrors_sql (built target cs) db).result s
    have delivered := delivery target cs t (tracing_recorded db) s
    rw [sql] at delivered
    exact delivered

/-- An adapter that has one query only is asked for all rows, once and with the same text. -/
theorem run_adapter (target : Target) (cs : List Call) (t : Terminal α) (adapter : Adapter σ)
    (s : Recorded σ) :
    (∃ e, (t.run (built target cs) adapter.recorded.database s).result = .error e ∧
        (t.run (built target cs) adapter.recorded.database s).state.statements = s.statements) ∨
      ∃ text, ((built target cs).sql adapter.recorded.database s).result = .ok text ∧
        (t.run (built target cs) adapter.recorded.database s).state.statements =
          s.statements ++ [(t.operation.narrowed, text)] := by
  rcases delivery target cs t (tracing_adapter adapter) s with ⟨e, _, stops⟩ | ⟨_, sends⟩
  · exact Or.inl ⟨e, stops⟩
  · exact Or.inr sends

end Terminal

end Clausal
