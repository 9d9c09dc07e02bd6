import Clausal.Proofs.Query.Building
import Clausal.Query.Run

/-!
# What a query runs against

Building a query never looks at what it runs against, and preparing it takes no more than the name
of the table. So the casts of a record type have no part in a statement that is executed.
-/

namespace Clausal.Query

/-- The same clauses against another target. -/
def against (q : Query) (target : Target) : Query :=
  { q with target := target }

variable (target : Target)

/-! ## Building -/

lemma fix_against (q : Query) (kind : StatementKind) :
    (q.against target).fix kind = (q.fix kind).map (against · target) := by
  have kinds : (q.against target).kind = q.kind := rfl
  have used : (q.against target).used = q.used := rfl
  simp only [fix, kinds, used]
  cases q.kind with
  | some current =>
    simp only
    split <;> rfl
  | none =>
    simp only
    split <;> rfl

lemma allow_against (q : Query) (clause : Clause) :
    (q.against target).allow clause = (q.allow clause).map (against · target) := by
  have noted (r : Query) : (r.against target).noted clause = (r.noted clause).against target := by
    rw [noted_eq, noted_eq]
    rfl
  have kind : (q.against target).kind = q.kind := rfl
  rw [allow_eq, allow_eq, kind]
  cases clause.fixedKind? with
  | some kind =>
    simp only [fix_against]
    cases q.fix kind with
    | ok r => exact congrArg Except.ok (noted r)
    | error e => rfl
  | none =>
    cases q.kind with
    | some kind =>
      simp only
      split
      · exact congrArg Except.ok (noted q)
      · rfl
    | none => exact congrArg Except.ok (noted q)

lemma proceed_against (q : Query) (step : Except Error Query) {next : Query → Query}
    (h : ∀ r, next (r.against target) = (next r).against target) :
    (q.against target).proceed (step.map (against · target)) next =
      (q.proceed step next).against target := by
  cases step with
  | ok r => exact h r
  | error e => rfl

lemma withClause_against (q : Query) (clause : Clause) {next : Query → Query}
    (h : ∀ r, next (r.against target) = (next r).against target) :
    (q.against target).withClause clause next = (q.withClause clause next).against target := by
  rw [withClause, withClause, allow_against]
  exact proceed_against target q _ h

lemma ofKind_against (q : Query) (kind : StatementKind) :
    (q.against target).ofKind kind = (q.ofKind kind).against target := by
  rw [ofKind, ofKind, fix_against]
  exact proceed_against target q _ fun _ => rfl

lemma addRow_against (q : Query) (cells : Columns Slot) :
    (q.against target).addRow cells = (q.addRow cells).map (against · target) := by
  have rows : (q.against target).insertRows = q.insertRows := rfl
  simp only [addRow, rows]
  split <;> rfl

lemma addRows_against (rows : List (List (String × Slot))) (q : Query) :
    (q.against target).addRows rows = (q.addRows rows).against target := by
  induction rows generalizing q with
  | nil => rfl
  | cons pairs rest ih =>
    rw [addRows_cons, addRows_cons, addRow_against]
    exact proceed_against target q _ ih

lemma addConditions_against (q : Query) (clause : Clause) (f : Filter)
    {store : List Condition → Query → Query}
    (h : ∀ items r, store items (r.against target) = (store items r).against target) :
    (q.against target).addConditions clause f store =
      (q.addConditions clause f store).against target := by
  refine withClause_against target q clause fun r => ?_
  cases f.conditions with
  | ok items => exact h items r
  | error fault => rfl

lemma foldl_against {α : Type} {f : Query → α → Query}
    (h : ∀ q a, f (q.against target) a = (f q a).against target) (items : List α) (q : Query) :
    items.foldl f (q.against target) = (items.foldl f q).against target := by
  induction items generalizing q with
  | nil => rfl
  | cons a items ih => rw [List.foldl_cons, List.foldl_cons, h, ih]

/-- No call looks at the target. -/
theorem call_against (q : Query) (c : Call) :
    (q.against target).call c = (q.call c).against target := by
  have set (q : Query) (cell : String × Slot) :
      (q.against target).set cell.1 cell.2 = (q.set cell.1 cell.2).against target :=
    withClause_against target q .set fun _ => rfl
  cases c with
  | select columns => exact withClause_against target q .select fun _ => rfl
  | selectAll => exact withClause_against target q .select fun _ => rfl
  | update => exact ofKind_against target q .update
  | delete => exact ofKind_against target q .delete
  | set column slot => exact set q (column, slot)
  | setAll pairs =>
    have update : (q.against target).update = q.update.against target :=
      ofKind_against target q .update
    have folded := foldl_against target (f := fun q cell => q.set cell.1 cell.2) set pairs q.update
    rw [← update] at folded
    exact folded
  | insert rows => exact withClause_against target q .values (addRows_against target rows)
  | join j => exact withClause_against target q .join fun _ => rfl
  | filter newGroup f => exact addConditions_against target q .filter f fun _ _ => rfl
  | having newGroup f => exact addConditions_against target q .having f fun _ _ => rfl
  | groupBy items =>
    exact foldl_against target (fun q _ => withClause_against target q .groupBy fun _ => rfl)
      items q
  | orderBy items =>
    exact foldl_against target (fun q _ => withClause_against target q .orderBy fun _ => rfl)
      items q
  | limit bound => exact withClause_against target q .limit fun _ => rfl
  | offset bound => exact withClause_against target q .offset fun _ => rfl

lemma built_against (start : Target) (cs : List Call) :
    built target cs = (built start cs).against target :=
  foldl_against target (call_against target) cs { target := start }

/-! ## Preparing -/

variable {target}

lemma prepare_against {q : Query} (h : target.table? = q.target.table?) :
    (q.against target).prepare = q.prepare := by
  have table : (q.against target).table? = q.table? := h
  have required : (q.against target).requireTable = q.requireTable := by
    rw [requireTable, table]
    rfl
  have head : (q.against target).headPieces = q.headPieces := by
    rw [headPieces, required, table]
    rfl
  have joins : (q.against target).joinPieces = q.joinPieces := by
    rw [joinPieces, required]
    rfl
  have clauses : (q.against target).clauses = q.clauses := by
    rw [clauses, head, joins]
    rfl
  rw [prepare, clauses]
  rfl

lemma execute_against {σ : Type} {q : Query} (h : target.table? = q.target.table?)
    (db : Database σ) : (q.against target).execute db = q.execute db := by
  have final : (q.against target).finalSql db = q.finalSql db := by
    simp only [finalSql, sql, prepared, prepare_against h]
  rw [execute, final]
  rfl

end Clausal.Query
