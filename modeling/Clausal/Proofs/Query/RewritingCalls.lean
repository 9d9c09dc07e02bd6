import Clausal.Proofs.Query.Building
import Clausal.Proofs.Query.Rewriting

/-!
# Rewriting calls

A rewriting is neutral if the checks of the builder do not tell a value from its replacement. Then
it makes no difference whether the calls are rewritten or the query they build, errors included.
-/

namespace Clausal

structure Rewriting.Neutral (w : Rewriting) : Prop where
  slot : ∀ s, w.slot s.normalize = (w.slot s).normalize
  operand : ∀ s, w.operand s.normalize = (w.operand s).normalize
  isNull : ∀ s, (w.operand s).isNull = s.isNull
  emptyList : ∀ s, w.operand s = .bound (.list []) ↔ s = .bound (.list [])
  fragment : ∀ f, Text.allBlank (w.fragment f).sql = Text.allBlank f.sql

variable (w : Rewriting)

mutual

def Filter.rewrite : Filter → Filter
  | .compare column operator value => .compare column operator (w.operand value)
  | .raw fragment => .raw (w.fragment fragment)
  | .each filters => .each (Filter.rewriteAll filters)

def Filter.rewriteAll : List Filter → List Filter
  | [] => []
  | filter :: filters => Filter.rewrite filter :: Filter.rewriteAll filters

end

def Query.Call.rewrite : Query.Call → Query.Call
  | .select columns => .select columns
  | .selectAll => .selectAll
  | .update => .update
  | .delete => .delete
  | .set column slot => .set column (w.slot slot)
  | .setAll pairs => .setAll (rewriteCells w pairs)
  | .insert rows => .insert (rows.map (rewriteCells w))
  | .join j => .join j
  | .filter newGroup f => .filter newGroup (f.rewrite w)
  | .having newGroup f => .having newGroup (f.rewrite w)
  | .groupBy items => .groupBy (items.map (OrderItem.rewrite w))
  | .orderBy items => .orderBy (items.map (OrderItem.rewrite w))
  | .limit bound => .limit (w.bound bound)
  | .offset bound => .offset (w.bound bound)

variable {w}

/-! ## Conditions -/

lemma Filter.checkComparison_of_ne {value : Slot} (h : value ≠ .bound (.list []))
    (column : ColumnRef) (operator : Option String) :
    checkComparison column operator value =
      if Text.allBlank column.written then .error .emptyColumn
      else if operator.any Text.allBlank then .error (.emptyOperator column.sql)
      else .ok (.compare column
        (match operator with
          | some op => Text.uppercase (Text.trim op)
          | none => defaultOperator value)
        value.normalize) := by
  unfold checkComparison
  split
  · rfl
  split
  · rfl
  · split
    · exact absurd rfl h
    · rfl

lemma Filter.checkComparison_rewrite (h : w.Neutral) (column : ColumnRef) (operator : Option String)
    (value : Slot) :
    checkComparison column operator (w.operand value) =
      (checkComparison column operator value).map (Condition.rewrite w) := by
  by_cases empty : value = .bound (.list [])
  · rw [(h.emptyList value).mpr empty, empty]
    unfold checkComparison
    split
    · rfl
    split <;> rfl
  · have default : defaultOperator (w.operand value) = defaultOperator value := by
      rw [defaultOperator, defaultOperator, h.isNull]
    rw [checkComparison_of_ne empty, checkComparison_of_ne ((h.emptyList value).not.mpr empty),
      default, ← h.operand]
    split
    · rfl
    split <;> rfl

mutual

theorem Filter.conditions_rewrite (h : w.Neutral) : ∀ f : Filter,
    (f.rewrite w).conditions = f.conditions.map (List.map (Condition.rewrite w))
  | .compare column operator value => by
    simp only [Filter.rewrite, Filter.conditions, checkComparison_rewrite h]
    cases checkComparison column operator value <;> rfl
  | .raw fragment => by
    simp only [Filter.rewrite, Filter.conditions, h.fragment]
    split <;> rfl
  | .each filters => by
    simp only [Filter.rewrite, Filter.conditions]
    exact conditionsOfAll_rewrite h filters

theorem Filter.conditionsOfAll_rewrite (h : w.Neutral) : ∀ filters : List Filter,
    conditionsOfAll (Filter.rewriteAll w filters) =
      (conditionsOfAll filters).map (List.map (Condition.rewrite w))
  | [] => by simp [Filter.rewriteAll, conditionsOfAll, Except.map]
  | f :: filters => by
    simp only [Filter.rewriteAll, conditionsOfAll, conditions_rewrite h f,
      conditionsOfAll_rewrite h filters]
    cases f.conditions with
    | error fault => rfl
    | ok items =>
      cases conditionsOfAll filters with
      | error fault => rfl
      | ok rest => simp [Except.map, bind, Except.bind, pure, Except.pure]

end

lemma ConditionTree.rewrite_add (tree : ConditionTree) (newGroup : Bool) (items : List Condition) :
    (tree.add newGroup items).rewrite w =
      (tree.rewrite w).add newGroup (items.map (Condition.rewrite w)) := by
  have pushTo (item : Condition) (groups : List (List Condition)) :
      (pushTo groups item).map (·.map (Condition.rewrite w)) =
        ConditionTree.pushTo (groups.map (·.map (Condition.rewrite w))) (item.rewrite w) := by
    induction groups using ConditionTree.pushTo.induct with
    | case1 => rfl
    | case2 group => simp [ConditionTree.pushTo]
    | case3 group rest hne ih =>
      obtain ⟨next, others, rfl⟩ := List.exists_cons_of_ne_nil hne
      simpa [ConditionTree.pushTo] using ih
  have push (tree : ConditionTree) (items : List Condition) :
      (items.foldl ConditionTree.push tree).rewrite w =
        (items.map (Condition.rewrite w)).foldl ConditionTree.push (tree.rewrite w) := by
    induction items generalizing tree with
    | nil => rfl
    | cons item items ih =>
      have one : (tree.push item).rewrite w = (tree.rewrite w).push (item.rewrite w) :=
        congrArg ConditionTree.mk (pushTo item tree.groups)
      rw [List.foldl_cons, List.map_cons, List.foldl_cons, ih, one]
  have opened : tree.openGroup.rewrite w = (tree.rewrite w).openGroup := by
    simp [ConditionTree.openGroup, rewrite]
  cases newGroup with
  | true =>
    have added := push tree.openGroup items
    rwa [opened] at added
  | false => exact push tree items

/-! ## Cells -/

lemma rewriteCells_put (cells : Columns Slot) (name : String) (slot : Slot) :
    rewriteCells w (cells.put name slot) =
      Columns.put (rewriteCells w cells) name (w.slot slot) := by
  induction cells with
  | nil => rfl
  | cons cell rest ih =>
    obtain ⟨n, s⟩ := cell
    by_cases h : n = name
    · simp [rewriteCells, Columns.put, h]
    · simpa [rewriteCells, Columns.put, h] using ih

lemma rowOf_rewriteCells (h : w.Neutral) (pairs : List (String × Slot)) :
    Query.rowOf (rewriteCells w pairs) = rewriteCells w (Query.rowOf pairs) := by
  have collect (pairs : List (String × Slot)) (cells : Columns Slot) :
      ((rewriteCells w pairs).map fun pair => (pair.1, pair.2.normalize)).foldl
          (fun cells pair => cells.put pair.1 pair.2) (rewriteCells w cells) =
        rewriteCells w ((pairs.map fun pair => (pair.1, pair.2.normalize)).foldl
          (fun cells pair => cells.put pair.1 pair.2) cells) := by
    induction pairs generalizing cells with
    | nil => rfl
    | cons pair rest ih =>
      obtain ⟨name, slot⟩ := pair
      have put := rewriteCells_put (w := w) cells name slot.normalize
      rw [h.slot] at put
      simp only [rewriteCells, List.map_cons, List.foldl_cons] at ih put ⊢
      rw [← ih, put]
  exact collect pairs []

namespace Query

/-! ## Builder operations -/

lemma rewrite_fix (q : Query) (kind : StatementKind) :
    (q.rewrite w).fix kind = (q.fix kind).map (Query.rewrite w) := by
  have kinds : (q.rewrite w).kind = q.kind := rfl
  have used : (q.rewrite w).used = q.used := rfl
  simp only [fix, kinds, used]
  cases q.kind with
  | some current =>
    simp only
    split <;> rfl
  | none =>
    simp only
    split <;> rfl

lemma rewrite_noted (q : Query) (clause : Clause) :
    (q.rewrite w).noted clause = (q.noted clause).rewrite w := by
  rw [noted_eq, noted_eq]
  rfl

lemma rewrite_allow (q : Query) (clause : Clause) :
    (q.rewrite w).allow clause = (q.allow clause).map (Query.rewrite w) := by
  have kinds : (q.rewrite w).kind = q.kind := rfl
  rw [allow_eq, allow_eq, kinds]
  cases clause.fixedKind? with
  | some kind =>
    simp only [rewrite_fix]
    cases q.fix kind with
    | ok r => exact congrArg Except.ok (rewrite_noted r clause)
    | error e => rfl
  | none =>
    cases q.kind with
    | some kind =>
      simp only
      split
      · exact congrArg Except.ok (rewrite_noted q clause)
      · rfl
    | none => exact congrArg Except.ok (rewrite_noted q clause)

lemma rewrite_proceed (q : Query) (step : Except Error Query) {next next' : Query → Query}
    (h : ∀ r, (next r).rewrite w = next' (r.rewrite w)) :
    (q.proceed step next).rewrite w = (q.rewrite w).proceed (step.map (Query.rewrite w)) next' := by
  cases step with
  | ok r => exact h r
  | error e => rfl

lemma rewrite_withClause (q : Query) (clause : Clause) {next next' : Query → Query}
    (h : ∀ r, (next r).rewrite w = next' (r.rewrite w)) :
    (q.withClause clause next).rewrite w = (q.rewrite w).withClause clause next' := by
  rw [withClause, withClause, rewrite_allow]
  exact rewrite_proceed q _ h

lemma rewrite_ofKind (q : Query) (kind : StatementKind) :
    (q.ofKind kind).rewrite w = (q.rewrite w).ofKind kind := by
  rw [ofKind, ofKind, rewrite_fix]
  exact rewrite_proceed q _ fun _ => rfl

lemma rewrite_foldl {α : Type} {f : Query → α → Query} {g : α → α}
    (h : ∀ q a, (f q a).rewrite w = f (q.rewrite w) (g a)) (items : List α) (q : Query) :
    (items.foldl f q).rewrite w = (items.map g).foldl f (q.rewrite w) := by
  induction items generalizing q with
  | nil => rfl
  | cons a items ih => rw [List.foldl_cons, List.map_cons, List.foldl_cons, ih, h]

lemma rewrite_addRow (q : Query) (cells : Columns Slot) :
    (q.rewrite w).addRow (rewriteCells w cells) = (q.addRow cells).map (Query.rewrite w) := by
  have lacks : ((q.rewrite w).insertRows.head?.bind fun first =>
      first.names.find? fun column => (Columns.get? (rewriteCells w cells) column).isNone) =
      q.insertRows.head?.bind fun first =>
        first.names.find? fun column => (cells.get? column).isNone := by
    simp only [Query.rewrite, List.head?_map, get?_rewriteCells, Option.isNone_map]
    cases q.insertRows.head? with
    | none => rfl
    | some first => exact congrArg (List.find? _) (names_rewriteCells first)
  simp only [addRow, lacks]
  split
  · simp [Query.rewrite, Except.map]
  · simp [Query.rewrite, Except.map]

lemma rewrite_addRows (h : w.Neutral) (rows : List (List (String × Slot))) (q : Query) :
    (q.addRows rows).rewrite w = (q.rewrite w).addRows (rows.map (rewriteCells w)) := by
  induction rows generalizing q with
  | nil => rfl
  | cons pairs rest ih =>
    rw [List.map_cons, addRows_cons, addRows_cons, rowOf_rewriteCells h, rewrite_addRow]
    exact rewrite_proceed q _ ih

lemma rewrite_addConditions (h : w.Neutral) (q : Query) (clause : Clause) (f : Filter)
    {store : List Condition → Query → Query}
    (hs : ∀ items r,
      (store items r).rewrite w = store (items.map (Condition.rewrite w)) (r.rewrite w)) :
    (q.addConditions clause f store).rewrite w =
      (q.rewrite w).addConditions clause (f.rewrite w) store := by
  refine rewrite_withClause q clause fun r => ?_
  rw [Filter.conditions_rewrite h]
  cases f.conditions with
  | ok items => exact hs items r
  | error fault => rfl

/-- Rewriting what a call makes is making it by the rewritten call. -/
theorem rewrite_call (h : w.Neutral) (q : Query) (c : Call) :
    (q.call c).rewrite w = (q.rewrite w).call (c.rewrite w) := by
  have assign (q : Query) (cell : String × Slot) :
      (q.set cell.1 cell.2).rewrite w = (q.rewrite w).set cell.1 (w.slot cell.2) := by
    refine rewrite_withClause q .set fun r => ?_
    simp [Query.rewrite, rewriteCells_put, h.slot]
  cases c with
  | select columns => exact rewrite_withClause q .select fun _ => rfl
  | selectAll => exact rewrite_withClause q .select fun _ => rfl
  | update => exact rewrite_ofKind q .update
  | delete => exact rewrite_ofKind q .delete
  | set column slot => exact assign q (column, slot)
  | setAll pairs =>
    have folded := rewrite_foldl (f := fun q cell => q.set cell.1 cell.2)
      (g := fun cell => (cell.1, w.slot cell.2)) assign pairs q.update
    have update : q.update.rewrite w = (q.rewrite w).update := rewrite_ofKind q .update
    rw [update] at folded
    exact folded
  | insert rows => exact rewrite_withClause q .values fun r => rewrite_addRows h rows r
  | join j => exact rewrite_withClause q .join fun _ => rfl
  | filter newGroup f =>
    refine rewrite_addConditions h q .filter f fun items r => ?_
    simp [Query.rewrite, ConditionTree.rewrite_add]
  | having newGroup f =>
    refine rewrite_addConditions h q .having f fun items r => ?_
    simp [Query.rewrite, ConditionTree.rewrite_add]
  | groupBy items =>
    refine rewrite_foldl (fun q item => rewrite_withClause q .groupBy fun r => ?_) items q
    simp [Query.rewrite]
  | orderBy items =>
    refine rewrite_foldl (fun q item => rewrite_withClause q .orderBy fun r => ?_) items q
    simp [Query.rewrite]
  | limit bound => exact rewrite_withClause q .limit fun _ => rfl
  | offset bound => exact rewrite_withClause q .offset fun _ => rfl

theorem rewrite_calls (h : w.Neutral) (q : Query) (cs : List Call) :
    (q.calls cs).rewrite w = (q.rewrite w).calls (cs.map (Call.rewrite w)) :=
  rewrite_foldl (rewrite_call h) cs q

end Query

end Clausal
