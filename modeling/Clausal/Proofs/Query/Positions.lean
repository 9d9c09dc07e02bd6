import Clausal.Proofs.Query.Faults
import Clausal.Proofs.Query.Lines

/-!
# Positions of values

What stands in the places of the values in the final text. Whether one expression stands in a place
depends on the lists in the value. A list is put in brackets only where a column is compared with
it, and only there an empty list is refused, so a list inside a list, or in an assignment or a row,
is written out among its neighbours.
-/

namespace Clausal

open Sql Lexer

/-! ## Checked lists -/

/-- No column is compared with the empty list. -/
def checked : Vocabulary where
  name _ := True
  expression _ := True
  column _ := True
  operator _ := True
  slot _ := True
  operand s := s ≠ .bound (.list [])
  fragment _ := True
  operator_default _ := trivial
  operator_written _ _ := trivial
  slot_null := trivial
  operand_null := nofun

lemma Filter.ne_empty_of_checkComparison {column : ColumnRef} {operator : Option String}
    {value : Slot} {item : Condition} (h : checkComparison column operator value = .ok item) :
    value ≠ .bound (.list []) := by
  rintro rfl
  unfold checkComparison at h
  split at h
  · cases h
  split at h
  · cases h
  · cases h

mutual

/-- A filter that is accepted compares no column with the empty list. -/
theorem Filter.within_checked : ∀ (f : Filter) {items : List Condition},
    f.conditions = .ok items → f.Within checked
  | .compare column operator value, items, h => by
    rw [Filter.Within]
    refine ⟨trivial, fun _ _ => trivial, ?_⟩
    cases hi : checkComparison column operator value with
    | error fault => simp [Filter.conditions, hi, Bind.bind, Except.bind] at h
    | ok item => exact ne_empty_of_checkComparison hi
  | .raw fragment, items, _ => by
    rw [Filter.Within]
    trivial
  | .each filters, items, h => by
    rw [Filter.Within]
    rw [Filter.conditions] at h
    exact allWithin_checked filters h

theorem Filter.allWithin_checked : ∀ (filters : List Filter) {items : List Condition},
    conditionsOfAll filters = .ok items → Filter.AllWithin checked filters
  | [], items, _ => by
    rw [Filter.AllWithin]
    trivial
  | f :: filters, items, h => by
    rw [Filter.AllWithin]
    rw [conditionsOfAll] at h
    cases hf : f.conditions with
    | error fault => simp [hf, Bind.bind, Except.bind] at h
    | ok first =>
      cases hr : conditionsOfAll filters with
      | error fault => simp [hf, hr, Bind.bind, Except.bind] at h
      | ok rest => exact ⟨f.within_checked hf, allWithin_checked filters hr⟩

end

namespace Query

lemma Call.checked_entries (c : Call) : ∀ entry ∈ c.entries, entry.Within checked := by
  have accepted (entry : List Condition → Entry) (f : Filter)
      (he : ∀ items : List Condition, (∀ item ∈ items, item.Within checked) →
        (entry items).Within checked) : ∀ e ∈ conditionEntries entry f, e.Within checked := by
    cases hf : f.conditions with
    | error fault => simp [conditionEntries, hf]
    | ok items => exact conditionEntries_within (f.within_checked hf) he
  have item (i : OrderItem) : i.Within checked := by cases i <;> trivial
  have bound (b : Bound) : b.Within checked := by cases b <;> trivial
  cases c with
  | filter newGroup f => exact accepted (.filter newGroup) f fun _ h => h
  | having newGroup f => exact accepted (.having newGroup) f fun _ h => h
  | select columns => exact Call.within_entries fun _ _ => trivial
  | selectAll => exact Call.within_entries trivial
  | update => exact Call.within_entries trivial
  | delete => exact Call.within_entries trivial
  | set column slot => exact Call.within_entries ⟨trivial, trivial⟩
  | setAll pairs => exact Call.within_entries fun _ _ => ⟨trivial, trivial⟩
  | insert rows => exact Call.within_entries fun _ _ _ _ => ⟨trivial, trivial⟩
  | join j => exact Call.within_entries ⟨trivial, trivial, trivial⟩
  | groupBy items => exact Call.within_entries fun i _ => item i
  | orderBy items => exact Call.within_entries fun i _ => item i
  | limit b => exact Call.within_entries (bound b)
  | offset b => exact Call.within_entries (bound b)

/-- No query that calls build compares a column with the empty list. -/
lemma checked_built (target : Target) (cs : List Call) : (built target cs).Within checked := by
  refine calls_induction (P := fun q => q.Within checked) cs (within_start fun _ _ => trivial)
    fun r r' step h => ?_
  cases step with
  | fail e => exact { h with }
  | fix _ => exact { h with }
  | mark _ => exact { h with }
  | enter mem _ _ =>
    obtain ⟨c, _, he⟩ := List.mem_flatMap.mp mem
    exact h.enter (c.checked_entries _ he)

/-! ## What stands in a place -/

/-- The column, and what it is set to. -/
def Assigns (cell : String × Slot) (part : List Token) : Prop :=
  ∃ right, part = [.name cell.1, .sign '='] ++ right ∧ right ≠ []

/-- The parts of an assignment: the first part of its value stands behind the column. -/
def assignmentCells (cell : String × Slot) : List (List Token) :=
  (cells cell.2.value).modifyHead ([.name cell.1, .sign '='] ++ ·)

section Cells

variable (cell : String × Slot)

lemma assignmentCells_ne_nil : assignmentCells cell ≠ [] := by
  obtain ⟨part, rest, split⟩ := List.exists_cons_of_ne_nil (cells_ne_nil cell.2.value)
  rw [assignmentCells, split]
  exact List.cons_ne_nil _ _

lemma flat_assignmentCells : ∀ part ∈ assignmentCells cell, Flat part := by
  obtain ⟨part, rest, split⟩ := List.exists_cons_of_ne_nil (cells_ne_nil cell.2.value)
  have flat := flat_cells cell.2.value
  rw [split, List.forall_mem_cons] at flat
  rw [assignmentCells, split, List.modifyHead_cons, List.forall_mem_cons]
  have start : Flat [.name cell.1, .sign '='] := by simp [Flat]
  exact ⟨List.forall_mem_append.mpr ⟨start, flat.1⟩, flat.2⟩

lemma lex_assignmentText :
    lex (assignmentText cell).toList =
      some ([.sign ','].intercalate (assignmentCells cell)) := by
  have start : Leads (quoteName cell.1 ++ " = ") [.name cell.1, .sign '='] :=
    lead_name (by decide : Parts " = " [.sign '=']) cell.1
  rw [assignmentCells, intercalate_modifyHead _ _ (cells_ne_nil cell.2.value), assignmentText,
    String.toList_append]
  exact start.closes.lex_append (lex_literal cell.2.value)

lemma assigns_iff :
    (∃ part, assignmentCells cell = [part] ∧ Assigns cell part) ↔ Single cell.2.value := by
  rw [single_iff]
  obtain ⟨first, rest, split⟩ := List.exists_cons_of_ne_nil (cells_ne_nil cell.2.value)
  rw [assignmentCells, split, List.modifyHead_cons]
  constructor
  · rintro ⟨part, one, right, rfl, some⟩
    obtain ⟨same, rfl⟩ := List.cons.inj one
    obtain rfl := List.append_cancel_left same
    exact ⟨first, rfl, some⟩
  · rintro ⟨part, one, some⟩
    obtain ⟨rfl, rfl⟩ := List.cons.inj one
    exact ⟨_, rfl, first, rfl, some⟩

end Cells

/-- In which cases one expression stands in the place of a value: on the right side of an
assignment, in a row, and beside a column that is compared with it. -/
structure Positions (q : Query) : Prop where
  assignments : ∃ ts, lex q.assignmentsText.toList = some ts ∧
    (List.Forall₂ Assigns q.assignments (expressions ts) ↔
      ∀ cell ∈ q.assignments, Single cell.2.value)
  rows : ∀ first ∈ q.insertRows.head?, ∀ row ∈ q.insertRows,
    (∀ column ∈ first.names, (row.get? column).isSome) ∧
      ∃ ts, lex (tupleText first.names row).toList = some (.sign '(' :: (ts ++ [.sign ')'])) ∧
        ((expressions ts).length = first.names.length ∧ [] ∉ expressions ts ↔
          ∀ column ∈ first.names, Single (valueAt row column))
  operands : ∀ clause : ConditionClause, ∀ group ∈ (clause.tree q).filled,
    ∀ column operator value, .compare column operator value ∈ group →
      value.value ≠ .list [] ∧ ∃ ts, lex (operandText value.value).toList = some ts ∧
        (Operand ts ↔ FitsOperand value.value)

lemma exists_lex_tuple (columns : List String) (row : Columns Slot) : ∃ ts,
    lex (tupleText columns row).toList = some (.sign '(' :: (ts ++ [.sign ')'])) ∧
      ((expressions ts).length = columns.length ∧ [] ∉ expressions ts ↔
        ∀ column ∈ columns, Single (valueAt row column)) := by
  have parts : ∀ column ∈ columns, cells (valueAt row column) ≠ [] := fun _ _ => cells_ne_nil _
  have opening : Closes "(".toList [.sign '('] := rfl
  have closing : lex ")".toList = some [.sign ')'] := rfl
  have members := lex_items (f := fun column => literal (valueAt row column)) parts
    fun column _ => lex_literal (valueAt row column)
  have inner := lex_append members closing (by decide : Breaks ")".toList)
  refine ⟨[.sign ','].intercalate (columns.flatMap fun column => cells (valueAt row column)),
    ?_, ?_⟩
  · rw [tupleText, String.append_assoc, String.toList_append, String.toList_append]
    exact opening.lex_append inner
  · rw [← forall₂_ne_nil_iff, forall₂_expressions_iff (fun _ _ some => some)
      (fun column _ => flat_cells (valueAt row column)) parts]
    exact forall₂_congr fun column _ => (single_iff (valueAt row column)).symm

lemma positions_of_checked {q : Query} (h : q.Within checked) (fit : q.RowsFit) :
    q.Positions where
  assignments := by
    refine ⟨_, lex_items (fun cell _ => assignmentCells_ne_nil cell)
      (fun cell _ => lex_assignmentText cell), ?_⟩
    rw [forall₂_expressions_iff ?_ (fun cell _ => flat_assignmentCells cell)
      fun cell _ => assignmentCells_ne_nil cell]
    · exact forall₂_congr fun cell _ => assigns_iff cell
    · rintro cell part ⟨right, rfl, _⟩
      exact List.cons_ne_nil _ _
  rows first hf row hr := ⟨fit first hf row hr, exists_lex_tuple first.names row⟩
  operands clause group hg column operator value hv := by
    refine ⟨?_, exists_lex_operand value.value⟩
    have within : (clause.tree q).Within checked := by
      cases clause with
      | filter => exact h.filters
      | having => exact h.having
    obtain ⟨_, _, nonempty⟩ := within group (ConditionTree.mem_filled.mp hg).1 _ hv
    intro empty
    cases value with
    | bound v => exact nonempty (congrArg Slot.bound empty)
    | raw sql => cases empty

/-- The final text of a query without raw text is written in lines, with a text in the place of each
value. One expression stands in the place of a value of an assignment or a row if the value is no
list or a list of one such value, and a list that a column is compared with has expressions and no
empty one if no list in it is empty; it is never empty itself. -/
theorem sql_positions {target : Target} {cs : List Call}
    (htarget : ∀ table ∈ target.table?, PercentFree table) (hcs : ∀ c ∈ cs, c.Within valued)
    {p : Preparation} (hp : (built target cs).prepare = .ok p) {σ : Type} (adapter : Adapter σ)
    (s : σ) :
    let q := built target cs
    ((∃ text, (q.sql adapter.database s).result = .ok text) ↔
        p.args = [] ∨ ∀ o ∈ q.operators, placeholders o.toList = 0) ∧
      (∀ text, (q.sql adapter.database s).result = .ok text → ∃ lines,
        text = " \n".intercalate lines ∧
          q.Lines (if p.args = [] then id else settle) lines) ∧
      q.Positions := by
  intro q
  have within : q.Within valued := within_calls (within_start htarget) hcs
  refine ⟨?_, fun text ht => ?_, positions_of_checked (checked_built target cs)
    (rowsFit_built target cs)⟩
  · simp only [sql_eq_ok_iff within hp adapter s, exists_eq_right]
  · obtain ⟨_, rfl⟩ := (sql_eq_ok_iff within hp adapter s).mp ht
    exact exists_lines (keeps_rewrite p) within hp

/-- A list of one, a text with a comma, and lists in a list. -/
def nestedCalls : List Call := [
  .set "a" (.bound (.list [.text "x, %s"])),
  .set "b" (.bound .null),
  .filter false (.compare (.name "c") (some "IN")
    (.bound (.list [.int 1, .list [.int 2, .list [.int 3]]])))]

theorem sql_positions_nested :
    let q := built (.table "t") nestedCalls
    (∀ table ∈ (Target.table "t").table?, PercentFree table) ∧
      (∀ c ∈ nestedCalls, c.Within valued) ∧
      ∃ p lines, q.prepare = .ok p ∧
        (q.sql Script.adapter.database {}).result = .ok (" \n".intercalate lines) ∧
        q.Lines (if p.args = [] then id else settle) lines ∧ q.Positions ∧
        " \n".intercalate lines =
          "UPDATE `t` \nSET `a` = 'x, %s', `b` = NULL \nWHERE ( `c` IN (1, 2, 3) )" := by
  intro q
  have table : ∀ name ∈ (Target.table "t").table?, PercentFree name := by
    rintro name ⟨⟩
    decide
  have within : ∀ c ∈ nestedCalls, c.Within valued := by
    have a : PercentFree "a" := by decide
    have b : PercentFree "b" := by decide
    have c : valued.column (.name "c") := (by decide : PercentFree "c")
    simp only [nestedCalls, List.forall_mem_cons]
    exact ⟨⟨a, nofun⟩, ⟨b, nofun⟩, ⟨c, fun _ _ => trivial, nofun⟩, nofun⟩
  have sent : (q.sql Script.adapter.database {}).result =
      .ok "UPDATE `t` \nSET `a` = 'x, %s', `b` = NULL \nWHERE ( `c` IN (1, 2, 3) )" := by
    decide +kernel
  obtain ⟨_, laid, positions⟩ := sql_positions table within rfl Script.adapter {}
  obtain ⟨lines, same, written⟩ := laid _ sent
  exact ⟨table, within, _, lines, rfl, same ▸ sent, written, positions, same.symm⟩

/-- A column that is compared with a value. -/
def comparedWith (operator : Option String) (v : Value) : Query :=
  built (.table "t") [.filter false (.compare (.name "a") operator (.bound v))]

def setTo (v : Value) : Query :=
  built (.table "t") [.set "a" (.bound v)]

def inserting (v : Value) : Query :=
  built (.table "t") [.insert [[("a", .bound v)]]]

/-- The empty list is refused where a column is compared with it, but not inside of another list,
and lists in assignments and rows are written out; a number without digits is written as a word. -/
theorem positions_of_lists :
    let pair := Value.list [.int 1, .int 2]
    let sent (q : Query) := (q.sql Script.adapter.database {}).result
    sent (comparedWith (some "IN") (.list [])) = .error (.malformedCondition (.emptyList "`a`")) ∧
      ¬ FitsOperand (.list [.list []]) ∧ ¬ FitsOperand (.float .nan) ∧
      sent (comparedWith (some "IN") (.list [.list []])) =
        .ok "SELECT * \nFROM `t` \nWHERE ( `a` IN () )" ∧
      sent (comparedWith none (.float .nan)) = .ok "SELECT * \nFROM `t` \nWHERE ( `a` = NaN )" ∧
      ¬ Single pair ∧ ¬ Single (.list []) ∧
      sent (setTo pair) = .ok "UPDATE `t` \nSET `a` = 1, 2" ∧
      sent (setTo (.list [])) = .ok "UPDATE `t` \nSET `a` = " ∧
      sent (inserting pair) = .ok "INSERT INTO `t` \n(`a`) VALUES (1, 2)" ∧
      sent (inserting (.list [])) = .ok "INSERT INTO `t` \n(`a`) VALUES ()" := by
  have empty : ¬ Filled (.list [.list []]) := by
    rw [filled_iff]
    exact not_not_intro List.mem_cons_self
  have two : ¬ Single (.list [.int 1, .int 2]) := by
    intro single
    cases single with
    | scalar scalar => exact scalar trivial
  have none : ¬ Single (.list []) := by
    intro single
    cases single with
    | scalar scalar => exact scalar trivial
  refine ⟨?_, empty, id, ?_, ?_, two, none, ?_, ?_, ?_, ?_⟩
  all_goals
    decide +kernel

end Query

end Clausal
