import Clausal.Proofs.Query.Alignment
import Clausal.Proofs.Query.Final
import Clausal.Proofs.Query.Isolation
import Clausal.Proofs.Query.Tokens
import Clausal.Proofs.Sql.Expressions
import Clausal.Proofs.Sql.Writing

/-!
# Lines of the final text

The final text of a query without raw text is a list of lines, one for each clause. A line has the
literals of the values in their places, and every verbatim text as it was written, but for
operators, which are bound along with the rest. There is such a text unless an operator has a
placeholder.
-/

namespace Clausal

open Sql

/-! ## Queries without raw text -/

/-- No raw text but NULL, and no percent sign in names. Operators and values are free. -/
def valued : Vocabulary where
  name := PercentFree
  expression := PercentFree
  column
    | .name s => PercentFree s
    | .raw _ => False
  operator _ := True
  slot s := ∀ sql, s = .raw sql → sql = "NULL"
  operand s := ∀ sql, s = .raw sql → sql = "NULL"
  fragment _ := False
  operator_default _ := trivial
  operator_written _ _ := trivial
  slot_null := by
    rintro sql ⟨⟩
    rfl
  operand_null := by
    rintro sql ⟨⟩
    rfl

/-! ## Clean pieces -/

namespace Sql

/-- No percent sign but in one of the operators. -/
inductive Piece.Clean (operators : List String) : Piece → Prop where
  | text {s : String} (h : PercentFree s) : Clean operators (.text s)
  | value (v : Value) : Clean operators (.value v)
  | count (n : UInt64) : Clean operators (.count n)
  | opening {s t : String} (hs : PercentFree s) (ht : Separates t) {operator : String}
      (mem : operator ∈ operators) : Clean operators (.text (s ++ operator ++ t))

section Clean

variable {operators : List String} {p : Piece}

lemma Piece.Clean.closed (h : p.Clean operators) : p.Closed := by
  cases h with
  | text h => exact .free h
  | value _ | count _ => trivial
  | opening _ ht _ => exact .before _ ht

lemma Piece.Clean.surplus (h : p.Clean operators)
    (silent : ∀ o ∈ operators, placeholders o.toList = 0) : p.surplus = 0 := by
  cases h with
  | text h => exact placeholders_of_free h
  | value _ | count _ => rfl
  | opening hs ht mem => exact (placeholders_around hs ht _).trans (silent _ mem)

/-- All pieces are clean. -/
def AllClean (operators : List String) (ps : List Piece) : Prop :=
  ∀ p ∈ ps, p.Clean operators

namespace AllClean

variable {ps qs : List Piece}

lemma nil : AllClean operators [] := List.forall_mem_nil _

lemma cons (hp : p.Clean operators) (h : AllClean operators ps) : AllClean operators (p :: ps) :=
  List.forall_mem_cons.mpr ⟨hp, h⟩

lemma append (hp : AllClean operators ps) (hq : AllClean operators qs) :
    AllClean operators (ps ++ qs) :=
  List.forall_mem_append.mpr ⟨hp, hq⟩

lemma text {s : String} (h : PercentFree s) : AllClean operators [.text s] := nil.cons (.text h)

lemma join {separator : String} (hs : PercentFree separator) (parts : List (List Piece))
    (h : ∀ part ∈ parts, AllClean operators part) :
    AllClean operators (Piece.join separator parts) := by
  induction parts using Piece.join.induct with
  | case1 => exact nil
  | case2 part => exact h part List.mem_cons_self
  | case3 part parts _ ih =>
    rw [List.forall_mem_cons] at h
    rw [Piece.join]
    · exact h.1.append ((ih h.2).cons (.text hs))
    · assumption

end AllClean

end Clean

end Sql

/-! ## Clean clauses -/

lemma percentFree_quoteName {name : String} (h : PercentFree name) :
    PercentFree (quoteName name) := by
  have doubled (c : Char) :
      '%' ∈ (if c = backtick then [backtick, backtick] else [c]) → '%' = c := by
    split
    · intro h
      exact absurd h (by decide)
    · exact List.mem_singleton.mp
  have quote : '%' ≠ backtick := by decide
  intro mem
  rw [quoteName, String.toList_ofList, nameChars, List.mem_cons, List.mem_append, List.mem_flatMap,
    List.mem_singleton] at mem
  rcases mem with same | ⟨c, hc, hd⟩ | same
  · exact quote same
  · exact h (doubled c hd ▸ hc)
  · exact quote same

lemma percentFree_intercalate {separator : String} (hs : PercentFree separator) {l : List String}
    (h : ∀ s ∈ l, PercentFree s) : PercentFree (separator.intercalate l) := by
  intro mem
  rw [String.toList_intercalate] at mem
  rcases mem_intercalate mem with mem | ⟨cs, hcs, mem⟩
  · exact hs mem
  · obtain ⟨s, hm, rfl⟩ := List.mem_map.mp hcs
    exact h s hm mem

section Clauses

variable {ops : List String}

lemma Slot.clean {slot : Slot} (h : valued.slot slot) : slot.piece.Clean ops := by
  cases slot with
  | bound v => exact .value v
  | raw sql =>
    obtain rfl := h sql rfl
    exact .text (by decide)

lemma ColumnRef.percentFree {column : ColumnRef} (h : valued.column column) :
    PercentFree (column.sql ++ " ") := by
  cases column with
  | name n => exact (percentFree_quoteName h).append (by decide)
  | raw sql => exact h.elim

lemma separates_space : Separates " " := separates_of_cons (c := ' ') rfl rfl (by decide)

lemma separates_bracket : Separates " (" := separates_of_cons (c := ' ') rfl rfl (by decide)

/-- The operator of a condition on a column. -/
def Condition.operator? : Condition → Option String
  | .compare _ operator _ => some operator
  | .raw _ => none

lemma Condition.clean {item : Condition} (h : item.Within valued)
    (mem : ∀ o ∈ item.operator?, o ∈ ops) : AllClean ops item.pieces := by
  cases item with
  | raw fragment => exact h.elim
  | compare column operator value =>
    obtain ⟨hc, _, hv⟩ := h
    have written := mem operator rfl
    have start := ColumnRef.percentFree hc
    have opening : Piece.Clean ops (.text (column.sql ++ " " ++ operator ++ " ")) :=
      .opening start separates_space written
    cases value with
    | raw sql => exact (AllClean.nil.cons (Slot.clean hv)).cons opening
    | bound v =>
      cases v with
      | list items =>
        have members : AllClean ops (Piece.join ", " (items.map fun v => [.value v])) := by
          refine .join (by decide) _ fun part hp => ?_
          obtain ⟨v, _, rfl⟩ := List.mem_map.mp hp
          exact AllClean.nil.cons (.value v)
        exact (members.append (.text (by decide))).cons (.opening start separates_bracket written)
      | _ => exact (AllClean.nil.cons (Slot.clean hv)).cons opening

lemma OrderItem.clean {item : OrderItem} (h : item.Within valued) :
    AllClean ops item.pieces := by
  cases item with
  | column name direction =>
    have keyword : PercentFree direction.keyword := by cases direction <;> decide
    exact .text (((percentFree_quoteName h).append (by decide)).append keyword)
  | raw fragment => exact h.elim

lemma Bound.clean {bound : Bound} (h : bound.Within valued) {keyword : String}
    (hk : PercentFree keyword) : AllClean ops (bound.pieces keyword) := by
  cases bound with
  | count n => exact (AllClean.nil.cons (.count n)).cons (.text (hk.append (by decide)))
  | raw fragment => exact h.elim

lemma clean_clausePieces {start separator : String} (hstart : PercentFree start)
    (hs : PercentFree separator) {parts : List (List Piece)}
    (hp : ∀ part ∈ parts, AllClean ops part) :
    ∀ part ∈ Query.clausePieces start separator parts, AllClean ops part := by
  rw [Query.clausePieces]
  split
  · exact List.forall_mem_nil _
  · exact List.forall_mem_singleton.mpr ((AllClean.join hs parts hp).cons (.text hstart))

lemma clean_orderPieces {start : String} (hstart : PercentFree start) {items : List OrderItem}
    (h : ∀ item ∈ items, item.Within valued) :
    ∀ part ∈ Query.clausePieces start ", " (items.map OrderItem.pieces),
      AllClean ops part := by
  refine clean_clausePieces hstart (by decide) fun part hm => ?_
  obtain ⟨item, hi, rfl⟩ := List.mem_map.mp hm
  exact OrderItem.clean (h item hi)

/-- The operators of the conditions, in order. -/
def ConditionTree.operators (tree : ConditionTree) : List String :=
  tree.filled.flatten.filterMap Condition.operator?

lemma ConditionTree.clean {tree : ConditionTree} (h : tree.Within valued)
    (mem : tree.operators ⊆ ops) : AllClean ops tree.pieces := by
  refine .join (by decide) _ fun part hp => ?_
  obtain ⟨group, hg, rfl⟩ := List.mem_map.mp hp
  have items : AllClean ops (Piece.join " AND " (group.map Condition.pieces)) := by
    refine .join (by decide) _ fun part hp => ?_
    obtain ⟨item, hi, rfl⟩ := List.mem_map.mp hp
    refine Condition.clean (h group (mem_filled.mp hg).1 item hi) fun o ho => mem ?_
    exact List.mem_filterMap.mpr ⟨item, List.mem_flatten.mpr ⟨group, hg, hi⟩, ho⟩
  exact (items.append (.text (by decide))).cons (.text (by decide))

lemma clean_conditionPieces {start : String} (hstart : PercentFree start) {tree : ConditionTree}
    (h : tree.Within valued) (mem : tree.operators ⊆ ops) :
    ∀ part ∈ Query.conditionPieces start tree, AllClean ops part := by
  rw [Query.conditionPieces]
  split
  · exact List.forall_mem_nil _
  · exact List.forall_mem_singleton.mpr ((ConditionTree.clean h mem).cons (.text hstart))

namespace Query

variable {q : Query}

lemma clean_setPieces (h : q.Within valued) : ∀ part ∈ q.setPieces, AllClean ops part := by
  refine clean_clausePieces (by decide) (by decide) fun part hp => ?_
  obtain ⟨cell, hc, rfl⟩ := List.mem_map.mp hp
  obtain ⟨hn, hs⟩ := h.assignments cell hc
  have assign : PercentFree (quoteName cell.1 ++ " = ") :=
    (percentFree_quoteName hn).append (by decide)
  exact (AllClean.nil.cons (Slot.clean hs)).cons (.text assign)

lemma clean_tuplePieces {columns : List String} {cells : Columns Slot}
    (h : CellsWithin valued cells) {tuple : List Piece}
    (hp : tuplePieces columns cells = .ok tuple) : AllClean ops tuple := by
  obtain ⟨parts, found, rfl⟩ := tuplePieces_eq_ok hp
  have members : AllClean ops (Piece.join ", " parts) := by
    refine .join (by decide) _ fun part hm => ?_
    obtain ⟨column, _, slot, hg, rfl⟩ := exists_of_mem_right found hm
    exact AllClean.nil.cons (Slot.clean (h.get? hg).2)
  exact (members.append (.text (by decide))).cons (.text (by decide))

lemma percentFree_names {cells : Columns Slot} (h : CellsWithin valued cells) :
    PercentFree ("(" ++ ", ".intercalate (cells.names.map quoteName) ++ ") VALUES ") := by
  have names : PercentFree (", ".intercalate (cells.names.map quoteName)) := by
    refine percentFree_intercalate (by decide) fun s hs => ?_
    obtain ⟨name, hn, rfl⟩ := List.mem_map.mp hs
    obtain ⟨cell, hc, rfl⟩ := List.mem_map.mp hn
    exact percentFree_quoteName (h cell hc).1
  have bracket : PercentFree "(" := by decide
  exact (bracket.append names).append (by decide)

lemma clean_valuesPieces (h : q.Within valued) {parts : List (List Piece)}
    (hp : q.valuesPieces = .ok parts) : ∀ part ∈ parts, AllClean ops part := by
  rcases valuesPieces_eq_ok hp with ⟨_, rfl⟩ | ⟨first, rest, tuples, hr, found, rfl⟩
  · exact List.forall_mem_nil _
  · have member : first ∈ q.insertRows := hr ▸ List.mem_cons_self
    have rows : AllClean ops (Piece.join ", " tuples) := by
      refine .join (by decide) _ fun tuple hm => ?_
      obtain ⟨cells, hc, hcells⟩ := exists_of_mem_right found hm
      exact clean_tuplePieces (h.insertRows cells hc) hcells
    exact List.forall_mem_singleton.mpr
      (rows.cons (.text (percentFree_names (h.insertRows first member))))

lemma clean_headPieces (h : q.Within valued) {parts : List (List Piece)}
    (hp : q.headPieces = .ok parts) : ∀ part ∈ parts, AllClean ops part := by
  have keywords : ∀ head ∈ heads, PercentFree (head.2 ++ " ") := by decide
  have table {name : String} (ht : q.table? = some name) : PercentFree (quoteName name) :=
    percentFree_quoteName (h.table name ht)
  rcases headPieces_eq_ok hp with ⟨start, name, hs, ht, rfl⟩ | ⟨_, rfl⟩
  · have opening : PercentFree (start ++ " ") := keywords (q.kindOrSelect, start) hs
    exact List.forall_mem_singleton.mpr (.text (opening.append (table ht)))
  · have columns :
        PercentFree (if q.selectList.isEmpty then "*" else ", ".intercalate q.selectList) := by
      split
      · decide
      · exact percentFree_intercalate (by decide) h.selectList
    have select : PercentFree "SELECT " := by decide
    have source : PercentFree "FROM " := by decide
    rw [List.forall_mem_cons]
    refine ⟨.text (select.append columns), fun part hm => ?_⟩
    obtain ⟨name, ht, rfl⟩ := List.mem_map.mp hm
    exact .text (source.append (table (Option.mem_toList.mp ht)))

lemma clean_joinPieces (h : q.Within valued) {parts : List (List Piece)}
    (hp : q.joinPieces = .ok parts) : ∀ part ∈ parts, AllClean ops part := by
  rcases joinPieces_eq_ok hp with ⟨_, rfl⟩ | ⟨base, hb, rfl⟩
  · exact List.forall_mem_nil _
  · intro part hm
    obtain ⟨j, hj, rfl⟩ := List.mem_map.mp hm
    obtain ⟨table, column, foreign⟩ := h.joins j hj
    have base := percentFree_quoteName (h.table base hb)
    have table := percentFree_quoteName table
    have opening : PercentFree (j.kind.keyword ++ " JOIN ") := by cases j.kind <;> decide
    have on : PercentFree " ON " := by decide
    have dot : PercentFree "." := by decide
    have equals : PercentFree " = " := by decide
    have left := (((opening.append table).append on).append base).append dot
    have right := (((left.append (percentFree_quoteName column)).append equals).append
      table).append dot
    exact .text (right.append (percentFree_quoteName foreign))

lemma clean_boundPieces (h : q.Within valued) :
    ∀ part ∈ q.boundPieces, AllClean ops part := by
  have limit : ∀ bound ∈ q.limit, AllClean ops (bound.pieces "LIMIT") := fun bound hb =>
    Bound.clean (h.limit bound hb) (by decide)
  have offset : ∀ bound ∈ q.offset, AllClean ops (bound.pieces "OFFSET") := fun bound hb =>
    Bound.clean (h.offset bound hb) (by decide)
  have most : AllClean ops [.text "LIMIT 18446744073709551615"] := .text (by decide)
  simp only [boundPieces]
  cases hl : q.limit with
  | some bound =>
    cases ho : q.offset with
    | some start => simpa using ⟨limit bound hl, offset start ho⟩
    | none => simpa using limit bound hl
  | none =>
    cases ho : q.offset with
    | some start => simpa using ⟨most, offset start ho⟩
    | none => simp

lemma clean_prepare (h : q.Within valued) {p : Preparation} (hp : q.prepare = .ok p) :
    AllClean (q.filters.operators ++ q.having.operators) p.pieces := by
  obtain ⟨_, parts, hc, rfl⟩ := prepare_eq_ok hp
  obtain ⟨head, values, joins, hh, hv, hj, rfl⟩ := clauses_eq_ok hc
  refine .join (by decide) _ ?_
  simp only [List.forall_mem_append]
  exact ⟨⟨⟨⟨⟨⟨⟨⟨clean_headPieces h hh, clean_setPieces h⟩, clean_valuesPieces h hv⟩,
    clean_joinPieces h hj⟩,
    clean_conditionPieces (by decide) h.filters (List.subset_append_left _ _)⟩,
    clean_orderPieces (by decide) h.groupBy⟩,
    clean_conditionPieces (by decide) h.having (List.subset_append_right _ _)⟩,
    clean_orderPieces (by decide) h.orderBy⟩, clean_boundPieces h⟩

end Query

end Clauses

/-! ## The text of a clause -/

/-- The value in a slot. Without raw text, a slot that is not bound is NULL. -/
def Slot.value : Slot → Value
  | .bound v => v
  | .raw _ => .null

/-- A condition with its values in place and its operator rewritten. -/
def Condition.text (rewrite : String → String) : Condition → String
  | .compare column operator value =>
    column.sql ++ " " ++ rewrite operator ++ " " ++ operandText value.value
  | .raw fragment => fragment.bound

def ConditionTree.text (rewrite : String → String) (tree : ConditionTree) : String :=
  " OR ".intercalate (tree.filled.map fun group =>
    "( " ++ " AND ".intercalate (group.map (Condition.text rewrite)) ++ " )")

def assignmentText (cell : String × Slot) : String :=
  quoteName cell.1 ++ " = " ++ literal cell.2.value

/-- The value of a row at a column. Every row has the columns of the first one. -/
def valueAt (row : Columns Slot) (column : String) : Value :=
  ((row.get? column).map Slot.value).getD .null

def tupleText (columns : List String) (row : Columns Slot) : String :=
  "(" ++ ", ".intercalate (columns.map fun column => literal (valueAt row column)) ++ ")"

namespace Query

def assignmentsText (q : Query) : String :=
  ", ".intercalate (q.assignments.map assignmentText)

def rowsText (q : Query) (columns : List String) : String :=
  ", ".intercalate (q.insertRows.map (tupleText columns))

/-- The lines of the text that hold values. -/
structure Lines (q : Query) (rewrite : String → String) (lines : List String) : Prop where
  assignments : q.assignments ≠ [] → "SET " ++ q.assignmentsText ∈ lines
  rows : ∀ first ∈ q.insertRows.head?,
    "(" ++ ", ".intercalate (first.names.map quoteName) ++ ") VALUES " ++ q.rowsText first.names ∈
      lines
  conditions : ∀ clause : ConditionClause, (clause.tree q).isEmpty = false →
    clause.keyword ++ (clause.tree q).text rewrite ∈ lines

end Query

section Texts

variable {rewrite : String → String} (keeps : Keeps rewrite)

include keeps

lemma Slot.write_piece {slot : Slot} (h : valued.slot slot) :
    slot.piece.write rewrite = literal slot.value := by
  cases slot with
  | bound v => rfl
  | raw sql =>
    obtain rfl := h sql rfl
    exact keeps.free (by decide)

/-- The bracketed values of a condition are written as one list. -/
lemma written_members (items : List Value) :
    written rewrite (Piece.join ", " (items.map fun v => [.value v])) = literal (.list items) := by
  have each : written rewrite ∘ (fun v => [.value v]) = literal := by
    funext v
    simp [Piece.write, Placeholder.write]
  rw [written_join, keeps.free (by decide), List.map_map, each, literal, literals_eq_map]

lemma Condition.written_pieces {item : Condition} (h : item.Within valued) :
    written rewrite item.pieces = item.text rewrite := by
  cases item with
  | raw fragment => exact h.elim
  | compare column operator value =>
    obtain ⟨hc, _, hv⟩ := h
    have start := ColumnRef.percentFree hc
    have opening := keeps.around start separates_space operator
    have single (scalar : ∀ items, value ≠ .bound (.list items)) :
        written rewrite [.text (column.sql ++ " " ++ operator ++ " "), value.piece] =
          Condition.text rewrite (.compare column operator value) := by
      have operand : operandText value.value = literal value.value := by
        cases value with
        | raw sql => rfl
        | bound v =>
          cases v with
          | list items => exact absurd rfl (scalar items)
          | _ => rfl
      rw [written_cons, written_cons, written_nil, Slot.write_piece keeps hv, Piece.write_text,
        opening, Condition.text, operand, String.append_empty]
    cases value with
    | raw sql => exact single (by simp)
    | bound v =>
      cases v with
      | list items =>
        have bracket := keeps.around start separates_bracket operator
        have closing : rewrite ")" = ")" := keeps.free (by decide)
        have space : " (" = " " ++ "(" := rfl
        simp only [Condition.pieces, written_cons, written_append, written_nil, Piece.write_text,
          bracket, written_members keeps, closing, Condition.text, Slot.value, operandText,
          String.append_empty]
        simp only [space, String.append_assoc]
      | _ => exact single (by simp)

lemma ConditionTree.written_pieces {tree : ConditionTree} (h : tree.Within valued) :
    written rewrite tree.pieces = tree.text rewrite := by
  rw [pieces, text, written_join, keeps.free (by decide), List.map_map]
  congr 1
  refine List.map_congr_left fun group hg => ?_
  have items : (group.map Condition.pieces).map (written rewrite) =
      group.map (Condition.text rewrite) := by
    rw [List.map_map]
    refine List.map_congr_left fun item hi => ?_
    exact Condition.written_pieces keeps (h group (mem_filled.mp hg).1 item hi)
  have opening : rewrite "( " = "( " := keeps.free (by decide)
  have closing : rewrite " )" = " )" := keeps.free (by decide)
  have separator : rewrite " AND " = " AND " := keeps.free (by decide)
  simp only [Function.comp_apply, written_cons, written_append, written_nil, written_join, items,
    Piece.write_text, opening, closing, separator, String.append_empty, String.append_assoc]

namespace Query

variable {q : Query}

lemma written_setPieces (h : q.Within valued) (some : q.assignments ≠ []) :
    q.setPieces.map (written rewrite) = ["SET " ++ q.assignmentsText] := by
  have each : (q.assignments.map fun cell =>
      [Piece.text (quoteName cell.1 ++ " = "), cell.2.piece]).map (written rewrite) =
        q.assignments.map assignmentText := by
    rw [List.map_map]
    refine List.map_congr_left fun cell hc => ?_
    obtain ⟨hn, hs⟩ := h.assignments cell hc
    have opening : rewrite (quoteName cell.1 ++ " = ") = quoteName cell.1 ++ " = " :=
      keeps.free ((percentFree_quoteName hn).append (by decide))
    simp only [Function.comp_apply, written_cons, written_nil, Piece.write_text, opening,
      Slot.write_piece keeps hs, assignmentText, String.append_empty]
  have start : rewrite "SET " = "SET " := keeps.free (by decide)
  rw [setPieces, clausePieces, if_neg (by simpa using some), List.map_singleton, written_cons,
    written_join, keeps.free (by decide), each, Piece.write_text, start, assignmentsText]

lemma written_tuplePieces {columns : List String} {row : Columns Slot}
    (h : CellsWithin valued row) {tuple : List Piece}
    (hp : tuplePieces columns row = .ok tuple) : written rewrite tuple = tupleText columns row := by
  obtain ⟨parts, found, rfl⟩ := tuplePieces_eq_ok hp
  have members : parts.map (written rewrite) =
      columns.map fun column => literal (valueAt row column) := by
    refine map_eq_map_of_forall₂ found fun column _ part hc => ?_
    obtain ⟨slot, hg, rfl⟩ := hc
    have value : valueAt row column = slot.value := by
      rw [valueAt, hg]
      rfl
    rw [written_cons, written_nil, Slot.write_piece keeps (h.get? hg).2, value,
      String.append_empty]
  have opening : rewrite "(" = "(" := keeps.free (by decide)
  have closing : rewrite ")" = ")" := keeps.free (by decide)
  have separator : rewrite ", " = ", " := keeps.free (by decide)
  simp only [written_cons, written_append, written_nil, written_join, members, Piece.write_text,
    opening, closing, separator, tupleText, String.append_empty, String.append_assoc]

lemma written_valuesPieces (h : q.Within valued) {parts : List (List Piece)}
    (hp : q.valuesPieces = .ok parts) {first : Columns Slot} (hf : first ∈ q.insertRows.head?) :
    parts.map (written rewrite) =
      ["(" ++ ", ".intercalate (first.names.map quoteName) ++ ") VALUES " ++
        q.rowsText first.names] := by
  rcases valuesPieces_eq_ok hp with ⟨none, rfl⟩ | ⟨head, rest, tuples, hr, found, rfl⟩
  · rw [none] at hf
    cases hf
  · obtain rfl : head = first := by simpa [hr] using hf
    have member : head ∈ q.insertRows := hr ▸ List.mem_cons_self
    have rows : tuples.map (written rewrite) = q.insertRows.map (tupleText head.names) :=
      map_eq_map_of_forall₂ found fun row hm tuple ht =>
        written_tuplePieces keeps (h.insertRows row hm) ht
    have opening := keeps.free (percentFree_names (h.insertRows head member))
    rw [List.map_singleton, written_cons, written_join, keeps.free (by decide), rows,
      Piece.write_text, opening, rowsText]

lemma written_conditionPieces {start : String} (hs : PercentFree start) {tree : ConditionTree}
    (h : tree.Within valued) (filled : tree.isEmpty = false) :
    (conditionPieces start tree).map (written rewrite) = [start ++ tree.text rewrite] := by
  rw [conditionPieces, if_neg (by simp [filled]), List.map_singleton, written_cons,
    Piece.write_text, keeps.free hs, ConditionTree.written_pieces keeps h]

/-- What is prepared is written in lines. -/
lemma exists_lines (h : q.Within valued) {p : Preparation} (hp : q.prepare = .ok p) :
    ∃ lines, written rewrite p.pieces = " \n".intercalate lines ∧ q.Lines rewrite lines := by
  obtain ⟨_, parts, hc, rfl⟩ := prepare_eq_ok hp
  obtain ⟨head, values, joins, hh, hv, hj, split⟩ := clauses_eq_ok hc
  refine ⟨parts.map (written rewrite), ?_, ?_⟩
  · rw [written_join, keeps.free (by decide)]
  · rw [split]
    simp only [List.map_append]
    constructor
    · intro some
      rw [written_setPieces keeps h some]
      simp
    · intro first hf
      rw [written_valuesPieces keeps h hv hf]
      simp
    · intro clause filled
      cases clause with
      | filter =>
        rw [written_conditionPieces keeps (by decide) h.filters filled]
        simp [ConditionClause.keyword, ConditionClause.tree]
      | having =>
        have line := written_conditionPieces keeps (by decide : PercentFree "HAVING ") h.having
          filled
        rw [line]
        simp [ConditionClause.keyword, ConditionClause.tree]

end Query

end Texts

/-! ## The final text -/

/-- Every operator stands in a piece of its own. -/
lemma ConditionTree.exists_opening {tree : ConditionTree} (h : tree.Within valued)
    {operator : String} (mem : operator ∈ tree.operators) :
    ∃ piece ∈ tree.pieces, piece.surplus = placeholders operator.toList := by
  obtain ⟨item, hi, same⟩ := List.mem_filterMap.mp mem
  obtain ⟨group, hg, hi⟩ := List.mem_flatten.mp hi
  have within := h group (mem_filled.mp hg).1 item hi
  obtain ⟨piece, hp, surplus⟩ : ∃ piece ∈ item.pieces,
      piece.surplus = placeholders operator.toList := by
    cases item with
    | raw fragment => cases same
    | compare column other value =>
      obtain rfl : other = operator := Option.some.inj same
      have start := ColumnRef.percentFree within.1
      have plain := placeholders_around start separates_space other
      cases value with
      | raw sql => exact ⟨_, List.mem_cons_self, plain⟩
      | bound v =>
        cases v with
        | list items =>
          exact ⟨_, List.mem_cons_self, placeholders_around start separates_bracket other⟩
        | _ => exact ⟨_, List.mem_cons_self, plain⟩
  have ofPart {part : List Piece} {parts : List (List Piece)} {separator : String}
      (hp : part ∈ parts) {piece : Piece} (mem : piece ∈ part) :
      piece ∈ Piece.join separator parts := by
    obtain ⟨before, after, split⟩ := Query.exists_join_of_mem hp separator
    rw [split]
    exact List.mem_append_left _ (List.mem_append_right _ mem)
  refine ⟨piece, ofPart (List.mem_map_of_mem hg) ?_, surplus⟩
  exact List.mem_cons_of_mem _ (List.mem_append_left _ (ofPart (List.mem_map_of_mem hi) hp))

namespace Query

variable {q : Query} {p : Preparation}

/-- The operators of all conditions. -/
def operators (q : Query) : List String :=
  q.filters.operators ++ q.having.operators

lemma surplus_iff (h : q.Within valued) (hp : q.prepare = .ok p) :
    (∀ piece ∈ p.pieces, piece.surplus = 0) ↔ ∀ o ∈ q.operators, placeholders o.toList = 0 := by
  constructor
  · intro none o ho
    have stands (clause : ConditionClause) (hc : (clause.tree q).Within valued)
        (mem : o ∈ (clause.tree q).operators) : placeholders o.toList = 0 := by
      obtain ⟨piece, hm, surplus⟩ := ConditionTree.exists_opening hc mem
      have filled : (clause.tree q).isEmpty = false := by
        obtain ⟨item, hi, _⟩ := List.mem_filterMap.mp mem
        obtain ⟨group, hg, _⟩ := List.mem_flatten.mp hi
        exact List.isEmpty_eq_false_iff.mpr (List.ne_nil_of_mem hg)
      obtain ⟨before, after, split⟩ := clause.prepared hp filled
      have within : piece ∈ p.pieces := by
        rw [split]
        exact List.mem_append_right _ (List.mem_cons_of_mem _ (List.mem_append_left _ hm))
      rw [← surplus]
      exact none piece within
    rcases List.mem_append.mp ho with mem | mem
    · exact stands .filter h.filters mem
    · exact stands .having h.having mem
  · intro silent piece hm
    exact (clean_prepare h hp piece hm).surplus silent

/-- There is a final text unless an operator has a placeholder and the statement is bound at all. It
is what was prepared, written piece by piece. -/
theorem sql_eq_ok_iff {σ : Type} (h : q.Within valued) (hp : q.prepare = .ok p)
    (adapter : Adapter σ) (s : σ) {text : String} :
    (q.sql adapter.database s).result = .ok text ↔
      (p.args = [] ∨ ∀ o ∈ q.operators, placeholders o.toList = 0) ∧
        text = written (if p.args = [] then id else settle) p.pieces := by
  have closed : ∀ piece ∈ p.pieces, piece.Closed := fun piece hm =>
    (clean_prepare h hp piece hm).closed
  rw [(sql_of_ok hp adapter.database s).1]
  by_cases none : p.args = []
  · have template : p.sql = written id p.pieces := template_of_no_arguments closed none
    rw [if_pos none, if_pos none, ← template]
    constructor
    · intro same
      exact ⟨Or.inl none, (Except.ok.inj same).symm⟩
    · rintro ⟨_, rfl⟩
      rfl
  · have bound : (adapter.database.prepare p.sql p.args s).result = Sql.bind p.sql p.args := by
      rw [adapter.bindsByDefault]
      rfl
    rw [if_neg none, if_neg none, bound, ← surplus_iff h hp]
    simp only [none, false_or]
    exact bind_template_eq_ok_iff closed

lemma keeps_rewrite (p : Preparation) : Keeps (if p.args = [] then id else settle) := by
  split
  · exact keeps_id
  · exact keeps_settle

end Query

end Clausal
