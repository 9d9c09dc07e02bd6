import Clausal.Proofs.Query.Preparing
import Clausal.Proofs.Query.Rewriting
import Clausal.Proofs.Query.Vocabulary
import Clausal.Proofs.Sql.Percent
import Clausal.Proofs.Text.LetterCase

/-!
# Arguments stand at their own places

In a statement whose own text binding leaves as it is, and whose fragments have an argument for each
of their placeholders, binding is assembly: it gives the text of the statement in which every value
is already written at its place. So no clause takes an argument of another, whatever stands between
them and in whatever order the calls were made. A text without percent signs is left as it is; so is
a name where none of them meets a specifier or another percent sign.
-/

namespace Clausal

open Sql

lemma PercentFree.written {s : String} (hs : PercentFree s) :
    PercentFree (Text.uppercase (Text.trim s)) := by
  intro h
  rcases Text.mem_uppercase_trim h with h | h
  · exact hs h
  · revert h
    decide

/-- No percent sign in names, expressions, operators and raw texts; an argument for each placeholder
of a fragment. -/
def percentFree : Vocabulary where
  name := PercentFree
  expression := PercentFree
  column c := PercentFree c.written
  operator := PercentFree
  slot s := ∀ sql, s = .raw sql → PercentFree sql
  operand s := ∀ sql, s = .raw sql → PercentFree sql
  fragment f := placeholders f.sql.toList = f.args.length
  operator_default s := by
    rw [Filter.defaultOperator]
    split <;> decide
  operator_written _ := PercentFree.written
  slot_null := by
    rintro sql ⟨⟩
    decide
  operand_null := by
    rintro sql ⟨⟩
    decide

/-- Inert names and operators, solid raw texts; an argument for each placeholder of a fragment. -/
def steady : Vocabulary where
  name n := Inert n.toList
  expression := Solid
  column
    | .name n => Inert n.toList
    | .raw sql => Solid sql
  operator o := Inert o.toList
  slot s := ∀ sql, s = .raw sql → Solid sql
  operand s := ∀ sql, s = .raw sql → Solid sql
  fragment f := placeholders f.sql.toList = f.args.length
  operator_default s := inert_of_percentFree (percentFree.operator_default s)
  operator_written := inert_written
  slot_null := by
    rintro sql ⟨⟩
    exact .of_percentFree (by decide)
  operand_null := by
    rintro sql ⟨⟩
    exact .of_percentFree (by decide)

lemma percentFree_narrower : percentFree.Narrower steady where
  name _ h := inert_of_percentFree h
  expression _ h := .of_percentFree h
  column
    | .name _, h => inert_of_percentFree h
    | .raw _, h => Solid.of_percentFree h
  operator _ h := inert_of_percentFree h
  slot _ h sql hs := .of_percentFree (h sql hs)
  operand _ h sql hs := .of_percentFree (h sql hs)
  fragment _ h := h

lemma separates_comma : Separates ", " := separates_of_cons (c := ',') rfl rfl (by decide)

lemma separates_and : Separates " AND " := separates_of_cons (c := ' ') rfl rfl (by decide)

lemma separates_or : Separates " OR " := separates_of_cons (c := ' ') rfl rfl (by decide)

lemma separates_line : Separates " \n" := separates_of_cons (c := ' ') rfl rfl (by decide)

/-! ## Aligned clauses -/

lemma Slot.aligned {s : Slot} (hs : steady.slot s) : Aligned [s.piece] := by
  cases s with
  | bound v => exact Aligned.nil.value_cons v
  | raw sql => exact .solid (hs sql rfl)

lemma Aligned.closed {ps : List Piece} {s : String} (hp : Aligned ps) (hs : Separates s) :
    Aligned (ps ++ [.text s]) :=
  hp.append (.text hs.percent) (hs.apart_cons [])

lemma solid_opening {column : ColumnRef} (hc : steady.column column) {operator : String}
    (ho : steady.operator operator) {s : String} (hs : Separates s) :
    Solid (column.sql ++ " " ++ operator ++ s) := by
  have written : Solid column.sql := by
    cases column with
    | name n => exact solid_quoteName hc
    | raw sql => exact hc
  have space : Solid " " := .of_percentFree (by decide)
  rw [String.append_assoc]
  exact (written.append space).append (ho.solid_append hs)

lemma Condition.aligned {item : Condition} (h : item.Within steady) :
    Aligned item.pieces := by
  cases item with
  | raw fragment => exact .fragment h
  | compare column operator value =>
    obtain ⟨hc, ho, hv⟩ := h
    have opening : Solid (column.sql ++ " " ++ operator ++ " ") :=
      solid_opening hc ho (separates_of_cons (c := ' ') rfl rfl (by decide))
    cases value with
    | raw sql => exact (Slot.aligned hv).solid_cons opening
    | bound v =>
      cases v with
      | list items =>
        have bracket : Solid (column.sql ++ " " ++ operator ++ " (") :=
          solid_opening hc ho (separates_of_cons (c := ' ') rfl rfl (by decide))
        refine Aligned.solid_cons bracket (Aligned.closed (.join separates_comma _ ?_) ?_)
        · intro part hp
          obtain ⟨v, _, rfl⟩ := List.mem_map.mp hp
          exact Aligned.nil.value_cons v
        · exact separates_of_cons (c := ')') rfl rfl (by decide)
      | _ => exact (Slot.aligned hv).solid_cons opening

lemma OrderItem.aligned {item : OrderItem} (h : item.Within steady) :
    Aligned item.pieces := by
  cases item with
  | column name direction =>
    have keyword : PercentFree direction.keyword := by cases direction <;> decide
    have space : PercentFree " " := by decide
    exact .solid (((solid_quoteName h).append (.of_percentFree space)).append
      (.of_percentFree keyword))
  | raw fragment => exact .fragment h

lemma Bound.aligned {bound : Bound} (h : bound.Within steady) {keyword : String}
    (hk : PercentFree keyword) : Aligned (bound.pieces keyword) := by
  have opening : PercentFree (keyword ++ " ") := hk.append (by decide)
  cases bound with
  | count n => exact (Aligned.nil.count_cons n).text_cons opening
  | raw fragment => exact (Aligned.fragment h).text_cons opening

lemma aligned_clausePieces {start separator : String} (hstart : PercentFree start)
    (hs : Separates separator) {parts : List (List Piece)} (hp : ∀ part ∈ parts, Aligned part) :
    ∀ part ∈ Query.clausePieces start separator parts, Aligned part := by
  rw [Query.clausePieces]
  split
  · intro part h
    cases h
  · intro part h
    obtain rfl := List.mem_singleton.mp h
    exact (Aligned.join hs parts hp).text_cons hstart

lemma aligned_orderPieces {start : String} (hstart : PercentFree start) {items : List OrderItem}
    (h : ∀ item ∈ items, item.Within steady) :
    ∀ part ∈ Query.clausePieces start ", " (items.map OrderItem.pieces), Aligned part := by
  refine aligned_clausePieces hstart separates_comma fun part hm => ?_
  obtain ⟨item, hi, rfl⟩ := List.mem_map.mp hm
  exact OrderItem.aligned (h item hi)

lemma ConditionTree.aligned {tree : ConditionTree} (h : tree.Within steady) :
    Aligned tree.pieces := by
  refine .join separates_or _ fun part hp => ?_
  obtain ⟨group, hg, rfl⟩ := List.mem_map.mp hp
  refine Aligned.text_cons (by decide) (Aligned.closed (.join separates_and _ ?_) ?_)
  · intro part hp
    obtain ⟨item, hi, rfl⟩ := List.mem_map.mp hp
    exact Condition.aligned (h group (List.mem_of_mem_filter hg) item hi)
  · exact separates_of_cons (c := ' ') rfl rfl (by decide)

lemma aligned_conditionPieces {start : String} (hstart : PercentFree start) {tree : ConditionTree}
    (h : tree.Within steady) :
    ∀ part ∈ Query.conditionPieces start tree, Aligned part := by
  rw [Query.conditionPieces]
  split
  · intro part hp
    cases hp
  · intro part hp
    obtain rfl := List.mem_singleton.mp hp
    exact (ConditionTree.aligned h).text_cons hstart

namespace Query

variable {q : Query}

lemma aligned_setPieces (h : q.Within steady) : ∀ part ∈ q.setPieces, Aligned part := by
  refine aligned_clausePieces (by decide) separates_comma fun part hp => ?_
  obtain ⟨cell, hc, rfl⟩ := List.mem_map.mp hp
  obtain ⟨hn, hs⟩ := h.assignments cell hc
  have assign : PercentFree " = " := by decide
  exact (Slot.aligned hs).solid_cons ((solid_quoteName hn).append (.of_percentFree assign))

lemma aligned_tuplePieces {columns : List String} {cells : Columns Slot}
    (h : CellsWithin steady cells) {tuple : List Piece}
    (hp : tuplePieces columns cells = .ok tuple) : Aligned tuple := by
  obtain ⟨parts, found, rfl⟩ := tuplePieces_eq_ok hp
  refine Aligned.text_cons (by decide) (Aligned.closed (.join separates_comma _ ?_) ?_)
  · intro part hm
    obtain ⟨column, _, slot, hg, rfl⟩ := exists_of_mem_right found hm
    exact Slot.aligned (h.get? hg).2
  · exact separates_of_cons (c := ')') rfl rfl (by decide)

lemma aligned_valuesPieces (h : q.Within steady) {parts : List (List Piece)}
    (hp : q.valuesPieces = .ok parts) : ∀ part ∈ parts, Aligned part := by
  rcases valuesPieces_eq_ok hp with ⟨_, rfl⟩ | ⟨first, rest, tuples, hr, found, rfl⟩
  · intro part hm
    cases hm
  · have member : first ∈ q.insertRows := by
      rw [hr]
      exact List.mem_cons_self
    have names : Solid (", ".intercalate (first.names.map quoteName)) := by
      refine .intercalate (.of_percentFree (by decide)) fun s hs => ?_
      obtain ⟨name, hn, rfl⟩ := List.mem_map.mp hs
      obtain ⟨cell, hc, rfl⟩ := List.mem_map.mp hn
      exact solid_quoteName (h.insertRows first member cell hc).1
    have bracket : Solid "(" := .of_percentFree (by decide)
    have keyword : Solid ") VALUES " := .of_percentFree (by decide)
    intro part hm
    obtain rfl := List.mem_singleton.mp hm
    refine Aligned.solid_cons ((bracket.append names).append keyword) ?_
    refine .join separates_comma _ fun tuple hm => ?_
    obtain ⟨cells, hc, hcells⟩ := exists_of_mem_right found hm
    exact aligned_tuplePieces (h.insertRows cells hc) hcells

lemma aligned_headPieces (h : q.Within steady) {parts : List (List Piece)}
    (hp : q.headPieces = .ok parts) : ∀ part ∈ parts, Aligned part := by
  have keywords : ∀ head ∈ heads, PercentFree (head.2 ++ " ") := by decide
  have table {name : String} (ht : q.table? = some name) : Solid (quoteName name) :=
    solid_quoteName (h.table name ht)
  rcases headPieces_eq_ok hp with ⟨start, name, hs, ht, rfl⟩ | ⟨_, rfl⟩
  · intro part hm
    obtain rfl := List.mem_singleton.mp hm
    have opening : PercentFree (start ++ " ") := keywords (q.kindOrSelect, start) hs
    have solid : Solid (start ++ " ") := .of_percentFree opening
    exact .solid (solid.append (table ht))
  · have columns :
        Solid (if q.selectList.isEmpty then "*" else ", ".intercalate q.selectList) := by
      split
      · exact .of_percentFree (by decide)
      · exact .intercalate (.of_percentFree (by decide)) h.selectList
    have select : Solid "SELECT " := .of_percentFree (by decide)
    have source : Solid "FROM " := .of_percentFree (by decide)
    rw [List.forall_mem_cons]
    constructor
    · exact .solid (select.append columns)
    · intro part hm
      obtain ⟨name, ht, rfl⟩ := List.mem_map.mp hm
      exact .solid (source.append (table (Option.mem_toList.mp ht)))

lemma aligned_joinPieces (h : q.Within steady) {parts : List (List Piece)}
    (hp : q.joinPieces = .ok parts) : ∀ part ∈ parts, Aligned part := by
  rcases joinPieces_eq_ok hp with ⟨_, rfl⟩ | ⟨base, hb, rfl⟩
  · intro part hm
    cases hm
  · intro part hm
    obtain ⟨j, hj, rfl⟩ := List.mem_map.mp hm
    obtain ⟨table, column, foreign⟩ := h.joins j hj
    have base := solid_quoteName (h.table base hb)
    have opening : Solid (j.kind.keyword ++ " JOIN ") := by
      cases j.kind <;> exact .of_percentFree (by decide)
    have on : Solid " ON " := .of_percentFree (by decide)
    have dot : Solid "." := .of_percentFree (by decide)
    have equals : Solid " = " := .of_percentFree (by decide)
    have left := (((opening.append (solid_quoteName table)).append on).append base).append dot
    have right := (((left.append (solid_quoteName column)).append equals).append
      (solid_quoteName table)).append dot
    exact .solid (right.append (solid_quoteName foreign))

lemma aligned_boundPieces (h : q.Within steady) : ∀ part ∈ q.boundPieces, Aligned part := by
  have limit : ∀ bound ∈ q.limit, Aligned (bound.pieces "LIMIT") := fun bound hb =>
    Bound.aligned (h.limit bound hb) (by decide)
  have offset : ∀ bound ∈ q.offset, Aligned (bound.pieces "OFFSET") := fun bound hb =>
    Bound.aligned (h.offset bound hb) (by decide)
  have most : Aligned [.text "LIMIT 18446744073709551615"] := .text (by decide)
  simp only [boundPieces]
  cases hl : q.limit with
  | some bound =>
    cases ho : q.offset with
    | some start => simpa using ⟨limit bound hl, offset start ho⟩
    | none => simpa using limit bound hl
  | none =>
    cases ho : q.offset with
    | some start => simpa using ⟨most, offset start ho⟩
    | none => simp

lemma aligned_clauses (h : q.Within steady) {parts : List (List Piece)}
    (hp : q.clauses = .ok parts) : ∀ part ∈ parts, Aligned part := by
  obtain ⟨head, values, joins, hh, hv, hj, rfl⟩ := clauses_eq_ok hp
  simp only [List.forall_mem_append]
  exact ⟨⟨⟨⟨⟨⟨⟨⟨aligned_headPieces h hh, aligned_setPieces h⟩, aligned_valuesPieces h hv⟩,
    aligned_joinPieces h hj⟩, aligned_conditionPieces (by decide) h.filters⟩,
    aligned_orderPieces (by decide) h.groupBy⟩, aligned_conditionPieces (by decide) h.having⟩,
    aligned_orderPieces (by decide) h.orderBy⟩, aligned_boundPieces h⟩

/-- The pieces of a steady statement are aligned. -/
theorem aligned_of_steady (h : q.Within steady) {p : Preparation} (hp : q.prepare = .ok p) :
    Aligned p.pieces := by
  obtain ⟨_, parts, hc, rfl⟩ := prepare_eq_ok hp
  exact .join separates_line parts (aligned_clauses h hc)

lemma aligned_prepare (h : q.Within percentFree) {p : Preparation} (hp : q.prepare = .ok p) :
    Aligned p.pieces :=
  aligned_of_steady (h.widen percentFree_narrower) hp

end Query

/-! ## Direct assembly -/

/-- Every value is written out where it stands, every fragment is bound by its own arguments. -/
def inlining : Rewriting where
  slot
    | .bound v => .raw (literal v)
    | .raw sql => .raw sql
  operand
    | .bound (.list items) => .raw ("(" ++ ", ".intercalate (items.map literal) ++ ")")
    | .bound v => .raw (literal v)
    | .raw sql => .raw sql
  fragment f := { sql := f.bound }
  bound
    | .count n => .raw { sql := Placeholder.integer.write (Value.ofUnsigned n) }
    | .raw f => .raw { sql := f.bound }

/-- The direct text of the pieces is the template of others, which have no arguments. -/
def Inlined (pieces others : List Piece) : Prop :=
  Rendering.direct.chars pieces = Rendering.placeholder.chars others ∧ arguments others = []

namespace Inlined

lemma text (s : String) : Inlined [.text s] [.text s] := ⟨rfl, rfl⟩

lemma append {a a' b b' : List Piece} (ha : Inlined a a') (hb : Inlined b b') :
    Inlined (a ++ b) (a' ++ b') := by
  constructor
  · rw [Rendering.chars_append, Rendering.chars_append, ha.1, hb.1]
  · rw [arguments_append, ha.2, hb.2]
    rfl

lemma value (v : Value) : Inlined [.value v] [.text (literal v)] := ⟨rfl, rfl⟩

lemma slot (s : Slot) : Inlined [s.piece] [(inlining.slot s).piece] := by
  cases s with
  | bound v => exact value v
  | raw sql => exact text sql

lemma fragment (f : Fragment) : Inlined [.fragment f] [.fragment { sql := f.bound }] := ⟨rfl, rfl⟩

lemma list (column : ColumnRef) (operator : String) (items : List Value) :
    Inlined (Condition.compare column operator (.bound (.list items))).pieces
      (Condition.compare column operator (inlining.operand (.bound (.list items)))).pieces := by
  refine ⟨?_, rfl⟩
  have members : Rendering.direct.chars (Piece.join ", " (items.map fun v => [.value v])) =
      (", ".intercalate (items.map literal)).toList := by
    rw [Rendering.chars_join, String.toList_intercalate, List.map_map, List.map_map]
    congr 2
    funext v
    simp [Rendering.piece, Rendering.direct, Placeholder.write]
  simp [Condition.pieces, inlining, Slot.piece, members, Rendering.piece]

lemma operand (column : ColumnRef) (operator : String) (s : Slot) :
    Inlined (Condition.compare column operator s).pieces
      (Condition.compare column operator (inlining.operand s)).pieces := by
  have start := text (column.sql ++ " " ++ operator ++ " ")
  cases s with
  | raw sql => exact start.append (text sql)
  | bound v =>
    cases v with
    | list items => exact list column operator items
    | _ => exact start.append (value _)

lemma bound (keyword : String) (b : Bound) :
    Inlined (b.pieces keyword) ((inlining.bound b).pieces keyword) := by
  cases b with
  | count n => exact (text _).append ⟨rfl, rfl⟩
  | raw f => exact (text _).append (fragment f)

end Inlined

lemma respects_inlining : inlining.Respects Inlined where
  nil := ⟨rfl, rfl⟩
  text := Inlined.text
  append := Inlined.append
  slot := Inlined.slot
  operand := Inlined.operand
  fragment := Inlined.fragment
  bound := Inlined.bound

/-- Binding a prepared statement is assembling it directly: there are as many placeholders as
arguments, and the final text is that of the query with every value written at its own place. -/
theorem Query.bind_prepare_eq_inlined {target : Target} {cs : List Query.Call}
    (htarget : ∀ table ∈ target.table?, PercentFree table)
    (hcs : ∀ c ∈ cs, c.Within percentFree) {p : Preparation}
    (hp : (Query.built target cs).prepare = .ok p) :
    placeholders p.sql.toList = p.args.length ∧
      ∃ p', ((Query.built target cs).rewrite inlining).prepare = .ok p' ∧
        p'.args = [] ∧ bind p.sql p.args = .ok p'.sql := by
  have within := Query.within_calls (Query.within_start htarget) hcs
  have aligned := Query.aligned_prepare within hp
  refine ⟨aligned.placeholders_template, ?_⟩
  obtain ⟨p', hp', _, chars, args⟩ := (Query.agree_prepare respects_inlining _).of_ok hp
  refine ⟨p', hp', args, ?_⟩
  have text : p'.sql = String.ofList (Rendering.direct.chars p.pieces) := by
    rw [chars, ← toList_template, String.ofList_toList]
    rfl
  rw [text]
  exact aligned.bind_template

/-- Calls out of order, with a list, fragments that bind and percent signs that do not. -/
def mixedCalls : List Query.Call := [
  .limit (.count 10),
  .filter false (.compare (.name "a") (some "in") (.bound (.list [.int 1, .text "%s"]))),
  .filter true (.raw { sql := "b = '5%%' AND c = %s %", args := [.text "o'k"] }),
  .orderBy [.raw { sql := "FIELD(d, %d)", args := [.text "3x"] }],
  .groupBy [.column "g" .asc]]

theorem bind_prepare_mixedCalls :
    (∀ c ∈ mixedCalls, c.Within percentFree) ∧
      ∃ p, (Query.built (.table "t") mixedCalls).prepare = .ok p ∧
        placeholders p.sql.toList = p.args.length ∧
        ∃ p', ((Query.built (.table "t") mixedCalls).rewrite inlining).prepare = .ok p' ∧
          p'.args = [] ∧ bind p.sql p.args = .ok p'.sql := by
  have within : ∀ c ∈ mixedCalls, c.Within percentFree := by
    have column : percentFree.column (.name "a") := (by decide : PercentFree "a")
    have operator : ∀ o ∈ some "in", percentFree.operator o := by
      rintro o ⟨⟩
      exact (by decide : PercentFree "in")
    have order : ∀ i ∈ [OrderItem.raw { sql := "FIELD(d, %d)", args := [.text "3x"] }],
        i.Within percentFree := List.forall_mem_singleton.mpr rfl
    have group : ∀ i ∈ [OrderItem.column "g" .asc], i.Within percentFree :=
      List.forall_mem_singleton.mpr (by decide : PercentFree "g")
    simp only [mixedCalls, List.forall_mem_cons]
    exact ⟨trivial, ⟨column, operator, nofun⟩, rfl, order, group, nofun⟩
  have table : ∀ name ∈ (Target.table "t").table?, PercentFree name := by
    rintro name ⟨⟩
    decide
  exact ⟨within, _, rfl, Query.bind_prepare_eq_inlined table within rfl⟩

end Clausal
