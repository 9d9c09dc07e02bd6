import Clausal.Proofs.Query.Preparing
import Clausal.Proofs.Query.Vocabulary
import Clausal.Proofs.Sql.Lexemes
import Clausal.Proofs.Text.LetterCase

/-!
# The lexemes of a query

What the statement of a plain query consists of, told by the clauses and not by the text: keywords,
signs, the names that were passed, and places for values. If a query has no raw text and binds
constants, its pieces are spelled by its lexemes. It is plain if its names have no percent sign.
-/

namespace Clausal

open Sql Lexer

/-! ## Plain queries -/

/-- A letter, a space or a comparison sign. -/
def OperatorChar (c : Char) : Prop :=
  isLetter c = true ∨ c ∈ [' ', '<', '>', '=', '!']

instance (c : Char) : Decidable (OperatorChar c) :=
  inferInstanceAs (Decidable (_ ∨ _))

def OperatorText (s : String) : Prop :=
  ∀ c ∈ s.toList, OperatorChar c

instance (s : String) : Decidable (OperatorText s) :=
  List.decidableBAll OperatorChar s.toList

lemma OperatorChar.bare {c : Char} (h : OperatorChar c) : Bare c := by
  rcases h with letter | sign
  · exact Or.inr (Or.inl (by simp [isWordChar, letter]))
  · simp only [List.mem_cons, List.not_mem_nil, or_false] at sign
    rcases sign with rfl | rfl | rfl | rfl | rfl <;> decide

lemma operatorChar_of_capital {c : Char} (h : Text.Capital c.toNat) : OperatorChar c := by
  refine Or.inl ?_
  simp only [isLetter, Bool.or_eq_true, Bool.and_eq_true, decide_eq_true_eq]
  simp only [Text.Capital] at h
  omega

/-- No raw text but NULL, and constants as values. -/
def rawFree : Vocabulary where
  name _ := True
  expression _ := False
  column
    | .name _ => True
    | .raw _ => False
  operator := OperatorText
  slot
    | .bound v => Scalar v
    | .raw sql => sql = "NULL"
  operand
    | .bound (.list items) => ∀ v ∈ items, Scalar v
    | .bound v => Scalar v
    | .raw sql => sql = "NULL"
  fragment _ := False
  operator_default s := by
    rw [Filter.defaultOperator]
    split <;> decide
  operator_written o h c hc := by
    rcases Text.mem_uppercase_trim hc with hc | capital
    · exact h c hc
    · exact operatorChar_of_capital capital
  slot_null := rfl
  operand_null := rfl

/-- No raw text but NULL, no percent sign in names, and constants as values. -/
def plain : Vocabulary where
  name := PercentFree
  expression _ := False
  column
    | .name s => PercentFree s
    | .raw _ => False
  operator := OperatorText
  slot
    | .bound v => Scalar v
    | .raw sql => sql = "NULL"
  operand
    | .bound (.list items) => ∀ v ∈ items, Scalar v
    | .bound v => Scalar v
    | .raw sql => sql = "NULL"
  fragment _ := False
  operator_default s := by
    rw [Filter.defaultOperator]
    split <;> decide
  operator_written o h c hc := by
    rcases Text.mem_uppercase_trim hc with hc | capital
    · exact h c hc
    · exact operatorChar_of_capital capital
  slot_null := rfl
  operand_null := rfl

lemma plain_rawFree : plain.Narrower rawFree where
  name _ _ := trivial
  expression _ h := h
  column
    | .name _, _ => trivial
    | .raw _, h => h
  operator _ h := h
  slot _ h := h
  operand _ h := h
  fragment _ h := h

/-! ## Lexemes -/

def Slot.lexemes : Slot → List Lexeme
  | .bound v => [.value v]
  | .raw sql => [.word sql]

def operatorTokens (operator : String) : List Token :=
  (lex operator.toList).getD []

namespace Condition

/-- Only a condition without raw text is told. -/
def lexemes : Condition → List Lexeme
  | .raw _ => []
  | .compare column operator (.bound (.list items)) =>
    .name column.written :: ((operatorTokens operator).map .token ++ .sign '(' ::
      ([.sign ','].intercalate (items.map fun v => [.value v]) ++ [.sign ')']))
  | .compare column operator value =>
    .name column.written :: ((operatorTokens operator).map .token ++ value.lexemes)

end Condition

def ConditionTree.lexemes (tree : ConditionTree) : List Lexeme :=
  [.word "OR"].intercalate (tree.filled.map fun group =>
    .sign '(' :: ([.word "AND"].intercalate (group.map Condition.lexemes) ++ [.sign ')']))

def OrderItem.lexemes : OrderItem → List Lexeme
  | .column name direction => [.name name, .word direction.keyword]
  | .raw _ => []

def Bound.lexemes (keyword : String) : Bound → List Lexeme
  | .count n => [.word keyword, .count n]
  | .raw _ => []

def Join.lexemes (base : String) (j : Join) : List Lexeme :=
  [.word j.kind.keyword, .word "JOIN", .name j.table, .word "ON", .name base, .sign '.',
    .name j.localColumn, .sign '=', .name j.table, .sign '.', .name j.foreignColumn]

namespace Query

variable (q : Query)

def headLexemes : List (List Lexeme) :=
  let table := q.table?.toList.map Lexeme.name
  match q.kindOrSelect with
  | .delete => [[.word "DELETE", .word "FROM"] ++ table]
  | .update => [[.word "UPDATE"] ++ table]
  | .insert => [[.word "INSERT", .word "INTO"] ++ table]
  | .select => [.word "SELECT", .sign '*'] :: table.map fun name => [.word "FROM", name]

/-- A clause that is written if it has parts. -/
def clauseLexemes (start : List String) (parts : List (List Lexeme)) : List (List Lexeme) :=
  if parts.isEmpty then [] else [start.map .word ++ [.sign ','].intercalate parts]

def setLexemes : List (List Lexeme) :=
  clauseLexemes ["SET"] (q.assignments.map fun (column, slot) =>
    .name column :: .sign '=' :: slot.lexemes)

def tupleLexemes (columns : List String) (row : Columns Slot) : List Lexeme :=
  .sign '(' :: ([.sign ','].intercalate (columns.map fun column =>
    ((row.get? column).map Slot.lexemes).getD []) ++ [.sign ')'])

def nameTokens (names : List String) : List Token :=
  [.sign ','].intercalate (names.map fun name => [.name name])

def valuesLexemes : List (List Lexeme) :=
  match q.insertRows with
  | [] => []
  | first :: _ =>
    [.sign '(' :: ((nameTokens first.names).map .token ++ .sign ')' :: .word "VALUES" ::
      [.sign ','].intercalate (q.insertRows.map (tupleLexemes first.names)))]

def joinLexemes : List (List Lexeme) :=
  q.table?.toList.flatMap fun base => q.joins.map (Join.lexemes base)

def conditionLexemes (start : String) (tree : ConditionTree) : List (List Lexeme) :=
  if tree.isEmpty then [] else [.word start :: tree.lexemes]

def boundLexemes : List (List Lexeme) :=
  let limit := match q.limit, q.offset with
    | some bound, _ => [bound.lexemes "LIMIT"]
    | none, some _ => [[.word "LIMIT", .word "18446744073709551615"]]
    | none, none => []
  limit ++ (q.offset.map (·.lexemes "OFFSET")).toList

def lexemeClauses : List (List Lexeme) :=
  q.headLexemes ++ q.setLexemes ++ q.valuesLexemes ++ q.joinLexemes ++
    conditionLexemes "WHERE" q.filters ++
    clauseLexemes ["GROUP", "BY"] (q.groupBy.map OrderItem.lexemes) ++
    conditionLexemes "HAVING" q.having ++
    clauseLexemes ["ORDER", "BY"] (q.orderBy.map OrderItem.lexemes) ++ q.boundLexemes

/-- All that the statement consists of, in order. -/
def lexemes : List Lexeme := q.lexemeClauses.flatten

end Query

/-! ## Spelled clauses -/

lemma parts_and : Parts " AND " [.word "AND"] := by decide

lemma parts_or : Parts " OR " [.word "OR"] := by decide

lemma parts_line : Parts " \n" [] := by decide

lemma lead_name {s : String} {us : List Token} (hp : Parts s us) (n : String) :
    Leads (quoteName n ++ s) (.name n :: us) :=
  .of_lex (lex_quoteName n) (List.forall_mem_singleton.mpr rfl) hp

lemma spells_of_forall₂ {α : Type} {R : α → List Piece → Prop} {g : α → List Lexeme} {l : List α}
    {parts : List (List Piece)} (hp : List.Forall₂ R l parts)
    (h : ∀ a ∈ l, ∀ part, R a part → Spells part (g a)) :
    List.Forall₂ Spells parts (l.map g) := by
  induction hp with
  | nil => exact .nil
  | cons head _ ih =>
    rw [List.forall_mem_cons] at h
    exact .cons (h.1 _ head) (ih h.2)

lemma Slot.spells {s : Slot} (h : rawFree.slot s) : Spells [s.piece] s.lexemes := by
  cases s with
  | bound v => exact .value h
  | raw sql =>
    obtain rfl : sql = "NULL" := h
    have null : lex "NULL".toList = some [.word "NULL"] := rfl
    exact .text null (by decide)

lemma lex_operator {operator : String} (h : rawFree.operator operator) :
    lex operator.toList = some (operatorTokens operator) ∧
      ∀ t ∈ operatorTokens operator, t.fixed = true := by
  obtain ⟨ts, hl, fixed⟩ := exists_lex_of_bare fun c hc => (h c hc).bare
  have same : operatorTokens operator = ts := by simp [operatorTokens, hl]
  rw [same]
  exact ⟨hl, fixed⟩

namespace Condition

/-- The text before an operand. -/
lemma lead_operand {column : ColumnRef} (hc : rawFree.column column) {operator : String}
    (ho : rawFree.operator operator) {s : String} {us : List Token} (hp : Parts s us) :
    Leads (column.sql ++ " " ++ operator ++ s)
      (.name column.written :: (operatorTokens operator ++ us)) := by
  cases column with
  | raw sql => exact hc.elim
  | name n =>
    obtain ⟨hl, fixed⟩ := lex_operator ho
    have opening : Leads (quoteName n ++ " ") [.name n] := lead_name (by decide) n
    have middle := opening.closes.lex_append hl
    rw [← String.toList_append] at middle
    exact .of_lex middle (List.forall_mem_append.mpr ⟨opening.fixed, fixed⟩) hp

lemma spells {item : Condition} (h : item.Within rawFree) : Spells item.pieces item.lexemes := by
  cases item with
  | raw fragment => exact h.elim
  | compare column operator value =>
    obtain ⟨hc, ho, hv⟩ := h
    have opening := lead_operand hc ho (by decide : Parts " " [])
    rw [List.append_nil] at opening
    cases value with
    | raw sql =>
      have slot : rawFree.slot (.raw sql) := hv
      exact (Slot.spells slot).text_cons opening
    | bound v =>
      cases v with
      | list items =>
        have bracket := lead_operand hc ho (by decide : Parts " (" [.sign '('])
        have members := Spells.join parts_comma (forall₂_map_map fun v hm => Spells.value (hv v hm))
        have closed := members.close (by decide : Parts ")" [.sign ')'])
        have whole := closed.text_cons bracket
        simpa [Condition.pieces, Condition.lexemes] using whole
      | _ =>
        have slot : rawFree.slot (.bound _) := hv
        exact (Slot.spells slot).text_cons opening

end Condition

lemma ConditionTree.spells {tree : ConditionTree} (h : tree.Within rawFree) :
    Spells tree.pieces tree.lexemes := by
  refine .join parts_or (forall₂_map_map fun group hg => ?_)
  have items := Spells.join parts_and (forall₂_map_map fun item hi =>
    Condition.spells (h group (List.mem_of_mem_filter hg) item hi))
  have closed := items.close (by decide : Parts " )" [.sign ')'])
  exact closed.text_cons (by decide : Leads "( " [.sign '('])

lemma OrderItem.spells {item : OrderItem} (h : item.Within rawFree) :
    Spells item.pieces item.lexemes := by
  cases item with
  | raw fragment => exact h.elim
  | column name direction =>
    have opening : Leads (quoteName name ++ " ") [.name name] := lead_name (by decide) name
    have keyword : lex direction.keyword.toList = some [.word direction.keyword] := by
      cases direction <;> rfl
    have whole := opening.closes.lex_append keyword
    rw [← String.toList_append] at whole
    refine .text whole (List.forall_mem_append.mpr ⟨opening.fixed, ?_⟩)
    exact List.forall_mem_singleton.mpr rfl

lemma Bound.spells {bound : Bound} (h : bound.Within rawFree) {keyword : String}
    (hk : Leads (keyword ++ " ") [.word keyword]) :
    Spells (bound.pieces keyword) (bound.lexemes keyword) := by
  cases bound with
  | raw fragment => exact h.elim
  | count n => exact (Spells.count n).text_cons hk

lemma Join.spells (base : String) (j : Join) : Spells (j.pieces base) (j.lexemes base) := by
  have opening : Leads (j.kind.keyword ++ " JOIN ") [.word j.kind.keyword, .word "JOIN"] := by
    cases j.kind <;> decide
  have whole := (((opening.name j.table (by decide : Parts " ON " [.word "ON"])).name base
    (by decide : Parts "." [.sign '.'])).name j.localColumn
    (by decide : Parts " = " [.sign '='])).name j.table (by decide : Parts "." [.sign '.'])
  exact .text (whole.lex_name j.foreignColumn) (whole.fixed_name j.foreignColumn)

namespace Query

lemma spells_clausePieces {start : String} {words : List String}
    (hs : Leads start (words.map .word)) {parts : List (List Piece)} {lists : List (List Lexeme)}
    (h : List.Forall₂ Spells parts lists) :
    List.Forall₂ Spells (clausePieces start ", " parts) (clauseLexemes words lists) := by
  cases h with
  | nil => exact .nil
  | cons head tail =>
    have whole := (Spells.join parts_comma (.cons head tail)).text_cons hs
    refine .cons ?_ .nil
    simpa [Function.comp_def] using whole

lemma spells_conditionPieces {start : String} {word : String} (hs : Leads start [.word word])
    {tree : ConditionTree} (h : tree.Within rawFree) :
    List.Forall₂ Spells (conditionPieces start tree) (conditionLexemes word tree) := by
  rw [conditionPieces, conditionLexemes]
  split
  · exact .nil
  · exact .cons ((ConditionTree.spells h).text_cons hs) .nil

lemma spells_orderPieces {start : String} {words : List String}
    (hs : Leads start (words.map .word)) {items : List OrderItem}
    (h : ∀ item ∈ items, item.Within rawFree) :
    List.Forall₂ Spells (clausePieces start ", " (items.map OrderItem.pieces))
      (clauseLexemes words (items.map OrderItem.lexemes)) :=
  spells_clausePieces hs (forall₂_map_map fun item hi => OrderItem.spells (h item hi))

variable {q : Query}

lemma spells_setPieces (h : q.Within rawFree) :
    List.Forall₂ Spells q.setPieces q.setLexemes := by
  refine spells_clausePieces (by decide) (forall₂_map_map fun cell hc => ?_)
  obtain ⟨_, hs⟩ := h.assignments cell hc
  exact (Slot.spells hs).text_cons (lead_name (by decide : Parts " = " [.sign '=']) cell.1)

lemma spells_tuplePieces {columns : List String} {cells : Columns Slot}
    (h : CellsWithin rawFree cells) {tuple : List Piece}
    (hp : tuplePieces columns cells = .ok tuple) :
    Spells tuple (tupleLexemes columns cells) := by
  obtain ⟨parts, found, rfl⟩ := tuplePieces_eq_ok hp
  have each : List.Forall₂ Spells parts
      (columns.map fun column => ((cells.get? column).map Slot.lexemes).getD []) := by
    refine spells_of_forall₂ found fun column _ part hc => ?_
    obtain ⟨slot, hg, rfl⟩ := hc
    rw [hg]
    exact Slot.spells (h.get? hg).2
  have closed := (Spells.join parts_comma each).close (by decide : Parts ")" [.sign ')'])
  exact closed.text_cons (by decide : Leads "(" [.sign '('])

lemma lex_names (names : List String) :
    lex (", ".intercalate (names.map quoteName)).toList = some (nameTokens names) ∧
      ∀ t ∈ nameTokens names, t.fixed = true := by
  induction names with
  | nil => exact ⟨rfl, List.forall_mem_nil _⟩
  | cons name rest ih =>
    cases rest with
    | nil =>
      refine ⟨?_, List.forall_mem_singleton.mpr rfl⟩
      simpa [nameTokens] using lex_quoteName name
    | cons next rest =>
      have opening := lead_name parts_comma name
      have whole := opening.closes.lex_append ih.1
      have tokens : nameTokens (name :: next :: rest) =
          [.name name, .sign ','] ++ nameTokens (next :: rest) := by
        simp [nameTokens]
      rw [tokens]
      refine ⟨?_, List.forall_mem_append.mpr ⟨opening.fixed, ih.2⟩⟩
      rw [← String.toList_append] at whole
      simpa only [List.map_cons, String.intercalate_cons_cons] using whole

lemma spells_valuesPieces (h : q.Within rawFree) {parts : List (List Piece)}
    (hp : q.valuesPieces = .ok parts) : List.Forall₂ Spells parts q.valuesLexemes := by
  rcases valuesPieces_eq_ok hp with ⟨hr, rfl⟩ | ⟨first, rest, tuples, hr, found, rfl⟩
  · simp only [valuesLexemes, hr]
    exact .nil
  · have rows : List.Forall₂ Spells tuples (q.insertRows.map (tupleLexemes first.names)) :=
      spells_of_forall₂ found fun cells hc part hp => spells_tuplePieces (h.insertRows cells hc) hp
    obtain ⟨names, fixed⟩ := lex_names first.names
    have bracket : Leads "(" [.sign '('] := by decide
    have columns := bracket.closes.lex_append names
    rw [← String.toList_append] at columns
    have opening := Leads.of_lex columns (List.forall_mem_append.mpr ⟨bracket.fixed, fixed⟩)
      (by decide : Parts ") VALUES " [.sign ')', .word "VALUES"])
    have whole := (Spells.join parts_comma rows).text_cons opening
    simp only [valuesLexemes, hr] at whole ⊢
    refine .cons ?_ .nil
    simpa using whole

lemma spells_over {start : String} {words : List Token} (hs : Leads (start ++ " ") words)
    (table : String) :
    Spells [.text (start ++ " " ++ quoteName table)] ((words ++ [Token.name table]).map .token) :=
  .text (hs.lex_name table) (hs.fixed_name table)

lemma spells_headPieces (h : q.Within rawFree) {parts : List (List Piece)}
    (hp : q.headPieces = .ok parts) : List.Forall₂ Spells parts q.headLexemes := by
  rcases headPieces_eq_ok hp with ⟨start, table, hs, ht, rfl⟩ | ⟨hk, rfl⟩
  · simp only [heads, List.mem_cons, Prod.mk.injEq, List.not_mem_nil, or_false] at hs
    rcases hs with ⟨hk, rfl⟩ | ⟨hk, rfl⟩ | ⟨hk, rfl⟩
    · have opening : Leads ("DELETE FROM" ++ " ") [.word "DELETE", .word "FROM"] := by decide
      simp only [headLexemes, hk, ht]
      exact .cons (spells_over opening table) .nil
    · have opening : Leads ("UPDATE" ++ " ") [.word "UPDATE"] := by decide
      simp only [headLexemes, hk, ht]
      exact .cons (spells_over opening table) .nil
    · have opening : Leads ("INSERT INTO" ++ " ") [.word "INSERT", .word "INTO"] := by decide
      simp only [headLexemes, hk, ht]
      exact .cons (spells_over opening table) .nil
  · have none : q.selectList = [] := List.eq_nil_iff_forall_not_mem.mpr h.selectList
    have all : Sql.lex "SELECT *".toList = some [.word "SELECT", .sign '*'] := rfl
    simp only [headLexemes, hk, none]
    refine .cons (.text all (by decide)) ?_
    cases q.table? with
    | none => exact .nil
    | some table =>
      have opening : Leads ("FROM" ++ " ") [.word "FROM"] := by decide
      exact .cons (spells_over opening table) .nil

lemma spells_joinPieces {parts : List (List Piece)} (hp : q.joinPieces = .ok parts) :
    List.Forall₂ Spells parts q.joinLexemes := by
  rcases joinPieces_eq_ok hp with ⟨hj, rfl⟩ | ⟨base, hb, rfl⟩
  · rw [joinLexemes, hj]
    simp
  · rw [joinLexemes, hb]
    simpa using forall₂_map_map fun j _ => Join.spells base j

lemma spells_boundPieces (h : q.Within rawFree) :
    List.Forall₂ Spells q.boundPieces q.boundLexemes := by
  have limit : ∀ bound ∈ q.limit, Spells (bound.pieces "LIMIT") (bound.lexemes "LIMIT") :=
    fun bound hb => Bound.spells (h.limit bound hb) (by decide)
  have offset : ∀ bound ∈ q.offset, Spells (bound.pieces "OFFSET") (bound.lexemes "OFFSET") :=
    fun bound hb => Bound.spells (h.offset bound hb) (by decide)
  have tokens : Sql.lex "LIMIT 18446744073709551615".toList =
      some [.word "LIMIT", .word "18446744073709551615"] := rfl
  have most : Spells [.text "LIMIT 18446744073709551615"]
      [.word "LIMIT", .word "18446744073709551615"] := .text tokens (by decide)
  simp only [boundPieces, boundLexemes]
  cases hl : q.limit with
  | some bound =>
    cases ho : q.offset with
    | some start => exact .cons (limit bound hl) (.cons (offset start ho) .nil)
    | none => exact .cons (limit bound hl) .nil
  | none =>
    cases ho : q.offset with
    | some start => exact .cons most (.cons (offset start ho) .nil)
    | none => exact .nil

lemma intercalate_nil_left {α : Type} (lists : List (List α)) :
    ([] : List α).intercalate lists = lists.flatten := by
  induction lists with
  | nil => rfl
  | cons list rest ih =>
    cases rest with
    | nil => simp
    | cons next rest =>
      rw [List.intercalate_cons_cons, ih, List.append_nil]
      rfl

lemma spells_clauses (h : q.Within rawFree) {parts : List (List Piece)}
    (hp : q.clauses = .ok parts) :
    List.Forall₂ Spells parts q.lexemeClauses := by
  obtain ⟨head, values, joins, hh, hv, hj, rfl⟩ := clauses_eq_ok hp
  have filters : List.Forall₂ Spells (conditionPieces "WHERE " q.filters) _ :=
    spells_conditionPieces (by decide : Leads "WHERE " [.word "WHERE"]) h.filters
  have groups : List.Forall₂ Spells _ (clauseLexemes ["GROUP", "BY"] _) :=
    spells_orderPieces (by decide : Leads "GROUP BY " _) h.groupBy
  have having : List.Forall₂ Spells (conditionPieces "HAVING " q.having) _ :=
    spells_conditionPieces (by decide : Leads "HAVING " [.word "HAVING"]) h.having
  have orders : List.Forall₂ Spells _ (clauseLexemes ["ORDER", "BY"] _) :=
    spells_orderPieces (by decide : Leads "ORDER BY " _) h.orderBy
  exact List.rel_append (List.rel_append (List.rel_append (List.rel_append (List.rel_append
    (List.rel_append (List.rel_append (List.rel_append (spells_headPieces h hh)
      (spells_setPieces h)) (spells_valuesPieces h hv)) (spells_joinPieces hj)) filters) groups)
        having) orders) (spells_boundPieces h)

/-- A prepared statement without raw text is spelled by the lexemes of the query. -/
theorem spells_of_rawFree (h : q.Within rawFree) {p : Preparation} (hp : q.prepare = .ok p) :
    Spells p.pieces q.lexemes := by
  obtain ⟨_, parts, hc, rfl⟩ := prepare_eq_ok hp
  have whole := Spells.join parts_line (spells_clauses h hc)
  rwa [List.map_nil, intercalate_nil_left] at whole

lemma spells_prepare (h : q.Within plain) {p : Preparation} (hp : q.prepare = .ok p) :
    Spells p.pieces q.lexemes :=
  spells_of_rawFree (h.widen plain_rawFree) hp

end Query

end Clausal
