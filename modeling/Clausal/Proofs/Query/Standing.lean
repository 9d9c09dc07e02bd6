import Clausal.Proofs.Query.Final
import Clausal.Proofs.Query.Lines

/-!
# Values in the final text

A value that a query holds stands in the final text as its literal: behind the column it is assigned
to or compared with, or in its place of a row. What is behind it does not go on with it. The bounds
of a query are the end of its text.
-/

namespace Clausal

open Sql

/-! ## Parts of a text -/

/-- What begins so does not go on with a word or a number before it. -/
def Sql.Ends (cs : List Char) : Prop := ∀ c ∈ cs.head?, c ∈ [' ', ',', ')']

instance : DecidablePred Sql.Ends
  | [] => isTrue nofun
  | c :: cs => decidable_of_iff (c ∈ [' ', ',', ')']) (by simp [Sql.Ends])

lemma Sql.Ends.append {cs more : List Char} (h : Ends cs) (h' : Ends more) : Ends (cs ++ more) := by
  intro c hc
  rw [List.head?_append, Option.mem_def, Option.or_eq_some_iff] at hc
  rcases hc with hc | ⟨_, hc⟩
  · exact h c hc
  · exact h' c hc

/-- The part is in the text, and ends there. -/
def Sql.Stands (part text : String) : Prop :=
  ∃ front back, text = front ++ part ++ back ∧ Ends back.toList

namespace Sql.Piece

/-- The pieces are among others, and what is written behind them ends them. -/
def StandIn (part whole : List Piece) : Prop :=
  ∃ before after, whole = before ++ part ++ after ∧ Ends (Rendering.direct.chars after)

lemma join_suffix (separator : String) {parts last : List (List Piece)} (hp : parts ≠ [])
    (hl : last ≠ []) :
    .text separator :: join separator last <:+ join separator (parts ++ last) := by
  induction parts with
  | nil => exact absurd rfl hp
  | cons part parts ih =>
    rw [List.cons_append, join]
    · cases parts with
      | nil => exact List.suffix_append _ _
      | cons next others =>
        have rest := ih (List.cons_ne_nil next others)
        exact (rest.trans (List.suffix_cons _ _)).trans (List.suffix_append _ _)
    · exact List.append_ne_nil_of_right_ne_nil _ hl

namespace StandIn

variable {part whole more : List Piece}

lemma refl (part : List Piece) : StandIn part part :=
  ⟨[], [], by simp, nofun⟩

lemma append_right (h : StandIn part whole) (ends : Ends (Rendering.direct.chars more)) :
    StandIn part (whole ++ more) := by
  obtain ⟨before, after, rfl, closed⟩ := h
  refine ⟨before, after ++ more, by simp, ?_⟩
  rw [Rendering.chars_append]
  exact closed.append ends

lemma append_left (h : StandIn part whole) (more : List Piece) : StandIn part (more ++ whole) := by
  obtain ⟨before, after, rfl, closed⟩ := h
  exact ⟨more ++ before, after, by simp, closed⟩

lemma cons (h : StandIn part whole) (p : Piece) : StandIn part (p :: whole) :=
  h.append_left [p]

lemma trans (h : StandIn part more) (h' : StandIn more whole) : StandIn part whole := by
  obtain ⟨before, after, rfl, closed⟩ := h'
  rw [List.append_assoc]
  exact (h.append_right closed).append_left before

/-- A part of joined parts, where the text between them ends it. -/
lemma join {parts : List (List Piece)} (mem : part ∈ parts) {separator : String}
    (some : separator.toList ≠ []) (ends : Ends separator.toList) :
    StandIn part (join separator parts) := by
  induction parts using Piece.join.induct with
  | case1 => cases mem
  | case2 other =>
    obtain rfl := List.mem_singleton.mp mem
    exact .refl part
  | case3 other others hne ih =>
    rw [Piece.join]
    · rcases List.mem_cons.mp mem with rfl | mem
      · refine (StandIn.refl part).append_right ?_
        intro c hc
        rw [Rendering.chars_cons, Rendering.piece, List.head?_append_of_ne_nil _ some] at hc
        exact ends c hc
      · exact ((ih mem).cons _).append_left _
    · exact hne

lemma arguments (h : StandIn part whole) : Sql.arguments part ⊆ Sql.arguments whole := by
  obtain ⟨before, after, rfl, _⟩ := h
  rw [arguments_append, arguments_append]
  exact List.Subset.trans (List.subset_append_right _ _) (List.subset_append_left _ _)

lemma stands (h : StandIn part whole) {text : String}
    (written : Rendering.direct.chars part = text.toList) :
    Stands text (String.ofList (Rendering.direct.chars whole)) := by
  obtain ⟨before, after, rfl, closed⟩ := h
  refine ⟨String.ofList (Rendering.direct.chars before),
    String.ofList (Rendering.direct.chars after), ?_, by rwa [String.toList_ofList]⟩
  rw [Rendering.chars_append, Rendering.chars_append, String.ofList_append, String.ofList_append,
    written, String.ofList_toList]

end StandIn

end Sql.Piece

namespace Query

variable {q : Query} {p : Preparation}

/-! ## Where the values of a query stand -/

lemma standIn_clausePieces {part : List Piece} {parts : List (List Piece)} (mem : part ∈ parts)
    (start : String) : ∃ clause ∈ clausePieces start ", " parts, Piece.StandIn part clause := by
  refine ⟨.text start :: Piece.join ", " parts, ?_,
    (Piece.StandIn.join mem (by decide) (by decide)).cons _⟩
  rw [clausePieces, if_neg]
  · exact List.mem_cons_self
  · rw [List.isEmpty_iff]
    exact List.ne_nil_of_mem mem

lemma standIn_conditionPieces {tree : ConditionTree} {group : List Condition} {item : Condition}
    (hg : group ∈ tree.groups) (hi : item ∈ group) (start : String) :
    ∃ clause ∈ conditionPieces start tree, Piece.StandIn item.pieces clause := by
  have filled : group ∈ tree.filled := ConditionTree.mem_filled.mpr ⟨hg, List.ne_nil_of_mem hi⟩
  refine ⟨.text start :: tree.pieces, ?_, ?_⟩
  · rw [conditionPieces, if_neg]
    · exact List.mem_cons_self
    · rw [ConditionTree.isEmpty, List.isEmpty_iff]
      exact List.ne_nil_of_mem filled
  · have inGroup : Piece.StandIn item.pieces (Piece.join " AND " (group.map Condition.pieces)) :=
      .join (List.mem_map_of_mem hi) (by decide) (by decide)
    have bracketed : Piece.StandIn item.pieces (.text "( " ::
        (Piece.join " AND " (group.map Condition.pieces) ++ [.text " )"])) :=
      (inGroup.append_right (by decide)).cons _
    have mem := List.mem_map_of_mem (f := fun group => .text "( " ::
      (Piece.join " AND " (group.map Condition.pieces) ++ [.text " )"])) filled
    exact (bracketed.trans (.join mem (by decide) (by decide))).cons _

/-- The clauses that hold values stand in the statement. -/
lemma standIn_clause (hp : q.prepare = .ok p) : ∃ values, q.valuesPieces = .ok values ∧
    ∀ clause, clause ∈ q.setPieces ∨ clause ∈ values ∨
        (∃ c : ConditionClause, clause ∈ conditionPieces c.keyword (c.tree q)) →
      Piece.StandIn clause p.pieces := by
  obtain ⟨_, parts, clauses, rfl⟩ := prepare_eq_ok hp
  obtain ⟨head, values, joins, _, hv, _, rfl⟩ := clauses_eq_ok clauses
  refine ⟨values, hv, fun clause mem => .join ?_ (by decide) (by decide)⟩
  simp only [List.mem_append]
  rcases mem with set | rows | ⟨filter | having, tree⟩
  · tauto
  · tauto
  · have filters : clause ∈ conditionPieces "WHERE " q.filters := tree
    tauto
  · have having : clause ∈ conditionPieces "HAVING " q.having := tree
    tauto

section Prepared

variable (hp : q.prepare = .ok p)

include hp

lemma standIn_assignment {cell : String × Slot} (mem : cell ∈ q.assignments) :
    Piece.StandIn [.text (quoteName cell.1 ++ " = "), cell.2.piece] p.pieces := by
  obtain ⟨_, _, stand⟩ := standIn_clause hp
  have assigned := List.mem_map_of_mem (f := fun cell : String × Slot =>
    [.text (quoteName cell.1 ++ " = "), cell.2.piece]) mem
  obtain ⟨clause, part, within⟩ := standIn_clausePieces assigned "SET "
  exact within.trans (stand clause (Or.inl part))

lemma standIn_condition {clause : ConditionClause} {group : List Condition} {item : Condition}
    (hg : group ∈ (clause.tree q).groups) (hi : item ∈ group) :
    Piece.StandIn item.pieces p.pieces := by
  obtain ⟨_, _, stand⟩ := standIn_clause hp
  obtain ⟨written, part, within⟩ := standIn_conditionPieces hg hi clause.keyword
  exact within.trans (stand written (Or.inr (Or.inr ⟨clause, part⟩)))

lemma standIn_tuple {first row : Columns Slot} (hf : first ∈ q.insertRows.head?)
    (hr : row ∈ q.insertRows) :
    ∃ tuple, tuplePieces first.names row = .ok tuple ∧ Piece.StandIn tuple p.pieces := by
  obtain ⟨values, hv, stand⟩ := standIn_clause hp
  rcases valuesPieces_eq_ok hv with ⟨none, _⟩ | ⟨head, rest, tuples, rows, found, rfl⟩
  · rw [none] at hr
    cases hr
  · rw [rows] at hf
    obtain rfl := Option.some.inj hf
    obtain ⟨tuple, mem, ht⟩ := exists_of_mem_right found.flip hr
    refine ⟨tuple, ht, ?_⟩
    have within : Piece.StandIn tuple (Piece.join ", " tuples) :=
      .join mem (by decide) (by decide)
    exact (within.cons _).trans (stand _ (Or.inr (Or.inl List.mem_cons_self)))

/-- The last clauses of a statement begin a line and are its end. -/
lemma last_suffix {front last : List (List Piece)} (bounds : q.boundPieces = front ++ last)
    (hl : last ≠ []) : .text " \n" :: Piece.join " \n" last <:+ p.pieces := by
  obtain ⟨_, parts, clauses, rfl⟩ := prepare_eq_ok hp
  obtain ⟨head, values, joins, hh, _, _, rfl⟩ := clauses_eq_ok clauses
  rw [bounds, ← List.append_assoc]
  exact Piece.join_suffix " \n" (by simp [headPieces_ne_nil hh]) hl

end Prepared

end Query

/-! ## The values in the final text -/

/-- What LIMIT and OFFSET write for a number. -/
def countText (n : UInt64) : String := Placeholder.integer.write (.ofUnsigned n)

/-- What is written for a slot. -/
def Slot.shown : Slot → String
  | .bound v => literal v
  | .raw sql => sql

def Bound.shown : Bound → String
  | .count n => countText n
  | .raw fragment => fragment.bound

namespace Query

/-- What is written behind the limit. -/
def offsetText (q : Query) : String :=
  match q.offset with
  | some bound => " \nOFFSET " ++ bound.shown
  | none => ""

/-- The values that the query holds stand in the text as their literals, with the column or the row
they belong to. A limit and an offset begin a line each, and nothing but them ends the text. A list
that is compared with is not empty, since an empty one is refused. -/
structure Shows (q : Query) (text : String) : Prop where
  limit : ∀ n, q.limit = some (.count n) →
    ∃ front, text = front ++ " \nLIMIT " ++ countText n ++ q.offsetText
  offset : ∀ n, q.offset = some (.count n) → ∃ front, text = front ++ " \nOFFSET " ++ countText n
  assignments : ∀ column v, (column, .bound v) ∈ q.assignments →
    Stands (quoteName column ++ " = " ++ literal v) text
  rows : ∀ first ∈ q.insertRows.head?, ∀ row ∈ q.insertRows, ∀ column ∈ first.names, ∀ v,
    row.get? column = some (.bound v) → ∃ slots,
      List.Forall₂ (fun column slot => row.get? column = some slot) first.names slots ∧
        Stands ("(" ++ ", ".intercalate (slots.map Slot.shown) ++ ")") text
  conditions : ∀ clause : ConditionClause, ∀ group ∈ (clause.tree q).groups,
    ∀ column operator v, .compare column operator (.bound v) ∈ group → v ≠ .list [] →
      Stands (column.sql ++ " " ++ operator ++ " " ++ operandText v) text

section Texts

variable {q : Query} {p : Preparation}

lemma chars_piece (slot : Slot) : Rendering.direct.chars [slot.piece] = slot.shown.toList := by
  cases slot with
  | bound v => exact List.append_nil _
  | raw sql => exact List.append_nil _

lemma chars_bound (keyword : String) (bound : Bound) :
    Rendering.direct.chars (bound.pieces keyword) = (keyword ++ " " ++ bound.shown).toList := by
  cases bound <;> simp [Bound.pieces, Bound.shown, Rendering.piece, Rendering.direct, countText]

/-- A list has its members between brackets. -/
lemma chars_condition (column : ColumnRef) (operator : String) (v : Value) :
    Rendering.direct.chars (Condition.pieces (.compare column operator (.bound v))) =
      (column.sql ++ " " ++ operator ++ " " ++ operandText v).toList := by
  cases v with
  | list items =>
    have members : (items.map fun v => [Piece.value v]).map Rendering.direct.chars =
        (items.map literal).map String.toList := by
      rw [List.map_map, List.map_map]
      exact List.map_congr_left fun v _ => List.append_nil _
    rw [Condition.pieces, operandText, literal, literals_eq_map]
    simp [Rendering.piece, Rendering.chars_join, members, String.toList_intercalate]
  | _ =>
    simp [Condition.pieces, Slot.piece, operandText, Rendering.piece, Rendering.direct,
      Placeholder.write]

lemma arguments_condition (column : ColumnRef) (operator : String) {v : Value} (h : v ≠ .list []) :
    arguments (Condition.pieces (.compare column operator (.bound v))) ≠ [] := by
  cases v with
  | list items =>
    have some : items ≠ [] := fun none => h (congrArg Value.list none)
    have members : arguments (Condition.pieces (.compare column operator (.bound (.list items)))) =
        items := by
      simp [Condition.pieces, Piece.args, arguments_join, List.flatMap_map]
    rwa [members]
  | _ => exact List.cons_ne_nil _ _

/-- A tuple has a slot of the row for each column. -/
lemma exists_slots {columns : List String} {row : Columns Slot} {tuple : List Piece}
    (ht : tuplePieces columns row = .ok tuple) : ∃ slots,
      List.Forall₂ (fun column slot => row.get? column = some slot) columns slots ∧
        tuple = .text "(" ::
          (Piece.join ", " (slots.map fun slot => [slot.piece]) ++ [.text ")"]) := by
  obtain ⟨parts, found, rfl⟩ := tuplePieces_eq_ok ht
  have slots : ∃ slots,
      List.Forall₂ (fun column slot => row.get? column = some slot) columns slots ∧
        parts = slots.map fun slot => [slot.piece] := by
    clear ht
    induction found with
    | nil => exact ⟨[], .nil, rfl⟩
    | cons head _ ih =>
      obtain ⟨slot, given, rfl⟩ := head
      obtain ⟨slots, rest, rfl⟩ := ih
      exact ⟨slot :: slots, .cons given rest, rfl⟩
  obtain ⟨slots, given, rfl⟩ := slots
  exact ⟨slots, given, rfl⟩

lemma chars_slots (slots : List Slot) :
    Rendering.direct.chars (.text "(" ::
        (Piece.join ", " (slots.map fun slot => [slot.piece]) ++ [.text ")"])) =
      ("(" ++ ", ".intercalate (slots.map Slot.shown) ++ ")").toList := by
  have members : (slots.map fun slot => [slot.piece]).map Rendering.direct.chars =
      (slots.map Slot.shown).map String.toList := by
    rw [List.map_map, List.map_map]
    exact List.map_congr_left fun slot _ => chars_piece slot
  simp [Rendering.piece, Rendering.chars_join, members, String.toList_intercalate]

/-- The bounds of a query that has a limit. -/
lemma chars_limit {bound : Bound} (hl : q.limit = some bound) :
    Rendering.direct.chars (Piece.join " \n" q.boundPieces) =
      ("LIMIT " ++ bound.shown ++ q.offsetText).toList := by
  have opening : "LIMIT " = "LIMIT" ++ " " := by decide
  rw [boundPieces, hl, offsetText, opening]
  cases q.offset with
  | none =>
    rw [String.append_empty]
    exact chars_bound "LIMIT" bound
  | some start =>
    have next : " \nOFFSET " = " \n" ++ ("OFFSET" ++ " ") := by decide
    simp [Piece.join, chars_bound, Rendering.piece, next]

end Texts

section Showing

variable {q : Query} {p : Preparation} {text : String} (hp : q.prepare = .ok p)
  (final : p.args ≠ [] → text = String.ofList (Rendering.direct.chars p.pieces))

include final

lemma stands_of_standIn {part : List Piece} (h : Piece.StandIn part p.pieces)
    (some : arguments part ≠ []) {written : String}
    (same : Rendering.direct.chars part = written.toList) : Stands written text := by
  rw [final fun none => some (List.subset_nil.mp (none ▸ h.arguments))]
  exact h.stands same

lemma ends_of_suffix {part : List Piece} (h : part <:+ p.pieces) (some : arguments part ≠ [])
    {written : String} (same : Rendering.direct.chars part = written.toList) :
    ∃ front, text = front ++ written := by
  obtain ⟨before, split⟩ := h
  have args : p.args = arguments before ++ arguments part := by
    rw [Preparation.args, ← split, arguments_append]
  refine ⟨String.ofList (Rendering.direct.chars before), ?_⟩
  rw [final (args ▸ List.append_ne_nil_of_right_ne_nil _ some), ← split, Rendering.chars_append,
    same, String.ofList_append, String.ofList_toList]

include hp

/-- The last bounds of a query begin a line and are the end of the text. -/
lemma ends_of_bounds {front last : List (List Piece)} (bounds : q.boundPieces = front ++ last)
    (hl : last ≠ []) (some : last.flatMap arguments ≠ []) {written : String}
    (same : Rendering.direct.chars (Piece.join " \n" last) = written.toList) :
    ∃ front, text = front ++ (" \n" ++ written) := by
  refine ends_of_suffix final (last_suffix hp bounds hl) ?_ ?_
  · rwa [arguments_cons, arguments_join]
  · rw [Rendering.chars_cons, same, String.toList_append, Rendering.piece]

/-- Only a statement without arguments is not bound, and that holds no values. -/
lemma shows : q.Shows text where
  limit n hl := by
    have some : q.boundPieces = [] ++ q.boundPieces := rfl
    have bounds : q.boundPieces = Bound.pieces "LIMIT" (.count n) ::
        (q.offset.map (·.pieces "OFFSET")).toList := by
      rw [boundPieces, hl]
      rfl
    obtain ⟨front, same⟩ := ends_of_bounds hp final some
      (bounds ▸ List.cons_ne_nil _ _) (bounds ▸ List.cons_ne_nil _ _) (chars_limit hl)
    have opening : " \nLIMIT " = " \n" ++ "LIMIT " := by decide
    refine ⟨front, ?_⟩
    rw [same, opening]
    simp only [Bound.shown, String.append_assoc]
  offset n ho := by
    have opening : " \nOFFSET " = " \n" ++ ("OFFSET" ++ " ") := by decide
    obtain ⟨limit, bounds⟩ : ∃ limit,
        q.boundPieces = limit ++ [Bound.pieces "OFFSET" (.count n)] := by
      rw [boundPieces, ho]
      exact ⟨_, rfl⟩
    obtain ⟨front, same⟩ := ends_of_bounds hp final bounds (List.cons_ne_nil _ _)
      (List.cons_ne_nil _ _) (chars_bound "OFFSET" (.count n))
    refine ⟨front, ?_⟩
    rw [same, opening]
    simp only [Bound.shown, String.append_assoc]
  assignments column v mem := by
    refine stands_of_standIn final (standIn_assignment hp mem) (List.cons_ne_nil _ _) ?_
    rw [Rendering.chars_cons, chars_piece]
    exact String.toList_append.symm
  rows first hf row hr column hc v given := by
    obtain ⟨tuple, ht, stand⟩ := standIn_tuple hp hf hr
    obtain ⟨slots, found, rfl⟩ := exists_slots ht
    refine ⟨slots, found, stands_of_standIn final stand ?_ (chars_slots slots)⟩
    obtain ⟨slot, mem, held⟩ := exists_of_mem_right found.flip hc
    obtain rfl := Option.some.inj (held.symm.trans given)
    have bound : v ∈ slots.flatMap fun slot => arguments [slot.piece] :=
      List.mem_flatMap.mpr ⟨.bound v, mem, List.mem_cons_self⟩
    rw [arguments_cons, arguments_append, arguments_join, List.flatMap_map]
    exact List.append_ne_nil_of_right_ne_nil _
      (List.append_ne_nil_of_left_ne_nil (List.ne_nil_of_mem bound) _)
  conditions clause group hg column operator v mem some :=
    stands_of_standIn final (standIn_condition hp hg mem) (arguments_condition column operator some)
      (chars_condition column operator v)

end Showing

end Query

end Clausal
