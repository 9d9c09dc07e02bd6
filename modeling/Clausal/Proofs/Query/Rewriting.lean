import Clausal.Proofs.Columns
import Clausal.Proofs.Failure
import Clausal.Query.Prepare

/-!
# Rewriting the values of a query

A rewriting replaces slots, fragments and bounds where they stand. If it respects a relation on
pieces at each of these places, then preparing a query and preparing the rewritten one agree: both
give the same error, or statements whose pieces are related.
-/

namespace Clausal

open Sql

structure Rewriting where
  slot : Slot → Slot
  operand : Slot → Slot
  fragment : Fragment → Fragment
  bound : Bound → Bound

variable (w : Rewriting)

def rewriteCells (cells : Columns Slot) : Columns Slot :=
  cells.map fun (column, slot) => (column, w.slot slot)

def OrderItem.rewrite : OrderItem → OrderItem
  | .column name direction => .column name direction
  | .raw fragment => .raw (w.fragment fragment)

def Condition.rewrite : Condition → Condition
  | .compare column operator value => .compare column operator (w.operand value)
  | .raw fragment => .raw (w.fragment fragment)

def ConditionTree.rewrite (tree : ConditionTree) : ConditionTree :=
  ⟨tree.groups.map (·.map (Condition.rewrite w))⟩

def Query.rewrite (q : Query) : Query :=
  { q with
    assignments := rewriteCells w q.assignments
    insertRows := q.insertRows.map (rewriteCells w)
    filters := q.filters.rewrite w
    groupBy := q.groupBy.map (OrderItem.rewrite w)
    having := q.having.rewrite w
    orderBy := q.orderBy.map (OrderItem.rewrite w)
    limit := q.limit.map w.bound
    offset := q.offset.map w.bound }

/-- The relation holds of texts, of what the rewriting replaces, and of their concatenations. -/
structure Rewriting.Respects (R : List Piece → List Piece → Prop) : Prop where
  nil : R [] []
  text : ∀ s, R [.text s] [.text s]
  append : ∀ {a a' b b'}, R a a' → R b b' → R (a ++ b) (a' ++ b')
  slot : ∀ s : Slot, R [s.piece] [(w.slot s).piece]
  operand : ∀ column operator value,
    R (Condition.compare column operator value).pieces
      (Condition.compare column operator (w.operand value)).pieces
  fragment : ∀ f, R [.fragment f] [.fragment (w.fragment f)]
  bound : ∀ keyword b, R (b.pieces keyword) ((w.bound b).pieces keyword)

variable {w} {R : List Piece → List Piece → Prop}

namespace Rewriting.Respects

lemma text_cons (h : w.Respects R) (s : String) {ps qs : List Piece} (hp : R ps qs) :
    R (.text s :: ps) (.text s :: qs) :=
  h.append (h.text s) hp

lemma join (h : w.Respects R) (separator : String) {parts others : List (List Piece)}
    (hp : List.Forall₂ R parts others) :
    R (Piece.join separator parts) (Piece.join separator others) := by
  induction hp with
  | nil => exact h.nil
  | cons head tail ih =>
    cases tail with
    | nil => exact head
    | cons next rest => exact h.append head (h.text_cons separator ih)

lemma clausePieces (h : w.Respects R) (start separator : String) {parts others : List (List Piece)}
    (hp : List.Forall₂ R parts others) :
    List.Forall₂ R (Query.clausePieces start separator parts)
      (Query.clausePieces start separator others) := by
  cases hp with
  | nil => exact .nil
  | cons head tail => exact .cons (h.text_cons start (h.join separator (.cons head tail))) .nil

lemma order (h : w.Respects R) (items : List OrderItem) :
    List.Forall₂ R (items.map OrderItem.pieces)
      ((items.map (OrderItem.rewrite w)).map OrderItem.pieces) := by
  rw [List.map_map]
  refine forall₂_map_map fun item _ => ?_
  cases item with
  | column name direction => exact h.text _
  | raw fragment => exact h.fragment fragment

lemma condition (h : w.Respects R) (item : Condition) :
    R item.pieces (item.rewrite w).pieces := by
  cases item with
  | compare column operator value => exact h.operand column operator value
  | raw fragment => exact h.fragment fragment

end Rewriting.Respects

lemma ConditionTree.filled_rewrite (tree : ConditionTree) :
    (tree.rewrite w).filled = tree.filled.map (·.map (Condition.rewrite w)) := by
  simp only [filled, rewrite, List.filter_map]
  congr 2
  funext group
  simp

lemma Rewriting.Respects.conditionPieces (h : w.Respects R) (start : String)
    (tree : ConditionTree) :
    List.Forall₂ R (Query.conditionPieces start tree)
      (Query.conditionPieces start (tree.rewrite w)) := by
  unfold Query.conditionPieces ConditionTree.isEmpty
  rw [ConditionTree.filled_rewrite, List.isEmpty_map]
  split
  · exact .nil
  · refine .cons (h.text_cons start ?_) .nil
    simp only [ConditionTree.pieces, ConditionTree.filled_rewrite, List.map_map]
    refine h.join _ (forall₂_map_map fun group _ => ?_)
    refine h.text_cons _ (h.append (h.join _ ?_) (h.text _))
    simp only [List.map_map]
    exact forall₂_map_map fun item _ => h.condition item

lemma get?_rewriteCells (cells : Columns Slot) (column : String) :
    Columns.get? (rewriteCells w cells) column = (Columns.get? cells column).map w.slot :=
  Columns.get?_map (fun _ => w.slot) cells column

lemma names_rewriteCells (cells : Columns Slot) :
    Columns.names (rewriteCells w cells) = cells.names :=
  Columns.names_map (fun _ => w.slot) cells

namespace Query

lemma agree_tuplePieces (h : w.Respects R) (columns : List String) (cells : Columns Slot) :
    Agree R (tuplePieces columns cells) (tuplePieces columns (rewriteCells w cells)) := by
  unfold tuplePieces
  refine Agree.bind (R := List.Forall₂ R)
    (Agree.mapM (List.forall₂_same.mpr fun column _ => ?_)) fun slots others hs => ?_
  · rw [get?_rewriteCells]
    cases cells.get? column with
    | some slot => exact .ok (h.slot slot)
    | none => exact .error _
  · exact .ok (h.text_cons _ (h.append (h.join _ hs) (h.text _)))

lemma agree_valuesPieces (h : w.Respects R) (q : Query) :
    Agree (List.Forall₂ R) q.valuesPieces (q.rewrite w).valuesPieces := by
  unfold valuesPieces
  cases hr : q.insertRows with
  | nil =>
    simp only [rewrite, hr, List.map_nil]
    exact .ok .nil
  | cons first rest =>
    simp only [rewrite, hr, List.map_cons, names_rewriteCells]
    rw [← List.map_cons]
    refine Agree.bind (R := List.Forall₂ R) (Agree.mapM ?_) fun tuples others ht => ?_
    · rw [List.forall₂_map_right_iff, List.forall₂_same]
      exact fun cells _ => agree_tuplePieces h _ cells
    · exact .ok (.cons (h.text_cons _ (h.join _ ht)) .nil)

lemma related_setPieces (h : w.Respects R) (q : Query) :
    List.Forall₂ R q.setPieces (q.rewrite w).setPieces := by
  refine h.clausePieces _ _ ?_
  simp only [rewrite, rewriteCells, List.map_map]
  exact forall₂_map_map fun cell _ => h.text_cons _ (h.slot cell.2)

lemma related_boundPieces (h : w.Respects R) (q : Query) :
    List.Forall₂ R q.boundPieces (q.rewrite w).boundPieces := by
  have single {a b : List Piece} (hab : R a b) : List.Forall₂ R [a] [b] := .cons hab .nil
  unfold boundPieces
  simp only [rewrite]
  cases q.limit with
  | some limit =>
    cases q.offset with
    | some offset => exact .cons (h.bound _ limit) (single (h.bound _ offset))
    | none => exact single (h.bound _ limit)
  | none =>
    cases q.offset with
    | some offset => exact .cons (h.text _) (single (h.bound _ offset))
    | none => exact .nil

lemma agree_headPieces (h : w.Respects R) (q : Query) :
    Agree (List.Forall₂ R) q.headPieces (q.rewrite w).headPieces := by
  change Agree _ q.headPieces q.headPieces
  unfold headPieces requireTable
  cases q.table? with
  | some table =>
    cases q.kindOrSelect with
    | select => exact .ok (.cons (h.text _) (.cons (h.text _) .nil))
    | insert | update | delete => exact .ok (.cons (h.text _) .nil)
  | none =>
    cases q.kindOrSelect with
    | select => exact .ok (.cons (h.text _) .nil)
    | insert | update | delete => exact .error _

lemma agree_joinPieces (h : w.Respects R) (q : Query) :
    Agree (List.Forall₂ R) q.joinPieces (q.rewrite w).joinPieces := by
  change Agree _ q.joinPieces q.joinPieces
  unfold joinPieces requireTable
  split
  · exact .ok .nil
  · cases q.table? with
    | some base => exact .ok (forall₂_map_map fun j _ => h.text _)
    | none => exact .error _

lemma agree_clauses (h : w.Respects R) (q : Query) :
    Agree (List.Forall₂ R) q.clauses (q.rewrite w).clauses := by
  have required : (q.rewrite w).requireClauses = q.requireClauses := by
    simp [requireClauses, rewrite, kindOrSelect, rewriteCells]
  unfold clauses
  rw [required]
  refine Agree.bind (.refl (fun _ => Eq.refl ()) _) fun _ _ _ => ?_
  refine (agree_headPieces h q).bind fun head others hh => ?_
  refine (agree_valuesPieces h q).bind fun values others hv => ?_
  refine (agree_joinPieces h q).bind fun joins others hj => .ok ?_
  have filters := h.conditionPieces "WHERE " q.filters
  have groups := h.clausePieces "GROUP BY " ", " (h.order q.groupBy)
  have having := h.conditionPieces "HAVING " q.having
  have orders := h.clausePieces "ORDER BY " ", " (h.order q.orderBy)
  exact List.rel_append (List.rel_append (List.rel_append (List.rel_append (List.rel_append
    (List.rel_append (List.rel_append (List.rel_append hh (related_setPieces h q)) hv) hj)
      filters) groups) having) orders) (related_boundPieces h q)

/-- Preparing the rewritten query gives the same error, or a statement of the same kind with
related pieces. -/
theorem agree_prepare (h : w.Respects R) (q : Query) :
    Agree (fun p p' => p'.kind = p.kind ∧ R p.pieces p'.pieces) q.prepare
      (q.rewrite w).prepare := by
  unfold prepare
  change Agree _ _ (q.validate >>= _)
  refine Agree.bind (.refl (fun _ => Eq.refl ()) _) fun _ _ _ => ?_
  refine (agree_clauses h q).bind fun parts others hp => ?_
  exact .ok ⟨rfl, h.join _ hp⟩

end Query

end Clausal
