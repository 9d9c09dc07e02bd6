import Clausal.Proofs.Failure
import Clausal.Proofs.Sql.Rendering
import Clausal.Query.Prepare

/-!
# What was prepared

Preparing succeeds only if all of its parts do. A prepared statement gives back its clauses, and a
clause what it was made of.
-/

namespace Clausal.Query

open Sql

variable {q : Query}

lemma requireTable_eq_ok {table : String} (h : q.requireTable = .ok table) :
    q.table? = some table := by
  simp only [requireTable] at h
  split at h
  · next hn => exact hn.trans (congrArg some (Except.ok.inj h))
  · cases h

/-- How the statements over one table begin. -/
def heads : List (StatementKind × String) :=
  [(.delete, "DELETE FROM"), (.update, "UPDATE"), (.insert, "INSERT INTO")]

lemma headPieces_eq_ok {head : List (List Piece)} (h : q.headPieces = .ok head) :
    (∃ start table, (q.kindOrSelect, start) ∈ heads ∧ q.table? = some table ∧
        head = [[.text (start ++ " " ++ quoteName table)]]) ∨
      (q.kindOrSelect = .select ∧
        head = [.text ("SELECT " ++
            if q.selectList.isEmpty then "*" else ", ".intercalate q.selectList)] ::
          q.table?.toList.map fun table => [.text ("FROM " ++ quoteName table)]) := by
  have overTable {start : String} (hs : (q.kindOrSelect, start) ∈ heads)
      (h : (do return [[.text (start ++ " " ++ quoteName (← q.requireTable))]]) = Except.ok head) :
      ∃ start table, (q.kindOrSelect, start) ∈ heads ∧ q.table? = some table ∧
        head = [[.text (start ++ " " ++ quoteName table)]] := by
    obtain ⟨table, ht, h⟩ := bind_eq_ok.mp h
    exact ⟨start, table, hs, requireTable_eq_ok ht, (Except.ok.inj h).symm⟩
  simp only [headPieces] at h
  cases hk : q.kindOrSelect with
  | delete =>
    rw [hk] at h overTable
    exact Or.inl (overTable List.mem_cons_self h)
  | update =>
    rw [hk] at h overTable
    exact Or.inl (overTable (by simp [heads]) h)
  | insert =>
    rw [hk] at h overTable
    exact Or.inl (overTable (by simp [heads]) h)
  | select =>
    rw [hk] at h
    refine Or.inr ⟨rfl, (Except.ok.inj h).symm.trans ?_⟩
    cases q.table? <;> rfl

lemma tuplePieces_eq_ok {columns : List String} {row : Columns Slot} {tuple : List Piece}
    (h : tuplePieces columns row = .ok tuple) :
    ∃ parts,
      List.Forall₂ (fun column part => ∃ slot, row.get? column = some slot ∧ part = [slot.piece])
        columns parts ∧
      tuple = .text "(" :: (Piece.join ", " parts ++ [.text ")"]) := by
  obtain ⟨parts, hs, h⟩ := bind_eq_ok.mp h
  refine ⟨parts, (of_mapM_eq_ok hs).imp fun column part hp => ?_, (Except.ok.inj h).symm⟩
  split at hp
  · next slot hg => exact ⟨slot, hg, (Except.ok.inj hp).symm⟩
  · cases hp

lemma valuesPieces_eq_ok {parts : List (List Piece)} (h : q.valuesPieces = .ok parts) :
    (q.insertRows = [] ∧ parts = []) ∨
      ∃ first rest tuples, q.insertRows = first :: rest ∧
        List.Forall₂ (fun row tuple => tuplePieces first.names row = .ok tuple)
          q.insertRows tuples ∧
        parts = [.text ("(" ++ ", ".intercalate (first.names.map quoteName) ++ ") VALUES ") ::
          Piece.join ", " tuples] := by
  cases hr : q.insertRows with
  | nil =>
    rw [valuesPieces, hr] at h
    exact Or.inl ⟨rfl, (Except.ok.inj h).symm⟩
  | cons first rest =>
    rw [valuesPieces, hr] at h
    obtain ⟨tuples, ht, h⟩ := bind_eq_ok.mp h
    exact Or.inr ⟨first, rest, tuples, rfl, of_mapM_eq_ok ht, (Except.ok.inj h).symm⟩

lemma joinPieces_eq_ok {parts : List (List Piece)} (h : q.joinPieces = .ok parts) :
    (q.joins = [] ∧ parts = []) ∨
      ∃ base, q.table? = some base ∧ parts = q.joins.map (·.pieces base) := by
  simp only [joinPieces] at h
  split at h
  · next hj => exact Or.inl ⟨List.isEmpty_iff.mp hj, (Except.ok.inj h).symm⟩
  · obtain ⟨base, hb, h⟩ := bind_eq_ok.mp h
    exact Or.inr ⟨base, requireTable_eq_ok hb, (Except.ok.inj h).symm⟩

lemma clauses_eq_ok {parts : List (List Piece)} (h : q.clauses = .ok parts) :
    ∃ head values joins, q.headPieces = .ok head ∧ q.valuesPieces = .ok values ∧
      q.joinPieces = .ok joins ∧
      parts = head ++ q.setPieces ++ values ++ joins ++ conditionPieces "WHERE " q.filters ++
        clausePieces "GROUP BY " ", " (q.groupBy.map OrderItem.pieces) ++
        conditionPieces "HAVING " q.having ++
        clausePieces "ORDER BY " ", " (q.orderBy.map OrderItem.pieces) ++ q.boundPieces := by
  obtain ⟨_, _, h⟩ := bind_eq_ok.mp h
  obtain ⟨head, hh, h⟩ := bind_eq_ok.mp h
  obtain ⟨values, hv, h⟩ := bind_eq_ok.mp h
  obtain ⟨joins, hj, h⟩ := bind_eq_ok.mp h
  exact ⟨head, values, joins, hh, hv, hj, (Except.ok.inj h).symm⟩

lemma prepare_eq_ok {p : Preparation} (h : q.prepare = .ok p) :
    q.error = none ∧
      ∃ parts, q.clauses = .ok parts ∧ p = ⟨q.kindOrSelect, Piece.join " \n" parts⟩ := by
  obtain ⟨_, valid, h⟩ := bind_eq_ok.mp h
  obtain ⟨parts, hc, h⟩ := bind_eq_ok.mp h
  simp only [validate] at valid
  split at valid
  · cases valid
  · next none => exact ⟨none, parts, hc, (Except.ok.inj h).symm⟩

/-! ## A clause in the text -/

lemma exists_join_of_mem {part : List Piece} {parts : List (List Piece)} (mem : part ∈ parts)
    (separator : String) :
    ∃ before after, Piece.join separator parts = before ++ part ++ after := by
  induction parts using Piece.join.induct with
  | case1 => cases mem
  | case2 other =>
    obtain rfl := List.mem_singleton.mp mem
    exact ⟨[], [], (List.append_nil _).symm⟩
  | case3 other others hne ih =>
    rw [Piece.join]
    rcases List.mem_cons.mp mem with rfl | mem
    · exact ⟨[], _, rfl⟩
    · obtain ⟨before, after, split⟩ := ih mem
      refine ⟨other ++ .text separator :: before, after, ?_⟩
      rw [split]
      simp only [List.append_assoc, List.cons_append]
    · exact hne

/-- Conditions stand in the statement behind the keyword of their clause. -/
lemma conditions_prepared {p : Preparation} (h : q.prepare = .ok p) :
    (q.filters.isEmpty = false → ∃ before after,
        p.pieces = before ++ .text "WHERE " :: (q.filters.pieces ++ after)) ∧
      (q.having.isEmpty = false → ∃ before after,
        p.pieces = before ++ .text "HAVING " :: (q.having.pieces ++ after)) := by
  obtain ⟨_, parts, clauses, rfl⟩ := prepare_eq_ok h
  obtain ⟨head, values, joins, _, _, _, split⟩ := clauses_eq_ok clauses
  have stands {start : String} {tree : ConditionTree} (filled : tree.isEmpty = false)
      (mem : ∀ part ∈ conditionPieces start tree, part ∈ parts) :
      ∃ before after, Piece.join " \n" parts =
        before ++ .text start :: (tree.pieces ++ after) := by
    have part : conditionPieces start tree = [.text start :: tree.pieces] := by
      rw [conditionPieces, filled]
      rfl
    rw [part] at mem
    obtain ⟨before, after, joined⟩ := exists_join_of_mem (mem _ List.mem_cons_self) " \n"
    refine ⟨before, after, ?_⟩
    rw [joined, List.append_assoc]
    rfl
  constructor
  · intro filled
    refine stands filled fun part mem => ?_
    rw [split]
    simp only [List.mem_append]
    exact Or.inl (Or.inl (Or.inl (Or.inl (Or.inr mem))))
  · intro filled
    refine stands filled fun part mem => ?_
    rw [split]
    simp only [List.mem_append]
    exact Or.inl (Or.inl (Or.inr mem))

lemma sql_of_split {p : Preparation} {before after pieces : List Piece} {start : String}
    (h : p.pieces = before ++ .text start :: (pieces ++ after)) :
    p.sql = template before ++ start ++ template pieces ++ template after := by
  rw [Preparation.sql, h, template_append,
    show Piece.text start :: (pieces ++ after) = [.text start] ++ (pieces ++ after) from rfl,
    template_append, template_append, ← String.append_assoc, ← String.append_assoc]
  rfl

end Clausal.Query
