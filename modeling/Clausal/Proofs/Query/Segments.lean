import Clausal.Proofs.Query.Mapping
import Mathlib.Data.List.SplitBy

/-!
# The groups of WHERE and HAVING

The calls for a clause, cut before each call that opens a group, are its groups: what the calls of a
segment add stands in one group, in order, and a segment that adds nothing leaves no trace. Calls
for other clauses may stand anywhere in between.
-/

namespace Clausal

open Sql

/-! ## Segments -/

/-- The conditions of a filter; a malformed one has none. -/
def Filter.items (f : Filter) : List Condition :=
  f.conditions.toOption.getD []

/-- What a call adds to a clause, to the current group or to a new one. -/
structure Addition where
  opens : Bool
  filter : Filter

namespace Addition

/-- The additions, cut before each that opens a group. -/
def runs (additions : List Addition) : List (List Condition) :=
  (additions.splitBy fun _ next => !next.opens).map fun segment => segment.flatMap (·.filter.items)

/-- The runs that hold a condition. -/
def segments (additions : List Addition) : List (List Condition) :=
  (runs additions).filter (!·.isEmpty)

/-- The tree that the additions grow from another. -/
def grown (tree : ConditionTree) (additions : List Addition) : ConditionTree :=
  additions.foldl (fun tree addition => tree.add addition.opens addition.filter.items) tree

lemma splitBy_concat {α : Type} {r : α → α → Bool} {l : List α} {a : α}
    (related : ∀ b, r b a = true) (some : l ≠ []) :
    ∃ front last, l.splitBy r = front ++ [last] ∧
      (l ++ [a]).splitBy r = front ++ [last ++ [a]] := by
  obtain ⟨front, last, split⟩ := (l.splitBy r).eq_nil_or_concat.resolve_left
    (List.splitBy_ne_nil.mpr some)
  rw [List.concat_eq_append] at split
  refine ⟨front, last, split, ?_⟩
  obtain ⟨rfl, full, chains, apart⟩ := List.splitBy_eq_iff.mp split
  have nonempty : last ≠ [] := fun h => full (by simp [h])
  rw [List.splitBy_eq_iff]
  refine ⟨by simp, by simpa using fun h => full (by simp [h]), ?_, ?_⟩
  · rw [List.forall_mem_append, List.forall_mem_singleton] at chains ⊢
    refine ⟨chains.1, List.isChain_append.mpr ⟨chains.2, List.isChain_singleton _, ?_⟩⟩
    rintro b _ c hc
    obtain rfl := Option.some.inj hc
    exact related b
  · rw [List.isChain_append] at apart ⊢
    refine ⟨apart.1, List.isChain_singleton _, ?_⟩
    rintro x hx y hy
    obtain rfl := Option.some.inj hy
    obtain ⟨hx', _, cut⟩ := apart.2.2 x hx last rfl
    refine ⟨hx', List.concat_ne_nil _ _, ?_⟩
    rwa [List.head_append_of_ne_nil nonempty]

variable {additions : List Addition} {addition : Addition}

lemma runs_opening (opens : addition.opens = true) :
    runs (additions ++ [addition]) = runs additions ++ [addition.filter.items] := by
  rw [runs, List.splitBy_append_cons [] fun _ _ => by rw [opens]; rfl, List.map_append]
  exact congrArg (runs additions ++ [·]) (List.append_nil _)

lemma runs_adding (adds : addition.opens = false) (some : additions ≠ []) :
    ∃ front last, runs additions = front ++ [last] ∧
      runs (additions ++ [addition]) = front ++ [last ++ addition.filter.items] := by
  obtain ⟨front, last, before, after⟩ := splitBy_concat (r := fun _ next => !next.opens)
    (a := addition) (fun _ => by rw [adds]; rfl) some
  refine ⟨front.map fun segment => segment.flatMap (·.filter.items),
    last.flatMap (·.filter.items), ?_, ?_⟩
  · rw [runs, before, List.map_append, List.map_singleton]
  · rw [runs, after, List.map_append, List.map_singleton, List.flatMap_append,
      List.flatMap_singleton]

end Addition

namespace ConditionTree

/-- The runs are the groups of the tree, maybe behind an empty one: as long as nothing was added, a
call that does not open a group makes none. -/
def Holds (tree : ConditionTree) (runs : List (List Condition)) : Prop :=
  runs = tree.groups ∨ runs = [] :: tree.groups

variable {tree : ConditionTree} {runs : List (List Condition)}

lemma Holds.filled (h : tree.Holds runs) : runs.filter (!·.isEmpty) = tree.filled := by
  rcases h with rfl | rfl <;> rfl

lemma Holds.first (items : List Condition) : (add {} false items).Holds [items] := by
  rw [Holds, add_first]
  by_cases none : items = []
  · exact Or.inr (by rw [none]; rfl)
  · exact Or.inl (if_neg none).symm

lemma Holds.opening (h : tree.Holds runs) (items : List Condition) :
    (tree.add true items).Holds (runs ++ [items]) := by
  rw [Holds, add_opening]
  rcases h with rfl | rfl
  · exact Or.inl rfl
  · exact Or.inr rfl

lemma Holds.adding {front : List (List Condition)} {last : List Condition}
    (h : tree.Holds (front ++ [last])) (items : List Condition) :
    (tree.add false items).Holds (front ++ [last ++ items]) := by
  obtain ⟨groups⟩ := tree
  rcases groups.eq_nil_or_concat with rfl | ⟨before, current, rfl⟩
  · have one : front ++ [last] = [] ++ [[]] := by
      rcases h with h | h
      · exact absurd h (List.concat_ne_nil _ _)
      · exact h
    obtain ⟨rfl, rfl⟩ := List.append_singleton_inj.mp one
    exact .first items
  · rw [List.concat_eq_append] at h ⊢
    rw [Holds, add_concat]
    rcases h with h | h
    · obtain ⟨rfl, rfl⟩ := List.append_singleton_inj.mp h
      exact Or.inl rfl
    · obtain ⟨rfl, rfl⟩ := List.append_singleton_inj.mp (h.trans (List.cons_append ..).symm)
      exact Or.inr rfl

end ConditionTree

namespace Addition

/-- A tree that grows from nothing holds the runs. -/
lemma holds_grown (additions : List Addition) : (grown {} additions).Holds (runs additions) := by
  -- the last addition begins a run of its own or goes on with the one before it
  induction additions using List.reverseRecOn with
  | nil => exact Or.inl rfl
  | append_singleton additions addition ih =>
    have last : grown {} (additions ++ [addition]) =
        (grown {} additions).add addition.opens addition.filter.items := List.foldl_append
    rw [last]
    cases opens : addition.opens with
    | true =>
      rw [runs_opening opens]
      exact ih.opening _
    | false =>
      by_cases none : additions = []
      · rw [none]
        exact (List.append_nil addition.filter.items).symm ▸ .first _
      · obtain ⟨front, last, before, after⟩ := runs_adding opens none
        rw [before] at ih
        rw [after]
        exact ih.adding _

lemma filled_grown (additions : List Addition) : (grown {} additions).filled = segments additions :=
  (holds_grown additions).filled.symm

lemma flatten_segments (additions : List Addition) :
    (segments additions).flatten = additions.flatMap (·.filter.items) := by
  calc (segments additions).flatten
      = (additions.splitBy fun _ next => !next.opens).flatten.flatMap (·.filter.items) := by
        rw [segments, List.flatten_filter_not_isEmpty, runs, ← List.flatMap_def,
          ← List.flatMap_id, List.flatMap_assoc]
        rfl
    _ = additions.flatMap (·.filter.items) := by rw [List.flatten_splitBy]

lemma segments_eq_nil (additions : List Addition) :
    segments additions = [] ↔ ∀ addition ∈ additions, addition.filter.items = [] := by
  rw [← List.flatMap_eq_nil_iff, ← flatten_segments]
  refine ⟨fun none => by rw [none]; rfl, fun none => ?_⟩
  refine List.eq_nil_iff_forall_not_mem.mpr fun group mem => ?_
  have empty : group = [] := List.flatten_eq_nil_iff.mp none group mem
  have full := (List.mem_filter.mp mem).2
  rw [empty] at full
  cases full

end Addition

namespace Query

/-! ## The additions of a run -/

namespace ConditionClause

/-- What a call adds to the clause. -/
def addition? (c : Call) (clause : ConditionClause) : Option Addition :=
  match clause, c with
  | .filter, .filter opens f => some ⟨opens, f⟩
  | .having, .having opens f => some ⟨opens, f⟩
  | _, _ => none

/-- What calls add to the clause. -/
def additions (cs : List Call) (clause : ConditionClause) : List Addition :=
  cs.filterMap clause.addition?

lemma addition?_eq_some {clause : ConditionClause} {c : Call} {addition : Addition} :
    clause.addition? c = some addition ↔ c = clause.adds addition.opens addition.filter := by
  obtain ⟨opens, f⟩ := addition
  cases clause <;> cases c <;> simp [addition?, adds]

/-- A call that does not add to the clause leaves its tree as it is. -/
lemma tree_call_of_none {q : Query} {c : Call} {clause : ConditionClause}
    (none : clause.addition? c = none) (valid : (q.call c).error = .none) :
    clause.tree (q.call c) = clause.tree q := by
  have tree_only (r : Query) : clause.tree (r.only clause.clause) = clause.tree r := by
    cases clause <;> rfl
  have other : c.clause? ≠ some clause.clause := by
    cases clause <;> cases c <;> simp_all [addition?, Call.clause?, ConditionClause.clause]
  have kept : (q.calls [c]).only clause.clause = q.only clause.clause :=
    only_calls valid (List.forall_mem_singleton.mpr other)
  rw [← tree_only, ← tree_only q]
  exact congrArg clause.tree kept

lemma tree_call {q : Query} {c : Call} (clause : ConditionClause)
    (valid : (q.call c).error = none) :
    (∀ addition ∈ clause.addition? c, ∃ items, addition.filter.conditions = .ok items) ∧
      clause.tree (q.call c) = Addition.grown (clause.tree q) (clause.addition? c).toList := by
  cases added : clause.addition? c with
  | none => exact ⟨nofun, tree_call_of_none added valid⟩
  | some addition =>
    obtain rfl := addition?_eq_some.mp added
    obtain ⟨items, conditions, tree⟩ := tree_adds valid
    have same : addition.filter.items = items := by rw [Filter.items, conditions]; rfl
    refine ⟨fun _ mem => Option.some.inj mem ▸ ⟨items, conditions⟩, ?_⟩
    rw [tree, ← same]
    rfl

/-- The tree of a clause grows by what the calls add to it. -/
lemma tree_calls {q : Query} {cs : List Call} (clause : ConditionClause)
    (valid : (q.calls cs).error = none) :
    (∀ addition ∈ clause.additions cs, ∃ items, addition.filter.conditions = .ok items) ∧
      clause.tree (q.calls cs) = Addition.grown (clause.tree q) (clause.additions cs) := by
  induction cs generalizing q with
  | nil => exact ⟨List.forall_mem_nil _, rfl⟩
  | cons c cs ih =>
    have first : (q.call c).error = none := by
      cases failed : (q.call c).error with
      | none => rfl
      | some e => cases (error_calls failed cs).symm.trans valid
    obtain ⟨fine, one⟩ := tree_call clause first
    obtain ⟨fine', rest⟩ := ih valid
    have split : clause.additions (c :: cs) =
        (clause.addition? c).toList ++ clause.additions cs := by
      rw [additions, List.filterMap_cons]
      cases clause.addition? c <;> rfl
    rw [split, List.forall_mem_append]
    refine ⟨⟨fun addition mem => fine addition (Option.mem_toList.mp mem), fine'⟩, ?_⟩
    rw [calls_cons, rest, one]
    exact List.foldl_append.symm

/-! ## The text -/

/-- The line of the clause, if it has a group. -/
def line (groups : List (List Condition)) (clause : ConditionClause) : List String :=
  if groups.isEmpty then []
  else [clause.keyword ++ " OR ".intercalate (groups.map fun group =>
    "( " ++ " AND ".intercalate (group.map fun item => template item.pieces) ++ " )")]

lemma template_conditionPieces (tree : ConditionTree) (clause : ConditionClause) :
    (conditionPieces clause.keyword tree).map template = clause.line tree.filled := by
  rw [conditionPieces, line, ConditionTree.isEmpty]
  split
  · rfl
  · rw [List.map_singleton, template_text_cons, tree.template_pieces]

end ConditionClause

lemma arguments_conditionPieces (tree : ConditionTree) (start : String) :
    (conditionPieces start tree).flatMap arguments =
      tree.filled.flatten.flatMap fun item => arguments item.pieces := by
  rw [conditionPieces]
  split
  · next none => rw [List.isEmpty_iff.mp none]; rfl
  · rw [List.flatMap_singleton, arguments_cons, tree.arguments_pieces]
    rfl

/-- What is written before the conditions. -/
def openingPieces (q : Query) : Except Error (List (List Piece)) := do
  return (← q.headPieces) ++ q.setPieces ++ (← q.valuesPieces) ++ (← q.joinPieces)

def groupingPieces (q : Query) : List (List Piece) :=
  clausePieces "GROUP BY " ", " (q.groupBy.map OrderItem.pieces)

def closingPieces (q : Query) : List (List Piece) :=
  clausePieces "ORDER BY " ", " (q.orderBy.map OrderItem.pieces) ++ q.boundPieces

lemma clauses_around {q : Query} {parts : List (List Piece)} (h : q.clauses = .ok parts) :
    ∃ opening, q.openingPieces = .ok opening ∧
      parts = opening ++ conditionPieces "WHERE " q.filters ++ q.groupingPieces ++
        conditionPieces "HAVING " q.having ++ q.closingPieces := by
  obtain ⟨head, values, joins, hh, hv, hj, rfl⟩ := clauses_eq_ok h
  refine ⟨head ++ q.setPieces ++ values ++ joins, ?_, ?_⟩
  · rw [openingPieces, hh, ok_bind, hv, ok_bind, hj, ok_bind]
    rfl
  · simp only [groupingPieces, closingPieces, List.append_assoc]

/-- Of the two trees the text has a line each, if they are filled. -/
lemma sql_around (kind : StatementKind) (opening grouping closing : List (List Piece))
    (filters having : ConditionTree) :
    (Preparation.mk kind (Piece.join " \n" (opening ++ conditionPieces "WHERE " filters ++
      grouping ++ conditionPieces "HAVING " having ++ closing))).sql =
    " \n".intercalate (opening.map template ++ ConditionClause.filter.line filters.filled ++
      grouping.map template ++ ConditionClause.having.line having.filled ++
      closing.map template) := by
  rw [Preparation.sql, template_join]
  simp only [List.map_append, ← ConditionClause.template_conditionPieces]
  rfl

lemma args_around (kind : StatementKind) (opening grouping closing : List (List Piece))
    (filters having : ConditionTree) :
    (Preparation.mk kind (Piece.join " \n" (opening ++ conditionPieces "WHERE " filters ++
      grouping ++ conditionPieces "HAVING " having ++ closing))).args =
    opening.flatMap arguments ++
      (filters.filled.flatten.flatMap fun item => arguments item.pieces) ++
      grouping.flatMap arguments ++
      (having.filled.flatten.flatMap fun item => arguments item.pieces) ++
      closing.flatMap arguments := by
  rw [Preparation.args, arguments_join]
  simp only [List.flatMap_append, arguments_conditionPieces]

/-! ## Queries of conditions only -/

/-- The calls add to the two clauses and do nothing else. -/
def OnlyConditions (cs : List Call) : Prop :=
  ∀ c ∈ cs, ∃ (clause : ConditionClause) (newGroup : Bool) (f : Filter), c = clause.adds newGroup f

section OnlyConditions

variable {target : Target} {cs : List Call}

lemma OnlyConditions.suits (conditions : OnlyConditions cs)
    (valid : (built target cs).error = none) : ∀ m ∈ cs.flatMap Call.moves, m.Suits .select := by
  intro m hm
  obtain ⟨c, hc, hm⟩ := List.mem_flatMap.mp hm
  obtain ⟨clause, newGroup, f, rfl⟩ := conditions c hc
  have added : ⟨newGroup, f⟩ ∈ clause.additions cs :=
    List.mem_filterMap.mpr ⟨_, hc, ConditionClause.addition?_eq_some.mpr rfl⟩
  obtain ⟨items, fine⟩ := (ConditionClause.tree_calls clause valid).1 _ added
  have fine : f.conditions = .ok items := fine
  have entered (entry : List Condition → Entry) :
      ∀ m ∈ conditionMoves entry f, m.Suits .select := by
    rw [conditionMoves, fine, List.forall_mem_singleton]
    trivial
  cases clause with
  | filter =>
    rcases List.mem_cons.mp hm with rfl | hm
    · exact rfl
    · exact entered _ m hm
  | having =>
    rcases List.mem_cons.mp hm with rfl | hm
    · exact rfl
    · exact entered _ m hm

lemma kindOrSelect_of_admits {q : Query} (admits : q.Admits .select) :
    q.kindOrSelect = .select := by
  rw [kindOrSelect]
  cases hk : q.kind with
  | none => rfl
  | some kind => simpa [Admits, hk] using admits

/-- A query of conditions only is a SELECT, and its other clauses are empty. -/
lemma OnlyConditions.bare (conditions : OnlyConditions cs)
    (valid : (built target cs).error = none) :
    (built target cs).kindOrSelect = .select ∧
      ∀ clause, clause ≠ .filter → clause ≠ .having →
        (built target cs).only clause = ({ target := target } : Query).only clause := by
  rcases Follows.calls { target := target } cs with ⟨runs, after⟩ | ⟨_, failed⟩
  · refine ⟨kindOrSelect_of_admits ?_, fun clause hf hh => ?_⟩
    · rw [built, after]
      exact (admits_afterAll runs).mpr ⟨List.forall_mem_nil _, conditions.suits valid⟩
    · have none : cs.filter (·.clause? = some clause) = [] := by
        refine List.filter_eq_nil_iff.mpr fun c hc writes => ?_
        obtain ⟨other, newGroup, f, rfl⟩ := conditions c hc
        cases other <;> simp [ConditionClause.adds, Call.clause?] at writes
        · exact hf writes.symm
        · exact hh writes.symm
      rw [built, after, only_afterAll, filter_moves, none]
      rfl
  · exact absurd valid failed

/-- How the SELECT of all columns begins, behind which the conditions stand. -/
def selection (target : Target) : List (List Piece) :=
  [.text "SELECT *"] ::
    (target.table?.map fun table => [.text ("FROM " ++ quoteName table)]).toList

lemma template_selection (target : Target) :
    (selection target).map template =
      "SELECT *" :: (target.table?.map fun table => "FROM " ++ quoteName table).toList := by
  rw [selection]
  cases target.table? <;> simp [template, Piece.template]

lemma arguments_selection (target : Target) : (selection target).flatMap arguments = [] := by
  rw [selection]
  cases target.table? <;> simp [Piece.args]

lemma clauses_of_bare {q : Query} (select : q.kindOrSelect = .select)
    (bare : q = { target := q.target, kind := q.kind, filters := q.filters, having := q.having }) :
    q.clauses = .ok (selection q.target ++ conditionPieces "WHERE " q.filters ++ [] ++
      conditionPieces "HAVING " q.having ++ []) := by
  have head : q.headPieces = .ok (selection q.target) := by
    rw [headPieces, select, selection, table?, bare]
    cases q.target.table? <;> rfl
  rw [Query.clauses, requireClauses, select, head, bare]
  change Except.ok (selection q.target ++ [] ++ [] ++ [] ++ conditionPieces "WHERE " q.filters ++
    [] ++ conditionPieces "HAVING " q.having ++ [] ++ []) = _
  simp only [List.append_nil]

/-- A query of conditions only is prepared as these. -/
lemma OnlyConditions.prepare (conditions : OnlyConditions cs)
    (valid : (built target cs).error = none) :
    (built target cs).prepare = .ok ⟨.select, Piece.join " \n" (selection target ++
      conditionPieces "WHERE " (built target cs).filters ++ [] ++
      conditionPieces "HAVING " (built target cs).having ++ [])⟩ := by
  obtain ⟨select, others⟩ := conditions.bare valid
  let bare : Query :=
    { target := target, kind := (built target cs).kind, filters := (built target cs).filters,
      having := (built target cs).having }
  have same : (built target cs).prepare = bare.prepare := by
    refine prepare_congr (target_built target cs) rfl valid fun clause => ?_
    cases clause with
    | filter => rfl
    | having => rfl
    | _ => exact others _ (by decide) (by decide)
  have select : bare.kindOrSelect = .select := select
  rw [same, Query.prepare, clauses_of_bare select rfl, select]
  rfl

end OnlyConditions

/-- The groups of a clause are the calls for it, cut before each one that opens a group, as far as
they add a condition; what the other calls do has no part in it. Each clause has one line with its
groups, or no line if it has none. -/
theorem conditions_segmented (target : Target) (cs : List Call) :
    let q := built target cs
    let groups (clause : ConditionClause) := Addition.segments (clause.additions cs)
    let bindings (clause : ConditionClause) :=
      (groups clause).flatten.flatMap fun item => arguments item.pieces
    q.error = none →
      (∀ clause : ConditionClause,
        (∀ addition ∈ clause.additions cs, ∃ items, addition.filter.conditions = .ok items) ∧
        (clause.tree q).filled = groups clause ∧
        (clause.tree q).groupCount = (groups clause).length ∧
        (groups clause = [] ↔ ∀ addition ∈ clause.additions cs, addition.filter.items = [])) ∧
      (∀ p, q.prepare = .ok p → ∃ opening, q.openingPieces = .ok opening ∧
        p.sql = " \n".intercalate (opening.map template ++
          ConditionClause.filter.line (groups .filter) ++ q.groupingPieces.map template ++
          ConditionClause.having.line (groups .having) ++ q.closingPieces.map template) ∧
        p.args = opening.flatMap arguments ++ bindings .filter ++
          q.groupingPieces.flatMap arguments ++ bindings .having ++
          q.closingPieces.flatMap arguments) ∧
      (OnlyConditions cs → ∃ p, q.prepare = .ok p ∧
        p.sql = " \n".intercalate ("SELECT *" ::
          (target.table?.map fun table => "FROM " ++ quoteName table).toList ++
          ConditionClause.filter.line (groups .filter) ++
          ConditionClause.having.line (groups .having)) ∧
        p.args = bindings .filter ++ bindings .having) := by
  intro q groups bindings valid
  have filled (clause : ConditionClause) : (clause.tree q).filled = groups clause := by
    have start : clause.tree { target := target } = {} := by cases clause <;> rfl
    have grown : clause.tree q = Addition.grown {} (clause.additions cs) := by
      rw [← start]
      exact (ConditionClause.tree_calls clause valid).2
    rw [grown, Addition.filled_grown]
  have filters : q.filters.filled = groups .filter := filled .filter
  have having : q.having.filled = groups .having := filled .having
  refine ⟨fun clause => ⟨(ConditionClause.tree_calls clause valid).1, filled clause,
    congrArg List.length (filled clause), Addition.segments_eq_nil _⟩, fun p prepared => ?_,
    fun conditions => ⟨_, conditions.prepare valid, ?_, ?_⟩⟩
  · obtain ⟨_, parts, clauses, rfl⟩ := prepare_eq_ok prepared
    obtain ⟨opening, opened, rfl⟩ := clauses_around clauses
    refine ⟨opening, opened, ?_, ?_⟩
    · rw [sql_around, filters, having]
    · rw [args_around, filters, having]
  · rw [sql_around, template_selection, filters, having, List.map_nil, List.append_nil,
      List.append_nil]
  · rw [args_around, arguments_selection, filters, having, List.flatMap_nil, List.nil_append,
      List.append_nil, List.append_nil]

/-- Calls for both clauses alternate; two groups of WHERE stay empty. -/
theorem conditions_segmented_alternating :
    let equal (column : String) (n : Int64) : Filter :=
      .compare (.name column) none (.bound (.int n))
    let cs : List Call := [
      .having false (.raw ⟨"n > 1", []⟩), .filter false (.each []), .filter true (equal "a" 1),
      .filter true (.each []), .having true (.raw ⟨"m < %s", [.int 5]⟩),
      .filter true (.each [equal "b" 2, .compare (.name "c") (some "in")
        (.bound (.list [.int 3, .int 4]))]),
      .having false (equal "k" 6), .filter false (.compare (.name "d") none .null)]
    let q := built (.table "t") cs
    q.error = none ∧ OnlyConditions cs ∧ q.filters.groupCount = 2 ∧ q.having.groupCount = 2 ∧
      ∃ p, q.prepare = .ok p ∧
        p.sql = "SELECT * \nFROM `t` \n" ++
          "WHERE ( `a` = %s ) OR ( `b` = %s AND `c` IN (%s, %s) AND `d` IS NULL ) \n" ++
          "HAVING ( n > 1 ) OR ( m < %s AND `k` = %s )" ∧
        p.args.map literal = ["1", "2", "3", "4", "5", "6"] := by
  intro equal cs q
  have valid : q.error = none := by decide +kernel
  have conditions : OnlyConditions cs := by
    simp only [OnlyConditions, cs, List.forall_mem_cons]
    exact ⟨⟨.having, false, _, rfl⟩, ⟨.filter, false, _, rfl⟩, ⟨.filter, true, _, rfl⟩,
      ⟨.filter, true, _, rfl⟩, ⟨.having, true, _, rfl⟩, ⟨.filter, true, _, rfl⟩,
      ⟨.having, false, _, rfl⟩, ⟨.filter, false, _, rfl⟩, List.forall_mem_nil _⟩
  obtain ⟨clauses, _, whole⟩ := conditions_segmented (.table "t") cs valid
  obtain ⟨p, prepared, text, args⟩ := whole conditions
  refine ⟨valid, conditions, (clauses .filter).2.2.1, (clauses .having).2.2.1, p, prepared, ?_, ?_⟩
  · rw [text]
    decide +kernel
  · rw [args]
    decide +kernel

end Query

end Clausal
