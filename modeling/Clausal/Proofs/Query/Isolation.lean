import Clausal.Proofs.Condition
import Clausal.Proofs.Query.Order
import Clausal.Proofs.Sql.Formula
import Clausal.Proofs.Sql.Rendering

/-!
# Conditions as they are read

Groups of conditions stand in brackets and are joined by OR, the conditions of a group by AND, and
each condition is written as it is. So the text is read as the groups, and a group as its
conditions, if a condition that shares its group has no OR outside of brackets; one that is alone in
its group may have any. A condition that is added to a group then narrows what is selected.
-/

namespace Clausal

open Sql

variable {lexer : List Char → Option (List Token)} {r : Rendering}

/-! ## Reading pieces -/

/-- A blank parts the tokens before it from those behind it, and brackets and connectives are
tokens. -/
structure Sql.SplitsAtBlanks (lexer : List Char → Option (List Token)) : Prop where
  apart : ∀ {a b ts us}, lexer a = some ts → lexer b = some us →
    lexer (a ++ ' ' :: b) = some (ts ++ us)
  sign : ∀ c ∈ ['(', ')'], lexer [c] = some [.sign c]
  word : ∀ w ∈ ["AND", "OR"], lexer w.toList = some [.word w]

lemma Sql.splitsAtBlanks_lex : SplitsAtBlanks lex where
  apart {a b ts us} ha hb := by
    have blank : Lexer.Closes [' '] [] := rfl
    exact Lexer.lex_append ha (blank.lex_append hb) (by decide : Lexer.Breaking ' ')
  sign := List.forall_mem_cons.mpr ⟨rfl, List.forall_mem_singleton.mpr rfl⟩
  word := List.forall_mem_cons.mpr ⟨rfl, List.forall_mem_singleton.mpr rfl⟩

/-- The text of the pieces is read as the formula. -/
def Sql.Means (lexer : List Char → Option (List Token)) (r : Rendering) (rank : Rank)
    (ps : List Piece) (f : Formula) : Prop :=
  ∃ ts, lexer (r.chars ps) = some ts ∧ Reads rank ts f

namespace Sql.Means

variable {ps qs : List Piece} {f g : Formula} {rank : Rank}

lemma unique (h : Means lexer r rank ps f) (h' : Means lexer r rank ps g) : f = g := by
  obtain ⟨ts, hl, reads⟩ := h
  obtain ⟨us, hl', reads'⟩ := h'
  obtain rfl := Option.some.inj (hl.symm.trans hl')
  exact reads.unique reads'

lemma operand (h : Means lexer r .operand ps f) : Means lexer r .term ps f := by
  obtain ⟨ts, hl, reads⟩ := h
  exact ⟨ts, hl, .operand reads⟩

lemma term (h : Means lexer r .term ps f) : Means lexer r .expression ps f := by
  obtain ⟨ts, hl, reads⟩ := h
  exact ⟨ts, hl, .term reads⟩

lemma lex_joined (blanks : SplitsAtBlanks lexer) {w : String} (mem : w ∈ ["AND", "OR"])
    {ts us : List Token} (hp : lexer (r.chars ps) = some ts) (hq : lexer (r.chars qs) = some us) :
    lexer (r.chars (ps ++ .text (" " ++ w ++ " ") :: qs)) = some (ts ++ .word w :: us) := by
  have text : r.chars (ps ++ .text (" " ++ w ++ " ") :: qs) =
      r.chars ps ++ ' ' :: (w.toList ++ ' ' :: r.chars qs) := by
    simp [Rendering.piece]
  rw [text]
  exact blanks.apart hp (blanks.apart (blanks.word w mem) hq)

lemma and (blanks : SplitsAtBlanks lexer) (hf : Means lexer r .term ps f)
    (hg : Means lexer r .term qs g) :
    Means lexer r .term (ps ++ .text " AND " :: qs) (f.conjoin g) := by
  obtain ⟨ts, hl, reads⟩ := hf
  obtain ⟨us, hl', reads'⟩ := hg
  exact ⟨_, lex_joined blanks (w := "AND") (by decide) hl hl', reads.conjoin (by decide) reads'⟩

lemma or (blanks : SplitsAtBlanks lexer) (hf : Means lexer r .term ps f)
    (hg : Means lexer r .expression qs g) :
    Means lexer r .expression (ps ++ .text " OR " :: qs) (.or f g) := by
  obtain ⟨ts, hl, reads⟩ := hf
  obtain ⟨us, hl', reads'⟩ := hg
  exact ⟨_, lex_joined blanks (w := "OR") (by decide) hl hl', .or (by decide) reads reads'⟩

lemma group (blanks : SplitsAtBlanks lexer) (hf : Means lexer r .expression ps f) :
    Means lexer r .operand (.text "( " :: (ps ++ [.text " )"])) (.group f) := by
  obtain ⟨ts, hl, reads⟩ := hf
  have text : r.chars (.text "( " :: (ps ++ [.text " )"])) =
      ['('] ++ ' ' :: (r.chars ps ++ ' ' :: [')']) := by
    simp [Rendering.piece]
  refine ⟨_, ?_, .group reads⟩
  rw [text]
  exact blanks.apart (blanks.sign '(' (by decide))
    (blanks.apart hl (blanks.sign ')' (by decide)))

end Sql.Means

/-! ## Joined formulas -/

namespace Sql.Formula

/-- All formulas in one, if there is one. -/
def chain (join : Formula → Formula → Formula) : List Formula → Option Formula
  | [] => none
  | f :: fs => some (match chain join fs with
    | some g => join f g
    | none => f)

/-- What an expression is the disjunction of. -/
def alternatives : Formula → List Formula
  | .or f g => f.alternatives ++ g.alternatives
  | f => [f]

variable {join : Formula → Formula → Formula} {f : Formula} {fs : List Formula}

/-- What holds of the members and is kept by joining holds of the whole. -/
lemma chain_induction {P : List Formula → Formula → Prop} (one : ∀ f, P [f] f)
    (more : ∀ f fs g, P fs g → P (f :: fs) (join f g)) (h : chain join fs = some f) : P fs f := by
  induction fs generalizing f with
  | nil => cases h
  | cons g gs ih =>
    cases gs with
    | nil =>
      obtain rfl := Option.some.inj h
      exact one g
    | cons k ks =>
      obtain rfl := Option.some.inj h
      exact more g _ _ (ih rfl)

lemma truth_conjunction (v : List Token → Option Bool) (h : chain conjoin fs = some f) :
    f.truth v = some true ↔ ∀ g ∈ fs, g.truth v = some true := by
  refine chain_induction (P := fun fs f => f.truth v = some true ↔ ∀ g ∈ fs, g.truth v = some true)
    (fun f => ?_) (fun f fs g ih => ?_) h
  · simp
  · rw [truth_conjoin, both_eq_true, ih, List.forall_mem_cons]

lemma truth_disjunction (v : List Token → Option Bool) (h : chain .or fs = some f) :
    f.truth v = some true ↔ ∃ g ∈ fs, g.truth v = some true := by
  refine chain_induction (P := fun fs f => f.truth v = some true ↔ ∃ g ∈ fs, g.truth v = some true)
    (fun f => ?_) (fun f fs g ih => ?_) h
  · simp
  · rw [truth, either_eq_true, ih, List.exists_mem_cons_iff]

lemma conjuncts_conjunction (h : chain conjoin fs = some f) :
    f.conjuncts = fs.flatMap conjuncts := by
  refine chain_induction (P := fun fs f => f.conjuncts = fs.flatMap conjuncts)
    (fun f => ?_) (fun f fs g ih => ?_) h
  · simp
  · rw [conjuncts_conjoin, ih, List.flatMap_cons]

lemma alternatives_disjunction (h : chain .or fs = some f) :
    f.alternatives = fs.flatMap alternatives := by
  refine chain_induction (P := fun fs f => f.alternatives = fs.flatMap alternatives)
    (fun f => ?_) (fun f fs g ih => ?_) h
  · simp
  · rw [alternatives, ih, List.flatMap_cons]

/-- Joined parts mean the joined formulas. -/
lemma means_join {separator : String} {one all : List Piece → Formula → Prop}
    (single : ∀ ps f, one ps f → all ps f)
    (joined : ∀ ps f qs g, one ps f → all qs g → all (ps ++ .text separator :: qs) (join f g))
    {parts : List (List Piece)} (h : List.Forall₂ one parts fs) (hf : chain join fs = some f) :
    all (Piece.join separator parts) f := by
  induction h generalizing f with
  | nil => cases hf
  | cons head tail ih =>
    cases tail with
    | nil =>
      obtain rfl := Option.some.inj hf
      exact single _ _ head
    | cons next rest =>
      obtain rfl := Option.some.inj hf
      exact joined _ _ _ _ head (ih rfl)

end Sql.Formula

/-! ## Trees of conditions -/

namespace ConditionTree

variable {reading : Condition → Formula} {tree : ConditionTree} {group : List Condition}

/-- Every condition is read as a boolean expression. One that shares its group with another is read
as a term: it has no OR outside of brackets. -/
def WellFormed (lexer : List Char → Option (List Token)) (r : Rendering)
    (reading : Condition → Formula) (tree : ConditionTree) : Prop :=
  ∀ group ∈ tree.filled, ∀ item ∈ group,
    Means lexer r (if group.length = 1 then .expression else .term) item.pieces (reading item)

/-- The text of the conditions has one reading. Its alternatives are the groups, the conjuncts of a
group are those of its conditions, and it is true where all conditions of a group are. -/
structure Isolated (lexer : List Char → Option (List Token)) (r : Rendering)
    (reading : Condition → Formula) (tree : ConditionTree) (f : Formula) : Prop where
  means : Means lexer r .expression tree.pieces f
  unique : ∀ g, Means lexer r .expression tree.pieces g → g = f
  groups : List.Forall₂ (fun group alternative => ∃ g, alternative = .group g ∧
    g.conjuncts = group.flatMap fun item => (reading item).conjuncts) tree.filled f.alternatives
  truth : ∀ v, f.truth v = some true ↔
    ∃ group ∈ tree.filled, ∀ item ∈ group, (reading item).truth v = some true

/-- The conditions of a group, in one. -/
def conjunction (reading : Condition → Formula) (group : List Condition) : Option Formula :=
  Formula.chain Formula.conjoin (group.map reading)

/-- The formula of a group. -/
def alternative (reading : Condition → Formula) (group : List Condition) : Formula :=
  .group ((conjunction reading group).getD (.atom []))

lemma exists_conjunction (filled : group ≠ []) : ∃ f, conjunction reading group = some f := by
  obtain ⟨item, items, rfl⟩ := List.exists_cons_of_ne_nil filled
  exact ⟨_, rfl⟩

lemma means_group (blanks : SplitsAtBlanks lexer) (h : tree.WellFormed lexer r reading)
    (mem : group ∈ tree.filled) {f : Formula} (hf : conjunction reading group = some f) :
    Means lexer r .expression (Piece.join " AND " (group.map Condition.pieces)) f := by
  have items := h group mem
  by_cases alone : group.length = 1
  · obtain ⟨item, rfl⟩ := List.length_eq_one_iff.mp alone
    obtain rfl := Option.some.inj hf
    exact items item List.mem_cons_self
  · simp only [if_neg alone] at items
    have terms : List.Forall₂ (Means lexer r .term) (group.map Condition.pieces)
        (group.map reading) := forall₂_map_map items
    have joined := Formula.means_join (fun _ _ h => h) (fun _ _ _ _ hf hg => hf.and blanks hg) terms
      hf
    exact joined.term

/-- The text of the tree is read as its groups, and a group as its conditions. -/
theorem isolated (blanks : SplitsAtBlanks lexer) (filled : tree.isEmpty = false)
    (h : tree.WellFormed lexer r reading) : ∃ f, tree.Isolated lexer r reading f := by
  obtain ⟨f, hf⟩ : ∃ f, Formula.chain .or (tree.filled.map (alternative reading)) = some f := by
    obtain ⟨group, groups, split⟩ :=
      List.exists_cons_of_ne_nil (List.isEmpty_eq_false_iff.mp filled)
    rw [split]
    exact ⟨_, rfl⟩
  have conjoined (group : List Condition) (mem : group ∈ tree.filled) :
      ∃ g, conjunction reading group = some g ∧ alternative reading group = .group g := by
    obtain ⟨g, hg⟩ : ∃ g, conjunction reading group = some g :=
      exists_conjunction (mem_filled.mp mem).2
    exact ⟨g, hg, by rw [alternative, hg]; rfl⟩
  have means : Means lexer r .expression tree.pieces f := by
    refine Formula.means_join (fun ps f (h : Means lexer r .term ps f) => h.term)
      (fun _ _ _ _ hf hg => hf.or blanks hg) (forall₂_map_map fun group mem => ?_) hf
    obtain ⟨g, hg, alternative⟩ := conjoined group mem
    rw [alternative]
    exact ((means_group blanks h mem hg).group blanks).operand
  refine ⟨f, means, fun g hg => hg.unique means, ?_, fun v => ?_⟩
  · have groups : f.alternatives = tree.filled.map (alternative reading) := by
      rw [Formula.alternatives_disjunction hf, List.flatMap_map]
      exact List.flatMap_pure_eq_map _ _
    rw [groups, List.forall₂_map_right_iff, List.forall₂_same]
    intro group mem
    obtain ⟨g, hg, alternative⟩ := conjoined group mem
    exact ⟨g, alternative, by rw [Formula.conjuncts_conjunction hg, List.flatMap_map]⟩
  · rw [Formula.truth_disjunction v hf]
    simp only [List.mem_map, exists_exists_and_eq_and]
    refine exists_congr fun group => and_congr_right fun mem => ?_
    obtain ⟨g, hg, alternative⟩ := conjoined group mem
    rw [alternative, Formula.truth, Formula.truth_conjunction v hg, List.forall_mem_map]

lemma WellFormed.of_add {items : List Condition} (filled : tree.isEmpty = false)
    (current : tree.Current) (h : (tree.add false items).WellFormed lexer r reading) :
    tree.WellFormed lexer r reading := by
  obtain ⟨groups, last, some, before, after⟩ := groups_add filled current items
  intro group mem item hi
  rw [mem_filled, before, List.mem_append, List.mem_singleton] at mem
  obtain ⟨mem | rfl, full⟩ := mem
  · exact h group (mem_filled.mpr ⟨after ▸ List.mem_append_left _ mem, full⟩) item hi
  · have longer := h (group ++ items) (mem_filled.mpr
      ⟨after ▸ List.mem_append_right _ List.mem_cons_self,
        List.append_ne_nil_of_left_ne_nil full items⟩) item (List.mem_append_left _ hi)
    by_cases alone : group.length = 1
    · rw [if_pos alone]
      split at longer
      · exact longer
      · exact longer.term
    · have together : (group ++ items).length ≠ 1 := by
        have := List.length_pos_iff.mpr full
        rw [List.length_append]
        omega
      rw [if_neg alone]
      rwa [if_neg together] at longer

end ConditionTree

/-! ## The two clauses -/

namespace Query

inductive ConditionClause where
  | filter
  | having

namespace ConditionClause

def keyword : ConditionClause → String
  | .filter => "WHERE "
  | .having => "HAVING "

def tree (q : Query) : ConditionClause → ConditionTree
  | .filter => q.filters
  | .having => q.having

/-- The call that adds to the current group. -/
def adding (f : Filter) : ConditionClause → Call
  | .filter => .filter false f
  | .having => .having false f

/-- The call that adds to the current group or opens a new one. -/
def adds (newGroup : Bool) (f : Filter) : ConditionClause → Call
  | .filter => .filter newGroup f
  | .having => .having newGroup f

lemma adding_eq (f : Filter) (clause : ConditionClause) :
    clause.adding f = clause.adds false f := by
  cases clause <;> rfl

lemma tree_adds {q : Query} {newGroup : Bool} {f : Filter} {clause : ConditionClause}
    (valid : (q.call (clause.adds newGroup f)).error = none) :
    ∃ items, f.conditions = .ok items ∧
      clause.tree (q.call (clause.adds newGroup f)) = (clause.tree q).add newGroup items := by
  cases clause with
  | filter =>
    obtain ⟨items, conditions, added⟩ := addConditions_of_valid valid
    exact ⟨items, conditions, congrArg Query.filters added⟩
  | having =>
    obtain ⟨items, conditions, added⟩ := addConditions_of_valid valid
    exact ⟨items, conditions, congrArg Query.having added⟩

lemma prepared {q : Query} {p : Preparation} (h : q.prepare = .ok p) (clause : ConditionClause)
    (filled : (clause.tree q).isEmpty = false) :
    ∃ before after,
      p.pieces = before ++ .text clause.keyword :: ((clause.tree q).pieces ++ after) := by
  cases clause with
  | filter => exact (conditions_prepared h).1 filled
  | having => exact (conditions_prepared h).2 filled

end ConditionClause

/-- If a condition that shares its group has no OR outside of brackets, the text of a clause is read
as the disjunction of its groups, and a group as the conjunction of its conditions. Adding to a
group that has a condition narrows what is selected. -/
theorem conditions_isolated (blanks : SplitsAtBlanks lexer) (r : Rendering) (target : Target)
    (cs : List Call) (clause : ConditionClause) (reading : Condition → Formula) :
    let q := built target cs
    let tree := clause.tree q
    (tree.isEmpty = false → tree.WellFormed lexer r reading →
      ∃ f, tree.Isolated lexer r reading f ∧ ∀ p, q.prepare = .ok p → ∃ before after,
        p.pieces = before ++ .text clause.keyword :: (tree.pieces ++ after)) ∧
    ∀ x, let tree' := clause.tree (built target (cs ++ [clause.adding x]))
      (built target (cs ++ [clause.adding x])).error = none → tree.isEmpty = false → tree.Current →
        tree'.WellFormed lexer r reading → ∃ f f', tree.Isolated lexer r reading f ∧
          tree'.Isolated lexer r reading f' ∧
          ∀ v, f'.truth v = some true → f.truth v = some true := by
  intro q tree
  constructor
  · intro filled wellFormed
    obtain ⟨f, isolated⟩ := ConditionTree.isolated blanks filled wellFormed
    exact ⟨f, isolated, fun p prepared => clause.prepared prepared filled⟩
  · intro x tree' valid filled current wellFormed
    have last : built target (cs ++ [clause.adding x]) = q.call (clause.adds false x) := by
      rw [← clause.adding_eq]
      exact List.foldl_append
    rw [last] at valid
    obtain ⟨items, _, added⟩ := ConditionClause.tree_adds valid
    have added : tree' = tree.add false items := by rw [← added, ← last]
    rw [added] at wellFormed ⊢
    obtain ⟨f, isolated⟩ := ConditionTree.isolated blanks filled (wellFormed.of_add filled current)
    obtain ⟨f', isolated'⟩ :=
      ConditionTree.isolated blanks (ConditionTree.isEmpty_add filled current items) wellFormed
    refine ⟨f, f', isolated, isolated', fun v selected => ?_⟩
    exact (isolated.truth v).mpr (ConditionTree.narrows_add filled current
      ((isolated'.truth v).mp selected))

/-- The tokens of a comparison. -/
def equals (column value : String) : List Token := [.word column, .sign '=', .word value]

def rawCall (newGroup : Bool) (sql : String) : Call := .filter newGroup (.raw ⟨sql, []⟩)

/-- A condition with an OR is alone in its group; the others share one. -/
theorem conditions_isolated_mixed :
    let cs : List Call := [rawCall false "d = 4 OR e = 5",
      .filter true (.compare (.name "a") none (.bound (.int 1)))]
    let x : Filter := .raw ⟨"NOT b = 2 AND c = 3", []⟩
    let reading : Condition → Formula
      | .raw ⟨"d = 4 OR e = 5", _⟩ => .or (.atom (equals "d" "4")) (.atom (equals "e" "5"))
      | .raw _ => .and (.not (.atom (equals "b" "2"))) (.atom (equals "c" "3"))
      | .compare .. => .atom [.name "a", .sign '=', .word "1"]
    let q := built (.table "t") cs
    let q' := built (.table "t") (cs ++ [ConditionClause.filter.adding x])
    q.filters.isEmpty = false ∧ q.filters.Current ∧ q'.error = none ∧
      q'.filters.WellFormed lex .direct reading ∧
      ∃ f f', q.filters.Isolated lex .direct reading f ∧
        q'.filters.Isolated lex .direct reading f' ∧
        (∀ v, f'.truth v = some true → f.truth v = some true) ∧
        ∃ p before after, q.prepare = .ok p ∧
          p.pieces = before ++ .text "WHERE " :: (q.filters.pieces ++ after) := by
  intro cs x reading q q'
  have atom {ts : List Token} (h : Atom ts) : Reads .operand ts (.atom ts) := .atom h
  have groups' : q'.filters.filled = [[.raw ⟨"d = 4 OR e = 5", []⟩],
      [.compare (.name "a") "=" (.bound (.int 1)), .raw ⟨"NOT b = 2 AND c = 3", []⟩]] := rfl
  have current : q.filters.Current := by
    rw [ConditionTree.Current, show q.filters.groups = [[.raw ⟨"d = 4 OR e = 5", []⟩],
      [.compare (.name "a") "=" (.bound (.int 1))]] from rfl]
    simp
  have wellFormed : q'.filters.WellFormed lex .direct reading := by
    rw [ConditionTree.WellFormed, groups']
    simp only [List.forall_mem_cons]
    refine ⟨⟨⟨equals "d" "4" ++ .word "OR" :: equals "e" "5", by decide +kernel, ?_⟩,
      List.forall_mem_nil _⟩, ⟨⟨[.name "a", .sign '=', .word "1"], by decide +kernel, ?_⟩,
      ⟨.word "NOT" :: equals "b" "2" ++ .word "AND" :: equals "c" "3", by decide +kernel, ?_⟩,
      List.forall_mem_nil _⟩, List.forall_mem_nil _⟩
    · exact .or (by decide) (.operand (atom (by decide))) (.term (.operand (atom (by decide))))
    · exact .operand (atom (by decide))
    · exact .and (by decide) (.not (by decide) (atom (by decide))) (.operand (atom (by decide)))
  obtain ⟨whole, narrows⟩ := conditions_isolated splitsAtBlanks_lex .direct (.table "t") cs
    .filter reading
  obtain ⟨f, f', isolated, isolated', narrower⟩ := narrows x rfl rfl current wellFormed
  obtain ⟨_, _, stands⟩ := whole rfl (wellFormed.of_add rfl current)
  obtain ⟨p, prepared⟩ : ∃ p, q.prepare = .ok p := ⟨_, rfl⟩
  obtain ⟨before, after, split⟩ := stands p prepared
  exact ⟨rfl, current, rfl, wellFormed, f, f', isolated, isolated', narrower, p, before, after,
    prepared, split⟩

/-- The second condition has an OR of its own, which is not in brackets, so the first one is joined
to one side of it: a row is selected that the first condition excludes. A group that an empty filter
opened widens what is selected as well. -/
theorem conditions_widened :
    let c := Formula.atom (equals "c" "3")
    let a := Formula.atom (equals "a" "1")
    let b := Formula.atom (equals "b" "2")
    let row : List Token → Option Bool := fun ts => some (ts = equals "b" "2")
    let reading : Condition → Formula
      | .raw ⟨"c = 3", _⟩ => c
      | _ => .or a b
    let first := (built (.table "t") [rawCall false "c = 3"]).filters
    let q := built (.table "t") [rawCall false "c = 3", rawCall false "a = 1 OR b = 2"]
    let single := (built (.table "t") [rawCall false "a = 1"]).filters
    let opened := built (.table "t")
      [rawCall false "a = 1", .filter true (.each []), rawCall false "b = 2"]
    q.error = none ∧ q.filters.groups.flatten.length = 2 ∧
      (∀ item ∈ q.filters.groups.flatten,
        Means lex .placeholder .expression item.pieces (reading item)) ∧
      Means lex .placeholder .expression first.pieces (.group c) ∧
      Means lex .placeholder .expression q.filters.pieces (.group (.or (.and c a) b)) ∧
      (Formula.group c).truth row = some false ∧
      (Formula.group (.or (.and c a) b)).truth row = some true ∧
      (∀ f, ¬ q.filters.Isolated lex .placeholder reading f) ∧
      opened.error = none ∧
      Means lex .placeholder .expression single.pieces (.group a) ∧
      Means lex .placeholder .expression opened.filters.pieces (.or (.group a) (.group b)) ∧
      (Formula.group a).truth row = some false ∧
      (Formula.or (.group a) (.group b)).truth row = some true := by
  intro c a b row reading first q single opened
  have atom (column value : String) (h : Atom (equals column value)) :
      Reads .operand (equals column value) (.atom (equals column value)) := .atom h
  have hc := atom "c" "3" (by decide)
  have ha := atom "a" "1" (by decide)
  have hb := atom "b" "2" (by decide)
  have widened : Means lex .placeholder .expression q.filters.pieces (.group (.or (.and c a) b)) :=
    ⟨.sign '(' :: (equals "c" "3" ++ .word "AND" :: equals "a" "1" ++
      .word "OR" :: equals "b" "2" ++ [.sign ')']), by decide +kernel,
      .term (.operand (.group (.or (by decide) (.and (by decide) hc (.operand ha))
        (.term (.operand hb)))))⟩
  have groups : q.filters.groups = [[.raw ⟨"c = 3", []⟩, .raw ⟨"a = 1 OR b = 2", []⟩]] := rfl
  refine ⟨rfl, rfl, ?_, ?_, widened, rfl, rfl, ?_, rfl, ?_, ?_, rfl, rfl⟩
  · simp only [groups, List.flatten_cons, List.flatten_nil, List.append_nil, List.forall_mem_cons]
    refine ⟨⟨equals "c" "3", by decide +kernel, .term (.operand hc)⟩,
      ⟨equals "a" "1" ++ .word "OR" :: equals "b" "2", by decide +kernel,
        .or (by decide) (.operand ha) (.term (.operand hb))⟩, List.forall_mem_nil _⟩
  · exact ⟨.sign '(' :: (equals "c" "3" ++ [.sign ')']), by decide +kernel,
      .term (.operand (.group (.term (.operand hc))))⟩
  · intro f isolated
    obtain rfl := isolated.unique _ widened
    obtain ⟨group, mem, holds⟩ := (isolated.truth row).mp rfl
    rw [ConditionTree.mem_filled, groups, List.mem_singleton] at mem
    rw [mem.1] at holds
    cases holds _ List.mem_cons_self
  · exact ⟨.sign '(' :: (equals "a" "1" ++ [.sign ')']), by decide +kernel,
      .term (.operand (.group (.term (.operand ha))))⟩
  · exact ⟨(.sign '(' :: (equals "a" "1" ++ [.sign ')'])) ++
      .word "OR" :: (.sign '(' :: (equals "b" "2" ++ [.sign ')'])), by decide +kernel,
      .or (by decide) (.operand (.group (.term (.operand ha))))
        (.term (.operand (.group (.term (.operand hb)))))⟩

end Query

end Clausal
