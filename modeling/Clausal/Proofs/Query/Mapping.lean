import Clausal.Proofs.Query.Faults
import Clausal.Proofs.Query.Isolation

/-!
# Filters that hold filters

A filter that holds several stands for its comparisons and fragments, one after the other. It is
checked as a whole before any of it is added, so that adding it is all or nothing; adding its
filters one by one ends in the same statement, or in the same error.
-/

namespace Clausal

/-! ## The leaves of a filter -/

namespace Filter

mutual

/-- The comparisons and fragments of a filter, depth first. -/
def leaves : Filter → List Filter
  | .each filters => leavesOfAll filters
  | filter => [filter]

def leavesOfAll : List Filter → List Filter
  | [] => []
  | filter :: filters => leaves filter ++ leavesOfAll filters

end

lemma conditions_single (leaf : Filter) :
    leaf.conditions = ([leaf].mapM conditions).map List.flatten := by
  rw [List.mapM_cons]
  cases leaf.conditions with
  | ok items => exact congrArg Except.ok (List.append_nil items).symm
  | error fault => rfl

lemma conditions_append {fs gs : List Filter} {items more : Except ConditionFault (List Condition)}
    (first : items = (fs.mapM conditions).map List.flatten)
    (second : more = (gs.mapM conditions).map List.flatten) :
    (do return (← items) ++ (← more)) = ((fs ++ gs).mapM conditions).map List.flatten := by
  rw [first, second, List.mapM_append]
  cases fs.mapM conditions with
  | error fault => rfl
  | ok parts =>
    cases gs.mapM conditions with
    | error fault => rfl
    | ok parts' => exact congrArg Except.ok List.flatten_append.symm

mutual

/-- The conditions of a filter are those of its leaves. -/
theorem conditions_eq_leaves : ∀ f : Filter,
    f.conditions = (f.leaves.mapM conditions).map List.flatten
  | .compare column operator value => conditions_single (.compare column operator value)
  | .raw fragment => conditions_single (.raw fragment)
  | .each filters => conditionsOfAll_eq_leaves filters

theorem conditionsOfAll_eq_leaves : ∀ filters : List Filter,
    conditionsOfAll filters = ((leavesOfAll filters).mapM conditions).map List.flatten
  | [] => rfl
  | filter :: filters =>
    conditions_append (conditions_eq_leaves filter) (conditionsOfAll_eq_leaves filters)

end

/-- The fault of a filter is that of its first malformed leaf. -/
lemma first_malformed {f : Filter} {fault : ConditionFault} (h : f.conditions = .error fault) :
    ∃ before leaf after, f.leaves = before ++ leaf :: after ∧
      (∀ other ∈ before, ∃ items, other.conditions = .ok items) ∧
      leaf.conditions = .error fault := by
  rw [conditions_eq_leaves] at h
  cases parts : f.leaves.mapM conditions with
  | ok items =>
    rw [parts] at h
    cases h
  | error fault' =>
    rw [parts] at h
    obtain rfl : fault' = fault := Except.error.inj h
    exact of_mapM_eq_error parts

lemma conditions_each_cons (first : Filter) (rest : List Filter) :
    (each (first :: rest)).conditions =
      (do return (← first.conditions) ++ (← conditionsOfAll rest)) := rfl

/-- A malformed member makes the whole malformed. -/
lemma malformed_each {filters : List Filter} {f : Filter} (mem : f ∈ filters)
    {fault : ConditionFault} (h : f.conditions = .error fault) :
    ∃ fault', (each filters).conditions = .error fault' := by
  induction filters with
  | nil => cases mem
  | cons first rest ih =>
    rw [conditions_each_cons]
    cases hf : first.conditions with
    | error fault' => exact ⟨fault', rfl⟩
    | ok items =>
      rcases List.mem_cons.mp mem with rfl | mem
      · cases h.symm.trans hf
      · obtain ⟨fault', failed⟩ := ih mem
        have failed : conditionsOfAll rest = .error fault' := failed
        exact ⟨fault', by rw [failed]; rfl⟩

end Filter

namespace Query

/-! ## Adding a filter -/

lemma fail_of_error {q : Query} (failed : q.error ≠ none) (e : Error) : q.fail e = q := by
  rw [fail, Option.or_of_isSome (Option.isSome_iff_ne_none.mpr failed)]

namespace ConditionClause

def clause : ConditionClause → Clause
  | .filter => .filter
  | .having => .having

/-- The query with another tree for the clause. -/
def put (tree : ConditionTree) (q : Query) : ConditionClause → Query
  | .filter => { q with filters := tree }
  | .having => { q with having := tree }

section Adding

variable {q : Query} {clause : ConditionClause} {newGroup : Bool} {f : Filter}

lemma tree_put (tree : ConditionTree) (q : Query) (clause : ConditionClause) :
    clause.tree (clause.put tree q) = tree := by
  cases clause <;> rfl

lemma put_tree (q : Query) (clause : ConditionClause) : clause.put (clause.tree q) q = q := by
  cases clause <;> rfl

lemma put_put (tree tree' : ConditionTree) (q : Query) (clause : ConditionClause) :
    clause.put tree (clause.put tree' q) = clause.put tree q := by
  cases clause <;> rfl

lemma put_fail (tree : ConditionTree) (q : Query) (clause : ConditionClause) (e : Error) :
    (clause.put tree q).fail e = clause.put tree (q.fail e) := by
  cases clause <;> rfl

lemma error_put (tree : ConditionTree) (q : Query) (clause : ConditionClause) :
    (clause.put tree q).error = q.error := by
  cases clause <;> rfl

lemma kind_put (tree : ConditionTree) (q : Query) (clause : ConditionClause) :
    (clause.put tree q).kind = q.kind := by
  cases clause <;> rfl

lemma call_adds (q : Query) (clause : ConditionClause) (newGroup : Bool) (f : Filter) :
    q.call (clause.adds newGroup f) = q.addConditions clause.clause f fun items r =>
      clause.put ((clause.tree r).add newGroup items) r := by
  cases clause <;> rfl

lemma tree_fail (q : Query) (clause : ConditionClause) (e : Error) :
    clause.tree (q.fail e) = clause.tree q := by
  cases clause <;> rfl

lemma tree_marked (q : Query) (clause : ConditionClause) (used : Clause) :
    clause.tree (q.marked used) = clause.tree q := by
  cases clause <;> rfl

/-- Stores what checking a filter gave. -/
def store (newGroup : Bool) (checked : Except ConditionFault (List Condition)) (q : Query)
    (clause : ConditionClause) : Query :=
  match checked with
  | .ok items => clause.put ((clause.tree q).add newGroup items) q
  | .error fault => q.fail (.malformedCondition fault)

lemma call_of_allowed (allowed : q.allow clause.clause = .ok (q.marked clause.clause)) :
    q.call (clause.adds newGroup f) =
      clause.store newGroup f.conditions (q.marked clause.clause) := by
  rw [call_adds, addConditions, withClause, allowed, proceed]
  cases f.conditions <;> rfl

/-- Where the clause is not accepted, the filter is not looked at. -/
lemma call_of_refused {e : Error} (refused : q.allow clause.clause = .error e) :
    q.call (clause.adds newGroup f) = q.fail e := by
  rw [call_adds, addConditions, withClause, refused, proceed]

end Adding

end ConditionClause

/-! ## Adding filters one by one -/

/-- Using the clause again changes nothing. -/
def Settled (q : Query) (clause : Clause) : Prop :=
  q.Accepts clause → q.marked clause = q

lemma settled_marked (q : Query) (clause : Clause) : (q.marked clause).Settled clause := by
  intro _
  have used : clause ∈ (q.marked clause).used :=
    (mem_used_marked q clause clause).mpr (Or.inr rfl)
  rw [marked, if_pos used]
  cases hc : clause.fixedKind? <;> simp [marked, hc]

lemma accepts_marked {q : Query} {clause : Clause} (accepts : q.Accepts clause) :
    (q.marked clause).Accepts clause := by
  cases hc : clause.fixedKind? with
  | some fixed => simp [Accepts, hc, marked, Admits]
  | none => simpa [Accepts, hc, marked] using accepts

namespace ConditionClause

variable {q : Query} {clause : ConditionClause}

lemma accepts_put (tree : ConditionTree) :
    (clause.put tree q).Accepts clause.clause ↔ q.Accepts clause.clause := by
  cases clause <;> rfl

lemma settled_put (h : q.Settled clause.clause) (tree : ConditionTree) :
    (clause.put tree q).Settled clause.clause := by
  intro accepts
  have marked : (clause.put tree q).marked clause.clause =
      clause.put tree (q.marked clause.clause) := by
    cases clause <;> rfl
  rw [marked, h ((accepts_put tree).mp accepts)]

lemma settled_fail (h : q.Settled clause.clause) (e : Error) :
    (q.fail e).Settled clause.clause :=
  fun accepts => congrArg (·.fail e) (h accepts)

/-- After an error, filters reach nothing but the tree. -/
lemma calls_of_error (h : q.Settled clause.clause) (failed : q.error ≠ none)
    (filters : List Filter) :
    ∃ tree, q.calls (filters.map (clause.adds false)) = clause.put tree q := by
  induction filters generalizing q with
  | nil => exact ⟨clause.tree q, (put_tree q clause).symm⟩
  | cons f filters ih =>
    obtain ⟨tree, one⟩ : ∃ tree, q.call (clause.adds false f) = clause.put tree q := by
      rcases q.allow_cases clause.clause with ⟨accepts, allowed⟩ | ⟨_, e, refused⟩
      · rw [call_of_allowed allowed, h accepts]
        cases f.conditions with
        | ok items => exact ⟨_, rfl⟩
        | error fault =>
          exact ⟨clause.tree q, (fail_of_error failed _).trans (put_tree q clause).symm⟩
      · exact ⟨clause.tree q, by rw [call_of_refused refused, fail_of_error failed, put_tree]⟩
    obtain ⟨tree', rest⟩ := ih (settled_put h tree) (by rwa [error_put])
    exact ⟨tree', by rw [List.map_cons, calls_cons, one, rest, put_put]⟩

/-- The conditions are in the tree, or their fault is noted, whatever the tree has become. -/
def Stored (newGroup : Bool) (checked : Except ConditionFault (List Condition)) (q r : Query)
    (clause : ConditionClause) : Prop :=
  match checked with
  | .ok items => r = clause.put ((clause.tree q).add newGroup items) q
  | .error fault => ∃ tree, r = clause.put tree (q.fail (.malformedCondition fault))

/-- What is stored of the first filter and then of the others is stored of all. -/
lemma stored_cons (accepts : q.Accepts clause.clause) (settled : q.Settled clause.clause)
    {newGroup : Bool} {first : Filter} {rest : List Filter}
    (later : ∀ r : Query, r.Accepts clause.clause → r.Settled clause.clause →
      clause.Stored false (Filter.conditionsOfAll rest) r
        (r.calls (rest.map (clause.adds false)))) :
    clause.Stored newGroup (Filter.each (first :: rest)).conditions q
      ((clause.store newGroup first.conditions q).calls (rest.map (clause.adds false))) := by
  rw [Filter.conditions_each_cons]
  cases first.conditions with
  | error fault =>
    exact calls_of_error (settled_fail settled _) (error_fail q _) rest
  | ok items =>
    -- the others start from the tree with the first one's conditions, and are settled all the same
    have more := later (clause.put ((clause.tree q).add newGroup items) q)
      ((accepts_put _).mpr accepts) (settled_put settled _)
    cases hr : Filter.conditionsOfAll rest with
    | error fault =>
      rw [hr] at more
      obtain ⟨tree, ends⟩ := more
      exact ⟨tree, ends.trans (by rw [put_fail, put_put])⟩
    | ok items' =>
      rw [hr, Stored, tree_put, put_put, ← ConditionTree.add_append] at more
      exact more

lemma call_of_settled (accepts : q.Accepts clause.clause) (settled : q.Settled clause.clause)
    (newGroup : Bool) (f : Filter) :
    q.call (clause.adds newGroup f) = clause.store newGroup f.conditions q := by
  rcases q.allow_cases clause.clause with ⟨_, allowed⟩ | ⟨refused, _⟩
  · rw [call_of_allowed allowed, settled accepts]
  · exact absurd accepts refused

lemma stored_calls (filters : List Filter) (accepts : q.Accepts clause.clause)
    (settled : q.Settled clause.clause) :
    clause.Stored false (Filter.conditionsOfAll filters) q
      (q.calls (filters.map (clause.adds false))) := by
  induction filters generalizing q with
  | nil => exact (put_tree q clause).symm
  | cons first rest ih =>
    rw [List.map_cons, calls_cons, call_of_settled accepts settled]
    exact stored_cons accepts settled fun _ => ih

/-- The filters one by one give what they give together, save for the tree after an error. -/
lemma singles_eq_each (q : Query) (clause : ConditionClause) (newGroup : Bool) (first : Filter)
    (rest : List Filter) :
    let whole := q.call (clause.adds newGroup (.each (first :: rest)))
    let singles := (q.call (clause.adds newGroup first)).calls (rest.map (clause.adds false))
    singles = whole ∨ whole.error ≠ none ∧ ∃ tree, singles = clause.put tree whole := by
  intro whole singles
  rcases q.allow_cases clause.clause with ⟨accepts, allowed⟩ | ⟨refused, e, failed⟩
  · have together : whole = clause.store newGroup _ (q.marked clause.clause) :=
      call_of_allowed allowed
    have stored : clause.Stored newGroup (Filter.each (first :: rest)).conditions
        (q.marked clause.clause) singles := by
      change clause.Stored _ _ _ ((q.call (clause.adds newGroup first)).calls _)
      rw [call_of_allowed allowed]
      exact stored_cons (accepts_marked accepts) (settled_marked q clause.clause)
        fun _ => stored_calls rest
    cases checked : (Filter.each (first :: rest)).conditions with
    | ok items =>
      rw [checked] at stored together
      exact Or.inl (stored.trans together.symm)
    | error fault =>
      rw [checked] at stored together
      rw [together]
      exact Or.inr ⟨error_fail _ _, stored⟩
  · have together : whole = q.fail e := call_of_refused failed
    have one : q.call (clause.adds newGroup first) = q.fail e := call_of_refused failed
    obtain ⟨tree, ends⟩ := calls_of_error (q := q.fail e)
      (fun accepts => absurd accepts refused) (error_fail q e) rest
    rw [together]
    refine Or.inr ⟨error_fail q e, tree, ?_⟩
    rw [← ends]
    exact congrArg (fun r : Query => r.calls (rest.map (clause.adds false))) one

/-- Where all leaves are well-formed, the conditions of each are added, one after the other. -/
lemma call_of_leaves (accepts : q.Accepts clause.clause) {newGroup : Bool} {f : Filter}
    {parts : List (List Condition)} (checked : f.leaves.mapM Filter.conditions = .ok parts) :
    clause.tree (q.call (clause.adds newGroup f)) =
        (clause.tree q).add newGroup parts.flatten ∧
      (q.call (clause.adds newGroup f)).error = q.error := by
  rcases q.allow_cases clause.clause with ⟨_, allowed⟩ | ⟨refused, _⟩
  · have conditions : f.conditions = .ok parts.flatten := by
      rw [Filter.conditions_eq_leaves, checked]
      rfl
    rw [call_of_allowed allowed, conditions, store, tree_put, error_put, tree_marked]
    exact ⟨rfl, rfl⟩
  · exact absurd accepts refused

/-- A malformed filter reaches no tree; whether the clause is accepted is asked first. -/
lemma call_of_malformed {fault : ConditionFault} {f : Filter}
    (malformed : f.conditions = .error fault) (newGroup : Bool) :
    (∀ other : ConditionClause, other.tree (q.call (clause.adds newGroup f)) = other.tree q) ∧
      (q.call (clause.adds newGroup f)).error =
        q.error.or (some (match q.allow clause.clause with
          | .ok _ => .malformedCondition fault
          | .error e => e)) := by
  rcases q.allow_cases clause.clause with ⟨_, allowed⟩ | ⟨_, e, refused⟩
  · rw [call_of_allowed allowed, malformed, store, allowed]
    exact ⟨fun other => (tree_fail _ other _).trans (tree_marked q other _), rfl⟩
  · rw [call_of_refused refused, refused]
    exact ⟨fun other => tree_fail q other e, rfl⟩

end ConditionClause

/-- Adding several filters at once is adding them one by one: the error, the kind and the statement
are the same. Either the conditions of all leaves are added, depth first, or, with a malformed one
among them, the trees stay as they are, and the fault is that of the first malformed leaf, unless
the clause is not accepted; an error from before stays. -/
theorem each_eq_singles (q : Query) (clause : ConditionClause) (newGroup : Bool) (first : Filter)
    (rest : List Filter) :
    let whole := q.call (clause.adds newGroup (.each (first :: rest)))
    let singles := (q.call (clause.adds newGroup first)).calls (rest.map (clause.adds false))
    let leaves := (Filter.each (first :: rest)).leaves
    whole.error = singles.error ∧ whole.kind = singles.kind ∧ whole.prepare = singles.prepare ∧
      (∀ parts, leaves.mapM Filter.conditions = .ok parts → q.Accepts clause.clause →
        clause.tree whole = (clause.tree q).add newGroup parts.flatten ∧ whole.error = q.error) ∧
      ((∃ f ∈ first :: rest, ∃ fault, f.conditions = .error fault) →
        (∀ other : ConditionClause, other.tree whole = other.tree q) ∧
        ∃ before leaf after fault, leaves = before ++ leaf :: after ∧
          (∀ other ∈ before, ∃ items, other.conditions = .ok items) ∧
          leaf.conditions = .error fault ∧
          whole.error = q.error.or (some (match q.allow clause.clause with
            | .ok _ => .malformedCondition fault
            | .error e => e))) := by
  intro whole singles leaves
  have same : whole.error = singles.error ∧ whole.kind = singles.kind ∧
      whole.prepare = singles.prepare := by
    rcases ConditionClause.singles_eq_each q clause newGroup first rest with
      equal | ⟨failed, tree, ends⟩
    · have equal : singles = whole := equal
      rw [equal]
      exact ⟨rfl, rfl, rfl⟩
    · have ends : singles = clause.put tree whole := ends
      obtain ⟨e, failed⟩ := Option.ne_none_iff_exists'.mp failed
      have failed : whole.error = some e := failed
      have error : singles.error = whole.error := by rw [ends, ConditionClause.error_put]
      refine ⟨error.symm, by rw [ends, ConditionClause.kind_put], ?_⟩
      rw [prepare_of_error failed, prepare_of_error (error.trans failed)]
  refine ⟨same.1, same.2.1, same.2.2,
    fun parts checked accepts => ConditionClause.call_of_leaves accepts checked, ?_⟩
  rintro ⟨f, mem, fault, malformed⟩
  obtain ⟨fault, malformed⟩ := Filter.malformed_each mem malformed
  obtain ⟨before, leaf, after, split, fine, fails⟩ := Filter.first_malformed malformed
  obtain ⟨kept, recorded⟩ := ConditionClause.call_of_malformed malformed newGroup
  exact ⟨kept, before, leaf, after, fault, split, fine, fails, recorded⟩

/-- With a malformed comparison inside the second member and another as the third, and without
these two. -/
theorem each_eq_singles_nested :
    let fine (column : String) : Filter := .compare (.name column) none (.bound (.int 1))
    let item (column : String) : Condition := .compare (.name column) "=" (.bound (.int 1))
    let broken : Filter := .compare (.name "a") (some " ") (.bound (.int 1))
    let nested : Filter := .each [fine "b", .each [broken]]
    let q := built (.table "t") [.filter false (fine "z")]
    let whole := q.call (ConditionClause.filter.adds true (.each [fine "a", nested, fine ""]))
    let singles := (q.call (ConditionClause.filter.adds true (fine "a"))).calls
      ([nested, fine ""].map (ConditionClause.filter.adds false))
    let mended := q.call (ConditionClause.filter.adds true (.each [fine "a", .each [fine "b"]]))
    (∃ f ∈ [fine "a", nested, fine ""], ∃ fault, f.conditions = .error fault) ∧
      whole.error = singles.error ∧ whole.prepare = singles.prepare ∧
      whole.filters = q.filters ∧ singles.filters.groups.length = 2 ∧
      (∃ before leaf after,
        (Filter.each [fine "a", nested, fine ""]).leaves = before ++ leaf :: after ∧
        (∀ other ∈ before, ∃ items, other.conditions = .ok items) ∧
        leaf.conditions = .error (.emptyOperator "`a`") ∧
        whole.error = some (.malformedCondition (.emptyOperator "`a`"))) ∧
      mended.error = none ∧ mended.filters.groups = [[item "z"], [item "a", item "b"]] := by
  intro fine item broken nested q whole singles mended
  have malformed : ∃ f ∈ [fine "a", nested, fine ""], ∃ fault, f.conditions = .error fault :=
    ⟨fine "", by simp, .emptyColumn, rfl⟩
  obtain ⟨error, _, prepared, _, atomic⟩ :=
    each_eq_singles q .filter true (fine "a") [nested, fine ""]
  obtain ⟨kept, before, leaf, after, fault, split, wellFormed, fails, recorded⟩ := atomic malformed
  have recorded : whole.error = some (.malformedCondition fault) := recorded
  have noted : whole.error = some (.malformedCondition (.emptyOperator "`a`")) := rfl
  have same : fault = .emptyOperator "`a`" := by
    injection recorded.symm.trans noted with same
    injection same
  obtain ⟨_, _, _, stored, _⟩ := each_eq_singles q .filter true (fine "a") [.each [fine "b"]]
  have accepts : q.Accepts .filter := nofun
  obtain ⟨tree, valid⟩ := stored [[item "a"], [item "b"]] rfl accepts
  exact ⟨malformed, error, prepared, kept .filter, rfl,
    ⟨before, leaf, after, split, wellFormed, same ▸ fails, noted⟩, valid,
    congrArg ConditionTree.groups tree⟩

/-- An INSERT has no WHERE, whatever the filter: the clause is refused before the filter is looked
at. -/
theorem each_refused_unchecked :
    let broken : Filter := .compare (.name "") none (.bound (.int 1))
    let q := built (.table "t") [.insert [[("a", .bound (.int 1))]]]
    let whole := q.call (ConditionClause.filter.adds false (.each [broken]))
    q.error = none ∧ (Filter.each [broken]).leaves = [broken] ∧
      broken.conditions = .error .emptyColumn ∧
      whole.error = some (.clauseNotAllowed .filter .insert) := by
  intro broken q whole
  exact ⟨rfl, rfl, rfl, rfl⟩

end Query

end Clausal
