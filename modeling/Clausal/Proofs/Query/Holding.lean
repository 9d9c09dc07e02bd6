import Clausal.Proofs.Query.Faults
import Clausal.Proofs.Query.Isolation
import Clausal.Proofs.Query.Order

/-!
# What a query holds of a call

In a run without errors every call gives the query what it was called with. A clause keeps it as
long as no later call writes that clause.
-/

namespace Clausal

namespace Query

/-- The filter is well-formed, and its conditions are in the clause. -/
def Stores (q : Query) (f : Filter) (clause : ConditionClause) : Prop :=
  ∃ items, f.conditions = .ok items ∧
    ∀ item ∈ items, ∃ group ∈ (clause.tree q).groups, item ∈ group

/-- What the call gave the query is in it. -/
def Call.Held (q : Query) : Call → Prop
  | .set column slot => (column, slot.normalize) ∈ q.assignments
  | .insert rows => ∀ pairs ∈ rows, rowOf pairs ∈ q.insertRows
  | .filter _ f => q.Stores f .filter
  | .having _ f => q.Stores f .having
  | .limit bound => q.limit = some bound
  | .offset bound => q.offset = some bound
  | _ => True

section Holding

variable {q : Query} {c : Call}

lemma stores_adds {newGroup : Bool} {f : Filter} (clause : ConditionClause)
    (valid : (q.call (clause.adds newGroup f)).error = none) :
    (q.call (clause.adds newGroup f)).Stores f clause := by
  obtain ⟨items, conditions, tree⟩ := ConditionClause.tree_adds valid
  refine ⟨items, conditions, ?_⟩
  rw [tree]
  exact ConditionTree.exists_mem_add _ newGroup

lemma insertRows_afterAll (rows : List (List (String × Slot))) (q : Query) :
    (q.afterAll (rows.map fun pairs => .enter (.row (rowOf pairs)))).insertRows =
      q.insertRows ++ rows.map rowOf := by
  induction rows generalizing q with
  | nil => exact (List.append_nil _).symm
  | cons pairs rows ih =>
    have entered := ih ((Entry.row (rowOf pairs)).enter q)
    rw [Entry.enter, List.append_assoc] at entered
    exact entered

lemma held_call (valid : (q.call c).error = none) : c.Held (q.call c) := by
  have followed := (Follows.call q c).eq_of_valid valid
  cases c with
  | set column slot =>
    rw [followed]
    exact Columns.mem_put _ _ _
  | insert rows =>
    intro pairs mem
    have rows : (q.call (.insert rows)).insertRows = q.insertRows ++ rows.map rowOf := by
      rw [followed]
      exact insertRows_afterAll rows (q.marked .values)
    rw [rows]
    exact List.mem_append_right _ (List.mem_map_of_mem mem)
  | filter newGroup f => exact stores_adds .filter valid
  | having newGroup f => exact stores_adds .having valid
  | limit bound =>
    rw [followed]
    rfl
  | offset bound =>
    rw [followed]
    rfl
  | _ => trivial

lemma held_only {clause : Clause} (hc : c.clause? = some clause) :
    c.Held (q.only clause) ↔ c.Held q := by
  cases c <;> cases hc <;> rfl

/-- What a call gave a query is still in it if no later call wrote the same clause. -/
lemma held_calls {before later : List Call} (valid : (q.calls (before ++ c :: later)).error = none)
    (last : ∀ d ∈ later, d.clause? ≠ c.clause?) : c.Held (q.calls (before ++ c :: later)) := by
  have split : q.calls (before ++ c :: later) = ((q.calls before).call c).calls later :=
    List.foldl_append
  rw [split] at valid ⊢
  have given : c.Held ((q.calls before).call c) := by
    refine held_call ?_
    cases failed : ((q.calls before).call c).error with
    | none => rfl
    | some e => cases (error_calls failed later).symm.trans valid
  cases hc : c.clause? with
  | none =>
    cases c with
    | selectAll | update | delete => trivial
    | _ => cases hc
  | some clause =>
    rw [← held_only hc, only_calls valid (hc ▸ last), held_only hc]
    exact given

end Holding

end Query

end Clausal
