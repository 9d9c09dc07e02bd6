import Clausal.Proofs.Query.Kind
import Clausal.Proofs.Query.Preparing

/-!
# The order of calls

A call makes moves: it fixes the kind, uses a clause, enters something into a clause, or is
rejected. A run without errors is a run of these moves. Whether all of them are possible depends on
the moves alone and on the order of the rows, and what a clause holds in the end depends on the
moves into that clause. So calls can be reordered as long as those for one clause stay in order.
-/

namespace Clausal.Query

/-! ## Moves -/

inductive Move where
  | fix (kind : StatementKind)
  | use (clause : Clause)
  | enter (entry : Entry)
  | reject

namespace Move

def Possible (q : Query) : Move → Prop
  | .fix kind => q.Admits kind
  | .use clause => q.Accepts clause
  | .enter entry => entry.Fits q
  | .reject => False

def after : Move → Query → Query
  | .fix kind, q => q.ofFixedKind kind
  | .use clause, q => q.marked clause
  | .enter entry, q => entry.enter q
  | .reject, q => q

/-- A statement of this kind has room for the move. -/
def Suits : Move → StatementKind → Prop
  | .fix fixed, kind => fixed = kind
  | .use clause, kind => clause.fits kind
  | .enter _, _ => True
  | .reject, _ => False

/-- What the move enters fits what is there. -/
def Fits (q : Query) : Move → Prop
  | .enter entry => entry.Fits q
  | _ => True

def writes (clause : Clause) : Move → Bool
  | .enter entry => entry.clause = clause
  | _ => false

end Move

def conditionMoves (entry : List Condition → Entry) (f : Filter) : List Move :=
  match f.conditions with
  | .ok items => [.enter (entry items)]
  | .error _ => [.reject]

namespace Call

/-- What a call does, one after the other, if nothing goes wrong. -/
def moves : Call → List Move
  | .select columns => [.use .select, .enter (.select columns)]
  | .selectAll => [.use .select]
  | .update => [.fix .update]
  | .delete => [.fix .delete]
  | .set column slot => [.use .set, .enter (.assign column slot.normalize)]
  | .setAll pairs => .fix .update ::
      pairs.flatMap fun (column, slot) => [.use .set, .enter (.assign column slot.normalize)]
  | .insert rows => .use .values :: rows.map fun pairs => .enter (.row (rowOf pairs))
  | .join j => [.use .join, .enter (.join j)]
  | .filter newGroup f => .use .filter :: conditionMoves (.filter newGroup) f
  | .having newGroup f => .use .having :: conditionMoves (.having newGroup) f
  | .groupBy items => items.flatMap fun item => [.use .groupBy, .enter (.groupBy item)]
  | .orderBy items => items.flatMap fun item => [.use .orderBy, .enter (.orderBy item)]
  | .limit bound => [.use .limit, .enter (.limit bound)]
  | .offset bound => [.use .offset, .enter (.offset bound)]

/-- The clause that a call writes. -/
def clause? : Call → Option Clause
  | .select _ => some .select
  | .selectAll | .update | .delete => none
  | .set .. | .setAll _ => some .set
  | .insert _ => some .values
  | .join _ => some .join
  | .filter .. => some .filter
  | .having .. => some .having
  | .groupBy _ => some .groupBy
  | .orderBy _ => some .orderBy
  | .limit _ => some .limit
  | .offset _ => some .offset

end Call

/-- All moves are possible, one after the other. -/
def Runs (q : Query) : List Move → Prop
  | [] => True
  | m :: ms => m.Possible q ∧ Runs (m.after q) ms

def afterAll (q : Query) (ms : List Move) : Query :=
  ms.foldl (fun q m => m.after q) q

/-- All that is entered fits. -/
def Fitting (q : Query) : List Move → Prop
  | [] => True
  | m :: ms => m.Fits q ∧ Fitting (m.after q) ms

lemma runs_append (q : Query) (ms ms' : List Move) :
    q.Runs (ms ++ ms') ↔ q.Runs ms ∧ (q.afterAll ms).Runs ms' := by
  induction ms generalizing q with
  | nil => exact (iff_of_eq (true_and _)).symm
  | cons m ms ih => exact (and_congr_right fun _ => ih (m.after q)).trans and_assoc.symm

lemma afterAll_append (q : Query) (ms ms' : List Move) :
    q.afterAll (ms ++ ms') = (q.afterAll ms).afterAll ms' :=
  List.foldl_append

lemma afterAll_keeps (q : Query) (ms : List Move) :
    (q.afterAll ms).error = q.error ∧ (q.afterAll ms).target = q.target := by
  induction ms generalizing q with
  | nil => exact ⟨rfl, rfl⟩
  | cons m ms ih =>
    have one : (m.after q).error = q.error ∧ (m.after q).target = q.target := by
      cases m with
      | enter entry => cases entry <;> exact ⟨rfl, rfl⟩
      | _ => exact ⟨rfl, rfl⟩
    obtain ⟨error, target⟩ := ih (m.after q)
    exact ⟨error.trans one.1, target.trans one.2⟩

/-! ## Calls as moves -/

/-- The moves lead to the second query, or one of them is not possible and it has an error. -/
def Follows (q : Query) (ms : List Move) (r : Query) : Prop :=
  (q.Runs ms ∧ r = q.afterAll ms) ∨ (¬ q.Runs ms ∧ r.error ≠ none)

lemma error_fail (q : Query) (e : Error) : (q.fail e).error ≠ none := by
  cases h : q.error <;> simp [fail, h]

/-- Conditions that leave no error are well-formed, and they are stored. -/
lemma addConditions_of_valid {q : Query} {clause : Clause} {f : Filter}
    {store : List Condition → Query → Query}
    (valid : (q.addConditions clause f store).error = none) :
    ∃ items, f.conditions = .ok items ∧
      q.addConditions clause f store = store items (q.marked clause) := by
  rw [addConditions] at valid ⊢
  rcases q.withClause_cases clause _ with ⟨_, added⟩ | ⟨_, e, failed⟩
  · rw [added] at valid ⊢
    cases hf : f.conditions with
    | ok items => exact ⟨items, rfl, rfl⟩
    | error fault =>
      rw [hf] at valid
      exact absurd valid (error_fail _ _)
  · rw [failed] at valid
    exact absurd valid (error_fail q e)

namespace Follows

variable {q r s : Query} {ms ms' : List Move}

lemma eq_of_valid (h : Follows q ms r) (valid : r.error = none) : r = q.afterAll ms := by
  rcases h with ⟨_, same⟩ | ⟨_, failed⟩
  · exact same
  · exact absurd valid failed

lemma nil (q : Query) : Follows q [] q := Or.inl ⟨trivial, rfl⟩

lemma append (first : Follows q ms r) (second : Follows r ms' s) : Follows q (ms ++ ms') s := by
  rcases first with ⟨runs, rfl⟩ | ⟨stops, error⟩
  · rcases second with ⟨runs', rfl⟩ | ⟨stops', error'⟩
    · exact Or.inl ⟨(runs_append q ms ms').mpr ⟨runs, runs'⟩, (afterAll_append q ms ms').symm⟩
    · exact Or.inr ⟨fun h => stops' ((runs_append q ms ms').mp h).2, error'⟩
  · have stopped : ¬ q.Runs (ms ++ ms') := fun h => stops ((runs_append q ms ms').mp h).1
    rcases second with ⟨_, rfl⟩ | ⟨_, error'⟩
    · exact Or.inr ⟨stopped, (afterAll_keeps r ms').1 ▸ error⟩
    · exact Or.inr ⟨stopped, error'⟩

lemma cons {m : Move} (possible : m.Possible q) (rest : Follows (m.after q) ms r) :
    Follows q (m :: ms) r := by
  rcases rest with ⟨runs, rfl⟩ | ⟨stops, error⟩
  · exact Or.inl ⟨⟨possible, runs⟩, rfl⟩
  · exact Or.inr ⟨fun h => stops h.2, error⟩

lemma stop {m : Move} (impossible : ¬ m.Possible q) (error : r.error ≠ none) :
    Follows q (m :: ms) r :=
  Or.inr ⟨fun h => impossible h.1, error⟩

lemma foldl {α : Type} {f : Query → α → Query} {moves : α → List Move}
    (h : ∀ q a, Follows q (moves a) (f q a)) (items : List α) (q : Query) :
    Follows q (items.flatMap moves) (items.foldl f q) := by
  induction items generalizing q with
  | nil => exact .nil q
  | cons a items ih => exact (h q a).append (ih (f q a))

lemma withClause {clause : Clause} {next : Query → Query}
    (rest : Follows (q.marked clause) ms (next (q.marked clause))) :
    Follows q (.use clause :: ms) (q.withClause clause next) := by
  rcases q.withClause_cases clause next with ⟨accepts, hq⟩ | ⟨refuses, e, hq⟩
  · exact hq ▸ .cons accepts rest
  · exact hq ▸ .stop refuses (q.error_fail e)

lemma ofKind (q : Query) (kind : StatementKind) : Follows q [.fix kind] (q.ofKind kind) := by
  rcases q.ofKind_cases kind with ⟨admits, hq⟩ | ⟨excludes, e, hq⟩
  · exact hq ▸ .cons admits (.nil _)
  · exact hq ▸ .stop excludes (q.error_fail e)

lemma enter {entry : Entry} (fits : entry.Fits q) : Follows q [.enter entry] (entry.enter q) :=
  .cons fits (.nil _)

/-- A call that enters one thing into its clause. -/
lemma useEnter (q : Query) (entry : Entry) (fits : ∀ r, entry.Fits r) :
    Follows q [.use entry.clause, .enter entry] (q.withClause entry.clause entry.enter) :=
  .withClause (.enter (fits _))

lemma addRows (rows : List (List (String × Slot))) (q : Query) :
    Follows q (rows.map fun pairs => .enter (.row (rowOf pairs))) (q.addRows rows) := by
  induction rows generalizing q with
  | nil => exact .nil q
  | cons pairs rest ih =>
    rw [addRows_cons, List.map_cons]
    rcases q.addRow_cases (rowOf pairs) with ⟨fits, hr⟩ | ⟨misfit, e, hr⟩
    · rw [hr]
      exact .cons fits (ih _)
    · rw [hr]
      exact .stop misfit (q.error_fail e)

lemma addConditions (entry : List Condition → Entry) (fits : ∀ items r, (entry items).Fits r)
    (q : Query) (clause : Clause) (f : Filter) :
    Follows q (.use clause :: conditionMoves entry f)
      (q.addConditions clause f fun items => (entry items).enter) := by
  refine .withClause ?_
  rw [conditionMoves]
  cases f.conditions with
  | ok items => exact .enter (fits items _)
  | error fault => exact .stop id (error_fail _ _)

/-- A call follows its moves. -/
theorem call (q : Query) (c : Call) : Follows q c.moves (q.call c) := by
  cases c with
  | select columns => exact .useEnter q (.select columns) fun _ => trivial
  | selectAll => exact .withClause (.nil _)
  | update => exact .ofKind q _
  | delete => exact .ofKind q _
  | set column slot => exact .useEnter q (.assign column slot.normalize) fun _ => trivial
  | setAll pairs =>
    refine (Follows.ofKind q .update).append (.foldl ?_ pairs _)
    exact fun r pair => .useEnter r (.assign pair.1 pair.2.normalize) fun _ => trivial
  | insert rows => exact .withClause (.addRows rows _)
  | join j => exact .useEnter q (.join j) fun _ => trivial
  | filter newGroup f => exact .addConditions (.filter newGroup) (fun _ _ => trivial) q .filter f
  | having newGroup f => exact .addConditions (.having newGroup) (fun _ _ => trivial) q .having f
  | groupBy items =>
    exact .foldl (fun r item => .useEnter r (.groupBy item) fun _ => trivial) items q
  | orderBy items =>
    exact .foldl (fun r item => .useEnter r (.orderBy item) fun _ => trivial) items q
  | limit bound => exact .useEnter q (.limit bound) fun _ => trivial
  | offset bound => exact .useEnter q (.offset bound) fun _ => trivial

/-- A run of calls follows the moves of all of them. -/
theorem calls (q : Query) (cs : List Call) : Follows q (cs.flatMap Call.moves) (q.calls cs) :=
  .foldl call cs q

end Follows

/-! ## When moves are possible -/

section Kinds

variable {q : Query}

lemma Consistent.admits_of_free (h : q.Consistent) (hk : q.kind = none) {kind : StatementKind}
    (hi : kind ≠ .insert) : q.Admits kind := by
  have fits : ∀ clause ∈ q.used, clause.fits kind := by
    intro clause hc
    simpa [Clause.fits, h.free hk clause hc] using hi
  simpa [Admits, hk] using fits

lemma Consistent.exists_admits (h : q.Consistent) : ∃ kind, q.Admits kind := by
  cases hk : q.kind with
  | some kind => exact ⟨kind, by simp [Admits, hk]⟩
  | none => exact ⟨.select, h.admits_of_free hk (by decide)⟩

/-- The kinds that a query admits determine whether its kind is fixed, and to which. -/
lemma Consistent.kind_eq {r : Query} (hq : q.Consistent) (hr : r.Consistent)
    (same : ∀ kind, q.Admits kind ↔ r.Admits kind) : q.kind = r.kind := by
  -- a query without a kind admits two, one with a kind only that
  have mixed {q r : Query} (hr : r.Consistent) (same : ∀ kind, q.Admits kind ↔ r.Admits kind)
      {kind : StatementKind} (hk : q.kind = some kind) (hn : r.kind = none) : False := by
    have select := (same .select).mpr (hr.admits_of_free hn (by decide))
    have update := (same .update).mpr (hr.admits_of_free hn (by decide))
    simp only [Admits, hk] at select update
    rw [select] at update
    cases update
  cases hk : q.kind with
  | some kind =>
    cases hn : r.kind with
    | some other =>
      have admits := (same kind).mp (by simp [Admits, hk])
      simp only [Admits, hn] at admits
      rw [admits]
    | none => exact (mixed hr same hk hn).elim
  | none =>
    cases hn : r.kind with
    | some other => exact (mixed hq (fun kind => (same kind).symm) hn hk).elim
    | none => rfl

lemma admits_ofFixedKind {fixed kind : StatementKind} (admits : q.Admits fixed) :
    (q.ofFixedKind fixed).Admits kind ↔ q.Admits kind ∧ fixed = kind := by
  refine ⟨fun h => ?_, fun h => h.2⟩
  obtain rfl : fixed = kind := h
  exact ⟨admits, rfl⟩

lemma admits_marked {clause : Clause} (accepts : q.Accepts clause) {kind : StatementKind} :
    (q.marked clause).Admits kind ↔ q.Admits kind ∧ clause.fits kind := by
  cases hc : clause.fixedKind? with
  | some fixed =>
    have admits : q.Admits fixed := by simpa [Accepts, hc] using accepts
    have fits : clause.fits kind ↔ fixed = kind := by simp [Clause.fits, hc]
    rw [fits, ← admits_ofFixedKind admits]
    simp [Admits, marked, hc, ofFixedKind]
  | none =>
    cases hk : q.kind with
    | some current =>
      have fits : clause.fits current := by simpa [Accepts, hc, hk] using accepts
      simp only [Admits, marked, hc, hk, Option.none_or]
      exact ⟨fun h => ⟨h, h ▸ fits⟩, fun h => h.1⟩
    | none =>
      have kind : (q.marked clause).kind = none := by simp [marked, hc, hk]
      simp only [Admits, hk, kind, mem_used_marked, or_imp, forall_and, forall_eq]

lemma Consistent.accepts_iff (h : q.Consistent) (clause : Clause) :
    q.Accepts clause ↔ ∃ kind, q.Admits kind ∧ clause.fits kind := by
  cases hc : clause.fixedKind? with
  | some fixed => simp [Accepts, hc, Clause.fits]
  | none =>
    cases hk : q.kind with
    | some kind => simp [Accepts, Admits, hc, hk]
    | none =>
      refine ⟨fun _ => ⟨.select, h.admits_of_free hk (by decide), ?_⟩, fun _ => ?_⟩
      · simp [Clause.fits, hc]
      · simp [Accepts, hc, hk]

namespace Move

variable {m : Move}

lemma possible_iff (h : q.Consistent) :
    m.Possible q ↔ (∃ kind, q.Admits kind ∧ m.Suits kind) ∧ m.Fits q := by
  cases m with
  | fix fixed => simp [Possible, Suits, Fits]
  | use clause => simpa [Possible, Suits, Fits] using h.accepts_iff clause
  | enter entry => simp [Possible, Suits, Fits, h.exists_admits]
  | reject => simp [Possible, Suits, Fits]

lemma admits_after (possible : m.Possible q) {kind : StatementKind} :
    (m.after q).Admits kind ↔ q.Admits kind ∧ m.Suits kind := by
  cases m with
  | fix fixed => exact admits_ofFixedKind possible
  | use clause => exact admits_marked possible
  | enter entry =>
    obtain ⟨hk, hu⟩ := entry.kind_enter q
    simp [after, Suits, Admits, hk, hu]
  | reject => exact possible.elim

lemma consistent_after (h : q.Consistent) (possible : m.Possible q) : (m.after q).Consistent := by
  cases m with
  | fix fixed => exact h.ofFixedKind possible
  | use clause => exact h.marked possible
  | enter entry => exact h.enter entry
  | reject => exact possible.elim

end Move

/-- Moves can be made in turn if a kind suits them all and all that is entered fits. -/
lemma runs_iff (h : q.Consistent) (ms : List Move) :
    q.Runs ms ↔ (∃ kind, q.Admits kind ∧ ∀ m ∈ ms, m.Suits kind) ∧ q.Fitting ms := by
  induction ms generalizing q with
  | nil => simp [Runs, Fitting, h.exists_admits]
  | cons m ms ih =>
    simp only [Runs, Fitting, List.forall_mem_cons]
    constructor
    · rintro ⟨possible, rest⟩
      obtain ⟨⟨kind, admits, suits⟩, fitting⟩ := (ih (m.consistent_after h possible)).mp rest
      obtain ⟨admits, suit⟩ := (m.admits_after possible).mp admits
      exact ⟨⟨kind, admits, suit, suits⟩, ((m.possible_iff h).mp possible).2, fitting⟩
    · rintro ⟨⟨kind, admits, suit, suits⟩, fits, fitting⟩
      have possible := (m.possible_iff h).mpr ⟨⟨kind, admits, suit⟩, fits⟩
      have admits' := (m.admits_after possible).mpr ⟨admits, suit⟩
      exact ⟨possible, (ih (m.consistent_after h possible)).mpr ⟨⟨kind, admits', suits⟩, fitting⟩⟩

lemma consistent_afterAll (h : q.Consistent) {ms : List Move} (runs : q.Runs ms) :
    (q.afterAll ms).Consistent := by
  induction ms generalizing q with
  | nil => exact h
  | cons m ms ih => exact ih (m.consistent_after h runs.1) runs.2

lemma admits_afterAll {ms : List Move} (runs : q.Runs ms) {kind : StatementKind} :
    (q.afterAll ms).Admits kind ↔ q.Admits kind ∧ ∀ m ∈ ms, m.Suits kind := by
  induction ms generalizing q with
  | nil => simp [afterAll]
  | cons m ms ih =>
    have tail := ih runs.2
    rw [m.admits_after runs.1, and_assoc] at tail
    rwa [List.forall_mem_cons]

end Kinds

/-! ## What a clause holds -/

namespace Move

variable {m : Move} {clause : Clause}

lemma only_after_of_writes (h : m.writes clause) (q : Query) :
    (m.after q).only clause = m.after (q.only clause) := by
  cases m with
  | enter entry =>
    obtain rfl : entry.clause = clause := by simpa [writes] using h
    exact entry.only_enter_self q
  | _ => cases h

lemma only_after_of_not_writes (h : ¬ m.writes clause) (q : Query) :
    (m.after q).only clause = q.only clause := by
  cases m with
  | enter entry => exact entry.only_enter_of_ne q (by simpa [writes] using h)
  | fix kind => exact q.only_ofFixedKind kind clause
  | use used => exact q.only_marked used clause
  | reject => rfl

end Move

/-- A clause holds what the moves into it enter. -/
lemma only_afterAll (q : Query) (ms : List Move) (clause : Clause) :
    (q.afterAll ms).only clause = (q.only clause).afterAll (ms.filter (·.writes clause)) := by
  induction ms generalizing q with
  | nil => rfl
  | cons m ms ih =>
    by_cases h : m.writes clause
    · rw [List.filter_cons_of_pos h]
      change ((m.after q).afterAll ms).only clause = _
      rw [ih, m.only_after_of_writes h]
      rfl
    · rw [List.filter_cons_of_neg h]
      change ((m.after q).afterAll ms).only clause = _
      rw [ih, m.only_after_of_not_writes h]

lemma fits_only (q : Query) (m : Move) : m.Fits (q.only .values) ↔ m.Fits q := by
  cases m with
  | enter entry => cases entry <;> rfl
  | _ => rfl

lemma fits_of_not_writes (q : Query) {m : Move} (h : ¬ m.writes .values) : m.Fits q := by
  cases m with
  | enter entry =>
    cases entry with
    | row cells => exact absurd rfl h
    | _ => trivial
  | _ => trivial

/-- Whether all that is entered fits is a matter of the rows. -/
lemma fitting_iff_only (q : Query) (ms : List Move) :
    q.Fitting ms ↔ (q.only .values).Fitting (ms.filter (·.writes .values)) := by
  induction ms generalizing q with
  | nil => rfl
  | cons m ms ih =>
    by_cases h : m.writes .values
    · rw [List.filter_cons_of_pos h]
      simp only [Fitting]
      rw [ih, m.only_after_of_writes h, fits_only]
    · rw [List.filter_cons_of_neg h]
      simp only [Fitting]
      rw [ih, m.only_after_of_not_writes h]
      exact and_iff_right (fits_of_not_writes q h)

lemma mem_conditionMoves {entry : List Condition → Entry} {f : Filter} {e : Entry}
    (h : .enter e ∈ conditionMoves entry f) : ∃ items, e = entry items := by
  rw [conditionMoves] at h
  split at h
  · exact ⟨_, by simpa using h⟩
  · simp at h

/-- A call enters nothing but into the clause it writes. -/
lemma Call.clause?_of_enter {c : Call} {e : Entry} (h : .enter e ∈ c.moves) :
    c.clause? = some e.clause := by
  cases c with
  | selectAll | update | delete => simp [moves] at h
  | select _ | set _ _ | join _ | limit _ | offset _ =>
    obtain rfl : e = _ := by simpa [moves] using h
    rfl
  | setAll pairs =>
    obtain ⟨_, slot, _, rfl⟩ : ∃ column slot, (column, slot) ∈ pairs ∧
        e = .assign column slot.normalize := by
      simpa [moves] using h
    rfl
  | insert rows =>
    obtain ⟨_, _, rfl⟩ : ∃ pairs ∈ rows, .row (rowOf pairs) = e := by simpa [moves] using h
    rfl
  | filter newGroup f =>
    obtain ⟨_, rfl⟩ := mem_conditionMoves (by simpa [moves] using h)
    rfl
  | having newGroup f =>
    obtain ⟨_, rfl⟩ := mem_conditionMoves (by simpa [moves] using h)
    rfl
  | groupBy items =>
    obtain ⟨_, _, rfl⟩ : ∃ item ∈ items, e = .groupBy item := by simpa [moves] using h
    rfl
  | orderBy items =>
    obtain ⟨_, _, rfl⟩ : ∃ item ∈ items, e = .orderBy item := by simpa [moves] using h
    rfl

lemma Call.clause?_of_writes {c : Call} {m : Move} (hm : m ∈ c.moves) {clause : Clause}
    (h : m.writes clause) : c.clause? = some clause := by
  cases m with
  | enter entry =>
    obtain rfl : entry.clause = clause := by simpa [Move.writes] using h
    exact Call.clause?_of_enter hm
  | _ => cases h

/-- The moves into a clause are those of the calls that write it. -/
lemma filter_moves (cs : List Call) (clause : Clause) :
    (cs.flatMap Call.moves).filter (·.writes clause) =
      ((cs.filter (·.clause? = some clause)).flatMap Call.moves).filter (·.writes clause) := by
  induction cs with
  | nil => rfl
  | cons c cs ih =>
    by_cases h : c.clause? = some clause
    · rw [List.filter_cons_of_pos (by simpa using h)]
      simp only [List.flatMap_cons, List.filter_append, ih]
    · have none : c.moves.filter (·.writes clause) = [] := by
        rw [List.filter_eq_nil_iff]
        exact fun m hm hw => h (Call.clause?_of_writes hm hw)
      rw [List.filter_cons_of_neg (by simpa using h)]
      simp only [List.flatMap_cons, List.filter_append, ih, none, List.nil_append]

/-- Calls that do not write a clause leave it as it is. -/
lemma only_calls {q : Query} {cs : List Call} {clause : Clause}
    (valid : (q.calls cs).error = none) (others : ∀ c ∈ cs, c.clause? ≠ some clause) :
    (q.calls cs).only clause = q.only clause := by
  have none : cs.filter (·.clause? = some clause) = [] := by
    simpa using others
  rw [(Follows.calls q cs).eq_of_valid valid, only_afterAll, filter_moves, none]
  rfl

/-- Preparing looks at the target, the kind, the error and the clauses, not at the order in which
the clauses were used first. -/
lemma prepare_congr {q r : Query} (target : q.target = r.target) (kind : q.kind = r.kind)
    (error : q.error = r.error) (clauses : ∀ clause, q.only clause = r.only clause) :
    q.prepare = r.prepare := by
  have same : { q with used := [] } = { r with used := [] } := by
    have selectList : q.selectList = r.selectList := congrArg (·.selectList) (clauses .select)
    have assignments : q.assignments = r.assignments := congrArg (·.assignments) (clauses .set)
    have insertRows : q.insertRows = r.insertRows := congrArg (·.insertRows) (clauses .values)
    have joins : q.joins = r.joins := congrArg (·.joins) (clauses .join)
    have filters : q.filters = r.filters := congrArg (·.filters) (clauses .filter)
    have groupBy : q.groupBy = r.groupBy := congrArg (·.groupBy) (clauses .groupBy)
    have having : q.having = r.having := congrArg (·.having) (clauses .having)
    have orderBy : q.orderBy = r.orderBy := congrArg (·.orderBy) (clauses .orderBy)
    have limit : q.limit = r.limit := congrArg (·.limit) (clauses .limit)
    have offset : q.offset = r.offset := congrArg (·.offset) (clauses .offset)
    rw [target, kind, error, selectList, assignments, insertRows, joins, filters, groupBy, having,
      orderBy, limit, offset]
  calc q.prepare = { q with used := [] }.prepare := rfl
    _ = { r with used := [] }.prepare := by rw [same]
    _ = r.prepare := rfl

/-! ## Reordering -/

/-- The same moves, in the same order for each clause. -/
structure Rearranged (ms ms' : List Move) : Prop where
  mem_iff : ∀ m, m ∈ ms ↔ m ∈ ms'
  filter_eq : ∀ clause, ms.filter (·.writes clause) = ms'.filter (·.writes clause)

lemma rearranged_moves {cs cs' : List Call} (perm : cs.Perm cs')
    (order : ∀ clause,
      cs.filter (·.clause? = some clause) = cs'.filter (·.clause? = some clause)) :
    Rearranged (cs.flatMap Call.moves) (cs'.flatMap Call.moves) where
  mem_iff m := by simp only [List.mem_flatMap, perm.mem_iff]
  filter_eq clause := by rw [filter_moves cs, filter_moves cs', order]

namespace Rearranged

variable {ms ms' : List Move} {q : Query}

lemma suits_iff (h : Rearranged ms ms') (kind : StatementKind) :
    (∀ m ∈ ms, m.Suits kind) ↔ ∀ m ∈ ms', m.Suits kind := by
  simp only [h.mem_iff]

lemma runs_iff (h : Rearranged ms ms') (hq : q.Consistent) : q.Runs ms ↔ q.Runs ms' := by
  rw [Query.runs_iff hq, Query.runs_iff hq, fitting_iff_only q ms, fitting_iff_only q ms',
    h.filter_eq]
  simp only [h.suits_iff]

lemma prepare_afterAll (h : Rearranged ms ms') (hq : q.Consistent) (runs : q.Runs ms) :
    (q.afterAll ms).prepare = (q.afterAll ms').prepare := by
  have runs' := (h.runs_iff hq).mp runs
  obtain ⟨error, target⟩ := q.afterAll_keeps ms
  obtain ⟨error', target'⟩ := q.afterAll_keeps ms'
  refine prepare_congr (target.trans target'.symm) ?_ (error.trans error'.symm) fun clause => ?_
  · refine (consistent_afterAll hq runs).kind_eq (consistent_afterAll hq runs') fun kind => ?_
    rw [admits_afterAll runs, admits_afterAll runs', h.suits_iff]
  · rw [only_afterAll, only_afterAll, h.filter_eq]

end Rearranged

/-- Calls can be reordered as long as those that write one clause stay in order: the same statement
is prepared, if any is. -/
theorem prepare_built_perm {target : Target} {cs cs' : List Call} (perm : cs.Perm cs')
    (order : ∀ clause, cs.filter (·.clause? = some clause) = cs'.filter (·.clause? = some clause))
    (p : Preparation) :
    (built target cs).prepare = .ok p ↔ (built target cs').prepare = .ok p := by
  have start : Consistent { target := target } := consistent_built target []
  -- one direction is enough: both assumptions are symmetric
  have reorder {cs cs' : List Call}
      (same : Rearranged (cs.flatMap Call.moves) (cs'.flatMap Call.moves))
      (hp : (built target cs).prepare = .ok p) : (built target cs').prepare = .ok p := by
    rcases Follows.calls { target := target } cs with ⟨runs, hq⟩ | ⟨_, failed⟩
    · rcases Follows.calls { target := target } cs' with ⟨_, hq'⟩ | ⟨stops, _⟩
      · rw [built, hq, same.prepare_afterAll start runs] at hp
        rwa [built, hq']
      · exact absurd ((same.runs_iff start).mp runs) stops
    · exact absurd (prepare_eq_ok hp).1 failed
  exact ⟨reorder (rearranged_moves perm order),
    reorder (rearranged_moves perm.symm fun clause => (order clause).symm)⟩

/-- A page of rows, asked for from the outside in. -/
def pageCalls : List Call := [
  .limit (.count 10),
  .offset (.count 20),
  .orderBy [.column "id" .asc],
  .filter false (.compare (.name "a") none (.bound (.int 1))),
  .select ["id", "a"]]

theorem prepare_pageCalls_reverse :
    pageCalls.Perm pageCalls.reverse ∧
      (∀ clause, pageCalls.filter (·.clause? = some clause) =
        pageCalls.reverse.filter (·.clause? = some clause)) ∧
      ∃ p, (built (.table "t") pageCalls).prepare = .ok p ∧
        (built (.table "t") pageCalls.reverse).prepare = .ok p := by
  have perm := (List.reverse_perm pageCalls).symm
  have order (clause : Clause) : pageCalls.filter (·.clause? = some clause) =
      pageCalls.reverse.filter (·.clause? = some clause) := by
    cases clause <;> rfl
  exact ⟨perm, order, _, rfl, (prepare_built_perm perm order _).mp rfl⟩

end Clausal.Query
