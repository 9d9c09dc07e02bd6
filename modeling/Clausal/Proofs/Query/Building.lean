import Clausal.Query
import Mathlib.Logic.Relation

/-!
# What a call can do

A call of the builder is a sequence of steps: it fixes the kind, it marks a clause as used, it
enters something into a clause, or it notes an error. The entries of a call are what it writes if
nothing goes wrong. Every call is traced to such steps once, here; what holds of all runs is then
shown for the four steps.
-/

namespace Clausal.Query

/-! ## Kinds and clauses -/

/-- The query is of this kind or can still become it. -/
def Admits (q : Query) (kind : StatementKind) : Prop :=
  match q.kind with
  | some current => current = kind
  | none => ∀ clause ∈ q.used, clause.fits kind

/-- The clause can be used now. -/
def Accepts (q : Query) (clause : Clause) : Prop :=
  match clause.fixedKind? with
  | some kind => q.Admits kind
  | none => ∀ kind ∈ q.kind, clause.fits kind

def ofFixedKind (q : Query) (kind : StatementKind) : Query :=
  { q with kind := some kind }

def noted (q : Query) (clause : Clause) : Query :=
  if clause ∈ q.used then q else { q with used := q.used ++ [clause] }

/-- The query once the clause counts as used. -/
def marked (q : Query) (clause : Clause) : Query :=
  { q with
    kind := clause.fixedKind?.or q.kind
    used := if clause ∈ q.used then q.used else q.used ++ [clause] }

lemma noted_eq (q : Query) (clause : Clause) :
    q.noted clause =
      { q with used := if clause ∈ q.used then q.used else q.used ++ [clause] } := by
  rw [noted]
  split <;> rfl

lemma mem_used_marked (q : Query) (clause other : Clause) :
    other ∈ (q.marked clause).used ↔ other ∈ q.used ∨ other = clause := by
  by_cases h : clause ∈ q.used
  · simp only [marked, if_pos h]
    constructor
    · exact Or.inl
    · rintro (ho | rfl)
      · exact ho
      · exact h
  · simp [marked, if_neg h]

lemma fix_cases (q : Query) (kind : StatementKind) :
    (q.Admits kind ∧ q.fix kind = .ok (q.ofFixedKind kind)) ∨
      (¬ q.Admits kind ∧ ∃ e, q.fix kind = .error e) := by
  cases hk : q.kind with
  | some current =>
    by_cases h : current = kind
    · subst h
      have same : q.ofFixedKind current = q := by
        rw [ofFixedKind]
        rw [← hk]
      exact Or.inl ⟨by simp [Admits, hk], by simp [fix, hk, same]⟩
    · exact Or.inr ⟨by simpa [Admits, hk] using h, by simp [fix, hk, h]⟩
  | none =>
    cases hf : q.used.find? (!·.fits kind) with
    | some clause =>
      have misfit : clause.fits kind = false := by simpa using List.find?_some hf
      refine Or.inr ⟨fun h => ?_, by simp [fix, hk, hf]⟩
      have fit : clause.fits kind = true := by
        simp only [Admits, hk] at h
        exact h clause (List.mem_of_find?_eq_some hf)
      rw [misfit] at fit
      cases fit
    | none =>
      refine Or.inl ⟨?_, by simp [fix, hk, hf, ofFixedKind]⟩
      simpa [Admits, hk] using hf

lemma allow_eq (q : Query) (clause : Clause) :
    q.allow clause = Except.map (·.noted clause)
      (match clause.fixedKind?, q.kind with
        | some kind, _ => q.fix kind
        | none, some kind =>
          if clause.fits kind then .ok q else .error (.clauseNotAllowed clause kind)
        | none, none => .ok q) := rfl

lemma allow_cases (q : Query) (clause : Clause) :
    (q.Accepts clause ∧ q.allow clause = .ok (q.marked clause)) ∨
      (¬ q.Accepts clause ∧ ∃ e, q.allow clause = .error e) := by
  rw [allow_eq]
  cases hc : clause.fixedKind? with
  | some kind =>
    rcases q.fix_cases kind with ⟨ha, hf⟩ | ⟨ha, e, hf⟩
    · refine Or.inl ⟨by simpa [Accepts, hc] using ha, ?_⟩
      simp [hf, Except.map, noted_eq, marked, hc, ofFixedKind]
    · exact Or.inr ⟨by simpa [Accepts, hc] using ha, e, by simp [hf, Except.map]⟩
  | none =>
    cases hk : q.kind with
    | some kind =>
      by_cases h : clause.fits kind
      · refine Or.inl ⟨by simpa [Accepts, hc, hk] using h, ?_⟩
        simp [h, Except.map, noted_eq, marked, hc]
      · exact Or.inr ⟨by simpa [Accepts, hc, hk] using h, _, by simp [h, Except.map]; rfl⟩
    | none =>
      refine Or.inl ⟨by simp [Accepts, hc, hk], ?_⟩
      simp [Except.map, noted_eq, marked, hc]

lemma ofKind_cases (q : Query) (kind : StatementKind) :
    (q.Admits kind ∧ q.ofKind kind = q.ofFixedKind kind) ∨
      (¬ q.Admits kind ∧ ∃ e, q.ofKind kind = q.fail e) := by
  rcases q.fix_cases kind with ⟨ha, hf⟩ | ⟨ha, e, hf⟩
  · exact Or.inl ⟨ha, by simp [ofKind, proceed, hf]⟩
  · exact Or.inr ⟨ha, e, by simp [ofKind, proceed, hf]⟩

lemma withClause_cases (q : Query) (clause : Clause) (next : Query → Query) :
    (q.Accepts clause ∧ q.withClause clause next = next (q.marked clause)) ∨
      (¬ q.Accepts clause ∧ ∃ e, q.withClause clause next = q.fail e) := by
  rcases q.allow_cases clause with ⟨ha, hf⟩ | ⟨ha, e, hf⟩
  · exact Or.inl ⟨ha, by simp [withClause, proceed, hf]⟩
  · exact Or.inr ⟨ha, e, by simp [withClause, proceed, hf]⟩

/-! ## Entries -/

/-- What is entered into a clause at once. -/
inductive Entry where
  | select (columns : List String)
  | assign (column : String) (slot : Slot)
  | row (cells : Columns Slot)
  | join (j : Join)
  | filter (newGroup : Bool) (items : List Condition)
  | groupBy (item : OrderItem)
  | having (newGroup : Bool) (items : List Condition)
  | orderBy (item : OrderItem)
  | limit (bound : Bound)
  | offset (bound : Bound)

namespace Entry

def clause : Entry → Clause
  | .select _ => .select
  | .assign .. => .set
  | .row _ => .values
  | .join _ => .join
  | .filter .. => .filter
  | .groupBy _ => .groupBy
  | .having .. => .having
  | .orderBy _ => .orderBy
  | .limit _ => .limit
  | .offset _ => .offset

def enter : Entry → Query → Query
  | .select columns, q => { q with selectList := q.selectList ++ columns }
  | .assign column slot, q => { q with assignments := q.assignments.put column slot }
  | .row cells, q => { q with insertRows := q.insertRows ++ [cells] }
  | .join j, q => { q with joins := q.joins ++ [j] }
  | .filter newGroup items, q => { q with filters := q.filters.add newGroup items }
  | .groupBy item, q => { q with groupBy := q.groupBy ++ [item] }
  | .having newGroup items, q => { q with having := q.having.add newGroup items }
  | .orderBy item, q => { q with orderBy := q.orderBy ++ [item] }
  | .limit bound, q => { q with limit := some bound }
  | .offset bound, q => { q with offset := some bound }

/-- A row needs the columns of the first row; other entries fit anywhere. -/
def Fits : Entry → Query → Prop
  | .row cells, q =>
    ∀ first ∈ q.insertRows.head?, ∀ column ∈ first.names, (cells.get? column).isSome
  | _, _ => True

end Entry

/-! ## The content of one clause -/

/-- The clause alone, in a query that holds nothing else. -/
def only (q : Query) : Clause → Query
  | .select => { selectList := q.selectList }
  | .set => { assignments := q.assignments }
  | .values => { insertRows := q.insertRows }
  | .join => { joins := q.joins }
  | .filter => { filters := q.filters }
  | .groupBy => { groupBy := q.groupBy }
  | .having => { having := q.having }
  | .orderBy => { orderBy := q.orderBy }
  | .limit => { limit := q.limit }
  | .offset => { offset := q.offset }

lemma only_marked (q : Query) (used clause : Clause) :
    (q.marked used).only clause = q.only clause := by
  cases clause <;> rfl

lemma only_ofFixedKind (q : Query) (kind : StatementKind) (clause : Clause) :
    (q.ofFixedKind kind).only clause = q.only clause := by
  cases clause <;> rfl

lemma only_fail (q : Query) (e : Error) (clause : Clause) :
    (q.fail e).only clause = q.only clause := by
  cases clause <;> rfl

namespace Entry

lemma only_enter_self (entry : Entry) (q : Query) :
    (entry.enter q).only entry.clause = entry.enter (q.only entry.clause) := by
  cases entry <;> rfl

/-- An entry leaves every other clause as it is. -/
lemma only_enter_of_ne (entry : Entry) (q : Query) {clause : Clause} (h : entry.clause ≠ clause) :
    (entry.enter q).only clause = q.only clause := by
  cases entry <;> cases clause <;> first | rfl | exact absurd rfl h

end Entry

/-! ## What a call enters -/

/-- The row that an INSERT call makes of its pairs. -/
def rowOf (pairs : List (String × Slot)) : Columns Slot :=
  Columns.collect (pairs.map fun (column, slot) => (column, slot.normalize))

/-- The entries of the conditions of a filter; a malformed filter has none. -/
def conditionEntries (entry : List Condition → Entry) (f : Filter) : List Entry :=
  match f.conditions with
  | .ok items => [entry items]
  | .error _ => []

/-- What a call enters if nothing goes wrong. -/
def Call.entries : Call → List Entry
  | .select columns => [.select columns]
  | .selectAll | .update | .delete => []
  | .set column slot => [.assign column slot.normalize]
  | .setAll pairs => pairs.map fun (column, slot) => .assign column slot.normalize
  | .insert rows => rows.map fun pairs => .row (rowOf pairs)
  | .join j => [.join j]
  | .filter newGroup f => conditionEntries (.filter newGroup) f
  | .having newGroup f => conditionEntries (.having newGroup) f
  | .groupBy items => items.map .groupBy
  | .orderBy items => items.map .orderBy
  | .limit bound => [.limit bound]
  | .offset bound => [.offset bound]

/-! ## Steps -/

/-- One step, which enters nothing but entries of a list. -/
inductive Step (entries : List Entry) : Query → Query → Prop where
  | fail (q : Query) (e : Error) : Step entries q (q.fail e)
  | fix {q : Query} {kind : StatementKind} (admits : q.Admits kind) :
      Step entries q (q.ofFixedKind kind)
  | mark {q : Query} {clause : Clause} (accepts : q.Accepts clause) :
      Step entries q (q.marked clause)
  | enter {q : Query} {entry : Entry} (mem : entry ∈ entries) (used : entry.clause ∈ q.used)
      (fits : entry.Fits q) : Step entries q (entry.enter q)

abbrev Steps (entries : List Entry) : Query → Query → Prop :=
  Relation.ReflTransGen (Step entries)

lemma Step.mono {entries more : List Entry} (h : entries ⊆ more) {q r : Query}
    (step : Step entries q r) : Step more q r := by
  cases step with
  | fail e => exact .fail q e
  | fix admits => exact .fix admits
  | mark accepts => exact .mark accepts
  | enter mem used fits => exact .enter (h mem) used fits

lemma Steps.mono {entries more : List Entry} (h : entries ⊆ more) {q r : Query}
    (steps : Steps entries q r) : Steps more q r :=
  steps.lift id fun _ _ => Step.mono h

variable {entries : List Entry}

lemma steps_withClause (q : Query) (clause : Clause) (next : Query → Query)
    (h : clause ∈ (q.marked clause).used →
      Steps entries (q.marked clause) (next (q.marked clause))) :
    Steps entries q (q.withClause clause next) := by
  rcases q.withClause_cases clause next with ⟨ha, hq⟩ | ⟨_, e, hq⟩
  · rw [hq]
    exact .head (.mark ha) (h ((mem_used_marked q clause clause).mpr (Or.inr rfl)))
  · rw [hq]
    exact .single (.fail q e)

lemma steps_ofKind (q : Query) (kind : StatementKind) :
    Steps entries q (q.ofKind kind) := by
  rcases q.ofKind_cases kind with ⟨ha, hq⟩ | ⟨_, e, hq⟩
  · exact hq ▸ .single (.fix ha)
  · exact hq ▸ .single (.fail q e)

/-- A call that enters one thing into its clause. -/
lemma steps_enter (q : Query) (entry : Entry) (mem : entry ∈ entries)
    (fits : entry.Fits (q.marked entry.clause)) :
    Steps entries q (q.withClause entry.clause entry.enter) :=
  q.steps_withClause _ _ fun used => .single (.enter mem used fits)

lemma steps_foldl {α : Type} (f : Query → α → Query) (items : List α) (q : Query)
    (h : ∀ r, ∀ a ∈ items, Steps entries r (f r a)) : Steps entries q (items.foldl f q) := by
  induction items generalizing q with
  | nil => exact .refl
  | cons a items ih =>
    have first := h q a List.mem_cons_self
    exact first.trans (ih (f q a) fun r b hb => h r b (List.mem_cons_of_mem a hb))

lemma addRow_cases (q : Query) (cells : Columns Slot) :
    ((Entry.row cells).Fits q ∧ q.addRow cells = .ok ((Entry.row cells).enter q)) ∨
      (¬ (Entry.row cells).Fits q ∧ ∃ e, q.addRow cells = .error e) := by
  cases hm : q.insertRows.head?.bind fun first =>
      first.names.find? fun column => (cells.get? column).isNone with
  | some column =>
    obtain ⟨first, hf, hc⟩ := Option.bind_eq_some_iff.mp hm
    have lacks := List.find?_some hc
    refine Or.inr ⟨fun fits => ?_, by simp [addRow, hm]⟩
    have has := fits first hf column (List.mem_of_find?_eq_some hc)
    rw [Option.isSome_iff_ne_none] at has
    exact has (by simpa using lacks)
  | none =>
    refine Or.inl ⟨?_, by simp [addRow, hm, Entry.enter]⟩
    intro first hf column hc
    rw [Option.bind_eq_none_iff] at hm
    have has := List.find?_eq_none.mp (hm first hf) column hc
    simpa [Option.isSome_iff_ne_none] using has

lemma addRows_cons (q : Query) (pairs : List (String × Slot))
    (rest : List (List (String × Slot))) :
    q.addRows (pairs :: rest) = q.proceed (q.addRow (rowOf pairs)) fun q => q.addRows rest := rfl

lemma steps_addRows (rows : List (List (String × Slot))) (q : Query) (used : .values ∈ q.used)
    (mem : ∀ pairs ∈ rows, .row (rowOf pairs) ∈ entries) :
    Steps entries q (q.addRows rows) := by
  induction rows generalizing q with
  | nil => exact .refl
  | cons pairs rest ih =>
    rcases q.addRow_cases (rowOf pairs) with ⟨fits, hr⟩ | ⟨_, e, hr⟩
    · have step : Step entries q ((Entry.row (rowOf pairs)).enter q) :=
        .enter (mem pairs List.mem_cons_self) used fits
      have tail := ih ((Entry.row (rowOf pairs)).enter q) used
        fun p hp => mem p (List.mem_cons_of_mem pairs hp)
      simpa only [addRows_cons, proceed, hr] using tail.head step
    · simpa only [addRows_cons, proceed, hr] using .single (.fail q e)

lemma steps_addConditions (q : Query) (entry : List Condition → Entry) {clause : Clause}
    (hc : ∀ items, (entry items).clause = clause) (fits : ∀ items r, (entry items).Fits r)
    (f : Filter) (mem : conditionEntries entry f ⊆ entries) :
    Steps entries q (q.addConditions clause f fun items => (entry items).enter) := by
  refine q.steps_withClause clause _ fun used => ?_
  cases hf : f.conditions with
  | ok items =>
    have hm : entry items ∈ entries := mem (by simp [conditionEntries, hf])
    exact .single (.enter hm (by rwa [hc]) (fits items _))
  | error fault => exact .single (.fail _ _)

/-- All that a call can do. -/
theorem steps_call (q : Query) (c : Call) : Steps c.entries q (q.call c) := by
  cases c with
  | select columns =>
    exact q.steps_enter (.select columns) List.mem_cons_self trivial
  | selectAll => exact q.steps_withClause _ _ fun _ => .refl
  | update => exact q.steps_ofKind _
  | delete => exact q.steps_ofKind _
  | set column slot =>
    exact q.steps_enter (.assign column slot.normalize) List.mem_cons_self trivial
  | setAll pairs =>
    refine (q.steps_ofKind _).trans (steps_foldl _ pairs _ ?_)
    rintro r ⟨column, slot⟩ hp
    exact r.steps_enter (.assign column slot.normalize)
      (List.mem_map.mpr ⟨(column, slot), hp, rfl⟩) trivial
  | insert rows =>
    refine q.steps_withClause _ _ fun used => steps_addRows rows _ used ?_
    exact fun pairs hp => List.mem_map.mpr ⟨pairs, hp, rfl⟩
  | join j => exact q.steps_enter (.join j) List.mem_cons_self trivial
  | filter newGroup f =>
    exact q.steps_addConditions (.filter newGroup) (fun _ => rfl) (fun _ _ => trivial) f
      (List.Subset.refl _)
  | having newGroup f =>
    exact q.steps_addConditions (.having newGroup) (fun _ => rfl) (fun _ _ => trivial) f
      (List.Subset.refl _)
  | groupBy items =>
    refine steps_foldl _ items q fun r item hi => ?_
    exact r.steps_enter (.groupBy item) (List.mem_map_of_mem hi) trivial
  | orderBy items =>
    refine steps_foldl _ items q fun r item hi => ?_
    exact r.steps_enter (.orderBy item) (List.mem_map_of_mem hi) trivial
  | limit bound => exact q.steps_enter (.limit bound) List.mem_cons_self trivial
  | offset bound => exact q.steps_enter (.offset bound) List.mem_cons_self trivial

/-! ## Runs -/

/-- The query that calls make of nothing but a target. -/
def built (target : Target) (cs : List Call) : Query :=
  calls { target := target } cs

/-- All that a run can do. -/
theorem steps_calls (cs : List Call) (q : Query) :
    Steps (cs.flatMap Call.entries) q (q.calls cs) := by
  refine steps_foldl call cs q fun r c hc => (r.steps_call c).mono ?_
  intro entry he
  exact List.mem_flatMap.mpr ⟨c, hc, he⟩

/-- What holds at the start and is kept by every step holds after every run. -/
theorem calls_induction {P : Query → Prop} (cs : List Call) {q : Query} (start : P q)
    (step : ∀ r r', Step (cs.flatMap Call.entries) r r' → P r → P r') : P (q.calls cs) := by
  have run (r : Query) (steps : Steps (cs.flatMap Call.entries) q r) : P r := by
    induction steps with
    | refl => exact start
    | tail _ last ih => exact step _ _ last ih
  exact run _ (steps_calls cs q)

/-- No call changes what a query runs against. -/
lemma target_built (target : Target) (cs : List Call) : (built target cs).target = target := by
  refine calls_induction (P := fun q => q.target = target) cs rfl fun r r' step same => ?_
  cases step with
  | fail e => exact same
  | fix => exact same
  | mark => exact same
  | @enter entry => cases entry <;> exact same

end Clausal.Query
