import Clausal.Proofs.Failure
import Clausal.Proofs.Query.Building
import Clausal.Query.Prepare

/-!
# The kind of a statement and its clauses

Preparing writes every clause that has content and never looks whether the kind allows it. It need
not: a clause has content only after its use was allowed, and the clauses used always fit the kind.
This holds after every step, so also after the calls that follow an error.
-/

namespace Clausal.Query

open Sql

/-- The clause has content. -/
def Has (q : Query) : Clause → Prop
  | .select => q.selectList ≠ []
  | .set => q.assignments ≠ []
  | .values => q.insertRows ≠ []
  | .join => q.joins ≠ []
  | .filter => q.filters.isEmpty = false
  | .groupBy => q.groupBy ≠ []
  | .having => q.having.isEmpty = false
  | .orderBy => q.orderBy ≠ []
  | .limit => q.limit ≠ none
  | .offset => q.offset ≠ none

lemma has_only (q : Query) (clause : Clause) : (q.only clause).Has clause ↔ q.Has clause := by
  cases clause <;> rfl

lemma Has.congr {q r : Query} {clause : Clause} (h : q.Has clause)
    (same : q.only clause = r.only clause) : r.Has clause := by
  rw [← has_only] at h ⊢
  rwa [← same]

/-- The clauses used fit the kind; without a kind they are open to several. -/
structure Consistent (q : Query) : Prop where
  fits : ∀ kind ∈ q.kind, ∀ clause ∈ q.used, clause.fits kind
  free : q.kind = none → ∀ clause ∈ q.used, clause.fixedKind? = none

/-- Only clauses that were used have content. -/
def Listed (q : Query) : Prop :=
  ∀ clause, q.Has clause → clause ∈ q.used

lemma fits_fixedKind {clause : Clause} {kind : StatementKind} (h : clause.fixedKind? = some kind) :
    clause.fits kind := by
  simp [Clause.fits, h]

lemma eq_of_fits {clause : Clause} {fixed kind : StatementKind}
    (h : clause.fixedKind? = some fixed) (hf : clause.fits kind) : fixed = kind := by
  simpa [Clause.fits, h] using hf

/-! ## Steps -/

namespace Consistent

variable {q : Query}

lemma ofFixedKind (h : q.Consistent) {kind : StatementKind} (admits : q.Admits kind) :
    (q.ofFixedKind kind).Consistent where
  fits := by
    rintro _ ⟨⟩
    cases hk : q.kind with
    | some current =>
      have same : current = kind := by simpa [Admits, hk] using admits
      exact same ▸ h.fits current hk
    | none => exact (by simpa [Admits, hk] using admits : ∀ clause ∈ q.used, clause.fits kind)
  free := nofun

lemma marked (h : q.Consistent) {clause : Clause} (accepts : q.Accepts clause) :
    (q.marked clause).Consistent := by
  cases hc : clause.fixedKind? with
  | some fixed =>
    have admits : q.Admits fixed := by simpa [Accepts, hc] using accepts
    have kind : (q.marked clause).kind = some fixed := by simp [Query.marked, hc]
    refine ⟨fun k hk other ho => ?_, fun hk => by simp [kind] at hk⟩
    obtain rfl : fixed = k := Option.some.inj (kind.symm.trans hk)
    rcases (mem_used_marked q clause other).mp ho with ho | rfl
    · exact (h.ofFixedKind admits).fits fixed rfl other ho
    · exact fits_fixedKind hc
  | none =>
    have kind : (q.marked clause).kind = q.kind := by simp [Query.marked, hc]
    refine ⟨fun k hk other ho => ?_, fun hk other ho => ?_⟩
    · rw [kind] at hk
      rcases (mem_used_marked q clause other).mp ho with ho | rfl
      · exact h.fits k hk other ho
      · exact (by simpa [Accepts, hc] using accepts : ∀ k ∈ q.kind, other.fits k) k hk
    · rw [kind] at hk
      rcases (mem_used_marked q clause other).mp ho with ho | rfl
      · exact h.free hk other ho
      · exact hc

end Consistent

/-- An entry keeps the kind and the clauses used. -/
lemma Entry.kind_enter (entry : Entry) (q : Query) :
    (entry.enter q).kind = q.kind ∧ (entry.enter q).used = q.used := by
  cases entry <;> exact ⟨rfl, rfl⟩

lemma Consistent.enter {q : Query} (h : q.Consistent) (entry : Entry) :
    (entry.enter q).Consistent := by
  obtain ⟨kind, used⟩ := entry.kind_enter q
  constructor
  · rw [kind, used]
    exact h.fits
  · rw [kind, used]
    exact h.free

lemma Listed.enter {q : Query} (h : q.Listed) {entry : Entry} (used : entry.clause ∈ q.used) :
    (entry.enter q).Listed := by
  intro clause has
  rw [(entry.kind_enter q).2]
  by_cases hc : entry.clause = clause
  · exact hc ▸ used
  · exact h clause (has.congr (entry.only_enter_of_ne q hc))

variable {entries : List Entry} {q r : Query}

lemma Consistent.step (h : q.Consistent) (step : Step entries q r) : r.Consistent := by
  cases step with
  | fail e => exact ⟨h.fits, h.free⟩
  | fix admits => exact h.ofFixedKind admits
  | mark accepts => exact h.marked accepts
  | enter _ _ _ => exact h.enter _

lemma Listed.step (h : q.Listed) (step : Step entries q r) : r.Listed := by
  cases step with
  | fail e => exact fun clause has => h clause (has.congr (q.only_fail e clause))
  | fix _ => exact fun clause has => h clause (has.congr (q.only_ofFixedKind _ clause))
  | @mark used _ =>
    intro clause has
    have before := h clause (has.congr (q.only_marked used clause))
    exact (mem_used_marked q used clause).mpr (Or.inl before)
  | enter _ used _ => exact h.enter used

/-- A fixed kind stays. -/
lemma kind_step (step : Step entries q r) {kind : StatementKind} (h : q.kind = some kind) :
    r.kind = some kind := by
  cases step with
  | fail e => exact h
  | @fix fixed admits =>
    have same : kind = fixed := by simpa [Admits, h] using admits
    exact same ▸ rfl
  | @mark clause accepts =>
    cases hc : clause.fixedKind? with
    | some fixed =>
      have same : kind = fixed := by simpa [Accepts, Admits, hc, h] using accepts
      simp [marked, hc, same]
    | none => simpa [marked, hc] using h
  | @enter entry _ _ _ => exact (entry.kind_enter q).1.trans h

/-! ## Runs -/

lemma consistent_built (target : Target) (cs : List Call) : (built target cs).Consistent :=
  calls_induction cs ⟨nofun, fun _ => List.forall_mem_nil _⟩ fun _ _ step h => h.step step

lemma listed_built (target : Target) (cs : List Call) : (built target cs).Listed := by
  refine calls_induction cs ?_ fun _ _ step h => h.step step
  intro clause has
  cases clause <;> simp [Has, ConditionTree.isEmpty, ConditionTree.filled] at has

lemma kind_calls (q : Query) (cs : List Call) {kind : StatementKind} (h : q.kind = some kind) :
    (q.calls cs).kind = some kind :=
  calls_induction (P := fun r => r.kind = some kind) cs h fun _ _ step => kind_step step

/-- What a clause with content says about the kind. -/
lemma kind_of_has (hc : q.Consistent) (hl : q.Listed) {clause : Clause} (has : q.Has clause) :
    (∀ fixed, clause.fixedKind? = some fixed → q.kind = some fixed) ∧
      (clause.fixedKind? = none → q.kind ≠ some .insert) := by
  have used := hl clause has
  refine ⟨fun fixed hf => ?_, fun hf hk => ?_⟩
  · cases hk : q.kind with
    | none =>
      have free := hc.free hk clause used
      rw [hf] at free
      cases free
    | some kind => rw [eq_of_fits hf (hc.fits kind hk clause used)]
  · have fit := hc.fits .insert hk clause used
    simp [Clause.fits, hf] at fit

/-! ## Preparing by kind -/

/-- The clauses of a statement, where each kind has clauses of its own. -/
def clausesOfKind (q : Query) : Except Error (List (List Piece)) := do
  q.requireClauses
  let head ← q.headPieces
  let filters := conditionPieces "WHERE " q.filters
  let groups := clausePieces "GROUP BY " ", " (q.groupBy.map OrderItem.pieces)
  let having := conditionPieces "HAVING " q.having
  let order := clausePieces "ORDER BY " ", " (q.orderBy.map OrderItem.pieces)
  match q.kindOrSelect with
  | .select =>
    let joins ← q.joinPieces
    return head ++ joins ++ filters ++ groups ++ having ++ order ++ q.boundPieces
  | .insert => return head ++ (← q.valuesPieces)
  | .update => return head ++ q.setPieces ++ filters ++ order ++ q.boundPieces
  | .delete => return head ++ filters ++ order ++ q.boundPieces

def prepareOfKind (q : Query) : Except Error Preparation := do
  q.validate
  return ⟨q.kindOrSelect, Piece.join " \n" (← q.clausesOfKind)⟩

section Empty

variable {q : Query}

lemma setPieces_of_not_has (h : ¬ q.Has .set) : q.setPieces = [] := by
  have empty : q.assignments = [] := not_not.mp h
  rw [setPieces, empty]
  rfl

lemma valuesPieces_of_not_has (h : ¬ q.Has .values) : q.valuesPieces = .ok [] := by
  have empty : q.insertRows = [] := not_not.mp h
  rw [valuesPieces, empty]

lemma joinPieces_of_not_has (h : ¬ q.Has .join) : q.joinPieces = .ok [] := by
  have empty : q.joins = [] := not_not.mp h
  rw [joinPieces, empty]
  rfl

lemma conditionPieces_of_empty {tree : ConditionTree} (h : ¬ tree.isEmpty = false)
    (start : String) : conditionPieces start tree = [] := by
  rw [conditionPieces, if_pos ((Bool.not_eq_false _).mp h)]

lemma orderPieces_of_empty {items : List OrderItem} (h : ¬ items ≠ []) (start : String) :
    clausePieces start ", " (items.map OrderItem.pieces) = [] := by
  rw [not_not.mp h]
  rfl

lemma boundPieces_of_not_has (hl : ¬ q.Has .limit) (ho : ¬ q.Has .offset) : q.boundPieces = [] := by
  have limit : q.limit = none := not_not.mp hl
  have offset : q.offset = none := not_not.mp ho
  rw [boundPieces, limit, offset]
  rfl

/-- A clause that does not fit the kind has no content. -/
lemma not_has_of_misfit (hc : q.Consistent) (hl : q.Listed) {clause : Clause}
    (h : clause.fits q.kindOrSelect = false) : ¬ q.Has clause := by
  intro has
  obtain ⟨fixed, free⟩ := kind_of_has hc hl has
  cases hf : clause.fixedKind? with
  | some kind =>
    simp [Clause.fits, hf, kindOrSelect, fixed kind hf] at h
  | none =>
    have insert : q.kindOrSelect = .insert := by simpa [Clause.fits, hf] using h
    cases hk : q.kind with
    | none => simp [kindOrSelect, hk] at insert
    | some kind =>
      obtain rfl : kind = .insert := by simpa [kindOrSelect, hk] using insert
      exact free hf hk

end Empty

/-- Preparing writes the clauses of the kind and no others. -/
theorem prepare_eq_prepareOfKind {q : Query} (hc : q.Consistent) (hl : q.Listed) :
    q.prepare = q.prepareOfKind := by
  have absent (clause : Clause) (h : clause.fits q.kindOrSelect = false) : ¬ q.Has clause :=
    not_has_of_misfit hc hl h
  have same : q.clauses = q.clausesOfKind := by
    simp only [clauses, clausesOfKind]
    cases hk : q.kindOrSelect with
    | select =>
      rw [hk] at absent
      rw [setPieces_of_not_has (absent _ rfl), valuesPieces_of_not_has (absent _ rfl)]
      simp [bind, Except.bind]
    | insert =>
      rw [hk] at absent
      rw [setPieces_of_not_has (absent _ rfl), joinPieces_of_not_has (absent _ rfl),
        conditionPieces_of_empty (absent .filter rfl), orderPieces_of_empty (absent .groupBy rfl),
        conditionPieces_of_empty (absent .having rfl), orderPieces_of_empty (absent .orderBy rfl),
        boundPieces_of_not_has (absent _ rfl) (absent _ rfl)]
      simp [bind, Except.bind]
    | update =>
      rw [hk] at absent
      rw [valuesPieces_of_not_has (absent _ rfl), joinPieces_of_not_has (absent _ rfl),
        orderPieces_of_empty (absent .groupBy rfl), conditionPieces_of_empty (absent .having rfl)]
      simp [bind, Except.bind]
    | delete =>
      rw [hk] at absent
      rw [setPieces_of_not_has (absent _ rfl), valuesPieces_of_not_has (absent _ rfl),
        joinPieces_of_not_has (absent _ rfl), orderPieces_of_empty (absent .groupBy rfl),
        conditionPieces_of_empty (absent .having rfl)]
      simp [bind, Except.bind]
  rw [prepare, prepareOfKind, same]

/-! ## The state machine -/

/-- After any calls, those made after an error included: a fixed kind stays, a clause with content
tells the kind, only clauses open to several kinds are used before the kind is fixed, and what is
prepared consists of the clauses of the kind. -/
theorem kind_machine (target : Target) (cs later : List Call) :
    (∀ kind, (built target cs).kind = some kind →
        (built target (cs ++ later)).kind = some kind) ∧
      ((built target cs).selectList ≠ [] ∨ (built target cs).joins ≠ [] ∨
          (built target cs).groupBy ≠ [] ∨ (built target cs).having.isEmpty = false →
        (built target cs).kind = some .select) ∧
      ((built target cs).assignments ≠ [] → (built target cs).kind = some .update) ∧
      ((built target cs).insertRows ≠ [] → (built target cs).kind = some .insert) ∧
      ((built target cs).filters.isEmpty = false ∨ (built target cs).orderBy ≠ [] ∨
          (built target cs).limit ≠ none ∨ (built target cs).offset ≠ none →
        (built target cs).kind ≠ some .insert) ∧
      ((built target cs).kind = none →
        ∀ clause ∈ (built target cs).used, clause ∈ [.filter, .orderBy, .limit, .offset]) ∧
      (built target cs).prepare = (built target cs).prepareOfKind := by
  have consistent := consistent_built target cs
  have tells (clause : Clause) (has : (built target cs).Has clause) :=
    kind_of_has consistent (listed_built target cs) has
  refine ⟨fun kind hk => ?_, ?_, ?_, ?_, ?_, ?_, ?_⟩
  · have run : built target (cs ++ later) = (built target cs).calls later := List.foldl_append
    rw [run]
    exact kind_calls _ later hk
  · rintro (has | has | has | has)
    · exact (tells .select has).1 .select rfl
    · exact (tells .join has).1 .select rfl
    · exact (tells .groupBy has).1 .select rfl
    · exact (tells .having has).1 .select rfl
  · exact fun has => (tells .set has).1 .update rfl
  · exact fun has => (tells .values has).1 .insert rfl
  · rintro (has | has | has | has)
    · exact (tells .filter has).2 rfl
    · exact (tells .orderBy has).2 rfl
    · exact (tells .limit has).2 rfl
    · exact (tells .offset has).2 rfl
  · intro hk clause used
    have free := consistent.free hk clause used
    cases clause <;> first | decide | cases free
  · exact prepare_eq_prepareOfKind consistent (listed_built target cs)

end Clausal.Query
