import Clausal.Proofs.Condition
import Clausal.Proofs.Database.Running
import Clausal.Proofs.Finder.Grouping
import Clausal.Proofs.Finder.Naming
import Clausal.Proofs.Record.Casting
import Clausal.Proofs.Sql.Rendering

/-!
# Applying finders

A finder compares its columns with the arguments in order. Columns are grouped by AND in the name
and conditions by OR in the query, and the two groupings cut at complementary places: a column that
begins a group of the name joins the group of conditions before it, and every other column begins a
new one.
-/

namespace Clausal

namespace Finder

open Query Sql

/-! ## The condition of a column -/

/-- NULL is written out and compared by `IS`; any other argument is bound. -/
def compared (column : String) : Value → Condition
  | .null => .compare (.name column) "IS" .null
  | value => .compare (.name column) "=" (.bound value)

/-- What stands behind the column. -/
def comparison : Value → String
  | .null => " IS NULL"
  | .list items => " = (" ++ ", ".intercalate (items.map fun _ => "%s") ++ ")"
  | _ => " = %s"

/-- The values that the condition binds: none for NULL and each member of a list. -/
def boundBy : Value → List Value
  | .null => []
  | .list items => items
  | value => [value]

lemma eq_compared_of_checkComparison {column : String} {value : Value} {item : Condition}
    (h : Filter.checkComparison (.name column) none (.bound value) = .ok item) :
    item = compared column value := by
  simp only [Filter.checkComparison] at h
  split at h
  · cases h
  · split at h
    · cases h
    · split at h
      · cases h
      · obtain rfl := Except.ok.inj h
        cases value <;> rfl

lemma arguments_compared (column : String) (value : Value) :
    arguments (compared column value).pieces = boundBy value := by
  cases value with
  | list items =>
    have members : (items.map fun v => [Piece.value v]).flatMap arguments = items := by
      rw [List.flatMap_map]
      exact List.flatMap_singleton' items
    simp [compared, Condition.pieces, arguments_join, members, boundBy, Piece.args]
  | _ => rfl

lemma template_compared (column : String) (value : Value) :
    template (compared column value).pieces = quoteName column ++ comparison value := by
  cases value with
  | list items =>
    have places : (items.map fun v => [Piece.value v]).map template = items.map fun _ => "%s" := by
      rw [List.map_map]
      rfl
    simp only [compared, Condition.pieces, comparison, ← places, ← template_join]
    rw [template_text_cons, template_append, template_text_cons]
    simp [template, ColumnRef.sql, String.append_assoc]
  | _ => simp [compared, Condition.pieces, comparison, template, Piece.template, ColumnRef.sql,
      Slot.piece, Slot.null, String.append_assoc]

/-! ## Adding conditions -/

/-- What adding conditions leaves alone; the only new errors are those of conditions. -/
structure Extends (q r : Query) : Prop where
  frame : r = { q with filters := r.filters, used := r.used, error := r.error }
  valid : r.error = none → q.error = none
  fault : ∀ e, r.error = some e → q.error = some e ∨ ∃ fault, e = .malformedCondition fault

namespace Extends

variable {q r r' : Query}

lemma refl (q : Query) : Extends q q := ⟨rfl, id, fun _ => Or.inl⟩

lemma trans (h : Extends q r) (h' : Extends r r') : Extends q r' where
  frame := by rw [h'.frame, h.frame]
  valid valid := h.valid (h'.valid valid)
  fault e found := (h'.fault e found).elim (h.fault e) Or.inr

lemma kind (h : Extends q r) : r.kind = q.kind := by rw [h.frame]

end Extends

section Conditions

variable {q : Query} (selects : q.kind = some .select) (newGroup : Bool)

include selects

lemma extends_addFilter (column : String) (value : Value) :
    let r := q.addFilter newGroup (.compare (.name column) none (.bound value))
    Extends q r ∧
      (r.error = none → r.filters = q.filters.add newGroup [compared column value]) := by
  have accepts : q.Accepts .filter := by
    intro kind found
    obtain rfl := Option.some.inj (selects.symm.trans found)
    rfl
  rw [addFilter, addConditions, Filter.conditions]
  rcases q.withClause_cases .filter _ with ⟨_, added⟩ | ⟨refused, _⟩
  · rw [added]
    cases checked : Filter.checkComparison (.name column) none (.bound value) with
    | ok item =>
      rw [eq_compared_of_checkComparison checked]
      exact ⟨⟨rfl, id, fun _ => Or.inl⟩, fun _ => rfl⟩
    | error fault =>
      refine ⟨⟨rfl, fun valid => absurd valid (error_fail _ _), fun e found => ?_⟩,
        fun valid => absurd valid (error_fail _ _)⟩
      rcases Option.or_eq_some_iff.mp found with before | ⟨_, added⟩
      · exact Or.inl before
      · exact Or.inr ⟨fault, (Option.some.inj added).symm⟩
  · exact absurd accepts refused

lemma extends_applyGroup (group : List String) (args : List Value) :
    Extends q (applyGroup q newGroup group args).1 := by
  induction group generalizing q newGroup args with
  | nil => exact .refl q
  | cons column columns ih =>
    have first := (extends_addFilter selects newGroup column (args.head?.getD .null)).1
    exact first.trans (ih (first.kind.trans selects) true args.tail)

omit selects in
lemma rest_applyGroup (q : Query) (group : List String) (args : List Value) :
    (applyGroup q newGroup group args).2 = args.drop group.length := by
  induction group generalizing q newGroup args with
  | nil => rfl
  | cons column columns ih =>
    rw [applyGroup, ih, List.length_cons, ← List.drop_one, List.drop_drop, Nat.add_comm]

lemma extends_applyGroups (groups : List (List String)) (args : List Value) :
    Extends q (applyGroups q args groups) := by
  induction groups generalizing q args with
  | nil => exact .refl q
  | cons group groups ih =>
    have first := extends_applyGroup selects false group args
    exact first.trans (ih (first.kind.trans selects) _)

end Conditions

/-! ## Columns and arguments -/

/-- The tree compares these columns with these arguments and groups them in the complementary
way. -/
structure Placed (columns : List (List String)) (args : List Value) (tree : ConditionTree) :
    Prop where
  compared : tree.groups.flatten = List.zipWith compared columns.flatten args
  grouped : Complements columns tree.groups
  taken : args.length = columns.flatten.length

namespace Placed

variable {columns : List (List String)} {group : List String} {args : List Value}
  {tree : ConditionTree}

/-- One more column and its argument, wherever the condition is put. -/
lemma of_flatten {columns' : List (List String)} {tree' : ConditionTree}
    (h : Placed columns args tree) (column : String) (value : Value)
    (flat : columns'.flatten = columns.flatten ++ [column])
    (added : tree'.groups.flatten = tree.groups.flatten ++ [Finder.compared column value])
    (grouped : Complements columns' tree'.groups) : Placed columns' (args ++ [value]) tree' where
  compared := by
    rw [added, flat, List.zipWith_append h.taken.symm, h.compared]
    rfl
  grouped := grouped
  taken := by rw [flat, List.length_append, List.length_append, h.taken]; rfl

/-- The first column of a group joins the current group of conditions. -/
lemma join (h : Placed columns args tree) (column : String) (value : Value) :
    Placed (columns ++ [[column]]) (args ++ [value])
      (tree.add false [Finder.compared column value]) := by
  obtain ⟨groups⟩ := tree
  rcases List.eq_nil_or_concat groups with rfl | ⟨groups, last, rfl⟩
  · obtain rfl := h.grouped.columns_eq_nil
    exact h.of_flatten column value rfl rfl (.single column _)
  · rw [List.concat_eq_append] at h ⊢
    rw [ConditionTree.add_concat]
    exact h.of_flatten column value (by simp) (by simp) (h.grouped.join column _)

/-- Any other column begins a new group of conditions. -/
lemma next (h : Placed (columns ++ [group]) args tree) (column : String) (value : Value) :
    Placed (columns ++ [group ++ [column]]) (args ++ [value])
      (tree.add true [Finder.compared column value]) := by
  rw [ConditionTree.add_opening]
  exact h.of_flatten column value (by simp) (by simp) (h.grouped.next column _)

end Placed

lemma placed_nil : Placed [] [] {} := ⟨rfl, .nil, rfl⟩

section Runs

variable {q : Query} (selects : q.kind = some .select)

include selects

lemma placed_further {columns : List (List String)} {group more : List String}
    {done args : List Value} (h : Placed (columns ++ [group]) done q.filters)
    (enough : more.length ≤ args.length) (valid : (applyGroup q true more args).1.error = none) :
    Placed (columns ++ [group ++ more]) (done ++ args.take more.length)
      (applyGroup q true more args).1.filters := by
  induction more generalizing q group done args with
  | nil => simpa [applyGroup] using h
  | cons column more ih =>
    obtain ⟨value, args, rfl⟩ := List.exists_cons_of_length_pos (Nat.zero_lt_of_lt enough)
    obtain ⟨extended, stored⟩ := extends_addFilter selects true column value
    have later := extended.kind.trans selects
    have first := stored ((extends_applyGroup later true more args).valid valid)
    have placed := h.next column value
    rw [← first] at placed
    have rest := ih later placed (Nat.le_of_succ_le_succ enough) valid
    simpa [applyGroup] using rest

lemma placed_group {columns : List (List String)} {group : List String} {done args : List Value}
    (h : Placed columns done q.filters) (full : group ≠ []) (enough : group.length ≤ args.length)
    (valid : (applyGroup q false group args).1.error = none) :
    Placed (columns ++ [group]) (done ++ args.take group.length)
      (applyGroup q false group args).1.filters := by
  obtain ⟨column, more, rfl⟩ := List.exists_cons_of_ne_nil full
  obtain ⟨value, args, rfl⟩ := List.exists_cons_of_length_pos (Nat.zero_lt_of_lt enough)
  obtain ⟨extended, stored⟩ := extends_addFilter selects false column value
  have later := extended.kind.trans selects
  have first := stored ((extends_applyGroup later true more args).valid valid)
  have placed := h.join column value
  rw [← first] at placed
  have rest := placed_further later placed (Nat.le_of_succ_le_succ enough) valid
  simpa [applyGroup] using rest

/-- Each group takes its arguments off the front, and the next one goes on with the rest. -/
lemma placed_groups {columns groups : List (List String)} {done args : List Value}
    (h : Placed columns done q.filters) (full : ∀ group ∈ groups, group ≠ [])
    (enough : args.length = groups.flatten.length)
    (valid : (applyGroups q args groups).error = none) :
    Placed (columns ++ groups) (done ++ args) (applyGroups q args groups).filters := by
  induction groups generalizing q columns done args with
  | nil =>
    obtain rfl := List.length_eq_zero_iff.mp enough
    simpa [applyGroups] using h
  | cons group groups ih =>
    rw [List.forall_mem_cons] at full
    rw [List.flatten_cons, List.length_append] at enough
    have later := (extends_applyGroup selects false group args).kind.trans selects
    have rest := rest_applyGroup false q group args
    have first := (extends_applyGroups later groups _).valid valid
    have placed := placed_group selects h full.1 (by omega) first
    have remaining : (applyGroup q false group args).2.length = groups.flatten.length := by
      rw [rest, List.length_drop]
      omega
    have taken : args.take group.length ++ (applyGroup q false group args).2 = args := by
      rw [rest, List.take_append_drop]
    have all := ih later placed full.2 remaining valid
    rw [List.append_assoc, List.append_assoc, taken] at all
    exact all

end Runs

/-! ## The statement -/

/-- The query of a finder before any condition. -/
def selecting (finder : Finder) (target : Target) : Query where
  target := target
  kind := some .select
  selectList := finder.select.toList
  used := [.select]

lemma apply_new (finder : Finder) (target : Target) (args : List Value) :
    finder.apply { target := target } args =
      if args.length = finder.columnCount then
        .ok (applyGroups (finder.selecting target) args finder.groups)
      else .error (.malformedCondition
        (.argumentCount finder.name finder.columnCount args.length)) := by
  obtain ⟨kind, select, groups⟩ := finder
  cases select <;> rfl

/-- The clauses of a finder with these conditions. -/
def clauses (finder : Finder) (target : Target) (filters : ConditionTree) : List (List Piece) :=
  [.text ("SELECT " ++ finder.select.getD "*")] ::
    ((target.table?.toList.map fun table => [.text ("FROM " ++ quoteName table)]) ++
      conditionPieces "WHERE " filters)

lemma prepare_of_extends {finder : Finder} {target : Target} {q : Query}
    (h : Extends (finder.selecting target) q) :
    q.prepare =
      q.validate.map fun _ => ⟨.select, Piece.join " \n" (finder.clauses target q.filters)⟩ := by
  have frame := h.frame
  generalize q.filters = filters, q.used = used, q.error = error at frame
  subst frame
  cases error with
  | some e => rfl
  | none =>
    -- no other clause was used
    have ends (parts : List (List Piece)) : parts ++ [] ++ [] ++ [] ++ [] = parts := by simp
    have same := congrArg (fun parts => (.ok ⟨.select, Piece.join " \n" parts⟩ :
      Except Error Preparation)) (ends (finder.clauses target filters))
    obtain ⟨kind, select, groups⟩ := finder
    cases select <;> cases target <;> exact same

/-- Every group of a placed tree is written. -/
lemma Placed.filled_eq {columns : List (List String)} {args : List Value} {tree : ConditionTree}
    (h : Placed columns args tree) : tree.filled = tree.groups := by
  rw [ConditionTree.filled, List.filter_eq_self]
  intro group mem
  simpa using h.grouped.filled group mem

lemma Placed.isEmpty_iff {columns : List (List String)} {args : List Value} {tree : ConditionTree}
    (h : Placed columns args tree) : tree.isEmpty = true ↔ columns.flatten.length = 0 := by
  rw [ConditionTree.isEmpty, h.filled_eq, List.isEmpty_iff, ← h.grouped.length]
  constructor
  · intro none
    rw [none]
    rfl
  · intro none
    by_contra some
    obtain ⟨group, rest, split⟩ := List.exists_cons_of_ne_nil some
    rw [split, List.flatten_cons, List.length_append] at none
    have full := List.length_pos_iff.mpr (h.grouped.filled group (by simp [split]))
    omega

/-- In order, the conditions bind what the arguments bind. -/
lemma arguments_zipWith {columns : List String} {args : List Value}
    (taken : args.length = columns.length) :
    (List.zipWith compared columns args).flatMap (fun item => arguments item.pieces) =
      args.flatMap boundBy := by
  induction columns generalizing args with
  | nil =>
    obtain rfl := List.length_eq_zero_iff.mp taken
    rfl
  | cons column columns ih =>
    obtain ⟨value, args, rfl⟩ := List.exists_cons_of_length_eq_add_one taken
    rw [List.zipWith_cons_cons, List.flatMap_cons, List.flatMap_cons, arguments_compared,
      ih (Nat.succ_inj.mp taken)]

lemma Placed.arguments_eq {columns : List (List String)} {args : List Value} {tree : ConditionTree}
    (h : Placed columns args tree) : arguments tree.pieces = args.flatMap boundBy := by
  rw [ConditionTree.arguments_pieces, h.filled_eq, h.compared, arguments_zipWith h.taken]

lemma arguments_clauses (finder : Finder) (target : Target) (tree : ConditionTree) :
    (finder.clauses target tree).flatMap arguments = arguments tree.pieces := by
  have head : (target.table?.toList.map fun table =>
      [Piece.text ("FROM " ++ quoteName table)]).flatMap arguments = [] := by
    cases target.table? <;> rfl
  rw [clauses, List.flatMap_cons, List.flatMap_append, head, conditionPieces]
  split
  · next none =>
    rw [ConditionTree.arguments_pieces, List.isEmpty_iff.mp none]
    rfl
  · simp [Piece.args]

lemma template_clauses (finder : Finder) (target : Target) (tree : ConditionTree) :
    (finder.clauses target tree).map template = ("SELECT " ++ finder.select.getD "*") ::
      ((target.table?.toList.map fun table => "FROM " ++ quoteName table) ++
        if tree.isEmpty then [] else ["WHERE " ++ template tree.pieces]) := by
  have lone (s : String) : template [.text s] = s := template_singleton (.text s)
  rw [clauses, List.map_cons, List.map_append, List.map_map, lone, conditionPieces]
  congr 2
  split
  · rfl
  · rw [List.map_singleton, template_text_cons]

/-- What a finder makes of a new query, unless a condition is refused. -/
structure Applied (finder : Finder) (target : Target) (args : List Value) (q : Query) : Prop where
  conditions : q.filters.groups.flatten = List.zipWith compared finder.groups.flatten args
  texts : q.filters.groups.flatten.map (fun item => template item.pieces) =
    List.zipWith (fun column value => quoteName column ++ comparison value)
      finder.groups.flatten args
  filled : ∀ group ∈ q.filters.groups, group ≠ []
  starts : ∀ i < finder.columnCount,
    StartsAt q.filters.groups i ↔ i = 0 ∨ ¬ StartsAt finder.groups i
  groupCount : 0 < finder.columnCount →
    q.filters.groupCount = 1 + (finder.groups.map fun group => group.length - 1).sum
  prepared : ∃ p, q.prepare = .ok p ∧ p.args = args.flatMap boundBy ∧
    p.sql = " \n".intercalate (("SELECT " ++ finder.select.getD "*") ::
      ((target.table?.toList.map fun table => "FROM " ++ quoteName table) ++
        if finder.columnCount = 0 then []
        else ["WHERE " ++ " OR ".intercalate (q.filters.groups.map fun group =>
          "( " ++ " AND ".intercalate (group.map fun item => template item.pieces) ++ " )")]))

lemma applied_of_placed {finder : Finder} {target : Target} {args : List Value} {q : Query}
    (extended : Extends (finder.selecting target) q) (valid : q.error = none)
    (placed : Placed finder.groups args q.filters) : Applied finder target args q where
  conditions := placed.compared
  texts := by
    rw [placed.compared, List.map_zipWith]
    simp only [template_compared]
  filled := placed.grouped.filled
  starts := placed.grouped.starts
  groupCount some := by
    have columns : finder.groups ≠ [] := by
      intro none
      rw [columnCount, none] at some
      exact absurd some (Nat.lt_irrefl 0)
    rw [ConditionTree.groupCount, placed.filled_eq]
    exact placed.grouped.length_items columns
  prepared := by
    refine ⟨_, by rw [prepare_of_extends extended, validate, valid]; rfl, ?_, ?_⟩
    · rw [Preparation.args, arguments_join, arguments_clauses, placed.arguments_eq]
    · rw [Preparation.sql, template_join, template_clauses, ConditionTree.template_pieces,
        placed.filled_eq]
      have empty := placed.isEmpty_iff
      by_cases none : finder.columnCount = 0
      · rw [if_pos (empty.mpr none), if_pos none]
      · rw [if_neg (mt empty.mp none), if_neg none]

lemma extends_apply {finder : Finder} {target : Target} {args : List Value} {q : Query}
    (applied : finder.apply { target := target } args = .ok q) :
    args.length = finder.columnCount ∧
      q = applyGroups (finder.selecting target) args finder.groups ∧
      Extends (finder.selecting target) q := by
  rw [apply_new] at applied
  split at applied
  · next count =>
    obtain rfl := Except.ok.inj applied
    exact ⟨count, rfl, extends_applyGroups rfl _ _⟩
  · cases applied

/-! ## Running -/

/-- The error is an answer of the database. -/
inductive Raised {σ : Type} (db : Database σ) (e : Error) : Prop where
  | prepare {template : String} {args : List Value} {s : σ}
      (h : (db.prepare template args s).result = .error e) : Raised db e
  | rows {sql : String} {s : σ} (h : (db.queryRows sql s).result = .error e) : Raised db e
  | row {sql : String} {s : σ} (h : (db.queryRow sql s).result = .error e) : Raised db e
  | column {sql : String} {s : σ} (h : (db.queryColumn sql s).result = .error e) : Raised db e
  | scalar {sql : String} {s : σ} (h : (db.queryScalar sql s).result = .error e) : Raised db e

section Running

variable {σ : Type} (db : Database σ)

/-- The number of selected columns is no reason to fail, unless the database gives that answer. -/
def Fair (e : Error) : Prop := e.isSelectArity = true → Raised db e

variable {db} {α β : Type} {q : Query}

lemma fair_of_other {e : Error} (other : e.isSelectArity = false) : Fair db e := by
  intro arity
  rw [other] at arity
  cases arity

lemma failsOnly_finalSql (prepare : ∀ e, q.prepare = .error e → e.isSelectArity = false) :
    Action.FailsOnly (Fair db) (q.finalSql db) := by
  have prepared : Action.FailsOnly (Fair db) (q.prepared (σ := σ)) := by
    refine .bind (.ofExcept fun e failed => fair_of_other (prepare e failed)) fun _ p _ => ?_
    exact .bind (.emit _) fun _ _ _ => .pure p
  refine .bind (.bind prepared fun _ p _ => ?_) fun _ sql _ =>
    .bind (.emit _) fun _ _ _ => .pure sql
  split
  · exact .pure _
  · exact fun s e failed _ => .prepare failed

/-- A statement that is run fails as the database does, or on the way there or back. -/
lemma failsOnly_run (prepare : ∀ e, q.prepare = .error e → e.isSelectArity = false)
    {operation : String → Action σ α}
    (raised : ∀ sql s e, (operation sql s).result = .error e → Raised db e)
    {rest : α → Action σ β} (back : ∀ a, Action.FailsOnly (Fair db) (rest a)) :
    Action.FailsOnly (Fair db) (q.finalSql db >>= fun sql => operation sql >>= rest) := by
  refine .bind (failsOnly_finalSql prepare) fun _ sql _ => ?_
  exact .bind (fun s e failed _ => raised sql s e failed) fun _ a _ => back a

lemma failsOnly_reported (events : List Event) (a : α) :
    Action.FailsOnly (Fair db) (do Action.emit events; return a : Action σ α) :=
  .bind (.emit events) fun _ _ _ => .pure a

lemma failsOnly_decode (R : RecordType) (row : Row) :
    Action.FailsOnly (Fair db) (Action.ofExcept (R.decode row) : Action σ Attributes) := by
  refine .ofExcept fun e failed => fair_of_other ?_
  rcases R.decode_cases row with ⟨_, decoded⟩ | ⟨_, _, _, missing⟩
  · cases decoded.symm.trans failed
  · cases missing.symm.trans failed
    rfl

lemma failsOnly_decodeAll (R : RecordType) (rows : List Row) :
    Action.FailsOnly (Fair db)
      (Action.ofExcept (rows.mapM R.decode) : Action σ (List Attributes)) := by
  refine .ofExcept fun e failed => fair_of_other ?_
  rcases R.mapM_decode_cases rows with ⟨_, decoded⟩ | ⟨_, _, _, _, _, missing⟩
  · cases decoded.symm.trans failed
  · cases missing.symm.trans failed
    rfl

lemma validate_of_extends {finder : Finder} {target : Target}
    (h : Extends (finder.selecting target) q) {e : Error} (failed : q.validate = .error e) :
    e.isSelectArity = false := by
  rw [validate] at failed
  split at failed
  · next found =>
    cases failed
    rcases h.fault e found with before | ⟨fault, rfl⟩
    · cases before
    · rfl
  · cases failed

lemma singleColumn_of_extends {finder : Finder} {target : Target} {column : String}
    (h : Extends (finder.selecting target) q) (selects : finder.select = some column)
    (operation : ColumnOperation) {e : Error} (failed : q.singleColumn operation = .error e) :
    e.isSelectArity = false := by
  have selected : q.selectList = [column] := by rw [h.frame, selecting, selects]; rfl
  rw [singleColumn, selected] at failed
  cases valid : q.validate with
  | ok =>
    rw [valid] at failed
    cases failed
  | error e' =>
    rw [valid] at failed
    cases failed
    exact validate_of_extends h valid

/-- Where values are wanted exactly one column is selected, and elsewhere nothing checks it. -/
lemma failsOnly_findBy {finder : Finder} (selects : finder.select.isSome = finder.kind.selects)
    (R : RecordType) (args : List Value) :
    Action.FailsOnly (Fair db) (R.findBy db finder args) := by
  refine .bind (.ofExcept fun e failed => fair_of_other ?_) fun _ q applied => ?_
  · rw [show R.query = { target := .record R.table R.casts } from rfl, apply_new] at failed
    split at failed
    · cases failed
    · cases failed
      rfl
  have applied : finder.apply { target := .record R.table R.casts } args = .ok q := applied
  have extended := (extends_apply applied).2.2
  have prepare (e : Error) (failed : q.prepare = .error e) : e.isSelectArity = false := by
    rw [prepare_of_extends extended] at failed
    cases valid : q.validate with
    | ok =>
      rw [valid] at failed
      cases failed
    | error e' =>
      rw [valid] at failed
      cases failed
      exact validate_of_extends extended valid
  have single (some : finder.kind.selects = true) (operation : ColumnOperation) (e : Error)
      (failed : q.singleColumn operation = .error e) : e.isSelectArity = false := by
    obtain ⟨column, found⟩ := Option.isSome_iff_exists.mp (selects.trans some)
    exact singleColumn_of_extends extended found operation failed
  cases kind : finder.kind with
  | records =>
    refine .bind (failsOnly_run prepare (fun _ _ _ => .rows) fun rows => ?_) fun _ _ _ => .pure _
    exact failsOnly_decodeAll R rows
  | record =>
    refine .bind (failsOnly_run prepare (fun _ _ _ => .row) fun row => ?_) fun _ _ _ => .pure _
    cases row with
    | none => exact .pure _
    | some row => exact .bind (failsOnly_decode R row) fun _ _ _ => .pure _
  | row =>
    refine .bind (failsOnly_run prepare (fun _ _ _ => .row) fun row => ?_) fun _ _ _ => .pure _
    exact failsOnly_reported _ _
  | rows =>
    refine .bind (failsOnly_run prepare (fun _ _ _ => .rows) fun rows => ?_) fun _ _ _ => .pure _
    exact failsOnly_reported _ _
  | value =>
    rw [kind] at single
    refine .bind (.bind (.ofExcept fun e failed => fair_of_other (single rfl _ e failed))
      fun _ column _ => ?_) fun _ _ _ => .pure _
    exact failsOnly_run prepare (fun _ _ _ => .scalar) fun value => failsOnly_reported _ _
  | values =>
    rw [kind] at single
    refine .bind (.bind (.ofExcept fun e failed => fair_of_other (single rfl _ e failed))
      fun _ column _ => ?_) fun _ _ _ => .pure _
    exact failsOnly_run prepare (fun _ _ _ => .column) fun values => failsOnly_reported _ _

end Running

/-- A finder that was read takes one argument for each of its columns, and refuses any other number.
Its conditions compare columns and arguments in order; a column that is not the first of its group
opens a new group of conditions. One column is selected where values are wanted, and none
elsewhere, so no run fails for the number of selected columns. -/
theorem apply_of_parse {name : String} {finder : Finder} (read : parse name = .ok finder) :
    (∀ target args, (∃ e, finder.apply { target := target } args = .error e) ↔
      args.length ≠ finder.columnCount) ∧
    (∀ target args e, finder.apply { target := target } args = .error e →
      e = .malformedCondition (.argumentCount finder.name finder.columnCount args.length)) ∧
    (∀ target args q, finder.apply { target := target } args = .ok q →
      q.selectList = finder.select.toList ∧ finder.select.isSome = finder.kind.selects ∧
      (q.error = none → Applied finder target args q)) ∧
    ∀ {σ : Type} (db : Database σ) (R : RecordType) args s e,
      (R.findBy db finder args s).result = .error e → e.isSelectArity = true → Raised db e := by
  have selects := (selects_of_parse read).isSome
  have full (group : List String) (mem : group ∈ finder.groups) : group ≠ [] :=
    (separated_of_parse read mem).1
  refine ⟨fun target args => ?_, fun target args e failed => ?_, fun target args q applied => ?_,
    fun db R args => failsOnly_findBy selects R args⟩
  · rw [apply_new]
    split
    · next count => exact iff_of_false nofun fun other => other count
    · next count => exact iff_of_true ⟨_, rfl⟩ count
  · rw [apply_new] at failed
    split at failed
    · cases failed
    · cases failed
      rfl
  · obtain ⟨count, rfl, extended⟩ := extends_apply applied
    refine ⟨by rw [extended.frame]; rfl, selects, fun valid => ?_⟩
    have placed : Placed ([] ++ finder.groups) ([] ++ args) _ :=
      placed_groups rfl placed_nil full count valid
    exact applied_of_placed extended valid placed

/-- NULL stands alone in its group, the list and the text share the next one. The run fails for the
number of columns because the database says so. -/
theorem apply_of_parse_lookup :
    let name := "get_col_name_by_a_or_b_and_c"
    let finder : Finder := ⟨.values, some "name", [["a", "b"], ["c"]]⟩
    let args : List Value := [.null, .list [.int 1, .int 2], .text "x"]
    let refusing : Database Script :=
      { Script.adapter.database with prepare := fun _ _ => Action.fail (.selectArity .column 2) }
    parse name = .ok finder ∧ (∃ e, finder.apply (Query.ofTable "t") [] = .error e) ∧
      (∃ q p, finder.apply (Query.ofTable "t") args = .ok q ∧ q.error = none ∧
        Applied finder (.table "t") args q ∧ q.prepare = .ok p ∧
        p.sql =
          "SELECT name \nFROM `t` \nWHERE ( `a` IS NULL ) OR ( `b` = (%s, %s) AND `c` = %s )" ∧
        p.args = [.int 1, .int 2, .text "x"]) ∧
      (RecordType.findBy { table := "t" } refusing finder args {}).result =
        .error (.selectArity .column 2) ∧ Raised refusing (.selectArity .column 2) := by
  intro name finder args refusing
  have read : parse name = .ok finder := by
    rw [parse, show read? name.toList = some finder by decide +kernel]
  obtain ⟨refused, _, made, raised⟩ := apply_of_parse read
  have applied : finder.apply (Query.ofTable "t") args =
      .ok (applyGroups (finder.selecting (.table "t")) args finder.groups) := rfl
  have valid : (applyGroups (finder.selecting (.table "t")) args finder.groups).error = none := rfl
  have inQuery := (made (.table "t") args _ applied).2.2 valid
  obtain ⟨p, prepared, bound, _⟩ := inQuery.prepared
  have written :
      (applyGroups (finder.selecting (.table "t")) args finder.groups).prepare.toOption.map
        (·.sql) = some
        "SELECT name \nFROM `t` \nWHERE ( `a` IS NULL ) OR ( `b` = (%s, %s) AND `c` = %s )" := by
    decide +kernel
  rw [prepared] at written
  have failed : (RecordType.findBy { table := "t" } refusing finder args {}).result =
      .error (.selectArity .column 2) := eq_error_of_error? (by decide +kernel)
  exact ⟨read, (refused (.table "t") []).mpr (by decide),
    ⟨_, p, applied, valid, inQuery, prepared, Option.some.inj written, bound⟩, failed,
    raised refusing _ args {} _ failed rfl⟩

end Finder

end Clausal
