import Clausal.Proofs.Condition
import Clausal.Proofs.Query.Order
import Clausal.Proofs.Query.Preparing
import Clausal.Proofs.Text.Separated
import Clausal.Record

/-!
# The names of finders

A finder name is a start, a column where values are selected, and columns to compare behind the
first `_by_`. A name that ends there is read too: its finder compares nothing, so its statement has
no WHERE clause, like that of the names that list a column without `_by_`.
-/

namespace Clausal

open Text

def FinderKind.selects : FinderKind → Bool
  | .value | .values => true
  | _ => false

namespace Finder

/-! ## The grammar -/

/-- The columns between `_or_`. None is empty. -/
def Group (cs : List Char) (group : List String) : Prop :=
  ∃ columns, Splits orSeparator cs columns ∧ [] ∉ columns ∧ group = columns.map String.ofList

/-- The groups between `_and_`. -/
structure Conditions (cs : List Char) (groups : List (List String)) : Prop where
  nonempty : cs ≠ []
  groups : ∃ parts, Splits andSeparator cs parts ∧ List.Forall₂ Group parts groups

/-- A name with `_by_`: its start, the column that stands before the first `_by_` where one is
selected, and what stands behind it. -/
inductive Parts : List Char → FinderKind → Option (List Char) → List Char → Prop where
  | plain {kind : FinderKind} (plain : kind.selects = false) (conditions : List Char) :
      Parts (kind.start.toList ++ bySeparator ++ conditions) kind none conditions
  | selecting {kind : FinderKind} (selects : kind.selects = true)
      {rest column conditions : List Char} (cut : Cut bySeparator rest column conditions) :
      Parts (kind.start.toList ++ '_' :: rest) kind (some column) conditions

/-- The names of finders with conditions. -/
inductive Named : List Char → Finder → Prop where
  | conditions {cs conditions : List Char} {kind : FinderKind} {column : Option (List Char)}
      {groups : List (List String)} (parts : Parts cs kind column conditions)
      (named : column ≠ some []) (read : Conditions conditions groups) :
      Named cs ⟨kind, column.map String.ofList, groups⟩

/-- The names of finders for all values of a column, without `_by_`. -/
inductive Listing : List Char → Finder → Prop where
  | column {column : List Char} (uncut : ¬ bySeparator <:+: column) (named : column ≠ []) :
      Listing (FinderKind.values.start.toList ++ '_' :: column)
        ⟨.values, some (String.ofList column), []⟩

/-- Names that end with their first `_by_`. -/
inductive Bare : List Char → Finder → Prop where
  | bare {cs : List Char} {kind : FinderKind} {column : Option (List Char)}
      (parts : Parts cs kind column []) (named : column ≠ some []) :
      Bare cs ⟨kind, column.map String.ofList, []⟩

/-! ## Reading -/

lemma readGroup?_eq_some_iff {cs : List Char} {group : List String} :
    readGroup? cs = some group ↔ Group cs group := by
  have empty (columns : List (List Char)) : columns.any List.isEmpty = true ↔ [] ∈ columns := by
    simp
  constructor
  · intro read
    have splits : Splits orSeparator cs _ := splits_splitAll (by decide) cs
    rw [readGroup?] at read
    split at read
    · cases read
    · next full => exact ⟨_, splits, mt (empty _).mpr full, (Option.some.inj read).symm⟩
  · rintro ⟨columns, splits, full, rfl⟩
    rw [readGroup?, (splitAll_eq_iff _).mpr splits]
    exact if_neg (mt (empty _).mp full)

lemma mapM_readGroup?_eq_some_iff {parts : List (List Char)} {groups : List (List String)} :
    parts.mapM readGroup? = some groups ↔ List.Forall₂ Group parts groups := by
  induction parts generalizing groups with
  | nil => simp [eq_comm]
  | cons part parts ih =>
    rw [List.mapM_cons, List.forall₂_cons_left_iff]
    simp only [Option.bind_eq_bind, Option.bind_eq_some_iff, readGroup?_eq_some_iff, ih]
    constructor
    · rintro ⟨group, one, groups, all, ⟨⟩⟩
      exact ⟨group, groups, one, all, rfl⟩
    · rintro ⟨group, groups, one, all, rfl⟩
      exact ⟨group, one, groups, all, rfl⟩

lemma readGroups?_eq_some_iff {cs : List Char} {groups : List (List String)} :
    readGroups? cs = some groups ↔ Conditions cs groups ∨ (cs = [] ∧ groups = []) := by
  cases cs with
  | nil =>
    constructor
    · rintro ⟨⟩
      exact Or.inr ⟨rfl, rfl⟩
    · rintro (read | ⟨_, rfl⟩)
      · exact absurd rfl read.nonempty
      · rfl
  | cons c cs =>
    rw [show readGroups? (c :: cs) =
      (splitAll andSeparator (by decide) (c :: cs)).mapM readGroup? from rfl,
      mapM_readGroup?_eq_some_iff]
    constructor
    · intro all
      exact Or.inl ⟨List.cons_ne_nil c cs, _, splits_splitAll _ _, all⟩
    · rintro (⟨_, parts, splits, all⟩ | ⟨none, _⟩)
      · rwa [(splitAll_eq_iff _).mpr splits]
      · cases none

lemma Parts.of_start {cs rest : List Char} {kind : FinderKind} (plain : kind.selects = false)
    (start : dropStart? (kind.start.toList ++ bySeparator) cs = some rest) :
    Parts cs kind none rest := by
  rw [dropStart?_eq_some_iff.mp start]
  exact .plain plain rest

lemma readParts?_values (rest : List Char) :
    readParts? (FinderKind.values.start.toList ++ '_' :: rest) =
      some (match splitOnce bySeparator rest with
        | some (column, conditions) => (.values, some column, conditions)
        | none => (.values, some rest, [])) := rfl

/-- The starts are tried one after another; no two of them fit one name. -/
lemma readParts?_eq_some_iff {cs conditions : List Char} {kind : FinderKind}
    {column : Option (List Char)} :
    readParts? cs = some (kind, column, conditions) ↔
      Parts cs kind column conditions ∨
        ∃ name, ¬ bySeparator <:+: name ∧ cs = FinderKind.values.start.toList ++ '_' :: name ∧
          (kind, column, conditions) = (.values, some name, []) := by
  constructor
  · intro read
    simp only [readParts?] at read
    -- one branch for each kind without a column
    iterate 4
      split at read
      · next rest start =>
        cases read
        exact Or.inl (.of_start rfl start)
    split at read
    · next rest start =>
      obtain ⟨_, cut, read⟩ := Option.map_eq_some_iff.mp read
      cases read
      rw [dropStart?_eq_some_iff.mp start]
      have selects : FinderKind.value.selects = true := rfl
      exact Or.inl (.selecting selects (splitOnce_eq_some_iff.mp cut))
    · obtain ⟨rest, start, read⟩ := Option.map_eq_some_iff.mp read
      rw [dropStart?_eq_some_iff.mp start]
      split at read
      · next before after cut =>
        cases read
        have selects : FinderKind.values.selects = true := rfl
        exact Or.inl (.selecting selects (splitOnce_eq_some_iff.mp cut))
      · next uncut =>
        exact Or.inr ⟨rest, splitOnce_eq_none_iff.mp uncut, rfl, read.symm⟩
  · rintro (parts | ⟨name, uncut, rfl, same⟩)
    · cases parts with
      | plain plain _ =>
        cases kind with
        | value => cases plain
        | values => cases plain
        | _ => rfl
      | selecting selects cut =>
        have found := splitOnce_eq_some_iff.mpr cut
        cases kind with
        | value => exact congrArg (Option.map _) found
        | values => rw [readParts?_values, found]
        | _ => cases selects
    · rw [readParts?_values, splitOnce_eq_none_iff.mpr uncut, same]

/-- What is read is a finder's name, or one that ends with its first `_by_`. -/
lemma read?_eq_some_iff {cs : List Char} {finder : Finder} :
    read? cs = some finder ↔ Named cs finder ∨ Listing cs finder ∨ Bare cs finder := by
  have named (column : Option (List Char)) :
      (guard !(column.any List.isEmpty) : Option Unit) = some () ↔ column ≠ some [] := by
    cases column with
    | none => exact iff_of_true rfl (Option.some_ne_none _).symm
    | some column =>
      cases column with
      | nil => exact iff_of_false (Option.some_ne_none _).symm fun full => full rfl
      | cons c cs =>
        exact iff_of_true rfl fun empty => List.cons_ne_nil c cs (Option.some.inj empty)
  constructor
  · intro read
    obtain ⟨⟨kind, column, conditions⟩, parts, read⟩ := Option.bind_eq_some_iff.mp read
    obtain ⟨_, full, read⟩ := Option.bind_eq_some_iff.mp read
    obtain ⟨groups, conditions, ⟨⟩⟩ := Option.bind_eq_some_iff.mp read
    have full := (named column).mp full
    rcases readParts?_eq_some_iff.mp parts with parts | ⟨name, uncut, rfl, ⟨⟩⟩
    · rcases readGroups?_eq_some_iff.mp conditions with read | ⟨rfl, rfl⟩
      · exact Or.inl (.conditions parts full read)
      · exact Or.inr (Or.inr (.bare parts full))
    · cases conditions
      exact Or.inr (Or.inl (.column uncut fun empty => full (congrArg some empty)))
  · have build {kind : FinderKind} {column : Option (List Char)} {conditions : List Char}
        {groups : List (List String)} (parts : readParts? cs = some (kind, column, conditions))
        (full : column ≠ some []) (read : readGroups? conditions = some groups) :
        read? cs = some ⟨kind, column.map String.ofList, groups⟩ := by
      refine Option.bind_eq_some_iff.mpr ⟨_, parts, ?_⟩
      refine Option.bind_eq_some_iff.mpr ⟨(), (named column).mpr full, ?_⟩
      exact Option.bind_eq_some_iff.mpr ⟨groups, read, rfl⟩
    rintro (⟨parts, full, read⟩ | ⟨uncut, full⟩ | ⟨parts, full⟩)
    · exact build (readParts?_eq_some_iff.mpr (Or.inl parts)) full
        (readGroups?_eq_some_iff.mpr (Or.inl read))
    · exact build (readParts?_eq_some_iff.mpr (Or.inr ⟨_, uncut, rfl, rfl⟩))
        (fun empty => full (Option.some.inj empty)) rfl
    · exact build (readParts?_eq_some_iff.mpr (Or.inl parts)) full rfl

lemma parse_eq_ok_iff (name : String) (finder : Finder) :
    parse name = .ok finder ↔
      Named name.toList finder ∨ Listing name.toList finder ∨ Bare name.toList finder := by
  rw [← read?_eq_some_iff, parse]
  cases read? name.toList with
  | some other => simp
  | none => simp

/-! ## Columns -/

lemma Group.ne_nil {cs : List Char} {group : List String} (h : Group cs group) : group ≠ [] := by
  obtain ⟨columns, splits, _, rfl⟩ := h
  exact mt List.map_eq_nil_iff.mp splits.ne_nil

lemma Named.columnCount_pos {cs : List Char} {finder : Finder} (h : Named cs finder) :
    0 < finder.columnCount := by
  obtain ⟨_, _, _, parts, splits, all⟩ := h
  obtain ⟨part, parts, rfl⟩ := List.exists_cons_of_ne_nil splits.ne_nil
  obtain ⟨group, groups, first, _, rfl⟩ := List.forall₂_cons_left_iff.mp all
  obtain ⟨column, columns, rfl⟩ := List.exists_cons_of_ne_nil first.ne_nil
  exact Nat.succ_pos _

lemma Listing.groups {cs : List Char} {finder : Finder} (h : Listing cs finder) :
    finder.groups = [] := by
  cases h
  rfl

lemma Listing.kind {cs : List Char} {finder : Finder} (h : Listing cs finder) :
    finder.kind = .values := by
  cases h
  rfl

lemma Bare.groups {cs : List Char} {finder : Finder} (h : Bare cs finder) :
    finder.groups = [] := by
  cases h
  rfl

/-- A finder that compares nothing has a name of one of the two forms without conditions. -/
lemma columnCount_eq_zero_iff {name : String} {finder : Finder} (h : parse name = .ok finder) :
    finder.columnCount = 0 ↔ Listing name.toList finder ∨ Bare name.toList finder := by
  constructor
  · intro none
    rcases (parse_eq_ok_iff name finder).mp h with named | other
    · exact absurd none (Nat.pos_iff_ne_zero.mp named.columnCount_pos)
    · exact other
  · rintro (listing | bare)
    · rw [columnCount, listing.groups]
      rfl
    · rw [columnCount, bare.groups]
      rfl

/-- A name that ends with its first `_by_` has no other form. -/
lemma Bare.excludes {cs : List Char} {finder other : Finder} (h : Bare cs finder) :
    ¬ Named cs other ∧ ¬ Listing cs other := by
  have same (form : Named cs other ∨ Listing cs other ∨ Bare cs other) : other = finder := by
    have read := read?_eq_some_iff.mpr form
    rw [read?_eq_some_iff.mpr (Or.inr (Or.inr h))] at read
    exact (Option.some.inj read).symm
  constructor
  · intro named
    have pos := named.columnCount_pos
    rw [same (Or.inl named), columnCount, h.groups] at pos
    exact absurd pos (Nat.lt_irrefl 0)
  · intro listing
    have kind : finder.kind = .values := by
      rw [← same (Or.inr (Or.inl listing))]
      exact listing.kind
    obtain ⟨uncut, _⟩ := listing
    generalize name : FinderKind.values.start.toList ++ '_' :: _ = cs at h
    obtain ⟨parts, _⟩ := h
    obtain rfl : _ = FinderKind.values := kind
    cases parts with
    | plain plain => cases plain
    | selecting _ cut =>
      obtain ⟨_, rfl⟩ := List.cons.inj (List.append_cancel_left name)
      exact uncut cut.infix

/-! ## Conditions in the query -/

open Query

/-- The query compares something, unless it has an error. -/
def Narrowed (q : Query) : Prop :=
  q.error = none → q.Has .filter

lemma narrowed_addFilter (q : Query) (newGroup : Bool) (column : ColumnRef)
    (operator : Option String) (value : Slot) :
    Narrowed (q.addFilter newGroup (.compare column operator value)) := by
  intro valid
  obtain ⟨items, conditions, added⟩ := addConditions_of_valid valid
  rw [addFilter, added]
  rw [Filter.conditions] at conditions
  cases checked : Filter.checkComparison column operator value with
  | ok item =>
    rw [checked] at conditions
    obtain rfl : [item] = items := Except.ok.inj conditions
    exact ConditionTree.isEmpty_push _ item
  | error fault =>
    rw [checked] at conditions
    cases conditions

lemma narrowed_applyGroup {q : Query} {group : List String}
    (h : Narrowed q ∨ group ≠ []) (newGroup : Bool) (args : List Value) :
    Narrowed (applyGroup q newGroup group args).1 := by
  induction group generalizing q newGroup args with
  | nil => exact h.resolve_right (· rfl)
  | cons column columns ih => exact ih (Or.inl (narrowed_addFilter q _ _ _ _)) true args.tail

lemma narrowed_applyGroups {q : Query} {groups : List (List String)}
    (h : Narrowed q ∨ groups.flatten ≠ []) (args : List Value) :
    Narrowed (applyGroups q args groups) := by
  induction groups generalizing q args with
  | nil => exact h.resolve_right (· rfl)
  | cons group groups ih =>
    refine ih ?_ _
    by_cases empty : group = []
    · subst empty
      exact h
    · exact Or.inl (narrowed_applyGroup (Or.inr empty) false args)

/-- A query with the columns of a finder has a WHERE clause for them. -/
lemma narrowed_apply {finder : Finder} {q q' : Query} {args : List Value}
    (columns : 0 < finder.columnCount) (applied : finder.apply q args = .ok q') :
    Narrowed q' := by
  have some : finder.groups.flatten ≠ [] := List.length_pos_iff.mp columns
  rw [apply] at applied
  split at applied
  · cases applied
    exact narrowed_applyGroups (Or.inr some) args
  · cases applied

/-- What a finder that compares nothing makes of all records of a type. -/
def unconditioned (R : RecordType) (finder : Finder) : Preparation where
  kind := .select
  pieces := Sql.Piece.join " \n" [
    [.text ("SELECT " ++ finder.select.getD "*")], [.text ("FROM " ++ Sql.quoteName R.table)]]

lemma prepare_unconditioned {finder : Finder} (none : finder.groups = []) (R : RecordType) :
    ∃ q, finder.apply R.query [] = .ok q ∧ q.prepare = .ok (unconditioned R finder) := by
  obtain ⟨kind, select, groups⟩ := finder
  obtain rfl : groups = [] := none
  cases select with
  | none => exact ⟨_, rfl, rfl⟩
  | some column => exact ⟨_, rfl, rfl⟩

/-- A name is read exactly if the grammar has it or it ends with its first `_by_`, which the grammar
does not have. What is read compares something, and then every statement made of it has a WHERE
clause, or it is one of the two forms without conditions and its statement selects everything. -/
theorem parse_eq_ok_iff_named (name : String) :
    (∀ finder, parse name = .ok finder ↔
      Named name.toList finder ∨ Listing name.toList finder ∨ Bare name.toList finder) ∧
    (∀ finder other, Bare name.toList finder →
      ¬ Named name.toList other ∧ ¬ Listing name.toList other) ∧
    (∀ e, parse name = .error e → e = .unknownFinder name) ∧
    ∀ finder, parse name = .ok finder →
      (Named name.toList finder → 0 < finder.columnCount ∧
        ∀ q args q' p, finder.apply q args = .ok q' → q'.prepare = .ok p →
          q'.Has .filter ∧ ∃ before after,
            p.sql = before ++ "WHERE " ++ Sql.template q'.filters.pieces ++ after) ∧
      (Listing name.toList finder ∨ Bare name.toList finder → finder.columnCount = 0 ∧
        ∀ R : RecordType, ∃ q, finder.apply R.query [] = .ok q ∧
          q.prepare = .ok (unconditioned R finder)) := by
  refine ⟨parse_eq_ok_iff name, fun _ _ bare => bare.excludes, ?_, ?_⟩
  · intro e failed
    rw [parse] at failed
    split at failed
    · cases failed
    · cases failed
      rfl
  · intro finder read
    constructor
    · intro named
      refine ⟨named.columnCount_pos, fun q args q' p applied prepared => ?_⟩
      have conditions : q'.Has .filter :=
        narrowed_apply named.columnCount_pos applied (prepare_eq_ok prepared).1
      obtain ⟨before, after, split⟩ := (conditions_prepared prepared).1 conditions
      exact ⟨conditions, _, _, sql_of_split split⟩
    · intro other
      refine ⟨(columnCount_eq_zero_iff read).mpr other, fun R => prepare_unconditioned ?_ R⟩
      exact other.elim Listing.groups Bare.groups

theorem parse_lookup_narrowed :
    let name := "get_one_by_name_or_title_and_category_id"
    let finder : Finder := ⟨.record, none, [["name", "title"], ["category_id"]]⟩
    let args : List Value := [.text "a", .null, .int 3]
    parse name = .ok finder ∧ Named name.toList finder ∧
      ∃ q p before after, finder.apply (Query.ofTable "t") args = .ok q ∧ q.prepare = .ok p ∧
        p.sql = before ++ "WHERE " ++ Sql.template q.filters.pieces ++ after := by
  intro name finder args
  obtain ⟨accepted, _, _, consequences⟩ := parse_eq_ok_iff_named name
  have read : parse name = .ok finder := by
    rw [parse, show read? name.toList = some finder by decide +kernel]
  have consequences := consequences finder read
  have named : Named name.toList finder :=
    ((accepted finder).mp read).resolve_right fun other => by
      cases (consequences.2 other).1
  obtain ⟨p, prepared⟩ :
      ∃ p, (applyGroups (Query.ofTable "t").selectAll args finder.groups).prepare = .ok p :=
    ⟨_, rfl⟩
  obtain ⟨_, before, after, split⟩ :=
    (consequences.1 named).2 (Query.ofTable "t") args _ p rfl prepared
  exact ⟨read, named, _, p, before, after, rfl, prepared, split⟩

/-- Nothing stands behind `_by_`, and all rows are selected. -/
theorem parse_bare_unconditioned :
    let name := "get_var_name_by_"
    let finder : Finder := ⟨.value, some "name", []⟩
    let R : RecordType := { table := "t" }
    parse name = .ok finder ∧
      (∀ other, ¬ Named name.toList other ∧ ¬ Listing name.toList other) ∧
      ∃ q p, finder.apply R.query [] = .ok q ∧ q.prepare = .ok p ∧
        p.sql = "SELECT name \nFROM `t`" := by
  intro name finder R
  have read : parse name = .ok finder := by
    rw [parse, show read? name.toList = some finder by decide +kernel]
  have bare : Bare name.toList finder := by
    rcases (parse_eq_ok_iff name finder).mp read with named | listing | bare
    · exact absurd named.columnCount_pos (by decide)
    · cases listing.kind
    · exact bare
  have none : finder.groups = [] := rfl
  obtain ⟨q, applied, prepared⟩ := prepare_unconditioned none R
  exact ⟨read, fun _ => bare.excludes, q, _, applied, prepared, by decide +kernel⟩

end Finder

end Clausal
