import Clausal.Proofs.Finder.Grammar
import Mathlib.Algebra.GroupWithZero.Nat

/-!
# The name of a finder that was read

Separators may overlap, as in `a_or_and_b`, and a text can be joined from columns in several ways.
Writing a finder still gives back the name it was read from, because reading cuts at the first
separator each time and nothing but separators is dropped. The one loss is a `_by_` with nothing
behind it.
-/

namespace Clausal.Finder

open Text

/-- The name asks for all values of a column: there is no `_by_` behind `get_col_`. -/
def ListsColumn (name : String) : Prop :=
  ∃ column, name = "get_col_" ++ column ∧ ¬ bySeparator <:+: column.toList

/-! ## Joining -/

lemma Group.joined {cs : List Char} {group : List String} (h : Group cs group) :
    ("_or_".intercalate group).toList = cs := by
  obtain ⟨columns, splits, _, rfl⟩ := h
  have same : (columns.map String.ofList).map String.toList = columns := by simp
  rw [String.toList_intercalate, same]
  exact splits.intercalate

lemma Conditions.joined {cs : List Char} {groups : List (List String)}
    (h : Conditions cs groups) :
    ("_and_".intercalate (groups.map ("_or_".intercalate ·))).toList = cs := by
  obtain ⟨_, parts, splits, all⟩ := h
  have same : (groups.map ("_or_".intercalate ·)).map String.toList = parts := by
    rw [List.map_map]
    exact (map_eq_map_of_forall₂ all fun _ _ _ part => part.joined).trans (List.map_id' parts)
  rw [String.toList_intercalate, same]
  exact splits.intercalate

lemma toList_name (finder : Finder) :
    finder.name.toList = finder.kind.start.toList ++
      (finder.select.elim [] fun column => '_' :: column.toList) ++
      if finder.groups = [] then [] else bySeparator ++
        ("_and_".intercalate (finder.groups.map ("_or_".intercalate ·))).toList := by
  obtain ⟨kind, select, groups⟩ := finder
  cases select <;> cases groups <;> simp [name, bySeparator]

lemma Parts.eq {cs conditions : List Char} {kind : FinderKind} {column : Option (List Char)}
    (h : Parts cs kind column conditions) :
    cs = kind.start.toList ++ (column.elim [] ('_' :: ·)) ++ bySeparator ++ conditions := by
  cases h with
  | plain => simp
  | selecting _ cut => simp [cut.eq]

lemma elim_map_ofList (column : Option (List Char)) :
    ((column.map String.ofList).elim [] fun column => '_' :: column.toList) =
      column.elim [] ('_' :: ·) := by
  cases column <;> simp

lemma Conditions.groups_ne_nil {cs : List Char} {groups : List (List String)}
    (h : Conditions cs groups) : groups ≠ [] := by
  obtain ⟨_, parts, splits, all⟩ := h
  rintro rfl
  exact splits.ne_nil (List.forall₂_nil_right_iff.mp all)

/-! ## The three forms of names -/

lemma Named.toList_name {cs : List Char} {finder : Finder} (h : Named cs finder) :
    finder.groups ≠ [] ∧ finder.name.toList = cs := by
  obtain ⟨parts, _, read⟩ := h
  refine ⟨read.groups_ne_nil, ?_⟩
  rw [Finder.toList_name, elim_map_ofList, if_neg read.groups_ne_nil, read.joined, parts.eq]
  simp

lemma Listing.toList_name {cs : List Char} {finder : Finder} (h : Listing cs finder) :
    finder.name.toList = cs := by
  cases h
  simp [Finder.toList_name]

/-- Writing drops a `_by_` that nothing stands behind. -/
lemma Bare.toList_name {cs : List Char} {finder : Finder} (h : Bare cs finder) :
    finder.name.toList ++ bySeparator = cs := by
  obtain ⟨parts, _⟩ := h
  rw [Finder.toList_name, elim_map_ofList, parts.eq]
  simp

lemma listsColumn_iff {name : String} {finder : Finder} (read : parse name = .ok finder) :
    ListsColumn name ↔ Listing name.toList finder := by
  constructor
  · rintro ⟨column, rfl, uncut⟩
    have text : ("get_col_" ++ column).toList =
        FinderKind.values.start.toList ++ '_' :: column.toList := by
      simp [FinderKind.start]
    have parts := readParts?_eq_some_iff.mpr (Or.inr ⟨column.toList, uncut, text, rfl⟩)
    rcases (parse_eq_ok_iff _ _).mp read with named | listing | bare
    · obtain ⟨found, _, conditions⟩ := named
      cases (readParts?_eq_some_iff.mpr (Or.inl found)).symm.trans parts
      exact absurd rfl conditions.nonempty
    · exact listing
    · obtain ⟨found, _⟩ := bare
      cases (readParts?_eq_some_iff.mpr (Or.inl found)).symm.trans parts
      have eq := found.eq
      rw [text] at eq
      simp [bySeparator] at eq
  · intro listing
    generalize text : name.toList = cs at listing
    cases listing with
    | @column column uncut _ =>
      refine ⟨String.ofList column, ?_, by rwa [String.toList_ofList]⟩
      rw [← String.toList_inj, text]
      simp [FinderKind.start]

/-! ## Columns -/

lemma Group.separated {cs : List Char} {group : List String} (h : Group cs group)
    (uncut : ¬ andSeparator <:+: cs) {column : String} (mem : column ∈ group) :
    column ≠ "" ∧ ¬ andSeparator <:+: column.toList ∧ ¬ orSeparator <:+: column.toList := by
  obtain ⟨columns, splits, full, rfl⟩ := h
  obtain ⟨part, inside, rfl⟩ := List.mem_map.mp mem
  rw [String.toList_ofList]
  refine ⟨?_, fun found => uncut (found.trans (splits.isInfix inside)),
    splits.uncut (by decide) inside⟩
  intro empty
  obtain rfl : part = [] := by simpa using congrArg String.toList empty
  exact full inside

lemma Named.separated {cs : List Char} {finder : Finder} (h : Named cs finder)
    {group : List String} (mem : group ∈ finder.groups) :
    group ≠ [] ∧ ∀ column ∈ group,
      column ≠ "" ∧ ¬ andSeparator <:+: column.toList ∧ ¬ orSeparator <:+: column.toList := by
  obtain ⟨_, _, _, parts, splits, all⟩ := h
  obtain ⟨part, inside, read⟩ := exists_of_mem_right all mem
  exact ⟨read.ne_nil, fun column => read.separated (splits.uncut (by decide) inside)⟩

lemma separated_of_parse {name : String} {finder : Finder} (read : parse name = .ok finder)
    {group : List String} (mem : group ∈ finder.groups) :
    group ≠ [] ∧ ∀ column ∈ group,
      column ≠ "" ∧ ¬ andSeparator <:+: column.toList ∧ ¬ orSeparator <:+: column.toList := by
  rcases (parse_eq_ok_iff name finder).mp read with named | listing | bare
  · exact named.separated mem
  · rw [listing.groups] at mem
    cases mem
  · rw [bare.groups] at mem
    cases mem

/-- Exactly the kinds for values select a column, and it stands before the first `_by_`. -/
structure Selects (finder : Finder) : Prop where
  isSome : finder.select.isSome = finder.kind.selects
  separated : ∀ column ∈ finder.select, column ≠ "" ∧ ¬ bySeparator <:+: column.toList

lemma selects_of_uncut {kind : FinderKind} {column : List Char} {groups : List (List String)}
    (selects : kind.selects = true) (named : column ≠ []) (uncut : ¬ bySeparator <:+: column) :
    Selects ⟨kind, some (String.ofList column), groups⟩ := by
  refine ⟨selects.symm, fun c same => ?_⟩
  obtain rfl := Option.some.inj same
  rw [String.toList_ofList]
  refine ⟨fun empty => named ?_, uncut⟩
  simpa using congrArg String.toList empty

lemma Parts.selects {cs conditions : List Char} {kind : FinderKind} {column : Option (List Char)}
    (h : Parts cs kind column conditions) (named : column ≠ some [])
    (groups : List (List String)) : Selects ⟨kind, column.map String.ofList, groups⟩ := by
  cases h with
  | plain plain => exact ⟨plain.symm, nofun⟩
  | selecting selects cut =>
    exact selects_of_uncut selects (fun empty => named (congrArg some empty))
      (cut.uncut (by decide))

lemma selects_of_read? {cs : List Char} {finder : Finder} (read : read? cs = some finder) :
    Selects finder := by
  rcases read?_eq_some_iff.mp read with ⟨parts, named, _⟩ | ⟨uncut, named⟩ | ⟨parts, named⟩
  · exact parts.selects named _
  · exact selects_of_uncut rfl named uncut
  · exact parts.selects named _

lemma selects_of_parse {name : String} {finder : Finder} (read : parse name = .ok finder) :
    Selects finder :=
  selects_of_read? (read?_eq_some_iff.mpr ((parse_eq_ok_iff name finder).mp read))

/-- Writing what was read gives the name back, except for a name that ends with its first `_by_`;
so no two other names are read as one finder. The columns are what stands between the separators,
and none of them is empty or has a separator in it. -/
theorem name_eq_of_parse {name : String} {finder : Finder} (read : parse name = .ok finder) :
    (finder.groups ≠ [] ∨ ListsColumn name ↔ finder.name = name) ∧
    (finder.groups ≠ [] ∨ ListsColumn name → parse finder.name = .ok finder ∧
      ∀ other, parse other = .ok finder → finder.groups ≠ [] ∨ ListsColumn other →
        other = name) ∧
    (finder.groups ≠ [] → Named name.toList finder) ∧
    finder.columnCount = (finder.groups.map List.length).sum ∧
    (∀ group ∈ finder.groups, group ≠ [] ∧ ∀ column ∈ group,
      column ≠ "" ∧ ¬ andSeparator <:+: column.toList ∧ ¬ orSeparator <:+: column.toList) ∧
    ∀ column ∈ finder.select, column ≠ "" ∧ ¬ bySeparator <:+: column.toList := by
  have written {other : String} (read : parse other = .ok finder) :
      finder.groups ≠ [] ∨ ListsColumn other ↔ finder.name = other := by
    rw [listsColumn_iff read, ← String.toList_inj]
    rcases (parse_eq_ok_iff _ _).mp read with named | listing | bare
    · exact iff_of_true (Or.inl named.toList_name.1) named.toList_name.2
    · exact iff_of_true (Or.inr listing) listing.toList_name
    · refine iff_of_false (not_or.mpr ⟨fun some => some bare.groups, bare.excludes.2⟩) ?_
      intro same
      have longer := bare.toList_name
      rw [same] at longer
      cases List.append_right_eq_self.mp longer
  refine ⟨written read, ?_, ?_, List.length_flatten, fun _ => separated_of_parse read,
    (selects_of_parse read).separated⟩
  · intro form
    have same := (written read).mp form
    refine ⟨by rwa [same], fun other readOther formOther => ?_⟩
    exact ((written readOther).mp formOther).symm.trans same
  · intro some
    rcases (parse_eq_ok_iff _ _).mp read with named | listing | bare
    · exact named
    · exact absurd listing.groups some
    · exact absurd bare.groups some

/-- Every separator of this name overlaps another one or is spelled in a column. -/
theorem name_eq_of_parse_overlapping :
    let name := "get_var_x_by_by_a_or_b_or_and_c_and_and_d"
    let finder : Finder := ⟨.value, some "x", [["by_a", "b_or"], ["c"], ["and_d"]]⟩
    parse name = .ok finder ∧ finder.groups ≠ [] ∧ finder.name = name ∧
      parse finder.name = .ok finder ∧ finder.columnCount = 4 := by
  intro name finder
  have read : parse name = .ok finder := by
    rw [parse, show read? name.toList = some finder by decide +kernel]
  have some : finder.groups ≠ [] := List.cons_ne_nil _ _
  obtain ⟨written, again, _, count, _⟩ := name_eq_of_parse read
  exact ⟨read, some, written.mp (Or.inl some), (again (Or.inl some)).1, count⟩

end Clausal.Finder
