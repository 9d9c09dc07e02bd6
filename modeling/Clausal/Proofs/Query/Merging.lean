import Clausal.Proofs.Query.Insertions
import Clausal.Proofs.Query.Mapping
import Clausal.Proofs.Record.Statements
import Clausal.Proofs.Row

/-!
# Merging columns

Rows, assignments and the rows of an INSERT follow the same rule: a column that is given again keeps
its place and takes the new value. So it does not matter whether the pairs of a call were collected
into a row before, or given one call at a time.
-/

namespace Clausal

open Sql

namespace Query

/-- A value as it is assigned or inserted: NULL is the literal. -/
def assignable : Value → Slot
  | .null => .raw "NULL"
  | v => .bound v

lemma normalize_bound (v : Value) : (Slot.bound v).normalize = assignable v := by
  cases v <;> rfl

/-- The pairs as they are assigned or inserted. -/
def cells (pairs : List (String × Value)) : Columns Slot :=
  pairs.map fun (column, v) => (column, assignable v)

lemma map_normalize_boundPairs (pairs : List (String × Value)) :
    (boundPairs pairs).map (fun (column, slot) => (column, slot.normalize)) = cells pairs := by
  rw [boundPairs, cells, List.map_map]
  exact List.map_congr_left fun pair _ => congrArg (Prod.mk pair.1) (normalize_bound pair.2)

lemma names_cells (pairs : List (String × Value)) : (cells pairs).names = Columns.names pairs :=
  Columns.names_map (fun _ v => assignable v) pairs

lemma get?_reverse_cells (pairs : List (String × Value)) (column : String) :
    Columns.get? (cells pairs).reverse column = (Row.last? pairs column).map assignable := by
  rw [cells, ← List.map_reverse]
  exact Columns.get?_map (fun _ v => assignable v) pairs.reverse column

lemma cells_collect (pairs : List (String × Value)) :
    cells (Columns.collect pairs) = Columns.collect (cells pairs) :=
  (Columns.collect_map assignable pairs).symm

lemma rowOf_boundPairs (pairs : List (String × Value)) :
    rowOf (boundPairs pairs) = Columns.collect (cells pairs) :=
  congrArg Columns.collect (map_normalize_boundPairs pairs)

/-! ## Assigning -/

/-- The query with some more assignments. -/
def assigning (q : Query) (pairs : Columns Slot) : Query :=
  { q with
    assignments := pairs.foldl (fun cols (column, slot) => cols.put column slot) q.assignments }

variable {q : Query}

lemma allow_set (q : Query) : q.allow .set = (q.fix .update).map (·.noted .set) := rfl

lemma set_of_admits (h : q.Admits .update) (column : String) (slot : Slot) :
    q.set column slot = (q.marked .set).assigning [(column, slot.normalize)] := by
  rcases q.withClause_cases .set
      (fun q => { q with assignments := q.assignments.put column slot.normalize }) with set | set
  · exact set.2
  · exact absurd h set.1

lemma foldl_set_settled (h : q.Admits .update) (settled : q.marked .set = q)
    (pairs : List (String × Slot)) :
    pairs.foldl (fun q (column, slot) => q.set column slot) q =
      q.assigning (pairs.map fun (column, slot) => (column, slot.normalize)) := by
  induction pairs generalizing q with
  | nil => rfl
  | cons pair rest ih =>
    obtain ⟨column, slot⟩ := pair
    have again : (q.assigning [(column, slot.normalize)]).marked .set =
        q.assigning [(column, slot.normalize)] :=
      congrArg (·.assigning [(column, slot.normalize)]) settled
    have first : q.set column slot = q.assigning [(column, slot.normalize)] := by
      rw [set_of_admits h, settled]
    change rest.foldl (fun q (column, slot) => q.set column slot) (q.set column slot) = _
    rw [first]
    exact ih h again

/-- Where an UPDATE is possible, calls one after another assign all their pairs. -/
lemma foldl_set_of_admits (h : q.Admits .update) {pairs : List (String × Slot)}
    (nonempty : pairs ≠ []) :
    pairs.foldl (fun q (column, slot) => q.set column slot) q =
      (q.marked .set).assigning (pairs.map fun (column, slot) => (column, slot.normalize)) := by
  obtain ⟨⟨column, slot⟩, rest, rfl⟩ := List.exists_cons_of_ne_nil nonempty
  have accepts : q.Accepts .set := h
  have admits : (q.marked .set).Admits .update := accepts_marked accepts
  have settled : (q.marked .set).marked .set = q.marked .set := settled_marked q .set admits
  have again := foldl_set_settled admits settled ((column, slot) :: rest)
  have first : (q.marked .set).set column slot = q.set column slot := by
    rw [set_of_admits admits, settled, set_of_admits h]
  rw [← again]
  change rest.foldl _ (q.set column slot) = rest.foldl _ ((q.marked .set).set column slot)
  rw [first]

lemma error_fail_ne_none (q : Query) (e : Error) : (q.fail e).error ≠ none := by
  cases valid : q.error <;> simp [fail, valid]

/-- What refuses the kind is not the error. -/
lemma fix_fail {e : Error} (h : q.fix .update = .error e) (e' : Error) :
    (q.fail e').fix .update = .error e := by
  cases kind : q.kind with
  | some current =>
    by_cases same : current = .update
    · simp [fix, kind, same] at h
    · simpa [fix, fail, kind, same] using h
  | none =>
    cases misfit : q.used.find? (!·.fits .update) with
    | some clause => simpa [fix, fail, kind, misfit] using h
    | none => simp [fix, kind, misfit] at h

lemma set_of_refused {e : Error} (h : q.fix .update = .error e) (column : String) (slot : Slot) :
    q.set column slot = q.fail e := by
  rw [set, withClause, allow_set, h]
  rfl

lemma foldl_set_of_failed {e : Error} (h : q.fix .update = .error e) (failed : q.error ≠ none)
    (pairs : List (String × Slot)) :
    pairs.foldl (fun q (column, slot) => q.set column slot) q = q := by
  induction pairs with
  | nil => rfl
  | cons pair rest ih =>
    have same : q.set pair.1 pair.2 = q := by rw [set_of_refused h, fail_of_error failed]
    change rest.foldl _ (q.set pair.1 pair.2) = q
    rwa [same]

/-- Where it is not, the first call fails, and no other does anything. -/
lemma foldl_set_of_refused {e : Error} (h : q.fix .update = .error e)
    {pairs : List (String × Slot)} (nonempty : pairs ≠ []) :
    pairs.foldl (fun q (column, slot) => q.set column slot) q = q.fail e := by
  obtain ⟨pair, rest, rfl⟩ := List.exists_cons_of_ne_nil nonempty
  change rest.foldl _ (q.set pair.1 pair.2) = _
  rw [set_of_refused h]
  exact foldl_set_of_failed (fix_fail h e) (q.error_fail_ne_none e) rest

lemma update_of_admits (h : q.Admits .update) : q.update = q.ofFixedKind .update := by
  rcases q.ofKind_cases .update with ⟨_, fixed⟩ | ⟨refused, _⟩
  · exact fixed
  · exact absurd h refused

lemma update_of_refused {e : Error} (h : q.fix .update = .error e) : q.update = q.fail e := by
  rw [Query.update, ofKind, h]
  rfl

/-- A mapping is assigned like its pairs one after another. -/
lemma setAll_eq_foldl {pairs : List (String × Slot)} (nonempty : pairs ≠ []) :
    q.setAll pairs = pairs.foldl (fun q (column, slot) => q.set column slot) q := by
  rcases q.fix_cases .update with ⟨admits, -⟩ | ⟨_, e, refused⟩
  · have fixed : (q.ofFixedKind .update).Admits .update := by simp [Admits, ofFixedKind]
    rw [setAll, update_of_admits admits, foldl_set_of_admits fixed nonempty,
      foldl_set_of_admits admits nonempty]
    rfl
  · rw [setAll, update_of_refused refused, foldl_set_of_refused refused nonempty]
    exact foldl_set_of_failed (fix_fail refused e) (q.error_fail_ne_none e) pairs

/-! ## Collected pairs -/

lemma assigning_collect (q : Query) (pairs : Columns Slot) :
    q.assigning (Columns.collect pairs) = q.assigning pairs := by
  rw [assigning, Columns.foldl_put_collect]
  rfl

lemma boundPairs_ne_nil {pairs : List (String × Value)} (nonempty : pairs ≠ []) :
    boundPairs pairs ≠ [] := by
  rwa [boundPairs, ne_eq, List.map_eq_nil_iff]

lemma collect_ne_nil {pairs : List (String × Value)} (nonempty : pairs ≠ []) :
    Columns.collect pairs ≠ [] := by
  obtain ⟨pair, rest, rfl⟩ := List.exists_cons_of_ne_nil nonempty
  intro none
  have names := Columns.names_collect (pair :: rest)
  rw [none] at names
  have mem : pair.1 ∈ (Columns.names (pair :: rest)).eraseDups :=
    List.mem_eraseDups.mpr List.mem_cons_self
  rw [← names] at mem
  cases mem

/-- A row assigns what its pairs do. -/
lemma setAll_collected (q : Query) (pairs : List (String × Value)) :
    q.setAll (boundPairs (Row.ofPairs pairs).columns) = q.setAll (boundPairs pairs) := by
  by_cases none : pairs = []
  · rw [none]
    rfl
  have some : boundPairs (Row.ofPairs pairs).columns ≠ [] := boundPairs_ne_nil (collect_ne_nil none)
  rw [setAll_eq_foldl some, setAll_eq_foldl (boundPairs_ne_nil none)]
  rcases q.fix_cases .update with ⟨admits, -⟩ | ⟨_, e, refused⟩
  · rw [foldl_set_of_admits admits some, foldl_set_of_admits admits (boundPairs_ne_nil none),
      map_normalize_boundPairs, map_normalize_boundPairs]
    change (q.marked .set).assigning (cells (Columns.collect pairs)) = _
    rw [cells_collect, assigning_collect]
  · rw [foldl_set_of_refused refused some, foldl_set_of_refused refused (boundPairs_ne_nil none)]

/-- A row is inserted as its pairs are. -/
lemma insert_collected (q : Query) (pairs : List (String × Value)) :
    q.insert (boundPairs (Row.ofPairs pairs).columns) = q.insert (boundPairs pairs) := by
  have same : rowOf (boundPairs (Row.ofPairs pairs).columns) = rowOf (boundPairs pairs) := by
    rw [rowOf_boundPairs, rowOf_boundPairs]
    change Columns.collect (cells (Columns.collect pairs)) = _
    rw [cells_collect]
    exact Columns.collect_eq_self (Columns.nodup_collect _)
  rw [insert, insert, insertAll, insertAll]
  simp only [addRows_cons, same]

/-! ## What is merged -/

/-- Merged columns: those that were there and then the others in the order they are first given,
with what is given last. -/
structure Merged (before : Columns Slot) (pairs : List (String × Value)) (after : Columns Slot) :
    Prop where
  order : after.names =
    before.names ++ (Columns.names pairs).eraseDups.filter (· ∉ before.names)
  content : ∀ column, after.get? column =
    ((Row.last? pairs column).map assignable).or (before.get? column)

lemma merged_foldl_put (before : Columns Slot) (pairs : List (String × Value)) :
    Merged before pairs
      ((cells pairs).foldl (fun cols (column, slot) => cols.put column slot) before) where
  order := by rw [Columns.names_foldl_put, names_cells]
  content column := by rw [Columns.get?_foldl_put, get?_reverse_cells]

lemma prepare_parts {p : Preparation} (h : q.prepare = .ok p) :
    ∃ before values after, q.error = none ∧ q.requireClauses = .ok () ∧
      q.valuesPieces = .ok values ∧
      p.pieces = Piece.join " \n" (before ++ q.setPieces ++ values ++ after) := by
  obtain ⟨⟨⟩, valid, rest⟩ := bind_eq_ok.mp h
  obtain ⟨clauses, made, joined⟩ := bind_eq_ok.mp rest
  obtain rfl := Except.ok.inj joined
  obtain ⟨⟨⟩, required, rest⟩ := bind_eq_ok.mp made
  obtain ⟨head, _, rest⟩ := bind_eq_ok.mp rest
  obtain ⟨values, listed, rest⟩ := bind_eq_ok.mp rest
  obtain ⟨joins, _, written⟩ := bind_eq_ok.mp rest
  obtain rfl := Except.ok.inj written
  have sound : q.error = none := by
    cases failed : q.error with
    | none => rfl
    | some e =>
      rw [validate, failed] at valid
      cases valid
  refine ⟨head, values, joins ++ conditionPieces "WHERE " q.filters ++
    clausePieces "GROUP BY " ", " (q.groupBy.map OrderItem.pieces) ++
    conditionPieces "HAVING " q.having ++
    clausePieces "ORDER BY " ", " (q.orderBy.map OrderItem.pieces) ++ q.boundPieces,
    sound, required, listed, ?_⟩
  simp only [List.append_assoc]

/-- The assignments of an UPDATE that is not refused. -/
lemma setAll_of_valid {pairs : List (String × Value)}
    (valid : (q.setAll (boundPairs pairs)).error = none) :
    (q.setAll (boundPairs pairs)).kind = some .update ∧
      Merged q.assignments pairs (q.setAll (boundPairs pairs)).assignments := by
  rcases q.fix_cases .update with ⟨admits, -⟩ | ⟨_, e, refused⟩
  · by_cases none : pairs = []
    · have fixed : q.setAll (boundPairs pairs) = q.ofFixedKind .update := by
        rw [none]
        exact update_of_admits admits
      rw [fixed, none]
      exact ⟨rfl, merged_foldl_put q.assignments []⟩
    · rw [setAll_eq_foldl (boundPairs_ne_nil none),
        foldl_set_of_admits admits (boundPairs_ne_nil none), map_normalize_boundPairs]
      exact ⟨rfl, merged_foldl_put q.assignments pairs⟩
  · have failed : q.setAll (boundPairs pairs) = q.fail e := by
      by_cases none : pairs = []
      · rw [none]
        exact update_of_refused refused
      · rw [setAll_eq_foldl (boundPairs_ne_nil none),
          foldl_set_of_refused refused (boundPairs_ne_nil none)]
    rw [failed] at valid
    exact absurd valid (q.error_fail_ne_none e)

/-- The row that an INSERT adds if it is not refused. -/
lemma insert_of_valid {pairs : List (String × Value)}
    (valid : (q.insert (boundPairs pairs)).error = none) :
    (q.insert (boundPairs pairs)).insertRows =
      q.insertRows ++ [Columns.collect (cells pairs)] := by
  have failed (r : Query) (e : Error) (h : q.insert (boundPairs pairs) = r.fail e) : False := by
    rw [h] at valid
    exact r.error_fail_ne_none e valid
  rcases q.withClause_cases .values (fun q => q.addRows [boundPairs pairs]) with
    ⟨_, added⟩ | ⟨_, e, refused⟩
  · have one : q.insert (boundPairs pairs) = (q.marked .values).proceed
        ((q.marked .values).addRow (Columns.collect (cells pairs))) id := by
      rw [← rowOf_boundPairs]
      exact added
    rcases (q.marked .values).addRow_cases (Columns.collect (cells pairs)) with
      ⟨_, fits⟩ | ⟨_, e, lacks⟩
    · rw [one, fits]
      rfl
    · rw [lacks] at one
      exact (failed _ e one).elim
  · exact (failed q e refused).elim

/-- Assigning or inserting pairs, whichever way they are passed. -/
structure MergesAlike (q : Query) (pairs : List (String × Value)) : Prop where
  one_by_one : pairs ≠ [] →
    pairs.foldl (fun q (column, v) => q.set column (.bound v)) q = q.setAll (boundPairs pairs)
  collected : q.setAll (boundPairs (Row.ofPairs pairs).columns) = q.setAll (boundPairs pairs)
  inserted : q.insert (boundPairs (Row.ofPairs pairs).columns) = q.insert (boundPairs pairs)
  /-- The SET list of the statement has the merged assignments. -/
  assigns : ∀ p, (q.setAll (boundPairs pairs)).prepare = .ok p →
    ∃ merged before after, Merged q.assignments pairs merged ∧
      p.pieces = Piece.join " \n" (before ++ (.text "SET " :: Piece.join ", "
        (merged.map fun (column, slot) =>
          [.text (quoteName column ++ " = "), slot.piece])) :: after)
  /-- One row is added, and the first row is the VALUES list of the statement. -/
  lists : ∀ p, (q.insert (boundPairs pairs)).prepare = .ok p →
    ∃ row, Merged [] pairs row ∧
      (q.insert (boundPairs pairs)).insertRows = q.insertRows ++ [row] ∧
      (q.insertRows = [] → ∃ before after, p.pieces = Piece.join " \n" (before ++
        (.text ("(" ++ ", ".intercalate (row.names.map quoteName) ++ ") VALUES ") ::
          .text "(" :: (Piece.join ", " (row.map fun (_, slot) => [slot.piece]) ++ [.text ")"])) ::
        after))

lemma prepare_setAll {pairs : List (String × Value)} {p : Preparation}
    (h : (q.setAll (boundPairs pairs)).prepare = .ok p) :
    ∃ merged before after, Merged q.assignments pairs merged ∧
      p.pieces = Piece.join " \n" (before ++ (.text "SET " :: Piece.join ", "
        (merged.map fun (column, slot) =>
          [.text (quoteName column ++ " = "), slot.piece])) :: after) := by
  obtain ⟨before, values, after, valid, required, _, pieces⟩ := prepare_parts h
  obtain ⟨kind, merged⟩ := setAll_of_valid valid
  refine ⟨_, before, values ++ after, merged, ?_⟩
  have some : (q.setAll (boundPairs pairs)).assignments.isEmpty = false := by
    rw [requireClauses, kindOrSelect, kind] at required
    cases none : (q.setAll (boundPairs pairs)).assignments.isEmpty with
    | false => rfl
    | true =>
      simp only [Option.getD_some, none, if_true] at required
      cases required
  rw [pieces, setPieces, clausePieces, List.isEmpty_map, some]
  simp

lemma prepare_insert {pairs : List (String × Value)} {p : Preparation}
    (h : (q.insert (boundPairs pairs)).prepare = .ok p) :
    ∃ row, Merged [] pairs row ∧
      (q.insert (boundPairs pairs)).insertRows = q.insertRows ++ [row] ∧
      (q.insertRows = [] → ∃ before after, p.pieces = Piece.join " \n" (before ++
        (.text ("(" ++ ", ".intercalate (row.names.map quoteName) ++ ") VALUES ") ::
          .text "(" :: (Piece.join ", " (row.map fun (_, slot) => [slot.piece]) ++ [.text ")"])) ::
        after)) := by
  obtain ⟨before, values, after, valid, _, listed, pieces⟩ := prepare_parts h
  have rows := insert_of_valid valid
  refine ⟨Columns.collect (cells pairs), merged_foldl_put [] pairs, rows, fun first => ?_⟩
  have tuple := RecordType.tuplePieces_names (Columns.nodup_collect (cells pairs))
  rw [first, List.nil_append] at rows
  rw [valuesPieces, rows] at listed
  simp only [List.mapM_cons, List.mapM_nil, tuple] at listed
  obtain rfl := Except.ok.inj listed
  refine ⟨before ++ (q.insert (boundPairs pairs)).setPieces, after, ?_⟩
  rw [pieces]
  simp [Piece.join]

end Query

/-- Every ordered map of columns follows one rule. A row holds the last write of each column since
its last removal, in the order of the first ones, and what is done with one column leaves the others
as they are. Pairs are assigned and inserted alike whether they are passed at once, one by one or
collected in a row. -/
theorem merges_agree :
    (∀ calls, (Row.after calls).Holding (Row.standing (Row.history calls))) ∧
      (∀ (row : Row) (column : String) (value : Value),
        (row.put column value).others column = row.others column ∧
        (row.insert column value).2.others column = row.others column ∧
        (row.remove column).2.others column = row.others column) ∧
      ∀ (q : Query) (pairs : List (String × Value)), q.MergesAlike pairs := by
  refine ⟨Row.holding_after, fun row column value => ⟨row.others_put column value,
    row.others_put column value, row.others_remove column⟩, fun q pairs => ?_⟩
  refine ⟨fun nonempty => ?_, q.setAll_collected pairs, q.insert_collected pairs,
    fun p => Query.prepare_setAll, fun p => Query.prepare_insert⟩
  rw [Query.setAll_eq_foldl (Query.boundPairs_ne_nil nonempty), boundPairs, List.foldl_map]

end Clausal
