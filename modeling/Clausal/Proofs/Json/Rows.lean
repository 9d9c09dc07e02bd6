import Clausal.Json.Values
import Clausal.Proofs.Columns
import Clausal.Proofs.Json.Documents
import Clausal.Proofs.Value

/-!
# Rows in JSON and back

A row that is written and read again has its columns and values back, but a moment comes back as its
text: a document does not tell the two apart. The text of a row is read as its document is, unless
lists stand too deep in one another.
-/

namespace Clausal

open Json

lemma map_eq_self_iff {α : Type} {f : α → α} {l : List α} : l.map f = l ↔ ∀ a ∈ l, f a = a := by
  have same := List.map_inj_left (l := l) (f := f) (g := id)
  rwa [List.map_id] at same

namespace Value

/-! ## Values as documents -/

mutual

/-- The value with the text of every moment in its place. -/
def restored : Value → Value
  | .datetime dt => .text dt.toExchangeText
  | .list items => .list (restoredAll items)
  | v => v

def restoredAll : List Value → List Value
  | [] => []
  | v :: vs => restored v :: restoredAll vs

end

lemma restoredAll_eq_map (items : List Value) : restoredAll items = items.map restored := by
  induction items with
  | nil => rfl
  | cons v vs ih => rw [restoredAll, ih, List.map_cons]

lemma toJsonAll_eq_map (items : List Value) : toJsonAll items = items.map toJson := by
  induction items with
  | nil => rfl
  | cons v vs ih => rw [toJsonAll, ih, List.map_cons]

lemma ofJsonAll_eq_map (items : List Json) : ofJsonAll items = items.map ofJson := by
  induction items with
  | nil => rfl
  | cons j js ih => rw [ofJsonAll, ih, List.map_cons]

lemma toValue_ofInt (n : Int64) : (Numeric.ofInt n).toValue = .int n := by
  have fits : (Numeric.ofInt n).asInt? = some n := by
    rw [Numeric.ofInt]
    split
    · rfl
    · next nonneg =>
      have nonneg : 0 ≤ n.toInt := by rwa [Int64.lt_iff_toInt_lt, Int.not_lt] at nonneg
      have same : (n.toUInt64.toNat : Int) = n.toInt := by
        rw [Int64.toNat_toUInt64_of_le (Int64.le_iff_toInt_le.mpr nonneg)]
        exact Int.toNat_of_nonneg nonneg
      rw [Numeric.asInt?, same, Number.signed?_toInt]
  rw [Numeric.toValue, fits]

lemma whole_ofInt (n : Int64) : (Numeric.ofInt n).Whole := by
  rw [Numeric.ofInt]
  split
  · next negative => exact negative
  · trivial

/-- No number in the value has a fraction or an exponent. -/
def FloatFree (v : Value) : Prop :=
  ∀ x, ¬ Inside (.float x) v

lemma floatFree_list {items : List Value} : FloatFree (.list items) ↔ ∀ v ∈ items, FloatFree v :=
  forall_not_inside_list nofun

lemma objectFree_toJson (v : Value) : v.toJson.ObjectFree := by
  induction v using nested_induction with
  | list items ih =>
    rw [toJson, toJsonAll_eq_map, objectFree_array]
    simpa using ih
  | float x => cases x <;> simp [toJson]
  | _ => simp [toJson]

lemma ofJson_toJson {v : Value} (free : v.FloatFree) : ofJson v.toJson = v.restored := by
  induction v using nested_induction with
  | null => rfl
  | bool b => rfl
  | int n => exact toValue_ofInt n
  | float x => exact absurd .self (free x)
  | text s => rfl
  | datetime dt => rfl
  | list items ih =>
    rw [toJson, ofJson, restored, toJsonAll_eq_map, ofJsonAll_eq_map, restoredAll_eq_map,
      List.map_map]
    exact congrArg _ (List.map_congr_left fun v mem => ih v mem (floatFree_list.mp free v mem))

lemma wholeNumbers_toJson {v : Value} (free : v.FloatFree) : WholeNumbers v.toJson := by
  induction v using nested_induction with
  | null => rintro n ⟨⟩
  | bool b => rintro n ⟨⟩
  | int i =>
    rintro n ⟨⟩
    exact whole_ofInt i
  | float x => exact absurd .self (free x)
  | text s => rintro n ⟨⟩
  | datetime dt => rintro n ⟨⟩
  | list items ih =>
    rw [toJson, toJsonAll_eq_map]
    refine wholeNumbers_array (List.forall_mem_map.mpr fun v mem => ?_)
    exact ih v mem (floatFree_list.mp free v mem)

lemma nestingOfItems_toJsonAll {items : List Value}
    (same : ∀ v ∈ items, v.toJson.nesting = v.nesting) :
    Json.nestingOfItems (toJsonAll items) = nestingOfItems items := by
  induction items with
  | nil => rfl
  | cons v vs ih =>
    rw [List.forall_mem_cons] at same
    rw [toJsonAll, Json.nestingOfItems, nestingOfItems, same.1, ih same.2]

lemma nesting_toJson (v : Value) : v.toJson.nesting = v.nesting := by
  induction v using nested_induction with
  | list items ih => rw [toJson, Json.nesting, nesting, nestingOfItems_toJsonAll ih]
  | float x => cases x <;> rfl
  | _ => rfl

/-- Only moments are changed. -/
lemma restored_eq_self_iff {v : Value} : v.restored = v ↔ ∀ dt, ¬ Inside (.datetime dt) v := by
  induction v using nested_induction with
  | list items ih =>
    have scalar (dt : Calendar.DateTime) : Value.datetime dt ≠ .list items := nofun
    rw [restored, restoredAll_eq_map, forall_not_inside_list scalar, Value.list.injEq]
    exact map_eq_self_iff.trans (forall₂_congr ih)
  | datetime dt =>
    rw [restored]
    exact iff_of_false Value.noConfusion fun absent => absent dt .self
  | _ => exact iff_of_true rfl (by rintro dt ⟨⟩)

/-- The document of a value is tried as that value, moments apart. -/
lemma ofJson?_toJson {v : Value} (free : v.FloatFree) : ofJson? v.toJson = some v.restored := by
  rw [← ofJson_toJson free]
  exact ofJsonBy?_of_objectFree _ v.toJson (objectFree_toJson v)

end Value

namespace Row

open Json.Reading (nestingLimit)

/-! ## Rows as documents -/

/-- The value stands somewhere in the row. -/
def Holds (row : Row) (part : Value) : Prop :=
  ∃ cell ∈ row.columns, Value.Inside part cell.2

/-- The row with the text of every moment in its place. -/
def restored (row : Row) : Row :=
  row.mapValues fun _ value => value.restored

/-- Whether a reader takes all lists, which stand in the object of the row. -/
def Shallow (row : Row) : Prop :=
  ∀ cell ∈ row.columns, cell.2.nesting < nestingLimit

instance (row : Row) : Decidable row.Shallow :=
  inferInstanceAs (Decidable (∀ cell ∈ row.columns, cell.2.nesting < nestingLimit))

def cellJson (cell : String × Value) : String × Json :=
  (cell.1, cell.2.toJson)

lemma nesting_cellJson (cell : String × Value) :
    (cellJson cell).2.nesting ≤ nestingLimit - 1 ↔ cell.2.nesting < nestingLimit := by
  rw [cellJson, Value.nesting_toJson]
  exact Nat.le_sub_one_iff_lt (by decide)

lemma nesting_toJson_le (row : Row) : row.toJson.nesting ≤ nestingLimit ↔ row.Shallow := by
  change nesting (.object (row.columns.map cellJson)) ≤ nestingLimit - 1 + 1 ↔ _
  rw [nesting_object_le, List.forall_mem_map]
  exact forall₂_congr fun cell _ => nesting_cellJson cell

lemma wholeNumbers_toJson {row : Row} (free : ∀ cell ∈ row.columns, cell.2.FloatFree) :
    WholeNumbers row.toJson := by
  rintro n (_ | _ | ⟨mem, inside⟩)
  obtain ⟨cell, of, same⟩ := List.mem_map.mp mem
  obtain rfl := (Prod.mk.inj same).2
  exact Value.wholeNumbers_toJson (free cell of) n inside

/-- Cells with distinct names are assigned in their order. -/
lemma ofPairs_restored {row : Row} (distinct : row.names.Nodup) :
    ofPairs row.restored.columns = row.restored := by
  have names : row.restored.columns.names = row.names := by
    simp [restored, mapValues, Row.names, Columns.names]
  exact congrArg Row.mk (Columns.collect_eq_self (names ▸ distinct))

lemma mapM_cellJson {cells : Columns Value} (free : ∀ cell ∈ cells, cell.2.FloatFree) :
    (cells.map cellJson).mapM (fun member => (Value.ofJson? member.2).map (member.1, ·)) =
      some (cells.map fun cell => (cell.1, cell.2.restored)) := by
  induction cells with
  | nil => rfl
  | cons cell cells ih =>
    rw [List.forall_mem_cons] at free
    have decoded : Value.ofJson? (cellJson cell).2 = some cell.2.restored :=
      Value.ofJson?_toJson free.1
    rw [List.map_cons, List.mapM_cons, decoded, ih free.2]
    rfl

/-- The document of a row is taken for the row, moments apart. -/
lemma ofJson?_toJson {row : Row} (distinct : row.names.Nodup)
    (free : ∀ cell ∈ row.columns, cell.2.FloatFree) :
    ofJson? row.toJson = some row.restored := by
  have document : row.toJson = .object (row.columns.map cellJson) := rfl
  rw [document, ofJson?, mapM_cellJson free]
  exact congrArg some (ofPairs_restored distinct)

lemma restored_eq_self {row : Row} : row.restored = row ↔ ∀ dt, ¬ row.Holds (.datetime dt) := by
  rw [restored, mapValues, Row.mk.injEq, map_eq_self_iff]
  simp only [Prod.ext_iff, true_and]
  constructor
  · rintro same dt ⟨cell, mem, inside⟩
    exact Value.restored_eq_self_iff.mp (same cell mem) dt inside
  · intro absent cell mem
    exact Value.restored_eq_self_iff.mpr fun dt inside => absent dt ⟨cell, mem, inside⟩

/-! ## Rows as texts -/

/-- What stands after a member: a comma and more members, or the closing brace. -/
def readMore (row : Row) (fuel : Nat) (cs : List Char) : Except Json.Fault (Row × List Char) :=
  match skipSpace cs with
  | ',' :: rest => readMembers row fuel rest
  | '\x7d' :: rest => .ok (row, rest)
  | _ => .error .malformed

lemma readMembers_succ (row : Row) (fuel : Nat) (cs : List Char) :
    readMembers row (fuel + 1) cs =
      match Reading.member Reading.nested cs with
      | none => .error .malformed
      | some ((name, j), rest) =>
        match Value.ofJson? j with
        | none => .error .unsuitable
        | some value => readMore (row.put name value) fuel rest := rfl

/-- One member is read, and assigned if it is a value. -/
lemma readMembers_of_member {row : Row} {fuel : Nat} {cs rest : List Char} {m : String × Json}
    {value : Value} (read : Reading.member Reading.nested cs = some (m, rest))
    (decoded : Value.ofJson? m.2 = some value) :
    readMembers row (fuel + 1) cs = readMore (row.put m.1 value) fuel rest := by
  obtain ⟨name, j⟩ := m
  rw [readMembers_succ, read]
  simp only [decoded]

lemma readMembers_of_none {row : Row} {fuel : Nat} {cs : List Char}
    (refused : Reading.member Reading.nested cs = none) :
    readMembers row (fuel + 1) cs = .error .malformed := by
  rw [readMembers_succ, refused]

/-- The member of a cell is read and assigned, unless it is nested too deep. -/
lemma readMembers_member {cell : String × Value} (free : cell.2.FloatFree) (row : Row) (fuel : Nat)
    {tail : List Char} (ends : Reading.Ends tail) :
    readMembers row (fuel + 1) (memberChars (cellJson cell) ++ tail) =
      if cell.2.nesting < nestingLimit then readMore (row.put cell.1 cell.2.restored) fuel tail
      else .error .malformed := by
  have readable := Reading.readable _ (Value.wholeNumbers_toJson free)
  have read : Reading.member Reading.nested (memberChars (cellJson cell) ++ tail) =
      if (cellJson cell).2.nesting ≤ nestingLimit - 1 then some (cellJson cell, tail) else none :=
    Reading.member_chars (readable.document _ ends)
  simp only [nesting_cellJson] at read
  by_cases fits : cell.2.nesting < nestingLimit
  · rw [if_pos fits] at read ⊢
    exact readMembers_of_member read (Value.ofJson?_toJson free)
  · rw [if_neg fits] at read ⊢
    exact readMembers_of_none read

/-- Members are read and assigned in their order, up to one that is nested too deep. -/
lemma readMembers_chars {cells : Columns Value} (nonempty : cells ≠ [])
    (free : ∀ cell ∈ cells, cell.2.FloatFree) (row : Row) {fuel : Nat}
    (enough : cells.length ≤ fuel) (rest : List Char) :
    readMembers row fuel
        ([','].intercalate (cells.map fun cell => memberChars (cellJson cell)) ++ '\x7d' :: rest) =
      if ∀ cell ∈ cells, cell.2.nesting < nestingLimit then
        .ok (⟨cells.foldl (fun acc cell => acc.put cell.1 cell.2.restored) row.columns⟩, rest)
      else .error .malformed := by
  induction cells generalizing row fuel with
  | nil => exact absurd rfl nonempty
  | cons cell cells ih =>
    rw [List.forall_mem_cons] at free
    rw [List.length_cons] at enough
    obtain ⟨fuel, rfl⟩ : ∃ n, fuel = n + 1 := Nat.exists_eq_add_one.mpr (by omega)
    simp only [List.forall_mem_cons]
    cases cells with
    | nil =>
      rw [List.map_singleton, List.intercalate_singleton,
        readMembers_member free.1 row fuel (Reading.ends_cons (by decide) rest)]
      simp only [List.not_mem_nil, false_imp_iff, implies_true, and_true]
      rfl
    | cons next cells =>
      have others := ih (List.cons_ne_nil next cells) free.2 (row.put cell.1 cell.2.restored)
        (Nat.le_of_succ_le_succ enough)
      rw [List.map_cons, List.map_cons, List.intercalate_cons_cons, List.append_assoc,
        List.append_assoc, List.singleton_append,
        readMembers_member free.1 row fuel (Reading.ends_cons (by decide) _)]
      by_cases fits : cell.2.nesting < nestingLimit
      · rw [if_pos fits]
        exact others.trans (by simp only [List.forall_mem_cons, fits, true_and]; rfl)
      · rw [if_neg fits, if_neg fun all => fits all.1]

/-- Members are read from the brace on, with fuel for each of their characters. -/
lemma readObject_quote (cs : List Char) :
    readObject ('\x7b' :: '"' :: cs) = readMembers ⟨[]⟩ ('"' :: cs).length ('"' :: cs) := rfl

lemma readObject_chars {row : Row} (free : ∀ cell ∈ row.columns, cell.2.FloatFree) :
    readObject (chars row.toJson) =
      if row.Shallow then .ok (ofPairs row.restored.columns, []) else .error .malformed := by
  obtain ⟨cells⟩ := row
  rw [toJson, chars_object, List.map_map]
  cases cells with
  | nil => rfl
  | cons cell cells =>
    have solid (part : List Char)
        (mem : part ∈ (cell :: cells).map fun cell => memberChars (cellJson cell)) :
        part ≠ [] := by
      obtain ⟨cell, _, rfl⟩ := List.mem_map.mp mem
      obtain ⟨cs, front⟩ := Reading.exists_quote_cons (cellJson cell)
      exact front ▸ List.cons_ne_nil '"' cs
    obtain ⟨tail, text⟩ : ∃ tail, [','].intercalate
        ((cell :: cells).map fun cell => memberChars (cellJson cell)) ++ ['\x7d'] =
          '"' :: tail := by
      obtain ⟨cs, front⟩ := Reading.exists_quote_cons (cellJson cell)
      rw [List.map_cons, front]
      exact Reading.exists_intercalate_cons ..
    have enough : (cell :: cells).length ≤ ('"' :: tail).length := by
      have := Reading.length_le_intercalate solid
      rw [List.length_map] at this
      rw [← text, List.length_append]
      omega
    have read := readMembers_chars (List.cons_ne_nil cell cells) free ⟨[]⟩ enough []
    rw [text] at read
    have start := congrArg (fun cs => readObject ('\x7b' :: cs)) text
    have pairs : ofPairs (restored ⟨cell :: cells⟩).columns =
        ⟨(cell :: cells).foldl (fun acc cell => acc.put cell.1 cell.2.restored) []⟩ := by
      rw [ofPairs, Columns.collect, restored, mapValues, List.foldl_map]
    rw [pairs]
    exact start.trans ((readObject_quote tail).trans read)

lemma readJson_chars {row : Row} (distinct : row.names.Nodup)
    (free : ∀ cell ∈ row.columns, cell.2.FloatFree) :
    readJson row.toJson.text = if row.Shallow then .ok row.restored else .error .malformed := by
  have read := readObject_chars free
  rw [ofPairs_restored distinct] at read
  rw [readJson, show row.toJson.text.toList = chars row.toJson from rfl, read]
  by_cases shallow : row.Shallow
  · rw [if_pos shallow, if_pos shallow]
    rfl
  · rw [if_neg shallow, if_neg shallow]

/-- The document that a row is written as is taken for the same row, moments apart, which come back
as their texts; so it is the row itself just if there are none. Its text is read as that document,
and as that row, unless lists stand too deep in one another. -/
theorem readJson_toJson {row : Row} (distinct : row.names.Nodup)
    (free : ∀ x, ¬ row.Holds (.float x)) :
    ofJson? row.toJson = some row.restored ∧
      (ofJson? row.toJson = some row ↔ ∀ dt, ¬ row.Holds (.datetime dt)) ∧
      (read? row.toJson.text = if row.Shallow then some row.toJson else none) ∧
      readJson row.toJson.text =
        if row.Shallow then .ok row.restored else .error .malformed := by
  have free : ∀ cell ∈ row.columns, cell.2.FloatFree :=
    fun cell mem x inside => free x ⟨cell, mem, inside⟩
  have decoded := ofJson?_toJson distinct free
  refine ⟨decoded, ?_, ?_, readJson_chars distinct free⟩
  · rw [decoded, Option.some.injEq]
    exact restored_eq_self
  · rw [read?_text (wholeNumbers_toJson free)]
    simp only [nesting_toJson_le]

/-- Quotes, control characters and characters beyond ASCII, both ends of the integers, an empty
list in a list, and columns that are not in the order of their names. -/
theorem readJson_toJson_nested :
    let row : Row := ⟨[
      ("b", .list [.int Int64.minValue, .int 0, .list [], .list [.bool false, .null]]),
      ("a \"é\"", .text "\\\n\x01\t/ü"), ("", .int Int64.maxValue)]⟩
    row.names.Nodup ∧ (∀ x, ¬ row.Holds (.float x)) ∧ (∀ dt, ¬ row.Holds (.datetime dt)) ∧
      row.Shallow ∧ ofJson? row.toJson = some row ∧ readJson row.toJson.text = .ok row := by
  intro row
  have distinct : row.names.Nodup := by decide
  have floats : ∀ x, ¬ row.Holds (.float x) := by simp [Holds, row]
  have moments : ∀ dt, ¬ row.Holds (.datetime dt) := by simp [Holds, row]
  have shallow : row.Shallow := by decide
  obtain ⟨decoded, same, _, read⟩ := readJson_toJson distinct floats
  have back := same.mpr moments
  have restored := Option.some.inj (decoded.symm.trans back)
  rw [if_pos shallow, restored] at read
  exact ⟨distinct, floats, moments, shallow, back, read⟩

/-- A moment and its text are written alike, so that no reader could give both back. -/
theorem readJson_toJson_datetime :
    let row (v : Value) : Row := ⟨[("a", v)]⟩
    let moment : Calendar.DateTime :=
      ⟨⟨2018, 6, 18, by decide, by decide, by decide⟩,
        ⟨8, 12, 0, 0, by decide, by decide, by decide, by decide⟩⟩
    (row (.datetime moment)).names.Nodup ∧ (∀ x, ¬ (row (.datetime moment)).Holds (.float x)) ∧
      (row (.datetime moment)).toJson = (row (.text "2018-06-18T08:12:00")).toJson ∧
      ofJson? (row (.datetime moment)).toJson = some (row (.text "2018-06-18T08:12:00")) ∧
      ofJson? (row (.datetime moment)).toJson ≠ some (row (.datetime moment)) := by
  intro row moment
  have distinct (v : Value) : (row v).names.Nodup := List.nodup_singleton "a"
  have floats : ∀ x, ¬ (row (.datetime moment)).Holds (.float x) := by simp [Holds, row]
  have text : moment.toExchangeText = "2018-06-18T08:12:00" := by decide +kernel
  have decoded := ofJson?_toJson (distinct (.datetime moment)) fun cell mem x inside =>
    floats x ⟨cell, mem, inside⟩
  rw [show (row (.datetime moment)).restored = row (.text moment.toExchangeText) from rfl, text]
    at decoded
  have alike : (row (.datetime moment)).toJson = (row (.text "2018-06-18T08:12:00")).toJson := by
    rw [← text]
    rfl
  exact ⟨distinct _, floats, alike, decoded, by rw [decoded]; simp [row]⟩

end Row

end Clausal
