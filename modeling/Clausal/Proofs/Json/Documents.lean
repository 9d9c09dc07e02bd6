import Clausal.Proofs.Json.Decoding
import Clausal.Proofs.Json.Scalars
import Mathlib.Logic.Basic

/-!
# Documents and their texts

A document whose numbers are whole is read from its text, and refused if it is nested too deep. What
is between brackets is read item by item, so the same induction does for arrays and for objects; the
fuel of the reader is never short.
-/

namespace Clausal

open Number
open Text (Reader)
open Text.Reader

namespace Json

namespace Reading

lemma space_of_head? {cs : List Char} (h : ∀ c ∈ cs.head?, isSpace c = false) :
    space cs = some ((), cs) := by
  cases cs with
  | nil => rfl
  | cons c cs =>
    have same : skipSpace (c :: cs) = c :: cs := by
      rw [skipSpace, List.dropWhile_cons, h c rfl]
      rfl
    exact congrArg (fun cs => some ((), cs)) same

lemma space_cons {c : Char} (h : isSpace c = false) (cs : List Char) :
    space (c :: cs) = some ((), c :: cs) :=
  space_of_head? (by rintro _ ⟨⟩; exact h)

lemma ends_cons {c : Char} (h : c ∈ [',', ']', '\x7d']) (rest : List Char) : Ends (c :: rest) := by
  rintro _ ⟨⟩
  simp only [List.mem_cons, List.not_mem_nil, or_false] at h
  rcases h with rfl | rfl | rfl
  all_goals decide

lemma ends_nil : Ends [] := nofun

/-- The first character of a document: no space, and none that stands after a document. -/
def Opening (c : Char) : Prop :=
  isSpace c = false ∧ c ∉ [',', ']', '\x7d']

instance (c : Char) : Decidable (Opening c) := by
  rw [Opening]
  infer_instance

lemma opening_of_mem_leading {c : Char} (h : c ∈ leading) : Opening c := by
  have each : leading.all (fun c => decide (Opening c)) = true := by decide
  exact of_decide_eq_true (List.all_eq_true.mp each c h)

lemma value_cons_number {c : Char} (h : c ∈ leading) (depth fuel : Nat) (cs : List Char) :
    value depth (fuel + 1) (c :: cs) =
      (number (c :: cs)).map fun (n, rest) => (.number n, rest) := by
  rw [Option.map_eq_bind]
  simp only [leading, List.mem_cons, List.not_mem_nil, or_false] at h
  rcases h with rfl | rfl | rfl | rfl | rfl | rfl | rfl | rfl | rfl | rfl | rfl
  all_goals rfl

/-- What stands after an item: a comma and more items, or the closing bracket. -/
def more {α : Type} (close : Char) (items : Reader (List α)) (item : α) : Reader (List α) := do
  space
  if ← optional [','] then return item :: (← items)
  else
    literal close
    return [item]

lemma more_comma {α : Type} (close : Char) (items : Reader (List α)) (item : α) (cs : List Char) :
    more close items item (',' :: cs) =
      (items cs).map fun (items, rest) => (item :: items, rest) := by
  rw [more, bind_of_some (space_cons (by decide) cs),
    bind_of_some (optional_of_mem (by decide) cs), if_pos rfl, Option.map_eq_bind]
  rfl

lemma more_close {α : Type} {close : Char} (closes : close ∈ [']', '\x7d'])
    (items : Reader (List α)) (item : α) (rest : List Char) :
    more close items item (close :: rest) = some ([item], rest) := by
  have other : isSpace close = false ∧ close ∉ [','] := by
    simp only [List.mem_cons, List.not_mem_nil, or_false] at closes
    rcases closes with rfl | rfl
    all_goals decide
  rw [more, bind_of_some (space_cons other.1 rest),
    bind_of_some (optional_of_head? (by rintro _ ⟨⟩; exact other.2)), if_neg (by decide),
    bind_of_some (literal_cons ..)]
  rfl

/-- Items with commas between them are read one after another if each can be read before a comma
and before the closing bracket. One that does not fit is refused, and so are all of them. -/
lemma read_items {α : Type} {close : Char} (closes : close ∈ [']', '\x7d'])
    {item : Nat → Reader α} {list : Nat → Reader (List α)}
    (step : ∀ fuel, list (fuel + 1) = item fuel >>= more close (list fuel))
    {written : α → List Char} {fits : α → Prop} [DecidablePred fits] {items : List α}
    (nonempty : items ≠ [])
    (each : ∀ a ∈ items, ∀ {fuel rest}, 2 * (written a).length ≤ fuel → Ends rest →
      item fuel (written a ++ rest) = if fits a then some (a, rest) else none) {fuel : Nat}
    (enough : 2 * ([','].intercalate (items.map written)).length + 2 ≤ fuel) (rest : List Char) :
    list fuel ([','].intercalate (items.map written) ++ close :: rest) =
      if ∀ a ∈ items, fits a then some (items, rest) else none := by
  have ends (c : Char) (h : c = ',' ∨ c = close) (rest : List Char) : Ends (c :: rest) := by
    refine ends_cons ?_ rest
    rcases h with rfl | rfl
    · exact List.mem_cons_self
    · exact List.mem_cons_of_mem _ closes
  obtain ⟨fuel, rfl⟩ : ∃ n, fuel = n + 1 := Nat.exists_eq_add_one.mpr (by omega)
  induction items generalizing fuel with
  | nil => exact absurd rfl nonempty
  | cons a items ih =>
    rw [List.forall_mem_cons] at each
    cases items with
    | nil =>
      rw [List.map_singleton, List.intercalate_singleton] at enough ⊢
      have first : item fuel (written a ++ close :: rest) = _ :=
        each.1 (by omega) (ends close (.inr rfl) rest)
      rw [step, bind_of_ite first, more_close closes]
      simp only [List.forall_mem_singleton]
    | cons b items =>
      rw [List.map_cons, List.map_cons, List.intercalate_cons_cons, ← List.map_cons,
        List.append_assoc] at enough ⊢
      rw [List.length_append, List.length_append, List.length_singleton] at enough
      obtain ⟨fuel, rfl⟩ : ∃ n, fuel = n + 1 := Nat.exists_eq_add_one.mpr (by omega)
      have others := ih (List.cons_ne_nil b items) each.2 fuel (by omega)
      rw [step, List.append_assoc, List.singleton_append]
      generalize [','].intercalate ((b :: items).map written) ++ close :: rest = tail at others ⊢
      have first : item (fuel + 1) (written a ++ ',' :: tail) = _ :=
        each.1 (by omega) (ends ',' (.inl rfl) tail)
      rw [bind_of_ite first, more_comma, others]
      simp only [List.forall_mem_cons (a := a), ite_and]
      split
      · split <;> rfl
      · rfl

lemma exists_intercalate_cons (c : Char) (cs : List Char) (parts : List (List Char))
    (rest : List Char) : ∃ tail, [','].intercalate ((c :: cs) :: parts) ++ rest = c :: tail := by
  cases parts with
  | nil => exact ⟨cs ++ rest, by rw [List.intercalate_singleton, List.cons_append]⟩
  | cons part parts =>
    rw [List.intercalate_cons_cons]
    exact ⟨_, rfl⟩

lemma length_le_intercalate {parts : List (List Char)} (solid : ∀ part ∈ parts, part ≠ []) :
    parts.length ≤ ([','].intercalate parts).length := by
  induction parts with
  | nil => exact Nat.le_refl 0
  | cons part parts ih =>
    rw [List.forall_mem_cons] at solid
    have := List.length_pos_iff.mpr solid.1
    cases parts with
    | nil => rwa [List.intercalate_singleton]
    | cons next parts =>
      have := ih solid.2
      rw [List.intercalate_cons_cons, List.length_append, List.length_append, List.length_cons]
      omega

/-- What stands after the opening bracket: the closing one, or items. -/
def enclosed {α : Type} (close : Char) (make : List α → Json) (items : Reader (List α)) :
    Reader Json := do
  space
  if ← optional [close] then return make [] else return make (← items)

lemma enclosed_items {α : Type} {close : Char} (closes : close ∈ [']', '\x7d'])
    (make : List α → Json) {item : Nat → Reader α} {list : Nat → Reader (List α)}
    (step : ∀ fuel, list (fuel + 1) = item fuel >>= more close (list fuel))
    {written : α → List Char} {fits : α → Prop} [DecidablePred fits] {items : List α}
    (nonempty : items ≠ [])
    (opening : ∀ a ∈ items, ∃ c cs, written a = c :: cs ∧ Opening c)
    (each : ∀ a ∈ items, ∀ {fuel rest}, 2 * (written a).length ≤ fuel → Ends rest →
      item fuel (written a ++ rest) = if fits a then some (a, rest) else none) {fuel : Nat}
    (enough : 2 * ([','].intercalate (items.map written)).length + 2 ≤ fuel) (rest : List Char) :
    enclosed close make (list fuel) ([','].intercalate (items.map written) ++ close :: rest) =
      if ∀ a ∈ items, fits a then some (make items, rest) else none := by
  obtain ⟨a, others, rfl⟩ := List.exists_cons_of_ne_nil nonempty
  obtain ⟨c, cs, front, visible, first⟩ := opening a List.mem_cons_self
  obtain ⟨tail, text⟩ :
      ∃ tail, [','].intercalate ((a :: others).map written) ++ close :: rest = c :: tail := by
    rw [List.map_cons, front]
    exact exists_intercalate_cons ..
  have full (d : Char) (head : d ∈ (c :: tail).head?) : d ∉ [close] := by
    obtain rfl := Option.some.inj head
    intro same
    exact first (List.mem_cons_of_mem _ (List.mem_singleton.mp same ▸ closes))
  have read := read_items closes step nonempty each enough rest
  rw [text] at read ⊢
  rw [enclosed, bind_of_some (space_cons visible tail), bind_of_some (optional_of_head? full),
    if_neg (by decide), bind_of_ite read]
  rfl

end Reading

/-! ## The characters of a document -/

def chars (j : Json) : List Char :=
  j.text.toList

def memberChars (member : String × Json) : List Char :=
  (quote member.1).toList ++ ':' :: chars member.2

lemma map_toList_texts (items : List Json) : (texts items).map String.toList = items.map chars := by
  induction items with
  | nil => rfl
  | cons j js ih => rw [texts, List.map_cons, List.map_cons, ih, chars]

lemma map_toList_memberTexts (members : List (String × Json)) :
    (memberTexts members).map String.toList = members.map memberChars := by
  induction members with
  | nil => rfl
  | cons member rest ih =>
    rw [memberTexts, List.map_cons, List.map_cons, ih, String.toList_append, String.toList_append,
      List.append_assoc]
    rfl

lemma chars_array (items : List Json) :
    chars (.array items) = '[' :: ([','].intercalate (items.map chars) ++ [']']) := by
  rw [chars, text, String.toList_append, String.toList_append, String.toList_intercalate,
    map_toList_texts]
  rfl

lemma chars_object (members : List (String × Json)) :
    chars (.object members) =
      '\x7b' :: ([','].intercalate (members.map memberChars) ++ ['\x7d']) := by
  rw [chars, text, String.toList_append, String.toList_append, String.toList_intercalate,
    map_toList_memberTexts]
  rfl

/-- Every number in the document is whole. -/
def WholeNumbers (j : Json) : Prop :=
  ∀ n, Occurs (.number n) j → n.Whole

lemma wholeNumbers_array {items : List Json} (h : ∀ j ∈ items, WholeNumbers j) :
    WholeNumbers (.array items) := by
  rintro n (_ | ⟨mem, inside⟩)
  exact h _ mem n inside

lemma WholeNumbers.item {items : List Json} (h : WholeNumbers (.array items)) {j : Json}
    (mem : j ∈ items) : WholeNumbers j :=
  fun n inside => h n (.item mem inside)

lemma WholeNumbers.member {members : List (String × Json)} (h : WholeNumbers (.object members))
    {name : String} {j : Json} (mem : (name, j) ∈ members) : WholeNumbers j :=
  fun n inside => h n (.member mem inside)

/-! ## Nesting -/

mutual

/-- How many arrays and objects stand in one another at most. -/
def nesting : Json → Nat
  | .array items => nestingOfItems items + 1
  | .object members => nestingOfMembers members + 1
  | _ => 0

def nestingOfItems : List Json → Nat
  | [] => 0
  | j :: js => max (nesting j) (nestingOfItems js)

def nestingOfMembers : List (String × Json) → Nat
  | [] => 0
  | (_, j) :: rest => max (nesting j) (nestingOfMembers rest)

end

variable {depth : Nat}

lemma nestingOfItems_le {items : List Json} :
    nestingOfItems items ≤ depth ↔ ∀ j ∈ items, j.nesting ≤ depth := by
  induction items with
  | nil => simp [nestingOfItems]
  | cons j js ih => rw [nestingOfItems, Nat.max_le, ih, List.forall_mem_cons]

lemma nestingOfMembers_le {members : List (String × Json)} :
    nestingOfMembers members ≤ depth ↔ ∀ member ∈ members, member.2.nesting ≤ depth := by
  induction members with
  | nil => simp [nestingOfMembers]
  | cons member rest ih => rw [nestingOfMembers, Nat.max_le, ih, List.forall_mem_cons]

lemma nesting_array_le {items : List Json} :
    nesting (.array items) ≤ depth + 1 ↔ ∀ j ∈ items, j.nesting ≤ depth := by
  rw [nesting, Nat.add_le_add_iff_right, nestingOfItems_le]

lemma nesting_object_le {members : List (String × Json)} :
    nesting (.object members) ≤ depth + 1 ↔ ∀ member ∈ members, member.2.nesting ≤ depth := by
  rw [nesting, Nat.add_le_add_iff_right, nestingOfMembers_le]

namespace Reading

/-- A document that is read from its characters, with fuel for twice their number, if it is not
nested too deep. If it is, it is refused. -/
structure Readable (j : Json) : Prop where
  opening : ∃ c cs, chars j = c :: cs ∧ Opening c
  read : ∀ {depth fuel : Nat} {rest : List Char}, 2 * (chars j).length ≤ fuel → Ends rest →
    value depth fuel (chars j ++ rest) = if j.nesting ≤ depth then some (j, rest) else none

/-- A member, its document read by `inner`. -/
def member (inner : Reader Json) : Reader (String × Json) := do
  space
  let name ← string
  space
  literal ':'
  return (name, ← inner)

lemma member_chars {inner : Reader Json} {m : String × Json} {rest : List Char} {fits : Prop}
    [Decidable fits] (h : inner (chars m.2 ++ rest) = if fits then some (m.2, rest) else none) :
    member inner (memberChars m ++ rest) = if fits then some (m, rest) else none := by
  have start (tail : List Char) :
      space ((quote m.1).toList ++ tail) = some ((), (quote m.1).toList ++ tail) := by
    rw [toList_quote]
    exact space_cons (by decide) _
  rw [memberChars, List.append_assoc, List.cons_append, member, bind_of_some (start _),
    bind_of_some (string_quote m.1 _), bind_of_some (space_cons (by decide) _),
    bind_of_some (literal_cons ..), bind_of_ite h]
  rfl

lemma elements_succ (depth fuel : Nat) :
    elements depth (fuel + 1) = value depth fuel >>= more ']' (elements depth fuel) := rfl

lemma members_succ (depth fuel : Nat) :
    members depth (fuel + 1) =
      member (value depth fuel) >>= more '\x7d' (members depth fuel) := by
  rw [members, member]
  simp only [bind_assoc, pure_bind]
  rfl

lemma exists_quote_cons (m : String × Json) : ∃ cs, memberChars m = '"' :: cs := by
  rw [memberChars, toList_quote]
  exact ⟨_, rfl⟩

namespace Readable

/-- A document is read if some fuel reads it. -/
lemma of_succ {j : Json} (opening : ∃ c cs, chars j = c :: cs ∧ Opening c)
    (read : ∀ depth fuel {rest}, 2 * (chars j).length ≤ fuel + 1 → Ends rest →
      value depth (fuel + 1) (chars j ++ rest) =
        if j.nesting ≤ depth then some (j, rest) else none) : Readable j := by
  refine ⟨opening, fun {depth fuel rest} enough ends => ?_⟩
  obtain ⟨c, cs, front, _⟩ := opening
  have : 0 < (chars j).length := by rw [front]; exact Nat.succ_pos _
  obtain ⟨fuel, rfl⟩ : ∃ n, fuel = n + 1 := Nat.exists_eq_add_one.mpr (by omega)
  exact read depth fuel enough ends

/-- A document that is neither array nor object is never nested too deep. -/
lemma of_flat {j : Json} (flat : j.nesting = 0) (opening : ∃ c cs, chars j = c :: cs ∧ Opening c)
    (read : ∀ depth fuel {rest}, Ends rest →
      value depth (fuel + 1) (chars j ++ rest) = some (j, rest)) : Readable j :=
  of_succ opening fun depth fuel _ _ ends => by
    rw [read depth fuel ends, if_pos (flat ▸ Nat.zero_le depth)]

lemma null : Readable .null :=
  of_flat rfl ⟨'n', _, rfl, by decide⟩ fun _ _ _ _ => rfl

lemma bool (b : Bool) : Readable (.bool b) := by
  cases b with
  | false => exact of_flat rfl ⟨'f', _, rfl, by decide⟩ fun _ _ _ _ => rfl
  | true => exact of_flat rfl ⟨'t', _, rfl, by decide⟩ fun _ _ _ _ => rfl

lemma number {n : Numeric} (whole : n.Whole) : Readable (.number n) := by
  obtain ⟨c, cs, front, mem⟩ := exists_text_cons whole
  have text : chars (.number n) = c :: cs := front
  refine of_flat rfl ⟨c, cs, text, opening_of_mem_leading mem⟩ fun depth fuel rest ends => ?_
  rw [text, List.cons_append, value_cons_number mem, ← List.cons_append, ← front,
    number_text whole ends]
  rfl

lemma string (s : String) : Readable (.string s) := by
  have text : chars (.string s) = '"' :: (s.toList.flatMap escapeChar ++ ['"']) := toList_quote s
  refine of_flat rfl ⟨'"', _, text, by decide⟩ fun depth fuel rest _ => ?_
  have dispatch (cs : List Char) : value depth (fuel + 1) ('"' :: cs) =
      (Reading.string >>= fun s => pure (.string s) : Reader Json) ('"' :: cs) := rfl
  rw [text, List.cons_append, dispatch, ← List.cons_append, ← text,
    show chars (.string s) = (quote s).toList from rfl, bind_of_some (string_quote s rest)]
  rfl

lemma member {m : String × Json} (h : Readable m.2) {depth fuel : Nat} {rest : List Char}
    (enough : 2 * (memberChars m).length ≤ fuel) (ends : Ends rest) :
    Reading.member (value depth fuel) (memberChars m ++ rest) =
      if m.2.nesting ≤ depth then some (m, rest) else none := by
  rw [memberChars, List.length_append, List.length_cons] at enough
  exact member_chars (h.read (by omega) ends)

lemma array {items : List Json} (each : ∀ j ∈ items, Readable j) : Readable (.array items) := by
  have text := chars_array items
  refine of_succ ⟨'[', _, text, by decide⟩ fun depth fuel rest enough _ => ?_
  rw [text, List.length_cons, List.length_append, List.length_singleton] at enough
  rw [text, List.cons_append, List.append_assoc]
  cases depth with
  | zero => rfl
  | succ depth =>
    by_cases empty : items = []
    · subst empty
      rw [if_pos (nesting_array_le.mpr (List.forall_mem_nil _))]
      rfl
    · simp only [nesting_array_le]
      exact enclosed_items (by decide) .array (elements_succ depth) empty
        (fun j mem => (each j mem).opening) (fun j mem => (each j mem).read) (by omega) rest

lemma object {members : List (String × Json)} (each : ∀ m ∈ members, Readable m.2) :
    Readable (.object members) := by
  have text := chars_object members
  refine of_succ ⟨'\x7b', _, text, by decide⟩ fun depth fuel rest enough _ => ?_
  rw [text, List.length_cons, List.length_append, List.length_singleton] at enough
  rw [text, List.cons_append, List.append_assoc]
  have opening (m : String × Json) (_ : m ∈ members) :
      ∃ c cs, memberChars m = c :: cs ∧ Opening c :=
    ⟨'"', _, (exists_quote_cons m).choose_spec, by decide⟩
  cases depth with
  | zero => rfl
  | succ depth =>
    by_cases empty : members = []
    · subst empty
      rw [if_pos (nesting_object_le.mpr (List.forall_mem_nil _))]
      rfl
    · simp only [nesting_object_le]
      exact enclosed_items (by decide) .object (members_succ depth) empty opening
        (fun m mem => (each m mem).member) (by omega) rest

/-- The fuel of a document is enough, whatever follows it. -/
lemma document {j : Json} (h : Readable j) (depth : Nat) {rest : List Char} (ends : Ends rest) :
    document depth (chars j ++ rest) = if j.nesting ≤ depth then some (j, rest) else none := by
  refine h.read ?_ ends
  rw [List.length_append]
  omega

end Readable

mutual

/-- A document without broken numbers is read from its text. -/
theorem readable : ∀ j : Json, WholeNumbers j → Readable j
  | .null, _ => .null
  | .bool b, _ => .bool b
  | .number _, whole => .number (whole _ .self)
  | .string s, _ => .string s
  | .array items, whole => .array (readableItems items fun _ mem => whole.item mem)
  | .object members, whole => .object (readableMembers members fun _ _ mem => whole.member mem)

theorem readableItems : ∀ items : List Json, (∀ j ∈ items, WholeNumbers j) →
    ∀ j ∈ items, Readable j
  | [], _ => nofun
  | j :: js, whole => List.forall_mem_cons.mpr
      ⟨readable j (whole j List.mem_cons_self),
        readableItems js fun i mem => whole i (List.mem_cons_of_mem j mem)⟩

theorem readableMembers : ∀ members : List (String × Json),
    (∀ name j, (name, j) ∈ members → WholeNumbers j) → ∀ member ∈ members, Readable member.2
  | [], _ => nofun
  | (name, j) :: rest, whole => List.forall_mem_cons.mpr
      ⟨readable j (whole name j List.mem_cons_self),
        readableMembers rest fun n i mem => whole n i (List.mem_cons_of_mem _ mem)⟩

end

end Reading

/-- What is written is read again, unless it is nested too deep. -/
theorem read?_text {j : Json} (h : WholeNumbers j) :
    read? j.text = if j.nesting ≤ Reading.nestingLimit then some j else none := by
  have front := (Reading.readable j h).document Reading.nestingLimit Reading.ends_nil
  rw [List.append_nil] at front
  have read : (do
      let j ← Reading.document Reading.nestingLimit
      Reading.space
      return j : Reader Json) j.text.toList =
        if j.nesting ≤ Reading.nestingLimit then some (j, []) else none := bind_of_ite front
  rw [read?, whole, read]
  by_cases fits : j.nesting ≤ Reading.nestingLimit
  · rw [if_pos fits, if_pos fits]
  · rw [if_neg fits, if_neg fits]

end Json

end Clausal
