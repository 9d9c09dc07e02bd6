import Clausal.Columns
import Mathlib.Data.List.Induction
import Mathlib.Data.List.Nodup
import Mathlib.Tactic.Lemma

/-!
# Columns without repeated names

Assigning never repeats a name, so columns that were collected have each name once. Then erasing a
name leaves nothing of it, and what is there is what a lookup gives.
-/

namespace Clausal.Columns

variable {α β : Type}

@[simp] lemma names_cons (n : String) (a : α) (rest : Columns α) :
    names ((n, a) :: rest) = n :: names rest := rfl

lemma isSome_get? (cols : Columns α) (name : String) :
    (cols.get? name).isSome ↔ name ∈ cols.names := by
  induction cols with
  | nil => simp [names]
  | cons c rest ih =>
    obtain ⟨n, a⟩ := c
    rw [get?_cons, names_cons, List.mem_cons]
    by_cases hn : n = name
    · simp [hn]
    · rw [if_neg hn, ih]
      constructor
      · exact Or.inr
      · rintro (rfl | h)
        · exact absurd rfl hn
        · exact h

lemma get?_eq_none (cols : Columns α) (name : String) :
    cols.get? name = none ↔ name ∉ cols.names := by
  rw [← isSome_get?, Option.not_isSome_iff_eq_none]

/-- A lookup finds the new content of a column whose content was replaced. -/
lemma get?_map (f : String → α → β) (cols : Columns α) (name : String) :
    get? (cols.map fun (n, a) => (n, f n a)) name = (cols.get? name).map (f name) := by
  induction cols with
  | nil => rfl
  | cons c rest ih =>
    obtain ⟨n, a⟩ := c
    rw [List.map_cons, get?_cons, get?_cons, ih]
    by_cases hn : n = name
    · subst hn
      rw [if_pos rfl, if_pos rfl]
      rfl
    · rw [if_neg hn, if_neg hn]

lemma names_map (f : String → α → β) (cols : Columns α) :
    names (cols.map fun (n, a) => (n, f n a)) = cols.names := by
  simp [names]

lemma mem_of_get? {cols : Columns α} {name : String} {a : α} (h : cols.get? name = some a) :
    (name, a) ∈ cols := by
  obtain ⟨cell, found, rfl⟩ := Option.map_eq_some_iff.mp h
  have same : cell.1 = name := by simpa using List.find?_some found
  rw [← same]
  exact List.mem_of_find?_eq_some found

lemma mem_put (cols : Columns α) (name : String) (a : α) : (name, a) ∈ cols.put name a :=
  mem_of_get? (by rw [get?_put, if_pos rfl])

lemma names_erase (cols : Columns α) (name : String) :
    (cols.erase name).names = cols.names.erase name := by
  induction cols with
  | nil => rfl
  | cons c rest ih =>
    obtain ⟨n, a⟩ := c
    rw [erase, names_cons, List.erase_cons]
    by_cases hn : n = name
    · simp [hn]
    · simp [hn, ih]

lemma put_of_absent {cols : Columns α} {name : String} (h : name ∉ cols.names) (a : α) :
    cols.put name a = cols ++ [(name, a)] := by
  induction cols with
  | nil => rfl
  | cons c rest ih =>
    obtain ⟨n, b⟩ := c
    rw [names_cons, List.mem_cons, not_or] at h
    rw [put, if_neg (Ne.symm h.1), ih h.2, List.cons_append]

/-! ## Each name once -/

section Nodup

variable {cols : Columns α}

lemma nodup_put (h : cols.names.Nodup) (name : String) (a : α) : (cols.put name a).names.Nodup := by
  rw [names_put]
  split
  · exact h
  · next absent =>
    rw [← List.concat_eq_append]
    exact h.concat absent

lemma nodup_erase (h : cols.names.Nodup) (name : String) : (cols.erase name).names.Nodup := by
  rw [names_erase]
  exact h.erase name

lemma get?_erase (h : cols.names.Nodup) (name other : String) :
    (cols.erase name).get? other = if name = other then none else cols.get? other := by
  induction cols with
  | nil => simp [erase]
  | cons c rest ih =>
    obtain ⟨n, a⟩ := c
    obtain ⟨absent, tail⟩ := List.nodup_cons.mp h
    rw [erase]
    by_cases hn : n = name
    · subst hn
      rw [if_pos rfl, get?_cons]
      by_cases ho : n = other
      · subst ho
        rw [if_pos rfl]
        exact (get?_eq_none rest n).mpr absent
      · rw [if_neg ho, if_neg ho]
    · rw [if_neg hn, get?_cons, get?_cons, ih tail]
      by_cases ho : n = other
      · subst ho
        rw [if_pos rfl, if_pos rfl, if_neg (Ne.symm hn)]
      · rw [if_neg ho, if_neg ho]

lemma get?_of_mem (h : cols.names.Nodup) {name : String} {a : α} (mem : (name, a) ∈ cols) :
    cols.get? name = some a := by
  induction cols with
  | nil => cases mem
  | cons c rest ih =>
    obtain ⟨n, b⟩ := c
    obtain ⟨absent, tail⟩ := List.nodup_cons.mp h
    rw [get?_cons]
    rcases List.mem_cons.mp mem with head | mem
    · obtain ⟨rfl, rfl⟩ := Prod.mk.inj head
      rw [if_pos rfl]
    · have other : n ≠ name := by
        rintro rfl
        exact absent (List.mem_map.mpr ⟨(n, a), mem, rfl⟩)
      rw [if_neg other]
      exact ih tail mem

lemma foldl_put_eq_append (front : Columns α) (h : (front ++ cols).names.Nodup) :
    cols.foldl (fun acc (name, a) => acc.put name a) front = front ++ cols := by
  induction cols generalizing front with
  | nil => simp
  | cons c rest ih =>
    obtain ⟨n, a⟩ := c
    have absent : n ∉ front.names := by
      intro mem
      obtain ⟨d, hd, rfl⟩ := List.mem_map.mp mem
      rw [names, List.map_append, List.nodup_append] at h
      exact h.2.2 d.1 (List.mem_map_of_mem hd) d.1 List.mem_cons_self rfl
    have next := ih (front ++ [(n, a)]) (by simpa using h)
    rw [← put_of_absent absent a] at next
    rw [List.foldl_cons, next, put_of_absent absent, List.append_assoc, List.singleton_append]

lemma collect_eq_self (h : cols.names.Nodup) : collect cols = cols :=
  foldl_put_eq_append [] h

lemma nodup_foldl_put (h : cols.names.Nodup) (pairs : List (String × α)) :
    (pairs.foldl (fun cols (name, a) => Columns.put cols name a) cols).names.Nodup := by
  induction pairs generalizing cols with
  | nil => exact h
  | cons pair rest ih => exact ih (nodup_put h pair.1 pair.2)

end Nodup

lemma nodup_collect (pairs : List (String × α)) : (collect pairs).names.Nodup :=
  nodup_foldl_put (show (names ([] : Columns α)).Nodup from List.nodup_nil) pairs

/-! ## What was collected -/

lemma collect_concat (pairs : List (String × α)) (pair : String × α) :
    collect (pairs ++ [pair]) = (collect pairs).put pair.1 pair.2 :=
  List.foldl_append

/-- The last content that was given for a name is found. -/
lemma get?_collect (pairs : List (String × α)) (name : String) :
    (collect pairs).get? name = get? pairs.reverse name := by
  induction pairs using List.reverseRecOn with
  | nil => rfl
  | append_singleton pairs pair ih =>
    rw [collect_concat, get?_put, ih, List.reverse_append, List.reverse_singleton,
      List.singleton_append, get?_cons]

/-- The names stand in the order they are first given. -/
lemma names_collect (pairs : List (String × α)) :
    (collect pairs).names = (names pairs).eraseDups := by
  induction pairs using List.reverseRecOn with
  | nil => rfl
  | append_singleton pairs pair ih =>
    have given : pair.1 ∈ (collect pairs).names ↔ pair.1 ∈ names pairs := by
      rw [ih, List.mem_eraseDups]
    have both : names (pairs ++ [pair]) = names pairs ++ [pair.1] := List.map_append
    rw [collect_concat, names_put, both, List.eraseDups_append, ← ih]
    by_cases h : pair.1 ∈ names pairs
    · rw [if_pos (given.mpr h)]
      simp [List.removeAll, h]
    · rw [if_neg (mt given.mp h)]
      simp [List.removeAll, h, List.eraseDups_cons]

/-! ## Assigning more than once -/

lemma put_put (cols : Columns α) (name : String) (a b : α) :
    (cols.put name a).put name b = cols.put name b := by
  induction cols with
  | nil => simp [put]
  | cons c rest ih =>
    obtain ⟨n, d⟩ := c
    by_cases hn : n = name
    · simp [put, hn]
    · simp [put, hn, ih]

/-- Once a name has its place, it does not matter when it is assigned. -/
lemma put_comm {cols : Columns α} {name other : String} (mem : name ∈ cols.names)
    (h : other ≠ name) (a b : α) :
    (cols.put other b).put name a = (cols.put name a).put other b := by
  induction cols with
  | nil => cases mem
  | cons c rest ih =>
    obtain ⟨n, d⟩ := c
    by_cases hn : n = name
    · subst hn
      simp [put, Ne.symm h]
    · have tail : name ∈ names rest := (List.mem_cons.mp mem).resolve_left (Ne.symm hn)
      by_cases ho : n = other
      · simp [put, ho, h]
      · simp [put, hn, ho, ih tail]

lemma foldl_put_comm {cols : Columns α} {name : String} (mem : name ∈ cols.names) (a : α)
    {pairs : Columns α} (h : name ∉ names pairs) :
    (pairs.foldl (fun cols (name, a) => Columns.put cols name a) cols).put name a =
      pairs.foldl (fun cols (name, a) => Columns.put cols name a) (cols.put name a) := by
  induction pairs generalizing cols with
  | nil => rfl
  | cons pair rest ih =>
    obtain ⟨n, b⟩ := pair
    obtain ⟨other, tail⟩ := not_or.mp (mt List.mem_cons.mpr h)
    have still : name ∈ (cols.put n b).names := by
      rw [names_put]
      split
      · exact mem
      · exact List.mem_append_left [n] mem
    rw [List.foldl_cons, List.foldl_cons, ih still tail, put_comm mem (Ne.symm other)]

lemma foldl_put_put (cols : Columns α) {pairs : Columns α} (h : (names pairs).Nodup)
    (name : String) (a : α) :
    (Columns.put pairs name a).foldl (fun cols (name, a) => Columns.put cols name a) cols =
      (pairs.foldl (fun cols (name, a) => Columns.put cols name a) cols).put name a := by
  induction pairs generalizing cols with
  | nil => rfl
  | cons pair rest ih =>
    obtain ⟨n, b⟩ := pair
    obtain ⟨absent, tail⟩ := List.nodup_cons.mp h
    by_cases hn : n = name
    · subst hn
      have present : n ∈ (cols.put n b).names :=
        List.mem_map_of_mem (f := Prod.fst) (mem_put cols n b)
      rw [put, if_pos rfl, List.foldl_cons, List.foldl_cons, foldl_put_comm present a absent,
        put_put]
    · rw [put, if_neg hn, List.foldl_cons, List.foldl_cons, ih (cols.put n b) tail]

/-- Collecting the pairs first does not change what they come to. -/
lemma foldl_put_collect (cols : Columns α) (pairs : List (String × α)) :
    (collect pairs).foldl (fun cols (name, a) => Columns.put cols name a) cols =
      pairs.foldl (fun cols (name, a) => Columns.put cols name a) cols := by
  induction pairs using List.reverseRecOn with
  | nil => rfl
  | append_singleton pairs pair ih =>
    rw [collect_concat, foldl_put_put cols (nodup_collect pairs), ih, List.foldl_append]
    rfl

lemma map_put (f : α → β) (cols : Columns α) (name : String) (a : α) :
    (cols.put name a).map (fun (n, a) => (n, f a)) =
      Columns.put (cols.map fun (n, a) => (n, f a)) name (f a) := by
  induction cols with
  | nil => rfl
  | cons c rest ih =>
    obtain ⟨n, d⟩ := c
    by_cases hn : n = name
    · simp [put, hn]
    · simp only [put, hn, if_false, List.map_cons]
      rw [ih]

lemma collect_map (f : α → β) (pairs : List (String × α)) :
    collect (pairs.map fun (n, a) => (n, f a)) = (collect pairs).map fun (n, a) => (n, f a) := by
  induction pairs using List.reverseRecOn with
  | nil => rfl
  | append_singleton pairs pair ih =>
    rw [List.map_append, List.map_singleton, collect_concat, collect_concat, ih, map_put]

/-- Names that have no place yet come behind the others, in the order they are first given. -/
lemma names_foldl_put (cols : Columns α) (pairs : List (String × α)) :
    names (pairs.foldl (fun cols (name, a) => Columns.put cols name a) cols) =
      cols.names ++ (names pairs).eraseDups.filter (· ∉ cols.names) := by
  induction pairs using List.reverseRecOn with
  | nil => simp [names]
  | append_singleton pairs pair ih =>
    have both : names (pairs ++ [pair]) = names pairs ++ [pair.1] := List.map_append
    rw [List.foldl_concat, names_put, both, List.eraseDups_append, ih]
    by_cases old : pair.1 ∈ cols.names
    · by_cases given : pair.1 ∈ names pairs
      · simp [List.removeAll, old, given]
      · simp [List.removeAll, old, given, List.eraseDups_cons]
    · by_cases given : pair.1 ∈ names pairs
      · simp [List.removeAll, old, given]
      · simp [List.removeAll, old, given, List.eraseDups_cons]

/-- What is given last is found, and what was there where nothing is given. -/
lemma get?_foldl_put (cols : Columns α) (pairs : List (String × α)) (name : String) :
    get? (pairs.foldl (fun cols (name, a) => Columns.put cols name a) cols) name =
      (get? pairs.reverse name).or (cols.get? name) := by
  induction pairs using List.reverseRecOn with
  | nil => rfl
  | append_singleton pairs pair ih =>
    rw [List.foldl_concat, get?_put, ih, List.reverse_append, List.reverse_singleton,
      List.singleton_append, get?_cons]
    split <;> rfl

/-! ## One name among others -/

lemma filter_put (cols : Columns α) (name : String) (a : α) :
    (cols.put name a).filter (·.1 != name) = cols.filter (·.1 != name) := by
  induction cols with
  | nil => simp [put]
  | cons c rest ih =>
    obtain ⟨n, d⟩ := c
    by_cases hn : n = name
    · simp [put, hn]
    · simp [put, hn, ih]

lemma filter_erase (cols : Columns α) (name : String) :
    (cols.erase name).filter (·.1 != name) = cols.filter (·.1 != name) := by
  induction cols with
  | nil => rfl
  | cons c rest ih =>
    obtain ⟨n, d⟩ := c
    by_cases hn : n = name
    · simp [erase, hn]
    · simp [erase, hn, ih]

lemma filter_eq_erase {cols : Columns α} (h : cols.names.Nodup) (name : String) :
    cols.filter (·.1 != name) = cols.erase name := by
  have absent : name ∉ (cols.erase name).names := by
    rw [names_erase]
    exact h.not_mem_erase
  rw [← filter_erase, List.filter_eq_self]
  intro cell mem
  have other : cell.1 ≠ name := by
    rintro rfl
    exact absent (List.mem_map_of_mem mem)
  simpa using other

lemma filter_put_of_ne (cols : Columns α) {name other : String} (h : other ≠ name) (a : α) :
    (cols.put other a).filter (·.1 != name) = Columns.put (cols.filter (·.1 != name)) other a := by
  induction cols with
  | nil => simp [put, h]
  | cons c rest ih =>
    obtain ⟨n, d⟩ := c
    by_cases ho : n = other
    · simp [put, ho, h]
    · by_cases hn : n = name
      · simp [put, hn, Ne.symm h, ih]
      · simp [put, hn, ho, ih]

/-- Pairs that are left out do not leave a trace. -/
lemma collect_filter (pairs : List (String × α)) (name : String) :
    collect (pairs.filter (·.1 != name)) = (collect pairs).erase name := by
  rw [← filter_eq_erase (nodup_collect pairs)]
  induction pairs using List.reverseRecOn with
  | nil => rfl
  | append_singleton pairs pair ih =>
    obtain ⟨n, a⟩ := pair
    rw [List.filter_append, collect_concat]
    by_cases hn : n = name
    · subst hn
      rw [filter_put, ← ih]
      simp
    · have kept : [(n, a)].filter (·.1 != name) = [(n, a)] := by simp [hn]
      rw [filter_put_of_ne _ hn, ← ih, kept, collect_concat]

end Clausal.Columns
