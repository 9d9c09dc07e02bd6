/-!
# Ordered columns

A list of columns in the order of their first assignment. Assigning a column again changes its
content and keeps its place.
-/

namespace Clausal

abbrev Columns (α : Type) := List (String × α)

namespace Columns

variable {α : Type}

def names (cols : Columns α) : List String :=
  cols.map (·.1)

def get? (cols : Columns α) (name : String) : Option α :=
  (cols.find? (·.1 == name)).map (·.2)

def put (cols : Columns α) (name : String) (a : α) : Columns α :=
  match cols with
  | [] => [(name, a)]
  | (n, b) :: rest => if n = name then (n, a) :: rest else (n, b) :: put rest name a

def erase (cols : Columns α) (name : String) : Columns α :=
  match cols with
  | [] => []
  | (n, b) :: rest => if n = name then rest else (n, b) :: erase rest name

/-- The pairs assigned one after another. -/
def collect (pairs : List (String × α)) : Columns α :=
  pairs.foldl (fun cols (name, a) => cols.put name a) []

@[simp] theorem get?_nil (name : String) : get? ([] : Columns α) name = none := rfl

theorem get?_cons (n : String) (a : α) (rest : Columns α) (name : String) :
    get? ((n, a) :: rest) name = if n = name then some a else get? rest name := by
  by_cases h : n = name <;> simp [get?, h]

theorem get?_put (cols : Columns α) (name other : String) (a : α) :
    (cols.put name a).get? other = if name = other then some a else cols.get? other := by
  induction cols with
  | nil => simp [put, get?_cons]
  | cons c rest ih =>
    obtain ⟨n, b⟩ := c
    by_cases hn : n = name
    · subst hn
      by_cases ho : n = other <;> simp [put, get?_cons, ho]
    · by_cases ho : n = other
      · subst ho
        simp [put, hn, get?_cons, Ne.symm hn]
      · simp [put, hn, get?_cons, ho, ih]

theorem names_put (cols : Columns α) (name : String) (a : α) :
    (cols.put name a).names = if name ∈ cols.names then cols.names else cols.names ++ [name] := by
  induction cols with
  | nil => simp [put, names]
  | cons c rest ih =>
    obtain ⟨n, b⟩ := c
    by_cases hn : n = name
    · subst hn
      simp [put, names]
    · simp only [put, hn, if_false, names, List.map_cons, List.mem_cons, Ne.symm hn,
        false_or] at ih ⊢
      rw [ih]
      by_cases hm : name ∈ rest.map (·.1) <;> simp [hm]

end Columns

end Clausal
