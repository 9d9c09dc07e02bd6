import Clausal.Proofs.Query.Building

/-!
# Vocabularies

A vocabulary says which names, expressions, operators, slots and fragments may occur. A query built
by calls of a vocabulary holds nothing but what the vocabulary has: conditions are upper-cased and
NULLs written out on the way, and a vocabulary is closed under both.
-/

namespace Clausal

structure Vocabulary where
  /-- Names that are quoted. -/
  name : String → Prop
  expression : String → Prop
  column : ColumnRef → Prop
  operator : String → Prop
  slot : Slot → Prop
  /-- Slots that a column is compared with. -/
  operand : Slot → Prop
  fragment : Fragment → Prop
  operator_default : ∀ s, operator (Filter.defaultOperator s)
  operator_written : ∀ o, operator o → operator (Text.uppercase (Text.trim o))
  slot_null : slot .null
  operand_null : operand .null

variable (v : Vocabulary)

/-! ## What is within a vocabulary -/

def CellsWithin (cells : List (String × Slot)) : Prop :=
  ∀ cell ∈ cells, v.name cell.1 ∧ v.slot cell.2

def OrderItem.Within : OrderItem → Prop
  | .column name _ => v.name name
  | .raw fragment => v.fragment fragment

def Bound.Within : Bound → Prop
  | .count _ => True
  | .raw fragment => v.fragment fragment

structure Join.Within (j : Join) : Prop where
  table : v.name j.table
  localColumn : v.name j.localColumn
  foreignColumn : v.name j.foreignColumn

def Condition.Within : Condition → Prop
  | .compare column operator value => v.column column ∧ v.operator operator ∧ v.operand value
  | .raw fragment => v.fragment fragment

mutual

def Filter.Within : Filter → Prop
  | .compare column operator value =>
    v.column column ∧ (∀ o ∈ operator, v.operator o) ∧ v.operand value
  | .raw fragment => v.fragment fragment
  | .each filters => Filter.AllWithin filters

def Filter.AllWithin : List Filter → Prop
  | [] => True
  | filter :: filters => Filter.Within filter ∧ Filter.AllWithin filters

end

def ConditionTree.Within (tree : ConditionTree) : Prop :=
  ∀ group ∈ tree.groups, ∀ item ∈ group, item.Within v

namespace Query

def Call.Within : Call → Prop
  | .select columns => ∀ e ∈ columns, v.expression e
  | .selectAll | .update | .delete => True
  | .set column slot => v.name column ∧ v.slot slot
  | .setAll pairs => CellsWithin v pairs
  | .insert rows => ∀ pairs ∈ rows, CellsWithin v pairs
  | .join j => j.Within v
  | .filter _ f | .having _ f => f.Within v
  | .groupBy items | .orderBy items => ∀ item ∈ items, item.Within v
  | .limit bound | .offset bound => bound.Within v

def Entry.Within : Entry → Prop
  | .select columns => ∀ e ∈ columns, v.expression e
  | .assign column slot => v.name column ∧ v.slot slot
  | .row cells => CellsWithin v cells
  | .join j => j.Within v
  | .filter _ items | .having _ items => ∀ item ∈ items, item.Within v
  | .groupBy item | .orderBy item => item.Within v
  | .limit bound | .offset bound => bound.Within v

structure Within (q : Query) : Prop where
  table : ∀ name ∈ q.table?, v.name name
  selectList : ∀ e ∈ q.selectList, v.expression e
  assignments : CellsWithin v q.assignments
  insertRows : ∀ cells ∈ q.insertRows, CellsWithin v cells
  joins : ∀ j ∈ q.joins, j.Within v
  filters : q.filters.Within v
  groupBy : ∀ item ∈ q.groupBy, item.Within v
  having : q.having.Within v
  orderBy : ∀ item ∈ q.orderBy, item.Within v
  limit : ∀ bound ∈ q.limit, bound.Within v
  offset : ∀ bound ∈ q.offset, bound.Within v

end Query

variable {v}

/-! ## Checking and collecting -/

lemma Slot.normalize_cases (slot : Slot) : slot.normalize = slot ∨ slot.normalize = .null := by
  cases slot with
  | raw sql => exact Or.inl rfl
  | bound value =>
    cases value with
    | null => exact Or.inr rfl
    | _ => exact Or.inl rfl

lemma Vocabulary.slot_normalize {slot : Slot} (h : v.slot slot) : v.slot slot.normalize := by
  rcases slot.normalize_cases with same | null
  · rwa [same]
  · rw [null]
    exact v.slot_null

lemma Vocabulary.operand_normalize {slot : Slot} (h : v.operand slot) :
    v.operand slot.normalize := by
  rcases slot.normalize_cases with same | null
  · rwa [same]
  · rw [null]
    exact v.operand_null

lemma CellsWithin.get? {cells : Columns Slot} (h : CellsWithin v cells) {column : String}
    {slot : Slot} (hs : cells.get? column = some slot) : v.name column ∧ v.slot slot := by
  obtain ⟨cell, hf, rfl⟩ := Option.map_eq_some_iff.mp hs
  have same : cell.1 = column := by simpa using List.find?_some hf
  exact same ▸ h cell (List.mem_of_find?_eq_some hf)

lemma CellsWithin.put {cells : Columns Slot} (h : CellsWithin v cells) {name : String} {slot : Slot}
    (hn : v.name name) (hs : v.slot slot) : CellsWithin v (cells.put name slot) := by
  induction cells with
  | nil =>
    intro cell hc
    obtain rfl := List.mem_singleton.mp hc
    exact ⟨hn, hs⟩
  | cons first rest ih =>
    obtain ⟨n, s⟩ := first
    have tail := ih (fun cell hc => h cell (List.mem_cons_of_mem _ hc))
    rw [Columns.put]
    split
    · rintro cell (_ | ⟨_, hc⟩)
      · exact ⟨(h _ List.mem_cons_self).1, hs⟩
      · exact h cell (List.mem_cons_of_mem _ hc)
    · rintro cell (_ | ⟨_, hc⟩)
      · exact h _ List.mem_cons_self
      · exact tail cell hc

lemma CellsWithin.rowOf {pairs : List (String × Slot)} (h : CellsWithin v pairs) :
    CellsWithin v (Query.rowOf pairs) := by
  have collect (cells : Columns Slot) (hc : CellsWithin v cells) (pairs : List (String × Slot))
      (hp : CellsWithin v pairs) :
      CellsWithin v (pairs.foldl (fun cells pair => Columns.put cells pair.1 pair.2) cells) := by
    induction pairs generalizing cells with
    | nil => exact hc
    | cons pair rest ih =>
      obtain ⟨hn, hs⟩ := hp pair List.mem_cons_self
      exact ih _ (hc.put hn hs) fun cell hr => hp cell (List.mem_cons_of_mem _ hr)
  refine collect [] (fun _ hc => by cases hc) _ ?_
  intro cell hc
  obtain ⟨pair, hp, rfl⟩ := List.mem_map.mp hc
  obtain ⟨hn, hs⟩ := h pair hp
  exact ⟨hn, Vocabulary.slot_normalize hs⟩

lemma Filter.within_of_checkComparison {column : ColumnRef} {operator : Option String}
    {value : Slot} {item : Condition} (h : checkComparison column operator value = .ok item)
    (hc : v.column column) (ho : ∀ o ∈ operator, v.operator o) (hv : v.operand value) :
    item.Within v := by
  unfold checkComparison at h
  split at h
  · cases h
  split at h
  · cases h
  split at h
  · cases h
  · obtain rfl := Except.ok.inj h
    refine ⟨hc, ?_, Vocabulary.operand_normalize hv⟩
    cases operator with
    | some op => exact v.operator_written op (ho op rfl)
    | none => exact v.operator_default value

mutual

theorem Filter.within_conditions : ∀ (f : Filter) {items : List Condition},
    f.Within v → f.conditions = .ok items → ∀ item ∈ items, item.Within v
  | .compare column operator value, items, hf, h => by
    obtain ⟨hc, ho, hv⟩ := by simpa only [Filter.Within] using hf
    cases hi : checkComparison column operator value with
    | error fault => simp [Filter.conditions, hi, bind, Except.bind] at h
    | ok item =>
      obtain rfl : [item] = items := by
        simpa [Filter.conditions, hi, bind, Except.bind, pure, Except.pure] using h
      intro i hm
      obtain rfl := List.mem_singleton.mp hm
      exact within_of_checkComparison hi hc ho hv
  | .raw fragment, items, hf, h => by
    simp only [Filter.conditions] at h
    split at h
    · cases h
    · obtain rfl := Except.ok.inj h
      intro i hm
      obtain rfl := List.mem_singleton.mp hm
      simpa only [Filter.Within, Condition.Within] using hf
  | .each filters, items, hf, h => by
    refine within_conditionsOfAll filters ?_ ?_
    · simpa only [Filter.Within] using hf
    · simpa only [Filter.conditions] using h

theorem Filter.within_conditionsOfAll : ∀ (filters : List Filter) {items : List Condition},
    AllWithin v filters → conditionsOfAll filters = .ok items → ∀ item ∈ items, item.Within v
  | [], items, _, h => by
    obtain rfl : [] = items := by simpa [conditionsOfAll] using h
    intro i hm
    cases hm
  | f :: filters, items, hf, h => by
    obtain ⟨hfirst, hrest⟩ := by simpa only [AllWithin] using hf
    cases h1 : f.conditions with
    | error fault => simp [conditionsOfAll, h1, bind, Except.bind] at h
    | ok first =>
      cases h2 : conditionsOfAll filters with
      | error fault => simp [conditionsOfAll, h1, h2, bind, Except.bind] at h
      | ok rest =>
        obtain rfl : first ++ rest = items := by
          simpa [conditionsOfAll, h1, h2, bind, Except.bind, pure, Except.pure] using h
        intro i hm
        rcases List.mem_append.mp hm with hm | hm
        · exact within_conditions f hfirst h1 i hm
        · exact within_conditionsOfAll filters hrest h2 i hm

end

lemma ConditionTree.within_push {tree : ConditionTree} (h : tree.Within v) {item : Condition}
    (hi : item.Within v) : (tree.push item).Within v := by
  have pushTo (groups : List (List Condition)) (hg : ∀ group ∈ groups, ∀ i ∈ group, i.Within v) :
      ∀ group ∈ pushTo groups item, ∀ i ∈ group, i.Within v := by
    induction groups using pushTo.induct with
    | case1 =>
      intro group hm i hmi
      obtain rfl := List.mem_singleton.mp hm
      obtain rfl := List.mem_singleton.mp hmi
      exact hi
    | case2 group =>
      intro other hm i hmi
      obtain rfl := List.mem_singleton.mp hm
      rcases List.mem_append.mp hmi with hmi | hmi
      · exact hg group List.mem_cons_self i hmi
      · obtain rfl := List.mem_singleton.mp hmi
        exact hi
    | case3 group rest _ ih =>
      simp only [ConditionTree.pushTo]
      rintro other (_ | ⟨_, hm⟩)
      · exact hg group List.mem_cons_self
      · exact ih (fun g hr => hg g (List.mem_cons_of_mem _ hr)) other hm
  exact pushTo tree.groups h

lemma ConditionTree.within_add {tree : ConditionTree} (h : tree.Within v) (newGroup : Bool)
    {items : List Condition} (hi : ∀ item ∈ items, item.Within v) :
    (tree.add newGroup items).Within v := by
  have pushAll (t : ConditionTree) (ht : t.Within v) : (items.foldl push t).Within v := by
    induction items generalizing t with
    | nil => exact ht
    | cons item rest ih =>
      exact ih (fun i hr => hi i (List.mem_cons_of_mem _ hr)) _
        (within_push ht (hi item List.mem_cons_self))
  refine pushAll _ ?_
  split
  · intro group hm
    rcases List.mem_append.mp hm with hm | hm
    · exact h group hm
    · obtain rfl := List.mem_singleton.mp hm
      intro i hmi
      cases hmi
  · exact h

/-! ## Building -/

namespace Query

lemma conditionEntries_within {entry : List Condition → Entry} {f : Filter} (hf : f.Within v)
    (he : ∀ items : List Condition, (∀ item ∈ items, item.Within v) → (entry items).Within v) :
    ∀ e ∈ conditionEntries entry f, e.Within v := by
  rw [conditionEntries]
  split
  · next items hi =>
    intro e hm
    obtain rfl := List.mem_singleton.mp hm
    exact he items (f.within_conditions hf hi)
  · intro e hm
    cases hm

lemma Call.within_entries {c : Call} (hc : c.Within v) : ∀ entry ∈ c.entries, entry.Within v := by
  cases c with
  | selectAll | update | delete =>
    intro e hm
    cases hm
  | select columns | join j | limit bound | offset bound =>
    intro e hm
    obtain rfl := List.mem_singleton.mp hm
    exact hc
  | set column s =>
    intro e hm
    obtain rfl := List.mem_singleton.mp hm
    exact ⟨hc.1, Vocabulary.slot_normalize hc.2⟩
  | setAll pairs =>
    intro e hm
    obtain ⟨pair, hp, rfl⟩ := List.mem_map.mp hm
    exact ⟨(hc pair hp).1, Vocabulary.slot_normalize (hc pair hp).2⟩
  | insert rows =>
    intro e hm
    obtain ⟨pairs, hp, rfl⟩ := List.mem_map.mp hm
    exact CellsWithin.rowOf (hc pairs hp)
  | filter newGroup f => exact conditionEntries_within hc fun _ h => h
  | having newGroup f => exact conditionEntries_within hc fun _ h => h
  | groupBy items | orderBy items =>
    intro e hm
    obtain ⟨item, hi, rfl⟩ := List.mem_map.mp hm
    exact hc item hi

lemma Within.enter {q : Query} (h : q.Within v) {entry : Entry} (he : entry.Within v) :
    (entry.enter q).Within v := by
  cases entry with
  | select columns =>
    have selectList := List.forall_mem_append.mpr ⟨h.selectList, he⟩
    exact { h with selectList }
  | assign column slot =>
    exact { h with assignments := CellsWithin.put h.assignments he.1 he.2 }
  | row cells =>
    have rows := List.forall_mem_append.mpr ⟨h.insertRows, List.forall_mem_singleton.mpr he⟩
    exact { h with insertRows := rows }
  | join j =>
    have joins := List.forall_mem_append.mpr ⟨h.joins, List.forall_mem_singleton.mpr he⟩
    exact { h with joins }
  | filter newGroup items =>
    exact { h with filters := ConditionTree.within_add h.filters newGroup he }
  | groupBy item =>
    have groupBy := List.forall_mem_append.mpr ⟨h.groupBy, List.forall_mem_singleton.mpr he⟩
    exact { h with groupBy }
  | having newGroup items =>
    exact { h with having := ConditionTree.within_add h.having newGroup he }
  | orderBy item =>
    have orderBy := List.forall_mem_append.mpr ⟨h.orderBy, List.forall_mem_singleton.mpr he⟩
    exact { h with orderBy }
  | limit bound =>
    have limit : ∀ b ∈ some bound, b.Within v := by
      rintro _ ⟨⟩
      exact he
    exact { h with limit }
  | offset bound =>
    have offset : ∀ b ∈ some bound, b.Within v := by
      rintro _ ⟨⟩
      exact he
    exact { h with offset }

/-- A query that holds nothing but its target. -/
lemma within_start {target : Target} (h : ∀ table ∈ target.table?, v.name table) :
    Within v { target := target } where
  table := h
  selectList := List.forall_mem_nil _
  assignments := List.forall_mem_nil _
  insertRows := List.forall_mem_nil _
  joins := List.forall_mem_nil _
  filters := List.forall_mem_nil _
  groupBy := List.forall_mem_nil _
  having := List.forall_mem_nil _
  orderBy := List.forall_mem_nil _
  limit _ h := nomatch h
  offset _ h := nomatch h

/-- A query built by calls of a vocabulary stays within it. -/
theorem within_calls {q : Query} (hq : q.Within v) {cs : List Call} (hcs : ∀ c ∈ cs, c.Within v) :
    (q.calls cs).Within v := by
  refine calls_induction cs hq fun r r' step h => ?_
  cases step with
  | fail e => exact { h with }
  | fix _ => exact { h with }
  | mark _ => exact { h with }
  | enter mem _ _ =>
    obtain ⟨c, hc, he⟩ := List.mem_flatMap.mp mem
    exact h.enter (Call.within_entries (hcs c hc) _ he)

end Query

/-! ## Narrower vocabularies -/

structure Vocabulary.Narrower (v w : Vocabulary) : Prop where
  name : ∀ s, v.name s → w.name s
  expression : ∀ s, v.expression s → w.expression s
  column : ∀ c, v.column c → w.column c
  operator : ∀ o, v.operator o → w.operator o
  slot : ∀ s, v.slot s → w.slot s
  operand : ∀ s, v.operand s → w.operand s
  fragment : ∀ f, v.fragment f → w.fragment f

section Narrower

variable {w : Vocabulary} (narrower : v.Narrower w)

include narrower

lemma CellsWithin.widen {cells : List (String × Slot)} (h : CellsWithin v cells) :
    CellsWithin w cells := fun cell hc =>
  ⟨narrower.name _ (h cell hc).1, narrower.slot _ (h cell hc).2⟩

lemma OrderItem.Within.widen {item : OrderItem} (h : item.Within v) : item.Within w := by
  cases item with
  | column name direction => exact narrower.name name h
  | raw fragment => exact narrower.fragment fragment h

lemma Bound.Within.widen {bound : Bound} (h : bound.Within v) : bound.Within w := by
  cases bound with
  | count n => trivial
  | raw fragment => exact narrower.fragment fragment h

lemma Join.Within.widen {j : Join} (h : j.Within v) : j.Within w where
  table := narrower.name _ h.table
  localColumn := narrower.name _ h.localColumn
  foreignColumn := narrower.name _ h.foreignColumn

lemma Condition.Within.widen {item : Condition} (h : item.Within v) : item.Within w := by
  cases item with
  | compare column operator value =>
    exact ⟨narrower.column _ h.1, narrower.operator _ h.2.1, narrower.operand _ h.2.2⟩
  | raw fragment => exact narrower.fragment fragment h

lemma ConditionTree.Within.widen {tree : ConditionTree} (h : tree.Within v) : tree.Within w :=
  fun group hg item hi => (h group hg item hi).widen narrower

lemma Query.Within.widen {q : Query} (h : q.Within v) : q.Within w where
  table name hn := narrower.name name (h.table name hn)
  selectList e he := narrower.expression e (h.selectList e he)
  assignments := h.assignments.widen narrower
  insertRows cells hc := (h.insertRows cells hc).widen narrower
  joins j hj := (h.joins j hj).widen narrower
  filters := h.filters.widen narrower
  groupBy item hi := (h.groupBy item hi).widen narrower
  having := h.having.widen narrower
  orderBy item hi := (h.orderBy item hi).widen narrower
  limit bound hb := (h.limit bound hb).widen narrower
  offset bound hb := (h.offset bound hb).widen narrower

end Narrower

end Clausal
