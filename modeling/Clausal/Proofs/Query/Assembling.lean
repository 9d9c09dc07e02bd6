import Clausal.Proofs.Failure
import Clausal.Proofs.Sql.Rendering
import Clausal.Query.Assemble

/-!
# Text and arguments stay in step

A renderer returns a text and pushes arguments. Each one gives the template and the arguments of
the pieces that are prepared for the same part, so assembling in one pass gives the prepared
statement.
-/

namespace Clausal

open Sql

namespace Assembly

variable {α β γ δ : Type} {text : α → β} {values : α → List Value}
variable {m : Assembly β} {x : Except Error α}

/-- What is returned and what is pushed are two views of one result, and both fail alike. -/
def Renders (text : α → β) (values : α → List Value) (m : Assembly β) (x : Except Error α) : Prop :=
  ∀ args, m.run args = x.map fun a => (text a, args ++ values a)

namespace Renders

lemma pure {a : α} {b : β} (ht : text a = b) (hv : values a = []) :
    Renders text values (Pure.pure b) (.ok a) := by
  intro args
  rw [StateT.run_pure, ← ht, Except.map, hv, List.append_nil]
  rfl

lemma push {pushed : List Value} {a : α} {b : β} (ht : text a = b) (hv : values a = pushed) :
    Renders text values (do push pushed; return b) (.ok a) := by
  intro args
  rw [← ht, ← hv]
  rfl

lemma throw (e : Error) : Renders text values (MonadExcept.throw e) (.error e) :=
  fun _ => rfl

lemma ofExcept (x : Except Error α) : Renders id (fun _ => []) (liftM x) x := by
  intro args
  cases x with
  | error e => rfl
  | ok a => exact congrArg (fun vs => Except.ok (a, vs)) (List.append_nil args).symm

lemma map_ok {a : α} {d : δ} (h : Renders text values m (.ok a)) {f : β → γ} {text' : δ → γ}
    {values' : δ → List Value} (ht : text' d = f (text a)) (hv : values' d = values a) :
    Renders text' values' (do return f (← m)) (.ok d) := by
  intro args
  rw [StateT.run_bind, h args, Except.map, ← hv]
  exact congrArg (fun t => Except.ok (t, args ++ values' d)) ht.symm

/-- A step on the text goes along with a step on the result that pushes nothing. -/
lemma map (h : Renders text values m x) {f : β → γ} {view : α → δ} {text' : δ → γ}
    {values' : δ → List Value} (ht : ∀ a, text' (view a) = f (text a))
    (hv : ∀ a, values' (view a) = values a) :
    Renders text' values' (do return f (← m)) (do return view (← x)) := by
  cases x with
  | error e =>
    intro args
    rw [StateT.run_bind, h args]
    rfl
  | ok a => exact h.map_ok (ht a) (hv a)

lemma mapM {l : List γ} {f : γ → Assembly β} {g : γ → Except Error α}
    (h : ∀ c ∈ l, Renders text values (f c) (g c)) :
    Renders (List.map text) (List.flatMap values) (l.mapM f) (l.mapM g) := by
  induction l with
  | nil => exact pure rfl rfl
  | cons c l ih =>
    rw [List.forall_mem_cons] at h
    intro args
    rw [List.mapM_cons, List.mapM_cons, StateT.run_bind, h.1 args]
    cases g c with
    | error e => rfl
    | ok a =>
      -- The rest starts from the arguments that the first part has pushed.
      have rest := ih h.2 (args ++ values a)
      simp only [Except.map, ok_bind, StateT.run_bind, rest]
      cases l.mapM g with
      | error e => rfl
      | ok as =>
        simp only [ok_bind, StateT.run_pure, List.append_assoc]
        rfl

lemma mapM_ok {l : List γ} {f : γ → Assembly β} {g : γ → α}
    (h : ∀ c ∈ l, Renders text values (f c) (.ok (g c))) :
    Renders (List.map text) (List.flatMap values) (l.mapM f) (.ok (l.map g)) := by
  rw [← mapM_eq_ok_map (f := fun c => .ok (g c)) fun _ _ => rfl]
  exact mapM h

end Renders

end Assembly

open Assembly (Renders)

/-! ## The parts of a clause -/

lemma Assembly.fragment_renders (f : Fragment) :
    Renders template arguments (fragment f) (.ok [.fragment f]) :=
  .push (template_singleton _) (List.append_nil _)

lemma Slot.renders (slot : Slot) : Renders template arguments slot.render (.ok [slot.piece]) := by
  cases slot with
  | raw sql => exact .pure (template_singleton _) rfl
  | bound v => exact .push (template_singleton _) rfl

/-- The members of a list, one place each. -/
lemma Slot.renderOperand_list (items : List Value) :
    Renders template arguments (renderOperand (.bound (.list items)))
      (.ok (.text "(" :: (Piece.join ", " (items.map fun v => [.value v]) ++ [.text ")"]))) := by
  have places : (items.map fun v => [Piece.value v]).map template = items.map fun _ => "%s" := by
    rw [List.map_map]
    exact List.map_congr_left fun v _ => template_singleton (.value v)
  refine .push ?_ ?_
  · rw [template_enclosed, template_join, places]
  · rw [arguments_enclosed, arguments_join, List.flatMap_map]
    exact List.flatMap_singleton' items

lemma Condition.renders (c : Condition) :
    Renders template arguments c.render (.ok c.pieces) := by
  cases c with
  | raw f => exact Assembly.fragment_renders f
  | compare column operator value =>
    have single (slot : Slot) :
        template [.text (column.sql ++ " " ++ operator ++ " "), slot.piece] =
          column.sql ++ " " ++ operator ++ " " ++ template [slot.piece] :=
      template_text_cons _ _
    cases value with
    | raw sql => exact (Slot.renders (.raw sql)).map_ok (single _) rfl
    | bound v =>
      cases v with
      | list items =>
        refine (Slot.renderOperand_list items).map_ok ?_ rfl
        -- The pieces hold the space and the parenthesis behind it in one text.
        have opening : " (" = " " ++ "(" := rfl
        rw [pieces, template_text_cons, template_text_cons, opening]
        simp only [String.append_assoc]
      | _ => exact (Slot.renders (.bound _)).map_ok (single _) rfl

/-- Parts that are joined. -/
lemma Assembly.Renders.joined {m : Assembly (List String)} {parts : List (List Piece)}
    (h : Renders (List.map template) (List.flatMap arguments) m (.ok parts)) (separator : String) :
    Renders template arguments (do return separator.intercalate (← m))
      (.ok (Piece.join separator parts)) :=
  h.map_ok (template_join separator parts) (arguments_join separator parts)

lemma ConditionTree.renders (tree : ConditionTree) :
    Renders template arguments tree.render (.ok tree.pieces) := by
  refine Renders.joined (.mapM_ok fun group _ => ?_) " OR "
  have members := Renders.mapM_ok fun c (_ : c ∈ group) => c.renders
  refine members.map_ok ?_ ?_
  · rw [template_enclosed, template_join]
  · rw [arguments_enclosed, arguments_join]

lemma OrderItem.renders (item : OrderItem) :
    Renders template arguments item.render (.ok item.pieces) := by
  cases item with
  | column name direction => exact .pure (template_singleton _) rfl
  | raw f => exact Assembly.fragment_renders f

lemma Bound.renders (keyword : String) (bound : Bound) :
    Renders template arguments (bound.render keyword) (.ok (bound.pieces keyword)) := by
  cases bound with
  | count n =>
    refine .push ?_ rfl
    rw [pieces, template_text_cons, template_singleton, String.append_assoc]
    rfl
  | raw f => exact (Assembly.fragment_renders f).map_ok (template_text_cons _ _) rfl

/-! ## The clauses -/

namespace Query

/-- Lines that are written, and the pieces of each. -/
abbrev Writes : Assembly (List String) → Except Error (List (List Piece)) → Prop :=
  Renders (List.map template) (List.flatMap arguments)

lemma template_line (start : String) (pieces : List Piece) :
    [Piece.text start :: pieces].map template = [start ++ template pieces] :=
  congrArg (· :: []) (template_text_cons start pieces)

lemma template_text (s : String) : [[Piece.text s]].map template = [s] :=
  congrArg (· :: []) (template_singleton (.text s))

lemma arguments_line (pieces : List Piece) : [pieces].flatMap arguments = arguments pieces :=
  List.append_nil _

variable (q : Query)

lemma writes_headLines : Writes q.headLines q.headPieces := by
  have overTable (start : String) :
      Writes (do return [start ++ " " ++ quoteName (← q.requireTable)])
        (do return [[.text (start ++ " " ++ quoteName (← q.requireTable))]]) :=
    (Renders.ofExcept q.requireTable).map (fun _ => template_text _) (fun _ => rfl)
  rw [headLines, headPieces]
  cases q.kindOrSelect with
  | delete => exact overTable _
  | update => exact overTable _
  | insert => exact overTable _
  | select => cases q.table? with
    | none => exact .pure (template_text _) rfl
    | some table =>
      exact .pure (congrArg₂ List.append (template_text _) (template_text _)) rfl

lemma writes_clauseLines {α : Type} (start separator : String) (items : List α)
    {render : α → Assembly String} {pieces : α → List Piece}
    (h : ∀ a, Renders template arguments (render a) (.ok (pieces a))) :
    Writes (clauseLines start separator items render)
      (.ok (clausePieces start separator (items.map pieces))) := by
  rw [clauseLines, clausePieces, List.isEmpty_map]
  cases items.isEmpty with
  | true => exact .pure rfl rfl
  | false =>
    rw [if_neg Bool.false_ne_true, if_neg Bool.false_ne_true]
    refine (Renders.mapM_ok fun a _ => h a).map_ok ?_ ?_
    · rw [template_line, template_join]
    · rw [arguments_line, arguments_cons, arguments_join]
      rfl

lemma renderAssignment_renders (assignment : String × Slot) :
    Renders template arguments (renderAssignment assignment)
      (.ok [.text (quoteName assignment.1 ++ " = "), assignment.2.piece]) :=
  assignment.2.renders.map_ok (template_text_cons _ _) rfl

lemma renderTuple_renders (columns : List String) (row : Columns Slot) :
    Renders template arguments (renderTuple columns row) (tuplePieces columns row) := by
  refine (@Renders.mapM _ _ _ template arguments columns _ _ fun column _ => ?_).map
    (fun slots => ?_) (fun slots => ?_)
  · cases row.get? column with
    | some slot => exact slot.renders
    | none => exact .throw _
  · rw [template_enclosed, template_join]
  · rw [arguments_enclosed, arguments_join]

lemma writes_valuesLines : Writes q.valuesLines q.valuesPieces := by
  rw [valuesLines, valuesPieces]
  cases q.insertRows with
  | nil => exact .pure rfl rfl
  | cons first rest =>
    refine (Renders.mapM fun row _ => renderTuple_renders first.names row).map
      (fun tuples => ?_) (fun tuples => ?_)
    · rw [template_line, template_join]
    · rw [arguments_line, arguments_cons, arguments_join]
      rfl

lemma writes_joinLines : Writes q.joinLines q.joinPieces := by
  rw [joinLines, joinPieces]
  cases q.joins.isEmpty with
  | true => exact .pure rfl rfl
  | false =>
    refine (Renders.ofExcept q.requireTable).map (fun base => ?_) (fun base => ?_)
    · rw [List.map_map]
      exact List.map_congr_left fun j _ => template_singleton _
    · rw [List.flatMap_map]
      exact List.flatMap_eq_nil_iff.mpr fun j _ => rfl

lemma writes_conditionLines (start : String) (tree : ConditionTree) :
    Writes (conditionLines start tree) (.ok (conditionPieces start tree)) := by
  rw [conditionLines, conditionPieces]
  cases tree.isEmpty with
  | true => exact .pure rfl rfl
  | false => exact tree.renders.map_ok (template_line _ _) (arguments_line _)

lemma writes_bound (keyword : String) (bound : Bound) :
    Writes (do return [← bound.render keyword]) (.ok [bound.pieces keyword]) :=
  (bound.renders keyword).map_ok rfl (arguments_line _)

/-- The pieces of the limit, in front of those of the offset. -/
lemma exists_writes_bounds :
    ∃ limit offset, q.boundPieces = limit ++ offset ∧ Writes q.limitLines (.ok limit) ∧
      Writes q.offsetLines (.ok offset) := by
  refine ⟨_, _, rfl, ?_, ?_⟩
  · rw [limitLines]
    cases q.limit with
    | some bound => exact writes_bound "LIMIT" bound
    | none =>
      cases q.offset with
      | some bound => exact .pure (template_text _) rfl
      | none => exact .pure rfl rfl
  · rw [offsetLines]
    cases q.offset with
    | some bound => exact writes_bound "OFFSET" bound
    | none => exact .pure rfl rfl

/-! ## The statement -/

lemma writes_lines : Writes q.lines q.clauses := by
  have head := q.writes_headLines
  have set : Writes (clauseLines "SET " ", " q.assignments renderAssignment) (.ok q.setPieces) :=
    writes_clauseLines "SET " ", " q.assignments renderAssignment_renders
  have values := q.writes_valuesLines
  have joins := q.writes_joinLines
  have filters := writes_conditionLines "WHERE " q.filters
  have groups := writes_clauseLines "GROUP BY " ", " q.groupBy OrderItem.renders
  have having := writes_conditionLines "HAVING " q.having
  have orders := writes_clauseLines "ORDER BY " ", " q.orderBy OrderItem.renders
  obtain ⟨limit, offset, bounds, limits, offsets⟩ := q.exists_writes_bounds
  have checks := Renders.ofExcept q.requireClauses
  intro args
  rw [lines, clauses, bounds]
  -- Each line starts from the arguments that the lines before it have pushed.
  simp only [StateT.run_bind, checks _, head _, set _, values _, joins _, filters _, groups _,
    having _, orders _, limits _, offsets _, StateT.run_pure]
  cases q.requireClauses with
  | error e => rfl
  | ok _ => cases q.headPieces with
    | error e => rfl
    | ok start => cases q.valuesPieces with
      | error e => rfl
      | ok rows => cases q.joinPieces with
        | error e => rfl
        | ok joined =>
          refine congrArg Except.ok (Prod.ext ?_ ?_)
          · simp only [List.map_append, List.append_assoc]
          · simp only [List.flatMap_append, List.append_assoc, List.nil_append]

/-- Assembling in one pass gives the template and the arguments of the prepared statement, or the
error that preparing gives. -/
theorem assemble_eq : q.assemble = q.prepare.map fun p => (p.sql, p.args) := by
  rw [assemble, prepare]
  cases q.validate with
  | error e => rfl
  | ok _ =>
    rw [ok_bind, ok_bind, q.writes_lines []]
    cases q.clauses with
    | error e => rfl
    | ok parts =>
      refine congrArg Except.ok (Prod.ext ?_ ?_)
      · exact (template_join " \n" parts).symm
      · exact (List.nil_append _).trans (arguments_join " \n" parts).symm

end Query

end Clausal
