import Clausal.Database.Script
import Clausal.Proofs.Database.Running

/-!
# What a database was sent

A recorded database notes every statement with the operation that it was sent by, and otherwise does
what the database inside does. What is said of statements is said of any database whose state tells
what it was sent.
-/

namespace Clausal

variable {σ α β : Type}

/-- Notes the statements that are sent; preparing sends none. -/
def Database.recorded (db : Database σ) : Database (Recorded σ) where
  execute sql := Recorded.note .execute sql (db.execute sql)
  lastInsertId s := db.lastInsertId s.inner
  queryRows sql := Recorded.note .rows sql (db.queryRows sql)
  prepare template args :=
    (db.prepare template args).within Recorded.inner fun inner s => { s with inner := inner }
  queryRow sql := Recorded.note .row sql (db.queryRow sql)
  queryColumn sql := Recorded.note .column sql (db.queryColumn sql)
  queryScalar sql := Recorded.note .scalar sql (db.queryScalar sql)

/-- The state tells what was sent, each statement with the operation that reached the database for
the one that was asked for. -/
structure Tracing (db : Database σ) (sent : σ → List (Operation × String))
    (reached : Operation → Operation) : Prop where
  prepare : ∀ template args s, sent (db.prepare template args s).state = sent s
  execute : ∀ sql s, sent (db.execute sql s).state = sent s ++ [(reached .execute, sql)]
  rows : ∀ sql s, sent (db.queryRows sql s).state = sent s ++ [(reached .rows, sql)]
  row : ∀ sql s, sent (db.queryRow sql s).state = sent s ++ [(reached .row, sql)]
  column : ∀ sql s, sent (db.queryColumn sql s).state = sent s ++ [(reached .column, sql)]
  scalar : ∀ sql s, sent (db.queryScalar sql s).state = sent s ++ [(reached .scalar, sql)]

lemma tracing_recorded (db : Database σ) : Tracing db.recorded Recorded.statements id where
  prepare _ _ _ := rfl
  execute _ _ := rfl
  rows _ _ := rfl
  row _ _ := rfl
  column _ _ := rfl
  scalar _ _ := rfl

/-- What an adapter of three operations is asked for instead. -/
def Operation.narrowed : Operation → Operation
  | .execute => .execute
  | _ => .rows

/-- A database of an adapter asks it for all rows, whatever it is asked for itself. -/
lemma tracing_adapter (adapter : Adapter σ) :
    Tracing adapter.recorded.database Recorded.statements Operation.narrowed := by
  have rows (sql : String) (s : Recorded σ) :
      (adapter.recorded.queryRows sql s).state.statements = s.statements ++ [(.rows, sql)] := rfl
  have quiet {β : Type} (f : List Row → β) (sql : String) (s : Recorded σ) :
      ((do return f (← adapter.recorded.queryRows sql) :
        Action (Recorded σ) β) s).state.statements = s.statements ++ [(.rows, sql)] := by
    rw [Action.state_bind_quiet fun rows => .pure (f rows)]
    exact rows sql s
  have first (sql : String) (s : Recorded σ) :
      (adapter.recorded.firstRow sql s).state.statements = s.statements ++ [(.rows, sql)] :=
    quiet List.head? sql s
  constructor
  · intro template args s
    rfl
  · intro sql s
    rfl
  · intro sql s
    exact rows sql s
  · intro sql s
    exact first sql s
  · intro sql s
    exact quiet _ sql s
  · intro sql s
    refine Eq.trans ?_ (first sql s)
    exact congrArg Recorded.statements (Action.state_bind_quiet (fun row => .pure _) s)

/-! ## The database inside -/

/-- The two actions end in the same way, and leave the same adapter. -/
structure Mirrors (x : Action (Recorded σ) α) (y : Action σ α) : Prop where
  result : ∀ s, (x s).result = (y s.inner).result
  state : ∀ s, (x s).state.inner = (y s.inner).state

namespace Mirrors

lemma pure (a : α) : Mirrors (Pure.pure a : Action (Recorded σ) α) (Pure.pure a) :=
  ⟨fun _ => rfl, fun _ => rfl⟩

lemma ofExcept (r : Except Error α) :
    Mirrors (Action.ofExcept r : Action (Recorded σ) α) (Action.ofExcept r) :=
  ⟨fun _ => rfl, fun _ => rfl⟩

lemma emit (events : List Event) :
    Mirrors (Action.emit events : Action (Recorded σ) Unit) (Action.emit events) :=
  ⟨fun _ => rfl, fun _ => rfl⟩

lemma note (operation : Operation) (sql : String) (run : Action σ α) :
    Mirrors (Recorded.note operation sql run) run :=
  ⟨fun _ => rfl, fun _ => rfl⟩

lemma prepare (db : Database σ) (template : String) (args : List Value) :
    Mirrors (db.recorded.prepare template args) (db.prepare template args) :=
  ⟨fun _ => rfl, fun _ => rfl⟩

lemma bind {x : Action (Recorded σ) α} {y : Action σ α} {f : α → Action (Recorded σ) β}
    {g : α → Action σ β} (hx : Mirrors x y) (hf : ∀ a, Mirrors (f a) (g a)) :
    Mirrors (x >>= f) (y >>= g) := by
  have ends (s : Recorded σ) : ((x >>= f) s).result = ((y >>= g) s.inner).result ∧
      ((x >>= f) s).state.inner = ((y >>= g) s.inner).state := by
    cases h : (y s.inner).result with
    | ok a =>
      have hr : (x s).result = .ok a := (hx.result s).trans h
      obtain ⟨outer, outerState⟩ := Action.bind_of_ok f hr
      obtain ⟨inner, innerState⟩ := Action.bind_of_ok g h
      rw [outer, outerState, inner, innerState, (hf a).result, (hf a).state, hx.state]
      exact ⟨rfl, rfl⟩
    | error e =>
      have hr : (x s).result = .error e := (hx.result s).trans h
      obtain ⟨outer, outerState⟩ := Action.bind_of_error f hr
      obtain ⟨inner, innerState⟩ := Action.bind_of_error g h
      rw [outer, outerState, inner, innerState, hx.state]
      exact ⟨rfl, rfl⟩
  exact ⟨fun s => (ends s).1, fun s => (ends s).2⟩

end Mirrors

end Clausal
