import Clausal.Database.Event
import Clausal.Error

/-!
# Actions

An action runs against the state of an adapter. It gives a value or an error, the state it leaves
behind in either case, and the events it reports. It cannot read what was reported before it.
-/

namespace Clausal

structure Outcome (σ α : Type) where
  result : Except Error α
  state : σ
  events : List Event := []

def Action (σ α : Type) : Type := σ → Outcome σ α

namespace Action

variable {σ τ α β : Type}

protected def pure (a : α) : Action σ α := fun s => ⟨.ok a, s, []⟩

/-- What follows an error is not run. -/
protected def bind (x : Action σ α) (f : α → Action σ β) : Action σ β := fun s =>
  let first := x s
  match first.result with
  | .error e => ⟨.error e, first.state, first.events⟩
  | .ok a =>
    let second := f a first.state
    ⟨second.result, second.state, first.events ++ second.events⟩

instance : Monad (Action σ) where
  pure := Action.pure
  bind := Action.bind

def ofExcept (r : Except Error α) : Action σ α := fun s => ⟨r, s, []⟩

def fail (e : Error) : Action σ α := ofExcept (.error e)

def emit (events : List Event) : Action σ Unit := fun s => ⟨.ok (), s, events⟩

def state : Action σ σ := fun s => ⟨.ok s, s, []⟩

def update (f : σ → σ) : Action σ Unit := fun s => ⟨.ok (), f s, []⟩

/-- Runs an action on a part of a larger state. -/
def within (part : τ → σ) (put : σ → τ → τ) (x : Action σ α) : Action τ α := fun t =>
  let out := x (part t)
  ⟨out.result, put out.state t, out.events⟩

end Action

end Clausal
