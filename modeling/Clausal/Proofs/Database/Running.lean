import Clausal.Database.Action
import Mathlib.Tactic.Lemma

/-!
# Running actions

An action that follows another runs where that one ended, and not at all after an error. A quiet
action leaves the state as it is. The errors of a sequence are those of its steps.
-/

namespace Clausal.Action

variable {σ α β : Type}

lemma run_bind (x : Action σ α) (f : α → Action σ β) (s : σ) :
    (x >>= f) s = Action.bind x f s := rfl

lemma bind_of_ok {x : Action σ α} (f : α → Action σ β) {s : σ} {a : α}
    (h : (x s).result = .ok a) :
    ((x >>= f) s).result = (f a (x s).state).result ∧
      ((x >>= f) s).state = (f a (x s).state).state := by
  rw [run_bind, Action.bind]
  simp only [h]
  exact ⟨trivial, trivial⟩

lemma bind_of_error {x : Action σ α} (f : α → Action σ β) {s : σ} {e : Error}
    (h : (x s).result = .error e) :
    ((x >>= f) s).result = .error e ∧ ((x >>= f) s).state = (x s).state := by
  rw [run_bind, Action.bind]
  simp only [h]
  exact ⟨trivial, trivial⟩

lemma result_bind (x : Action σ α) (f : α → Action σ β) (s : σ) :
    ((x >>= f) s).result = (x s).result >>= fun a => (f a (x s).state).result := by
  cases h : (x s).result with
  | ok a => exact (bind_of_ok f h).1
  | error e => exact (bind_of_error f h).1

lemma ofExcept_bind_of_ok {r : Except Error α} {a : α} (h : r = .ok a) (f : α → Action σ β) :
    ofExcept r >>= f = f a := by
  rw [h]
  rfl

lemma ofExcept_bind_of_error {r : Except Error α} {e : Error} (h : r = .error e)
    (f : α → Action σ β) : ofExcept r >>= f = fail e := by
  rw [h]
  rfl

private lemma bind_pure_self (x : Action σ α) : x >>= Pure.pure = x := by
  funext s
  rw [run_bind, Action.bind]
  cases h : (x s).result with
  | error e => simp only [← h]
  | ok a =>
    change Outcome.mk (.ok a) (x s).state ((x s).events ++ []) = x s
    rw [List.append_nil, ← h]

private lemma bind_assoc_steps {γ : Type} (x : Action σ α) (f : α → Action σ β)
    (g : β → Action σ γ) : x >>= f >>= g = x >>= fun a => f a >>= g := by
  funext s
  simp only [run_bind, Action.bind]
  cases (x s).result with
  | error e => rfl
  | ok a =>
    simp only
    cases (f a (x s).state).result with
    | error e => rfl
    | ok b => simp only [List.append_assoc]

/-- Steps can be grouped in any way: what is reported stands in the order of the steps. -/
instance : LawfulMonad (Action σ) :=
  LawfulMonad.mk' _ bind_pure_self (fun _ _ => rfl) bind_assoc_steps

/-! ## Quiet actions -/

/-- The state stays as it is, however the action ends. -/
def Quiet (x : Action σ α) : Prop :=
  ∀ s, (x s).state = s

/-- A quiet end leaves the state to what came before it. -/
lemma state_bind_quiet {x : Action σ α} {f : α → Action σ β} (hf : ∀ a, Quiet (f a)) (s : σ) :
    ((x >>= f) s).state = (x s).state := by
  cases h : (x s).result with
  | ok a => rw [(bind_of_ok f h).2, hf a]
  | error e => exact (bind_of_error f h).2

namespace Quiet

lemma pure (a : α) : Quiet (Pure.pure a : Action σ α) := fun _ => rfl

lemma ofExcept (r : Except Error α) : Quiet (Action.ofExcept r : Action σ α) := fun _ => rfl

lemma emit (events : List Event) : Quiet (Action.emit events : Action σ Unit) := fun _ => rfl

lemma state : Quiet (Action.state : Action σ σ) := fun _ => rfl

lemma bind {x : Action σ α} {f : α → Action σ β} (hx : Quiet x) (hf : ∀ a, Quiet (f a)) :
    Quiet (x >>= f) := by
  intro s
  rw [state_bind_quiet hf, hx]

end Quiet

/-! ## Errors -/

/-- The action ends with no other errors than these. -/
def FailsOnly (P : Error → Prop) (x : Action σ α) : Prop :=
  ∀ s e, (x s).result = .error e → P e

namespace FailsOnly

variable {P : Error → Prop}

lemma pure (a : α) : FailsOnly P (Pure.pure a : Action σ α) := nofun

lemma emit (events : List Event) : FailsOnly P (Action.emit events : Action σ Unit) := nofun

lemma ofExcept {r : Except Error α} (h : ∀ e, r = .error e → P e) :
    FailsOnly P (Action.ofExcept r : Action σ α) := fun _ e => h e

lemma bind {x : Action σ α} {f : α → Action σ β} (hx : FailsOnly P x)
    (hf : ∀ s a, (x s).result = .ok a → FailsOnly P (f a)) : FailsOnly P (x >>= f) := by
  intro s e failed
  cases h : (x s).result with
  | ok a =>
    rw [(bind_of_ok f h).1] at failed
    exact hf s a h _ e failed
  | error first =>
    rw [(bind_of_error f h).1] at failed
    exact Except.error.inj failed ▸ hx s first h

end FailsOnly

end Clausal.Action
