import Clausal.Database.Log
import Clausal.Proofs.Database.Recording
import Clausal.Proofs.Text.Shortening

/-!
# Clients of a database

A client is a program that works with a database through its calls and nothing else: each of its
next steps may depend on all replies so far, refusals among them. Its steps, run against a bare
database, say what a logged one reports of it.
-/

namespace Clausal

/-- What comes back from an operation. -/
def Operation.Answer : Operation → Type
  | .execute => UInt64
  | .rows => List Row
  | .row => Option Row
  | .column => List Value
  | .scalar => Option Value

/-- A statement, sent by any of the operations. -/
def Database.send {σ : Type} (db : Database σ) :
    (operation : Operation) → String → Action σ operation.Answer
  | .execute => db.execute
  | .rows => db.queryRows
  | .row => db.queryRow
  | .column => db.queryColumn
  | .scalar => db.queryScalar

inductive Client (ρ : Type) : Type where
  | done (r : ρ)
  | report (events : List Event) (next : Client ρ)
  | prepare (template : String) (args : List Value) (next : Except Error String → Client ρ)
  | insertId (next : Option Int64 → Client ρ)
  | send (operation : Operation) (sql : String) (next : Except Error operation.Answer → Client ρ)

namespace Client

/-- How the run of a client ends. -/
structure End (σ ρ : Type) where
  answer : ρ
  state : σ
  events : List Event

variable {σ ρ τ : Type}

def End.after (events : List Event) (e : End σ ρ) : End σ ρ :=
  { e with events := events ++ e.events }

def run (db : Database σ) : Client ρ → σ → End σ ρ
  | done r, s => ⟨r, s, []⟩
  | report events next, s => (next.run db s).after events
  | prepare template args next, s =>
    let out := db.prepare template args s
    ((next out.result).run db out.state).after out.events
  | insertId next, s => (next (db.lastInsertId s)).run db s
  | send operation sql next, s =>
    let out := db.send operation sql s
    ((next out.result).run db out.state).after out.events

/-- A step of a run, with the events that the client or the database reported in it. -/
inductive Step where
  | reported (events : List Event)
  | prepared (template : String) (args : List Value) (events : List Event)
  | askedForId
  | sent (operation : Operation) (sql : String) (elapsed : Span) (error : Option Error)
      (events : List Event)

namespace Step

def events : Step → List Event
  | reported events => events
  | prepared _ _ events => events
  | askedForId => []
  | sent _ _ _ _ events => events

/-- The statement that the step sent, if it sent one. -/
def statement? : Step → Option (Operation × String)
  | sent operation sql .. => some (operation, sql)
  | _ => none

end Step

/-- The steps of a run. `clock` reads the time off the state, in nanoseconds. -/
def steps (db : Database σ) (clock : σ → Nat) : Client ρ → σ → List Step
  | done _, _ => []
  | report events next, s => .reported events :: next.steps db clock s
  | prepare template args next, s =>
    let out := db.prepare template args s
    .prepared template args out.events :: (next out.result).steps db clock out.state
  | insertId next, s => .askedForId :: (next (db.lastInsertId s)).steps db clock s
  | send operation sql next, s =>
    let out := db.send operation sql s
    .sent operation sql ⟨clock out.state - clock s⟩ (errorOf? out.result) out.events ::
      (next out.result).steps db clock out.state

variable (db : Database σ) (clock : σ → Nat)

/-- What the steps report is all that a run reports. -/
theorem events_run (c : Client ρ) (s : σ) :
    (c.run db s).events = (c.steps db clock s).flatMap Step.events := by
  induction c generalizing s with
  | done r => rfl
  | report events next ih => simp [run, steps, End.after, Step.events, ih]
  | prepare template args next ih => simp [run, steps, End.after, Step.events, ih]
  | insertId next ih => simp [run, steps, Step.events, ih]
  | send operation sql next ih => simp [run, steps, End.after, Step.events, ih]

/-! ## One client after another -/

def bind : Client ρ → (ρ → Client τ) → Client τ
  | done r, f => f r
  | report events next, f => report events (next.bind f)
  | prepare template args next, f => prepare template args fun reply => (next reply).bind f
  | insertId next, f => insertId fun reply => (next reply).bind f
  | send operation sql next, f => send operation sql fun reply => (next reply).bind f

lemma run_bind (c : Client ρ) (f : ρ → Client τ) (s : σ) :
    (c.bind f).run db s =
      ((f (c.run db s).answer).run db (c.run db s).state).after (c.run db s).events := by
  induction c generalizing s with
  | done r => rfl
  | report events next ih => simp only [bind, run, ih, End.after, List.append_assoc]
  | prepare template args next ih => simp only [bind, run, ih, End.after, List.append_assoc]
  | insertId next ih => exact ih (db.lastInsertId s) s
  | send operation sql next ih => simp only [bind, run, ih, End.after, List.append_assoc]

/-- What follows an error is not run. -/
def onOk {α β : Type} (next : α → Client (Except Error β)) : Except Error α →
    Client (Except Error β)
  | .ok a => next a
  | .error e => done (.error e)

end Client

/-! ## Actions of clients -/

/-- The action is what a client does, whichever database it works with. -/
def Served {α : Type} (x : (σ : Type) → Database σ → Action σ α) : Prop :=
  ∃ c : Client (Except Error α), ∀ (σ : Type) (db : Database σ) (s : σ),
    x σ db s = ⟨(c.run db s).answer, (c.run db s).state, (c.run db s).events⟩

namespace Served

variable {α β : Type}

lemma ofExcept (r : Except Error α) : Served fun _ _ => Action.ofExcept r :=
  ⟨.done r, fun _ _ _ => rfl⟩

lemma pure (a : α) : Served fun _ _ => Pure.pure a :=
  ofExcept (.ok a)

lemma emit (events : List Event) : Served fun _ _ => Action.emit events :=
  ⟨.report events (.done (.ok ())), fun _ _ _ => by
    simp [Action.emit, Client.run, Client.End.after]⟩

lemma prepare (template : String) (args : List Value) :
    Served fun _ db => db.prepare template args :=
  ⟨.prepare template args .done, fun _ _ _ => by simp [Client.run, Client.End.after]⟩

lemma send (operation : Operation) (sql : String) :
    Served fun _ db => db.send operation sql :=
  ⟨.send operation sql .done, fun _ _ _ => by simp [Client.run, Client.End.after]⟩

lemma insertId : Served fun _ db => do return db.lastInsertId (← Action.state) :=
  ⟨.insertId fun id => .done (.ok id), fun _ _ _ => rfl⟩

lemma bind {x : (σ : Type) → Database σ → Action σ α}
    {f : (σ : Type) → Database σ → α → Action σ β} (hx : Served x)
    (hf : ∀ a, Served fun σ db => f σ db a) : Served fun σ db => x σ db >>= f σ db := by
  obtain ⟨c, hc⟩ := hx
  choose next hnext using hf
  refine ⟨c.bind (.onOk next), ?_⟩
  intro σ db s
  change Action.bind (x σ db) (f σ db) s = _
  rw [Action.bind, Client.run_bind, hc]
  cases (c.run db s).answer with
  | ok a => simp only [Client.onOk, hnext, Client.End.after]
  | error e => simp only [Client.onOk, Client.run, Client.End.after, List.append_nil]

end Served

namespace Client

variable {σ ρ : Type} (db : Database σ) (clock : σ → Nat)

/-! ## Recorded clients -/

lemma send_recorded (operation : Operation) (sql : String) (s : Recorded σ) :
    db.recorded.send operation sql s =
      ⟨(db.send operation sql s.inner).result,
        ⟨(db.send operation sql s.inner).state, s.statements ++ [(operation, sql)]⟩,
        (db.send operation sql s.inner).events⟩ := by
  cases operation <;> rfl

/-- A recorded database is sent the statements of the steps, and otherwise is the one inside. -/
theorem run_recorded (c : Client ρ) (s : Recorded σ) :
    c.run db.recorded s =
      ⟨(c.run db s.inner).answer,
        ⟨(c.run db s.inner).state,
          s.statements ++ (c.steps db clock s.inner).filterMap Step.statement?⟩,
        (c.run db s.inner).events⟩ := by
  induction c generalizing s with
  | done r => simp [run, steps]
  | report events next ih =>
    rw [run, ih]
    rfl
  | prepare template args next ih =>
    have inside := ih (db.prepare template args s.inner).result
      { s with inner := (db.prepare template args s.inner).state }
    exact congrArg (End.after _) inside
  | insertId next ih => exact ih (db.lastInsertId s.inner) s
  | send operation sql next ih =>
    simp only [run, send_recorded, ih, List.append_assoc]
    rfl

/-! ## Logged clients -/

end Client

/-- The event that says how a statement ended: at the level of the configuration if it succeeded,
and with its error if it failed. -/
def LogConfig.ended (config : LogConfig) (operation : Operation) (shown : String) :
    Option Error → Event
  | none => .finished config.level operation shown
  | some e => .failed operation shown e.message

/-- What an event says about the end of a statement. -/
structure Ends (config : LogConfig) (operation : Operation) (shown : String) (error : Option Error)
    (event : Event) : Prop where
  level : event.level = error.elim config.level fun _ => .error
  target : event.target = "recordq.sql"
  operation : ("operation", .text operation.name) ∈ event.fields
  sql : ("sql", .text shown) ∈ event.fields
  error : ∀ e ∈ error, ("error", .text e.message) ∈ event.fields

lemma LogConfig.ends_ended (config : LogConfig) (operation : Operation) (shown : String)
    (error : Option Error) :
    Ends config operation shown error (config.ended operation shown error) := by
  cases error with
  | none => constructor <;> simp [ended, Event.level, Event.target, Event.fields]
  | some e => constructor <;> simp [ended, Event.level, Event.target, Event.fields]

/-- What an event says about a statement that took longer than a threshold. -/
structure Warns (operation : Operation) (shown : String) (threshold : Span) (event : Event) :
    Prop where
  level : event.level = .warn
  target : event.target = "recordq.sql"
  message : ("message", .text "slow query") ∈ event.fields
  operation : ("operation", .text operation.name) ∈ event.fields
  sql : ("sql", .text shown) ∈ event.fields
  threshold : ("threshold_ms", .real threshold.milliseconds) ∈ event.fields

lemma warns_slow (operation : Operation) (shown : String) (threshold : Span) :
    Warns operation shown threshold (.slow operation shown threshold) := by
  constructor <;> simp [Event.level, Event.target, Event.fields]

def LogConfig.Exceeded (config : LogConfig) (elapsed : Span) (threshold : Span) : Prop :=
  config.slowThreshold = some threshold ∧ threshold.nanoseconds < elapsed.nanoseconds

/-- What a logged database adds to the events of a statement. -/
inductive Added (config : LogConfig) (operation : Operation) (sql : String) (elapsed : Span)
    (error : Option Error) : List Event → Prop where
  | disabled (off : config.enabled = false) : Added config operation sql elapsed error []
  | quick {shown : String} (on : config.enabled = true)
      (shows : Text.Shown sql config.maxLength shown)
      (quick : ∀ threshold, ¬ config.Exceeded elapsed threshold) :
      Added config operation sql elapsed error [config.ended operation shown error]
  | slow {shown : String} {threshold : Span} (on : config.enabled = true)
      (shows : Text.Shown sql config.maxLength shown)
      (slow : config.Exceeded elapsed threshold) :
      Added config operation sql elapsed error
        [config.ended operation shown error, .slow operation shown threshold]

lemma LogConfig.added_report (config : LogConfig) (on : config.enabled = true)
    (operation : Operation) (sql : String) (elapsed : Span) (error : Option Error) :
    Added config operation sql elapsed error (config.report operation sql elapsed error) := by
  have shows := Text.shown_shorten config.maxLength sql
  unfold report
  cases set : config.slowThreshold with
  | none =>
    refine .quick on shows ?_
    rintro threshold ⟨isSet, -⟩
    rw [set] at isSet
    cases isSet
  | some threshold =>
    by_cases late : threshold.nanoseconds < elapsed.nanoseconds
    · simp only [late, if_true]
      exact .slow on shows ⟨set, late⟩
    · simp only [late, if_false]
      refine .quick on shows ?_
      rintro other ⟨isSet, exceeded⟩
      obtain rfl := Option.some.inj (set.symm.trans isSet)
      exact late exceeded

namespace Client

variable {σ ρ : Type}

/-- What is reported of a run through a logged database: all that was reported without it, and after
each statement what is added for it. -/
inductive Logs (config : LogConfig) : List Step → List Event → Prop where
  | nil : Logs config [] []
  | reported {events later : List Event} {rest : List Step} (tail : Logs config rest later) :
      Logs config (.reported events :: rest) (events ++ later)
  | prepared {template : String} {args : List Value} {events later : List Event} {rest : List Step}
      (tail : Logs config rest later) :
      Logs config (.prepared template args events :: rest) (events ++ later)
  | askedForId {later : List Event} {rest : List Step} (tail : Logs config rest later) :
      Logs config (.askedForId :: rest) later
  | sent {operation : Operation} {sql : String} {elapsed : Span} {error : Option Error}
      {events extra later : List Event} {rest : List Step}
      (added : Added config operation sql elapsed error extra) (tail : Logs config rest later) :
      Logs config (.sent operation sql elapsed error events :: rest) (events ++ extra ++ later)

/-- One statement: passed on as it is, and reported. -/
lemma send_logged (config : LogConfig) (clock : σ → Nat) (db : Database σ) (operation : Operation)
    (sql : String) (s : σ) :
    ∃ extra, Added config operation sql
        ⟨clock (db.send operation sql s).state - clock s⟩
        (errorOf? (db.send operation sql s).result) extra ∧
      (db.logged config clock).send operation sql s =
        { db.send operation sql s with events := (db.send operation sql s).events ++ extra } := by
  have logged : (db.logged config clock).send operation sql =
      (db.send operation sql).logged config clock operation sql := by
    cases operation <;> rfl
  rw [logged, Action.logged]
  cases on : config.enabled with
  | false => exact ⟨[], .disabled on, by simp⟩
  | true => exact ⟨_, config.added_report on .., by simp⟩

/-- A logged database answers as the one inside, leaves it in the same state, and reports the steps
of the run. -/
theorem run_logged (config : LogConfig) (clock : σ → Nat) (db : Database σ) (c : Client ρ) (s : σ) :
    (c.run (db.logged config clock) s).answer = (c.run db s).answer ∧
      (c.run (db.logged config clock) s).state = (c.run db s).state ∧
      Logs config (c.steps db clock s) (c.run (db.logged config clock) s).events := by
  induction c generalizing s with
  | done r => exact ⟨rfl, rfl, .nil⟩
  | report events next ih =>
    obtain ⟨answer, state, logs⟩ := ih s
    exact ⟨answer, state, .reported logs⟩
  | prepare template args next ih =>
    obtain ⟨answer, state, logs⟩ := ih (db.prepare template args s).result
      (db.prepare template args s).state
    exact ⟨answer, state, .prepared logs⟩
  | insertId next ih =>
    obtain ⟨answer, state, logs⟩ := ih (db.lastInsertId s) s
    exact ⟨answer, state, .askedForId logs⟩
  | send operation sql next ih =>
    obtain ⟨extra, added, sent⟩ := send_logged config clock db operation sql s
    obtain ⟨answer, state, logs⟩ := ih (db.send operation sql s).result
      (db.send operation sql s).state
    simp only [run, steps, sent, End.after]
    exact ⟨answer, state, .sent added logs⟩

end Client

end Clausal
