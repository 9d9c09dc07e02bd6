import Clausal.Proofs.Database.Clients
import Clausal.Proofs.Query.Delivery
import Clausal.Record

/-!
# Logged runs

Every way to run a query, and the storing and deleting of a record, are the work of clients. So
whatever is said of a client that works with a logged database holds of them.
-/

namespace Clausal

variable {α β : Type}

/-! ## Queries -/

namespace Served

lemma finalSql (q : Query) : Served fun _ db => q.finalSql db := by
  have prepared : Served fun σ _ => (q.prepared : Action σ Preparation) :=
    .bind (.ofExcept _) fun _ => .bind (.emit _) fun _ => .pure _
  have sql : Served fun _ db => q.sql db := by
    refine .bind prepared fun p => ?_
    by_cases bare : p.args.isEmpty = true
    · simp only [bare, if_true]
      exact .pure p.sql
    · simp only [bare]
      exact .prepare p.sql p.args
  exact .bind sql fun _ => .bind (.emit _) fun _ => .pure _

theorem run (t : Terminal α) (q : Query) : Served fun _ db => t.run q db := by
  have final := finalSql q
  cases t with
  | execute => exact .bind final fun sql => .send .execute sql
  | results =>
    exact .bind final fun sql => .bind (.send .rows sql) fun _ => .bind (.emit _) fun _ => .pure _
  | row =>
    exact .bind final fun sql => .bind (.send .row sql) fun _ => .bind (.emit _) fun _ => .pure _
  | column =>
    exact .bind (.ofExcept _) fun _ => .bind final fun sql => .bind (.send .column sql) fun _ =>
      .bind (.emit _) fun _ => .pure _
  | scalar =>
    exact .bind (.ofExcept _) fun _ => .bind final fun sql => .bind (.send .scalar sql) fun _ =>
      .bind (.emit _) fun _ => .pure _
  | records decode => exact .bind final fun sql => .bind (.send .rows sql) fun _ => .ofExcept _
  | record decode =>
    refine .bind final fun sql => .bind (.send .row sql) fun row => ?_
    cases row with
    | none => exact .pure none
    | some row => exact .bind (.ofExcept _) fun _ => .pure _

lemma insert (R : RecordType) (row : Row) : Served fun _ db => R.insert db row :=
  .bind (.run .execute _) fun _ => .insertId

end Served

/-! ## Records -/

/-- What follows an error is not run, and the attributes are held as they are. -/
def Client.onOkHolding (next : α → Attributes → Client (Except Error β × Attributes)) :
    Except Error α × Attributes → Client (Except Error β × Attributes)
  | (.ok a, held) => next a held
  | (.error e, held) => .done (.error e, held)

/-- The action of a session is what a client does that holds the attributes. -/
def HeldBy (x : (σ : Type) → Database σ → Action (Session σ) α) (attributes : Attributes)
    (c : Client (Except Error α × Attributes)) : Prop :=
  ∀ (σ : Type) (db : Database σ) (s : σ), x σ db ⟨s, attributes⟩ =
    ⟨(c.run db s).answer.1, ⟨(c.run db s).state, (c.run db s).answer.2⟩, (c.run db s).events⟩

def ServedSession (x : (σ : Type) → Database σ → Action (Session σ) α) : Prop :=
  ∀ attributes, ∃ c, HeldBy x attributes c

namespace ServedSession

lemma pure (a : α) : ServedSession fun _ _ => Pure.pure a := by
  intro attributes
  exact ⟨.done (.ok a, attributes), fun _ _ _ => rfl⟩

lemma onAttributes (x : Action Attributes α) : ServedSession fun _ _ => Session.onAttributes x := by
  intro attributes
  refine ⟨.report (x attributes).events (.done ((x attributes).result, (x attributes).state)), ?_⟩
  intro σ db s
  simp [Session.onAttributes, Action.within, Client.run, Client.End.after]

lemma modifyAttributes (f : Attributes → Attributes) :
    ServedSession fun _ _ => Session.modifyAttributes f := by
  intro attributes
  exact ⟨.done (.ok (), f attributes), fun _ _ _ => rfl⟩

lemma onAdapter {x : (σ : Type) → Database σ → Action σ α} (hx : Served x) :
    ServedSession fun σ db => Session.onAdapter (x σ db) := by
  intro attributes
  obtain ⟨c, hc⟩ := hx
  refine ⟨c.bind fun r => .done (r, attributes), ?_⟩
  intro σ db s
  simp [Session.onAdapter, Action.within, hc, Client.run_bind, Client.run, Client.End.after]

lemma bind {x : (σ : Type) → Database σ → Action (Session σ) α}
    {f : (σ : Type) → Database σ → α → Action (Session σ) β} (hx : ServedSession x)
    (hf : ∀ a, ServedSession fun σ db => f σ db a) :
    ServedSession fun σ db => x σ db >>= f σ db := by
  intro attributes
  obtain ⟨c, hc⟩ := hx attributes
  choose next hnext using hf
  refine ⟨c.bind (.onOkHolding next), ?_⟩
  intro σ db s
  change Action.bind (x σ db) (f σ db) ⟨s, attributes⟩ = _
  rw [Action.bind, Client.run_bind, hc]
  rcases (c.run db s).answer with ⟨e | a, held⟩
  · simp only [Client.onOkHolding, Client.run, Client.End.after, List.append_nil]
  · have rest := hnext a held σ db (c.run db s).state
    simp only [Client.onOkHolding, rest, Client.End.after]

/-- The state is the client's own in its attributes, and what follows may depend on them only. -/
lemma fromState {f : (σ : Type) → Database σ → Session σ → Action (Session σ) α}
    (hf : ∀ attributes, ∃ x, ServedSession x ∧ ∀ σ db s, f σ db ⟨s, attributes⟩ = x σ db) :
    ServedSession fun σ db => Action.state >>= f σ db := by
  intro attributes
  obtain ⟨x, served, hx⟩ := hf attributes
  obtain ⟨c, hc⟩ := served attributes
  refine ⟨c, ?_⟩
  intro σ db s
  exact (congrFun (hx σ db s) ⟨s, attributes⟩).trans (hc σ db s)

lemma saveNew (R : RecordType) (row : Row) : ServedSession fun _ db => (do
    match ← Session.onAdapter (R.insert db row) with
    | some id => Session.modifyAttributes (·.setRaw "id" (.int id))
    | none => return ()) := by
  refine .bind (.onAdapter (.insert R row)) fun id => ?_
  cases id with
  | none => exact .pure ()
  | some id => exact .modifyAttributes _

lemma saveStored (R : RecordType) (row : Row) : ServedSession fun _ db => (do
    let id ← Session.onAttributes (Attributes.read R.casts "id")
    let q := (R.updateAll row).filter (RecordType.idFilter (id.getD .null))
    let _ ← Session.onAdapter (q.execute db)
    return ()) :=
  .bind (.onAttributes _) fun _ => .bind (.onAdapter (.run .execute _)) fun _ => .pure ()

theorem save (R : RecordType) : ServedSession fun _ db => R.save db := by
  refine .fromState fun attributes => ?_
  by_cases new : attributes.isNew = true
  · exact ⟨_, saveNew R ⟨attributes.row.columns.filter (·.1 != "id")⟩, fun _ _ _ => if_pos new⟩
  · exact ⟨_, saveStored R attributes.row, fun _ _ _ => if_neg new⟩

theorem delete (R : RecordType) : ServedSession fun _ db => R.delete db := by
  refine .bind (.onAttributes _) fun id => ?_
  cases id with
  | none => exact .pure ()
  | some id => exact .bind (.onAdapter (.run .execute _)) fun _ => .modifyAttributes _

end ServedSession

/-! ## All runs -/

/-- Logging is transparent and complete. A client gets from a logged database what it gets from the
database inside, which goes through the same states and is sent the same statements in the same
order; the events are those of its steps, with one for each statement and one more for a slow one.
The ways to run a query, saving and deleting are clients. -/
theorem run_logged_transparent {σ ρ α : Type} (config : LogConfig) (clock : σ → Nat)
    (db : Database σ) :
    (∀ (c : Client ρ) (s : σ) (earlier : List (Operation × String)),
      let bare := c.run db s
      let logged := c.run (db.logged config clock) s
      let recorded := c.run (db.recorded.logged config fun r => clock r.inner) ⟨s, earlier⟩
      let steps := c.steps db clock s
      logged.answer = bare.answer ∧ logged.state = bare.state ∧
        recorded.answer = bare.answer ∧ recorded.state.inner = bare.state ∧
        recorded.state.statements = earlier ++ steps.filterMap Client.Step.statement? ∧
        bare.events = steps.flatMap Client.Step.events ∧ Client.Logs config steps logged.events) ∧
      (∀ operation shown error,
        Ends config operation shown error (config.ended operation shown error)) ∧
      (∀ operation shown threshold,
        Warns operation shown threshold (.slow operation shown threshold)) ∧
      (∀ (t : Terminal α) (q : Query), Served fun _ db => t.run q db) ∧
      ∀ R : RecordType, (ServedSession fun _ db => R.save db) ∧
        ServedSession fun _ db => R.delete db := by
  refine ⟨?_, config.ends_ended, warns_slow, Served.run, fun R => ⟨.save R, .delete R⟩⟩
  intro c s earlier bare logged recorded steps
  obtain ⟨answer, state, logs⟩ := c.run_logged config clock db s
  obtain ⟨recordedAnswer, recordedState, -⟩ :=
    c.run_logged config (fun r => clock r.inner) db.recorded ⟨s, earlier⟩
  have inside := c.run_recorded db clock ⟨s, earlier⟩
  rw [inside] at recordedAnswer recordedState
  have sent : recorded.state = ⟨bare.state, earlier ++ steps.filterMap Client.Step.statement?⟩ :=
    recordedState
  exact ⟨answer, state, recordedAnswer, congrArg Recorded.inner sent,
    congrArg Recorded.statements sent, c.events_run db clock s, logs⟩

end Clausal
