import Clausal.Proofs.Database.Running
import Clausal.Proofs.Record.Memo
import Clausal.Proofs.Record.Statements

/-!
# Saving and deleting

Whether a record is new is read off the stored id, and its row is found by the cast one; where ids
are integers the two agree. What saving and deleting leave of a record follows from how the
statement that they run ends, whatever the adapter does.
-/

namespace Clausal

open Query Sql

/-- Running a statement for its effect. -/
lemma Session.onAdapter_ignored {σ α : Type} (x : Action σ α) (S : Session σ) :
    ((do let _ ← Session.onAdapter x; return ()) S).result =
        (x S.adapter).result.map (fun _ => ()) ∧
      ((do let _ ← Session.onAdapter x; return ()) S).state =
        ⟨(x S.adapter).state, S.attributes⟩ := by
  refine ⟨?_, Action.state_bind_quiet (fun _ => .pure ()) S⟩
  cases h : (x S.adapter).result with
  | error e =>
    have stop : (Session.onAdapter x S).result = .error e := h
    exact (Action.bind_of_error _ stop).1
  | ok a =>
    have next : (Session.onAdapter x S).result = .ok a := h
    exact (Action.bind_of_ok _ next).1

namespace RecordType

variable {σ : Type} {R : RecordType}

/-! ## The id -/

/-- Ids are integers, or as they are stored. -/
def IntegerId (R : RecordType) : Prop :=
  ∀ rule ∈ R.casts.rule? "id", rule.kind? = some .int

lemma IntegerId.cases (h : R.IntegerId) :
    (∀ v, R.casts.cast "id" v = v) ∨ ∀ v, R.casts.cast "id" v = CastKind.int.cast v := by
  unfold Casts.cast
  cases found : R.casts.rule? "id" with
  | none => exact Or.inl fun _ => rfl
  | some rule =>
    refine Or.inr fun v => ?_
    have kind := h rule found
    cases rule with
    | named name =>
      have named : CastKind.ofName? name = some .int := kind
      simp only [CastRule.cast, named]
    | custom cast decast => cases kind

lemma IntegerId.isNull_cast (h : R.IntegerId) (v : Value) :
    (R.casts.cast "id" v).isNull = v.isNull := by
  rcases h.cases with plain | int
  · rw [plain]
  · rw [int]
    cases v <;> rfl

lemma IntegerId.cast_int (h : R.IntegerId) (k : Int64) : R.casts.cast "id" (.int k) = .int k := by
  rcases h.cases with plain | int
  · exact plain _
  · exact int _

/-- A record that is not new has a key, and one that is has none. -/
lemma isNull_key (int : R.IntegerId) (a : Attributes) : (R.key a).isNull = a.isNew := by
  rw [key, Attributes.isNew]
  cases a.raw? "id" with
  | none => rfl
  | some stored => exact int.isNull_cast stored

/-- The id that is read is the key, unless that is NULL. -/
lemma readId_of_key (R : RecordType) (a : Attributes) :
    ((a.raw? "id").map (R.casts.cast "id")).filter (fun value => !value.isNull) =
      if (R.key a).isNull then none else some (R.key a) := by
  rw [key]
  cases a.raw? "id" with
  | none => rfl
  | some stored =>
    cases null : (R.casts.cast "id" stored).isNull with
    | true => simp [null]
    | false => simp [null]

/-! ## Saving and deleting -/

lemma insert_result (R : RecordType) (db : Database σ) (columns : Columns Value) (s : σ) :
    (∀ e, ((R.building (insertCalls columns)).execute db s).result = .error e →
        (R.insert db ⟨columns⟩ s).result = .error e) ∧
      (∀ n, ((R.building (insertCalls columns)).execute db s).result = .ok n →
        (R.insert db ⟨columns⟩ s).result = .ok (db.lastInsertId
          ((R.building (insertCalls columns)).execute db s).state)) ∧
      (R.insert db ⟨columns⟩ s).state =
        ((R.building (insertCalls columns)).execute db s).state := by
  have report : Action.Quiet (do return db.lastInsertId (← Action.state) :
      Action σ (Option Int64)) := .bind .state fun _ => .pure _
  have run : R.insert db ⟨columns⟩ = (R.building (insertCalls columns)).execute db >>= fun _ =>
      (do return db.lastInsertId (← Action.state)) := rfl
  rw [run]
  refine ⟨fun e he => (Action.bind_of_error _ he).1, fun n hn => (Action.bind_of_ok _ hn).1, ?_⟩
  exact Action.state_bind_quiet (fun _ => report) s

variable {S : Session σ}

/-- The new record takes the id that was generated, if one was. -/
lemma save_new (db : Database σ) (new : S.attributes.isNew = true) :
    let run := (R.building (insertCalls (insertedColumns S.attributes))).execute db S.adapter
    (∀ e, run.result = .error e →
        (R.save db S).result = .error e ∧ (R.save db S).state = ⟨run.state, S.attributes⟩) ∧
      (∀ n, run.result = .ok n →
        (R.save db S).result = .ok () ∧ (R.save db S).state = ⟨run.state,
          match db.lastInsertId run.state with
          | some id => S.attributes.setRaw "id" (.int id)
          | none => S.attributes⟩) := by
  intro run
  obtain ⟨fails, passes, state⟩ := insert_result R db (insertedColumns S.attributes) S.adapter
  have saved : R.save db S =
      (Session.onAdapter (R.insert db ⟨insertedColumns S.attributes⟩) >>= fun id =>
        match id with
        | some id => Session.modifyAttributes (·.setRaw "id" (.int id))
        | none => pure ()) S := by
    change (if S.attributes.isNew then _ else _ : Action (Session σ) Unit) S = _
    rw [if_pos new]
    rfl
  rw [saved]
  constructor
  · intro e he
    have stop : (Session.onAdapter (R.insert db ⟨insertedColumns S.attributes⟩) S).result =
        .error e := fails e he
    obtain ⟨result, kept⟩ := Action.bind_of_error _ stop
    refine ⟨result, kept.trans ?_⟩
    exact congrArg (Session.mk · S.attributes) state
  · intro n hn
    have next : (Session.onAdapter (R.insert db ⟨insertedColumns S.attributes⟩) S).result =
        .ok (db.lastInsertId run.state) := passes n hn
    obtain ⟨result, kept⟩ := Action.bind_of_ok _ next
    have adapter : (Session.onAdapter (R.insert db ⟨insertedColumns S.attributes⟩) S).state =
        ⟨run.state, S.attributes⟩ := congrArg (Session.mk · S.attributes) state
    rw [adapter] at result kept
    rw [result, kept]
    cases db.lastInsertId run.state with
    | some id => exact ⟨rfl, rfl⟩
    | none => exact ⟨rfl, rfl⟩

/-- The record once its id was read. -/
def identified (R : RecordType) (a : Attributes) : Attributes :=
  (Attributes.read R.casts "id" a).state

lemma save_identified (db : Database σ) (sound : S.attributes.Sound R.casts)
    (stored : S.attributes.isNew = false) :
    let run := (R.building (updateCalls S.attributes.row.columns (R.key S.attributes))).execute db
      S.adapter
    (R.save db S).result = run.result.map (fun _ => ()) ∧
      (R.save db S).state = ⟨run.state, R.identified S.attributes⟩ := by
  intro run
  have saved : R.save db S = (Session.onAttributes (Attributes.read R.casts "id") >>= fun id => do
      let _ ← Session.onAdapter (((R.updateAll S.attributes.row).filter
        (idFilter (id.getD .null))).execute db)
      return ()) S := by
    change (if S.attributes.isNew then _ else _ : Action (Session σ) Unit) S = _
    rw [if_neg (by rw [stored]; exact Bool.false_ne_true)]
  have found : (Session.onAttributes (Attributes.read R.casts "id") S).result =
      .ok ((S.attributes.raw? "id").map (R.casts.cast "id")) :=
    (Attributes.read_result sound "id").1
  obtain ⟨result, state⟩ := Action.bind_of_ok _ found
  rw [saved, result, state]
  exact Session.onAdapter_ignored _ ⟨S.adapter, R.identified S.attributes⟩

/-- Reading the id changes the memo at most. -/
lemma save_stored (db : Database σ) (sound : S.attributes.Sound R.casts)
    (stored : S.attributes.isNew = false) :
    let run := (R.building (updateCalls S.attributes.row.columns (R.key S.attributes))).execute db
      S.adapter
    ∃ a : Attributes, a.row = S.attributes.row ∧ a.Sound R.casts ∧
      (R.save db S).result = run.result.map (fun _ => ()) ∧
      (R.save db S).state = ⟨run.state, a⟩ := by
  obtain ⟨_, row, memo⟩ := Attributes.read_result sound "id"
  exact ⟨R.identified S.attributes, row, memo, save_identified db sound stored⟩

/-- Deleting once the id is read. -/
def deleteFound (R : RecordType) (db : Database σ) : Option Value → Action (Session σ) Unit
  | none => return ()
  | some id => do
    let _ ← Session.onAdapter (R.deleteById db id)
    Session.modifyAttributes fun a => (a.remove "id").2

lemma delete_eq (R : RecordType) (db : Database σ) :
    R.delete db = Session.onAttributes (Attributes.readId R.casts) >>= R.deleteFound db := rfl

lemma delete_identified (db : Database σ) (sound : S.attributes.Sound R.casts) :
    (R.delete db S).result = (R.deleteFound db
        (if (R.key S.attributes).isNull then none else some (R.key S.attributes))
        ⟨S.adapter, R.identified S.attributes⟩).result ∧
      (R.delete db S).state = (R.deleteFound db
        (if (R.key S.attributes).isNull then none else some (R.key S.attributes))
        ⟨S.adapter, R.identified S.attributes⟩).state := by
  obtain ⟨read, _, _⟩ := Attributes.readId_result sound
  rw [readId_of_key] at read
  have found : (Session.onAttributes (Attributes.readId R.casts) S).result =
      .ok (if (R.key S.attributes).isNull then none else some (R.key S.attributes)) := read
  have left : (Session.onAttributes (Attributes.readId R.casts) S).state =
      ⟨S.adapter, R.identified S.attributes⟩ :=
    congrArg (Session.mk S.adapter) (Attributes.state_readId R.casts S.attributes)
  rw [delete_eq, ← left]
  exact Action.bind_of_ok (R.deleteFound db) found

lemma delete_identified_unkeyed (db : Database σ) (sound : S.attributes.Sound R.casts)
    (null : (R.key S.attributes).isNull = true) :
    (R.delete db S).result = .ok () ∧
      (R.delete db S).state = ⟨S.adapter, R.identified S.attributes⟩ := by
  obtain ⟨result, state⟩ := delete_identified (R := R) db sound
  rw [result, state, if_pos null]
  exact ⟨rfl, rfl⟩

/-- A record without a key has nothing to delete. -/
lemma delete_unkeyed (db : Database σ) (sound : S.attributes.Sound R.casts)
    (null : (R.key S.attributes).isNull = true) :
    ∃ a : Attributes, a.row = S.attributes.row ∧ a.Sound R.casts ∧
      (R.delete db S).result = .ok () ∧ (R.delete db S).state = ⟨S.adapter, a⟩ := by
  obtain ⟨_, row, memo⟩ := Attributes.read_result sound "id"
  exact ⟨R.identified S.attributes, row, memo, delete_identified_unkeyed db sound null⟩

lemma delete_identified_keyed (db : Database σ) (sound : S.attributes.Sound R.casts)
    (keyed : (R.key S.attributes).isNull = false) :
    let run := (R.building (deleteCalls (R.key S.attributes))).execute db S.adapter
    (∀ e, run.result = .error e →
        (R.delete db S).result = .error e ∧
          (R.delete db S).state = ⟨run.state, R.identified S.attributes⟩) ∧
      (∀ n, run.result = .ok n →
        (R.delete db S).result = .ok () ∧
          (R.delete db S).state = ⟨run.state, ((R.identified S.attributes).remove "id").2⟩) := by
  intro run
  obtain ⟨result, state⟩ := delete_identified (R := R) db sound
  rw [result, state, if_neg (by rw [keyed]; exact Bool.false_ne_true)]
  constructor
  · intro e he
    have stop : (Session.onAdapter (R.deleteById db (R.key S.attributes))
        ⟨S.adapter, R.identified S.attributes⟩).result = .error e := he
    exact Action.bind_of_error _ stop
  · intro n hn
    have next : (Session.onAdapter (R.deleteById db (R.key S.attributes))
        ⟨S.adapter, R.identified S.attributes⟩).result = .ok n := hn
    exact Action.bind_of_ok _ next

/-- The id goes once the row is deleted. -/
lemma delete_keyed (db : Database σ) (sound : S.attributes.Sound R.casts)
    (keyed : (R.key S.attributes).isNull = false) :
    let run := (R.building (deleteCalls (R.key S.attributes))).execute db S.adapter
    ∃ a : Attributes, a.row = S.attributes.row ∧ a.Sound R.casts ∧
      (∀ e, run.result = .error e →
        (R.delete db S).result = .error e ∧ (R.delete db S).state = ⟨run.state, a⟩) ∧
      (∀ n, run.result = .ok n →
        (R.delete db S).result = .ok () ∧
          (R.delete db S).state = ⟨run.state, (a.remove "id").2⟩) := by
  obtain ⟨_, row, memo⟩ := Attributes.read_result sound "id"
  exact ⟨R.identified S.attributes, row, memo, delete_identified_keyed db sound keyed⟩

end RecordType

end Clausal
