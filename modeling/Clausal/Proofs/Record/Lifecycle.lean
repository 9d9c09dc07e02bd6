import Clausal.Proofs.Query.Delivery
import Clausal.Proofs.Query.Names
import Clausal.Proofs.Record.Saving

/-!
# The life of a record

A record is new until its stored id is a value. Saving a new record inserts it and takes the id that
was generated, saving any other updates its row, and deleting makes it new again. Each sends one
statement at most, and one that fails leaves the record as it was. Whatever was read before, the
memo stays sound, so the id that a row is found by is the cast of the stored one.
-/

namespace Clausal

open Query Sql

namespace RecordType

variable {σ : Type} {R : RecordType}

/-! ## What is sent -/

/-- The statement of the query is sent once; or there is an error, and nothing is sent. -/
def Sends (q : Query) (db : Database σ) (before after : Recorded σ) (result : Except Error Unit) :
    Prop :=
  (∃ e, result = .error e ∧ after.statements = before.statements) ∨
    ∃ text, (q.sql db before.inner).result = .ok text ∧
      after.statements = before.statements ++ [(.execute, text)]

lemma sends_execute (R : RecordType) (cs : List Call) (db : Database σ) (s : Recorded σ)
    {result : Except Error Unit}
    (fails : ∀ e, ((R.building cs).execute db.recorded s).result = .error e → result = .error e) :
    Sends (R.building cs) db s ((R.building cs).execute db.recorded s).state result := by
  rcases Terminal.execute.delivery (.record R.table R.casts) cs (tracing_recorded db) s with
    ⟨e, _, stops, none⟩ | ⟨_, text, final, one⟩
  · exact Or.inl ⟨e, fails e stops, none⟩
  · exact Or.inr ⟨text, ((mirrors_sql (R.building cs) db).result s).symm.trans final, one⟩

/-- If the names are inert, the final text has them as they were passed, and the literals of the
values between them. -/
def Written (q : Query) (p : Preparation) (db : Database σ) (s : σ) : Prop :=
  db.BindsByDefault → ∀ text, (q.sql db s).result = .ok text →
    (p.args = [] ∧ text = p.sql) ∨ text.toList = Rendering.direct.chars p.pieces

lemma written_of_steady {q : Query} (h : q.Within steady) {p : Preparation}
    (hp : q.prepare = .ok p) (db : Database σ) (s : σ) : Written q p db s := by
  intro binder text ht
  by_cases bare : p.args = []
  · rw [(sql_of_ok hp db s).1, if_pos bare] at ht
    exact Or.inl ⟨bare, (Except.ok.inj ht).symm⟩
  · rw [sql_of_steady h hp bare binder s] at ht
    rw [← Except.ok.inj ht]
    exact Or.inr String.toList_ofList

/-- The table and the columns of a record have inert names. -/
def InertNames (R : RecordType) (a : Attributes) : Prop :=
  Inert R.table.toList ∧ ∀ name ∈ a.row.names, Inert name.toList

lemma steady_building {cs : List Call} (table : Inert R.table.toList)
    (h : ∀ c ∈ cs, c.Within steady) : (R.building cs).Within steady := by
  refine within_calls (within_start ?_) h
  rintro name ⟨⟩
  exact table

lemma steady_boundPairs {columns : Columns Value}
    (h : ∀ name ∈ columns.names, Inert name.toList) :
    CellsWithin steady (boundPairs columns) := by
  intro cell hc
  obtain ⟨column, mem, rfl⟩ := List.mem_map.mp hc
  exact ⟨h _ (List.mem_map_of_mem mem), nofun⟩

lemma steady_idFilter (id : Value) : (Call.filter false (idFilter id)).Within steady := by
  have column : steady.column (.name "id") := (by decide : Inert "id".toList)
  exact ⟨column, nofun, nofun⟩

/-- The calls prepare this statement. It is sent once or not at all, and inert names stand in it. -/
structure Delivers (R : RecordType) (a : Attributes) (cs : List Call) (p : Preparation)
    (db : Database σ) (before after : Recorded σ) (result : Except Error Unit) : Prop where
  prepared : (R.building cs).prepare = .ok p
  sent : Sends (R.building cs) db before after result
  written : R.InertNames a → Written (R.building cs) p db before.inner

/-! ## One call -/

/-- What saving a record does, whatever the adapter answers. -/
structure Saves (R : RecordType) (db : Database σ) (S : Session (Recorded σ)) : Prop where
  /-- A new record is inserted, with all stored columns but the id, in the order they are stored. -/
  inserts : S.attributes.isNew = true →
    R.Delivers S.attributes (insertCalls (insertedColumns S.attributes))
      (R.insertion (insertedColumns S.attributes)) db S.adapter
      (R.save db.recorded S).state.adapter (R.save db.recorded S).result
  /-- Any other is updated where its id is, in all stored columns. -/
  updates : S.attributes.isNew = false → R.key S.attributes ≠ .list [] →
    R.Delivers S.attributes (updateCalls S.attributes.row.columns (R.key S.attributes))
      (R.updating S.attributes.row.columns (R.key S.attributes)) db S.adapter
      (R.save db.recorded S).state.adapter (R.save db.recorded S).result
  /-- An id that is an empty list finds no row. -/
  refuses : S.attributes.isNew = false → R.key S.attributes = .list [] →
    (R.save db.recorded S).result = .error emptyId ∧
      (R.save db.recorded S).state.adapter.statements = S.adapter.statements
  /-- An inserted record has the generated id, whatever was read before. -/
  generated : S.attributes.isNew = true → (R.save db.recorded S).result = .ok () →
    ∀ k, db.lastInsertId (R.save db.recorded S).state.adapter.inner = some k →
      (R.save db.recorded S).state.attributes.row = S.attributes.row.put "id" (.int k) ∧
        (R.save db.recorded S).state.attributes.isNew = false ∧
        (Attributes.read R.casts "id" (R.save db.recorded S).state.attributes).result =
          .ok (some (.int k))
  ungenerated : S.attributes.isNew = true →
    db.lastInsertId (R.save db.recorded S).state.adapter.inner = none →
      (R.save db.recorded S).state.attributes.row = S.attributes.row
  kept : S.attributes.isNew = false →
    (R.save db.recorded S).state.attributes.row = S.attributes.row
  failed : ∀ e, (R.save db.recorded S).result = .error e →
    (R.save db.recorded S).state.attributes.row = S.attributes.row

/-- What deleting a record does, whatever the adapter answers. -/
structure Deletes (R : RecordType) (db : Database σ) (S : Session (Recorded σ)) : Prop where
  ignores : S.attributes.isNew = true →
    (R.delete db.recorded S).result = .ok () ∧
      (R.delete db.recorded S).state.adapter = S.adapter ∧
      (R.delete db.recorded S).state.attributes.row = S.attributes.row
  deletes : S.attributes.isNew = false → R.key S.attributes ≠ .list [] →
    R.Delivers S.attributes (deleteCalls (R.key S.attributes)) (R.deletion (R.key S.attributes)) db
      S.adapter (R.delete db.recorded S).state.adapter (R.delete db.recorded S).result
  refuses : S.attributes.isNew = false → R.key S.attributes = .list [] →
    (R.delete db.recorded S).result = .error emptyId ∧
      (R.delete db.recorded S).state.adapter.statements = S.adapter.statements
  /-- The id goes, and nothing else. -/
  drops : S.attributes.isNew = false → (R.delete db.recorded S).result = .ok () →
    (R.delete db.recorded S).state.attributes.row = (S.attributes.row.remove "id").2 ∧
      (R.delete db.recorded S).state.attributes.isNew = true
  failed : ∀ e, (R.delete db.recorded S).result = .error e →
    (R.delete db.recorded S).state.attributes.row = S.attributes.row

section Call

variable {db : Database σ} {S : Session (Recorded σ)}

/-- A query that cannot be prepared sends nothing. -/
lemma execute_refused (db : Database σ) {cs : List Call} {e : Error}
    (h : (R.building cs).prepare = .error e) (s : Recorded σ) :
    ((R.building cs).execute db.recorded s).result = .error e ∧
      ((R.building cs).execute db.recorded s).state.statements = s.statements :=
  ((tracing_recorded db).sent_run Terminal.execute s).1 e (sql_of_error h db.recorded s).1

lemma delivers {a : Attributes} {cs : List Call} {p : Preparation} {s : Recorded σ}
    {result : Except Error Unit} (prepared : (R.building cs).prepare = .ok p)
    (fails : ∀ e, ((R.building cs).execute db.recorded s).result = .error e → result = .error e)
    (within : R.InertNames a → ∀ c ∈ cs, c.Within steady) :
    R.Delivers a cs p db s ((R.building cs).execute db.recorded s).state result where
  prepared := prepared
  sent := sends_execute R cs db s fails
  written inert := written_of_steady (steady_building inert.1 (within inert)) prepared db s.inner

lemma steady_insertCalls {a : Attributes} (inert : R.InertNames a) :
    ∀ c ∈ insertCalls (insertedColumns a), c.Within steady := by
  have columns : ∀ name ∈ (insertedColumns a).names, Inert name.toList := by
    intro name mem
    obtain ⟨cell, hc, rfl⟩ := List.mem_map.mp mem
    exact inert.2 _ (List.mem_map_of_mem (List.mem_of_mem_filter hc))
  have pairs : (Call.insert [boundPairs (insertedColumns a)]).Within steady :=
    List.forall_mem_singleton.mpr (steady_boundPairs columns)
  exact List.forall_mem_singleton.mpr pairs

lemma steady_updateCalls {a : Attributes} (inert : R.InertNames a) (id : Value) :
    ∀ c ∈ updateCalls a.row.columns id, c.Within steady := by
  have pairs : (Call.setAll (boundPairs a.row.columns)).Within steady := steady_boundPairs inert.2
  exact List.forall_mem_cons.mpr ⟨pairs, List.forall_mem_singleton.mpr (steady_idFilter id)⟩

lemma steady_deleteCalls (id : Value) : ∀ c ∈ deleteCalls id, c.Within steady :=
  List.forall_mem_cons.mpr ⟨trivial, List.forall_mem_singleton.mpr (steady_idFilter id)⟩

lemma absurd_new {a : Attributes} (new : a.isNew = true) (stored : a.isNew = false) {P : Prop} :
    P := by
  rw [new] at stored
  cases stored

/-- A stored record has columns. -/
lemma columns_ne_nil {a : Attributes} (stored : a.isNew = false) : a.row.columns ≠ [] := by
  intro empty
  have absent : a.raw? "id" = none := by
    rw [Attributes.raw?, Row.get?, empty]
    rfl
  rw [Attributes.isNew, absent] at stored
  cases stored

section Sent

variable (sound : S.attributes.Sound R.casts)

include sound

lemma delivers_insert (new : S.attributes.isNew = true) :
    R.Delivers S.attributes (insertCalls (insertedColumns S.attributes))
      (R.insertion (insertedColumns S.attributes)) db S.adapter
      (R.save db.recorded S).state.adapter (R.save db.recorded S).result := by
  obtain ⟨fails, passes⟩ := save_new (R := R) db.recorded new
  have columns : (insertedColumns S.attributes).names.Nodup :=
    sound.columns.sublist (List.Sublist.map _ List.filter_sublist)
  have adapter : (R.save db.recorded S).state.adapter = ((R.building (insertCalls
      (insertedColumns S.attributes))).execute db.recorded S.adapter).state := by
    cases run : ((R.building (insertCalls (insertedColumns S.attributes))).execute db.recorded
        S.adapter).result with
    | error e => rw [(fails e run).2]
    | ok n => rw [(passes n run).2]
  rw [adapter]
  exact delivers (R.prepare_insert columns) (fun e he => (fails e he).1) steady_insertCalls

lemma delivers_update (stored : S.attributes.isNew = false) {p : Preparation}
    (prepared : (R.building (updateCalls S.attributes.row.columns
      (R.key S.attributes))).prepare = .ok p) :
    R.Delivers S.attributes (updateCalls S.attributes.row.columns (R.key S.attributes)) p db
      S.adapter (R.save db.recorded S).state.adapter (R.save db.recorded S).result := by
  obtain ⟨a, _, _, result, state⟩ := save_stored (R := R) db.recorded sound stored
  rw [result, state]
  apply delivers prepared
  · intro e he
    rw [he]
    rfl
  · exact fun inert => steady_updateCalls inert _

lemma refuses_update (stored : S.attributes.isNew = false) {e : Error}
    (refused : (R.building (updateCalls S.attributes.row.columns
      (R.key S.attributes))).prepare = .error e) :
    (R.save db.recorded S).result = .error e ∧
      (R.save db.recorded S).state.adapter.statements = S.adapter.statements := by
  obtain ⟨a, _, _, result, state⟩ := save_stored (R := R) db.recorded sound stored
  obtain ⟨stops, none⟩ := execute_refused db refused S.adapter
  rw [result, state, stops]
  exact ⟨rfl, none⟩

lemma delivers_delete (keyed : (R.key S.attributes).isNull = false) {p : Preparation}
    (prepared : (R.building (deleteCalls (R.key S.attributes))).prepare = .ok p) :
    R.Delivers S.attributes (deleteCalls (R.key S.attributes)) p db S.adapter
      (R.delete db.recorded S).state.adapter (R.delete db.recorded S).result := by
  obtain ⟨a, _, _, fails, passes⟩ := delete_keyed (R := R) db.recorded sound keyed
  have adapter : (R.delete db.recorded S).state.adapter =
      ((R.building (deleteCalls (R.key S.attributes))).execute db.recorded S.adapter).state := by
    cases run : ((R.building (deleteCalls (R.key S.attributes))).execute db.recorded
        S.adapter).result with
    | error e => rw [(fails e run).2]
    | ok n => rw [(passes n run).2]
  rw [adapter]
  exact delivers prepared (fun e he => (fails e he).1) fun _ => steady_deleteCalls _

lemma refuses_delete (keyed : (R.key S.attributes).isNull = false) {e : Error}
    (refused : (R.building (deleteCalls (R.key S.attributes))).prepare = .error e) :
    (R.delete db.recorded S).result = .error e ∧
      (R.delete db.recorded S).state.adapter.statements = S.adapter.statements := by
  obtain ⟨a, _, _, fails, _⟩ := delete_keyed (R := R) db.recorded sound keyed
  obtain ⟨stops, none⟩ := execute_refused db refused S.adapter
  obtain ⟨result, state⟩ := fails e stops
  rw [result, state]
  exact ⟨rfl, none⟩

end Sent

variable (int : R.IntegerId) (sound : S.attributes.Sound R.casts)

include int sound

lemma saves_new (new : S.attributes.isNew = true) : R.Saves db S := by
  obtain ⟨fails, passes⟩ := save_new (R := R) db.recorded new
  cases run : ((R.building (insertCalls (insertedColumns S.attributes))).execute db.recorded
      S.adapter).result with
  | error e =>
    obtain ⟨result, state⟩ := fails e run
    refine ⟨fun _ => delivers_insert sound new, fun stored => absurd_new new stored,
      fun stored => absurd_new new stored,
      fun _ ok => ?_, fun _ _ => by rw [state], fun _ => by rw [state], fun _ _ => by rw [state]⟩
    rw [result] at ok
    cases ok
  | ok n =>
    obtain ⟨result, state⟩ := passes n run
    refine ⟨fun _ => delivers_insert sound new, fun stored => absurd_new new stored,
      fun stored => absurd_new new stored,
      fun _ _ k hk => ?_, fun _ none => ?_, fun stored => absurd_new new stored, fun e failed => ?_⟩
    · rw [state] at hk ⊢
      rw [show db.recorded.lastInsertId _ = some k from hk]
      have stored : (S.attributes.setRaw "id" (.int k)).raw? "id" = some (.int k) := by
        rw [Attributes.raw?_setRaw, if_pos rfl]
      refine ⟨rfl, ?_, ?_⟩
      · rw [Attributes.isNew, stored]
        rfl
      · rw [(Attributes.read_result (sound.setRaw "id" (.int k)) "id").1, stored, Option.map_some,
          int.cast_int]
    · rw [state] at none ⊢
      rw [show db.recorded.lastInsertId _ = Option.none from none]
    · rw [result] at failed
      cases failed

lemma saves_stored (stored : S.attributes.isNew = false) : R.Saves db S := by
  obtain ⟨a, row, _, _, state⟩ := save_stored (R := R) db.recorded sound stored
  obtain ⟨prepared, refused⟩ := R.prepare_update sound.columns (columns_ne_nil stored)
    ((isNull_key int S.attributes).trans stored)
  exact ⟨fun new => absurd_new new stored,
    fun _ list => delivers_update sound stored (prepared list),
    fun _ list => refuses_update sound stored (refused list),
    fun new => absurd_new new stored, fun new => absurd_new new stored,
    fun _ => by rw [state, row], fun _ _ => by rw [state, row]⟩

/-- Saving a record whose memo is sound. -/
theorem saves : R.Saves db S := by
  cases new : S.attributes.isNew with
  | true => exact saves_new int sound new
  | false => exact saves_stored int sound new

lemma deletes_new (new : S.attributes.isNew = true) : R.Deletes db S := by
  obtain ⟨a, row, _, result, state⟩ := delete_unkeyed db.recorded sound
    ((isNull_key int S.attributes).trans new)
  exact ⟨fun _ => ⟨result, by rw [state], by rw [state, row]⟩, fun stored => absurd_new new stored,
    fun stored => absurd_new new stored, fun stored => absurd_new new stored,
    fun _ _ => by rw [state, row]⟩

lemma deletes_stored (stored : S.attributes.isNew = false) : R.Deletes db S := by
  have keyed := (isNull_key int S.attributes).trans stored
  obtain ⟨a, row, memo, fails, passes⟩ := delete_keyed db.recorded sound keyed
  obtain ⟨prepared, refused⟩ := R.prepare_delete keyed
  refine ⟨fun new => absurd_new new stored,
    fun _ list => delivers_delete sound keyed (prepared list),
    fun _ list => refuses_delete sound keyed (refused list), fun _ ok => ?_, fun e failed => ?_⟩
  · cases run : ((R.building (deleteCalls (R.key S.attributes))).execute db.recorded
        S.adapter).result with
    | error e =>
      rw [(fails e run).1] at ok
      cases ok
    | ok n =>
      rw [(passes n run).2]
      refine ⟨congrArg (fun row => (Row.remove row "id").2) row, ?_⟩
      rw [Attributes.isNew, Attributes.raw?_remove memo.columns, if_pos rfl]
  · cases run : ((R.building (deleteCalls (R.key S.attributes))).execute db.recorded
        S.adapter).result with
    | error e' => rw [(fails e' run).2, row]
    | ok n =>
      rw [(passes n run).1] at failed
      cases failed

/-- Deleting a record whose memo is sound. -/
theorem deletes : R.Deletes db S := by
  cases new : S.attributes.isNew with
  | true => exact deletes_new int sound new
  | false => exact deletes_stored int sound new

end Call

end RecordType

/-! ## Runs -/

/-- What is done with a record. -/
inductive RecordCall where
  | assign (column : String) (value : Value)
  | setRaw (column : String) (value : Value)
  | remove (column : String)
  | read (column : String)
  | save
  | delete

namespace RecordType

variable {σ : Type} {R : RecordType}

def perform (R : RecordType) (db : Database σ) : RecordCall → Action (Session σ) Unit
  | .assign column value => Session.modifyAttributes (·.assign R.casts column value)
  | .setRaw column value => Session.modifyAttributes (·.setRaw column value)
  | .remove column => Session.modifyAttributes fun a => (a.remove column).2
  | .read column => do let _ ← Session.onAttributes (Attributes.read R.casts column)
  | .save => R.save db
  | .delete => R.delete db

/-- The session after some calls. A call that fails does not end the session. -/
def after (R : RecordType) (db : Database σ) (S : Session σ) (calls : List RecordCall) :
    Session σ :=
  calls.foldl (fun S call => (R.perform db call S).state) S

variable (db : Database σ) (int : R.IntegerId)

lemma sound_save {S : Session σ} (sound : S.attributes.Sound R.casts) :
    (R.save db S).state.attributes.Sound R.casts := by
  cases new : S.attributes.isNew with
  | true =>
    obtain ⟨fails, passes⟩ := save_new (R := R) db new
    cases run : ((R.building (insertCalls (insertedColumns S.attributes))).execute db
        S.adapter).result with
    | error e =>
      rw [(fails e run).2]
      exact sound
    | ok n =>
      rw [(passes n run).2]
      split
      · exact sound.setRaw "id" _
      · exact sound
  | false =>
    obtain ⟨a, _, memo, _, state⟩ := save_stored (R := R) db sound new
    rw [state]
    exact memo

lemma sound_delete {S : Session σ} (sound : S.attributes.Sound R.casts) :
    (R.delete db S).state.attributes.Sound R.casts := by
  cases keyed : (R.key S.attributes).isNull with
  | true =>
    obtain ⟨a, _, memo, _, state⟩ := delete_unkeyed (R := R) db sound keyed
    rw [state]
    exact memo
  | false =>
    obtain ⟨a, _, memo, fails, passes⟩ := delete_keyed (R := R) db sound keyed
    cases run : ((R.building (deleteCalls (R.key S.attributes))).execute db S.adapter).result with
    | error e =>
      rw [(fails e run).2]
      exact memo
    | ok n =>
      rw [(passes n run).2]
      exact memo.remove "id"

lemma sound_perform {S : Session σ} (sound : S.attributes.Sound R.casts) (call : RecordCall) :
    (R.perform db call S).state.attributes.Sound R.casts := by
  cases call with
  | assign column value => exact sound.setRaw column _
  | setRaw column value => exact sound.setRaw column value
  | remove column => exact sound.remove column
  | read column =>
    have kept : (R.perform db (.read column) S).state =
        (Session.onAttributes (Attributes.read R.casts column) S).state :=
      Action.state_bind_quiet (fun _ => .pure ()) S
    rw [kept]
    exact (Attributes.read_result sound column).2.2
  | save => exact sound_save db sound
  | delete => exact sound_delete db sound

lemma sound_after {S : Session σ} (sound : S.attributes.Sound R.casts) (calls : List RecordCall) :
    (R.after db S calls).attributes.Sound R.casts := by
  induction calls generalizing S with
  | nil => exact sound
  | cons call rest ih => exact ih (sound_perform db sound call)

include int

/-- After any calls, failed ones included, saving and deleting do what they say: one statement at
most, of the kind that the stored id asks for, and a record that changes only if it succeeded. -/
theorem lifecycle (s : Recorded σ) (pairs : List (String × Value)) (calls : List RecordCall) :
    R.Saves db (R.after db.recorded ⟨s, .ofPairs pairs⟩ calls) ∧
      R.Deletes db (R.after db.recorded ⟨s, .ofPairs pairs⟩ calls) := by
  have sound : (R.after db.recorded ⟨s, .ofPairs pairs⟩ calls).attributes.Sound R.casts :=
    sound_after db.recorded (Attributes.sound_ofPairs R.casts pairs) calls
  exact ⟨saves int sound, deletes int sound⟩

omit int in
/-- A record whose id was read while it was new is saved, and saved again. -/
theorem lifecycle_saved :
    ({ table := "t" } : RecordType).IntegerId ∧
      RecordType.Saves { table := "t" } Script.adapter.database
        (RecordType.after { table := "t" } Script.adapter.database.recorded
          ⟨{ inner := { replies := [.affected 1 (some 7)] } }, .ofPairs [("name", .text "x")]⟩
          [.read "id", .save]) ∧
      (RecordType.after { table := "t" } Script.adapter.database.recorded
          ⟨{ inner := { replies := [.affected 1 (some 7)] } }, .ofPairs [("name", .text "x")]⟩
          [.read "id", .save, .save]).adapter.statements =
        [(.execute, "INSERT INTO `t` \n(`name`) VALUES ('x')"),
          (.execute, "UPDATE `t` \nSET `name` = 'x', `id` = 7 \nWHERE ( `id` = 7 )")] := by
  have int : ({ table := "t" } : RecordType).IntegerId := by
    rintro rule ⟨⟩
    decide +kernel
  exact ⟨int, (lifecycle _ int _ _ _).1, by decide +kernel⟩

omit int in
/-- Two percent signs in the name of a column are one in the statement. -/
theorem save_percent_column :
    (RecordType.save { table := "t" } Script.adapter.database.recorded
      ⟨{ inner := {} }, .ofPairs [("a%%b", .int 1)]⟩).state.adapter.statements =
        [(.execute, "INSERT INTO `t` \n(`a%b`) VALUES (1)")] :=
  rfl

end RecordType

end Clausal
