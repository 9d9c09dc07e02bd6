import Clausal.Proofs.Query.Target
import Clausal.Proofs.Record.Lifecycle

/-!
# When a column is cast

A call consults the cast of a column if its outcome would be another one with another cast of this
column. It has to read the column for that, and find nothing of it in the memo. What it casts is
then remembered until the column is written, so between two writes a column is cast once at most,
and what there is to report about it is reported once.
-/

namespace Clausal

/-- The tables store alike, and cast alike but for one column. -/
structure Casts.AgreeOff (column : String) (casts others : Casts) : Prop where
  decast : others.decast = casts.decast
  cast : ∀ other, other ≠ column → others.cast other = casts.cast other
  reports : ∀ other, other ≠ column → others.reports other = casts.reports other

lemma Attributes.read_recast {column : String} {casts others : Casts}
    (agree : casts.AgreeOff column others) {a : Attributes} {other : String}
    (h : other ≠ column ∨ a.raw? other = none ∨ a.memo.get? other ≠ none) :
    read others other a = read casts other a := by
  cases memo : a.memo.get? other with
  | some value => rw [read_of_remembered memo, read_of_remembered memo]
  | none =>
    cases hs : a.raw? other with
    | none => rw [read_of_absent memo hs, read_of_absent memo hs]
    | some stored =>
      have off : other ≠ column := by
        rcases h with off | absent | remembered
        · exact off
        · rw [hs] at absent
          cases absent
        · exact absurd memo remembered
      rw [read_of_stored memo hs, read_of_stored memo hs, agree.cast other off,
        agree.reports other off]

namespace Action

variable {σ α β : Type}

lemma bind_congr_at {x x' : Action σ α} {f f' : α → Action σ β} {s : σ} (same : x' s = x s)
    (next : ∀ a t, f' a t = f a t) : (x' >>= f') s = (x >>= f) s := by
  have rest : f' = f := funext fun a => funext (next a)
  rw [rest, run_bind, run_bind, Action.bind, Action.bind, same]

end Action

/-- The column that a call reads. -/
def RecordCall.column? (a : Attributes) : RecordCall → Option String
  | .read column => some column
  | .save => if a.isNew then none else some "id"
  | .delete => some "id"
  | _ => none

namespace RecordType

variable {σ : Type}

/-- What a call gives back: reading a column its value, any other call nothing. -/
def answer (R : RecordType) (db : Database σ) (call : RecordCall) :
    Action (Session σ) (Option Value) :=
  match call with
  | .read column => Session.onAttributes (Attributes.read R.casts column)
  | call => do
    R.perform db call
    return none

/-- The outcome of a call depends on what a column is cast to. -/
def Consults (R : RecordType) (db : Database σ) (S : Session σ) (call : RecordCall)
    (column : String) : Prop :=
  ∃ casts, R.casts.AgreeOff column casts ∧
    answer { R with casts := casts } db call S ≠ R.answer db call S

variable {R : RecordType} {db : Database σ} {S : Session σ}

lemma state_answer (R : RecordType) (db : Database σ) (call : RecordCall) (S : Session σ) :
    (R.answer db call S).state = (R.perform db call S).state := by
  cases call with
  | read column => exact (Action.state_bind_quiet (fun _ => .pure ()) S).symm
  | _ => exact Action.state_bind_quiet (fun _ => .pure none) S

/-! ## What is consulted -/

lemma execute_recast (R : RecordType) (casts : Casts) (cs : List Query.Call) (db : Database σ) :
    (building { R with casts := casts } cs).execute db = (R.building cs).execute db := by
  have same : building { R with casts := casts } cs =
      (R.building cs).against (.record R.table casts) :=
    Query.built_against (.record R.table casts) (.record R.table R.casts) cs
  rw [same]
  refine Query.execute_against ?_ db
  rw [building, Query.target_built]
  rfl

lemma insert_recast (R : RecordType) (casts : Casts) (db : Database σ) (row : Row) :
    insert { R with casts := casts } db row = R.insert db row := by
  have run := R.execute_recast casts (insertCalls row.columns) db
  exact congrArg (· >>= fun _ => (do return db.lastInsertId (← Action.state))) run

lemma save_recast {casts : Casts}
    (reads : S.attributes.isNew = false →
      Attributes.read casts "id" S.attributes = Attributes.read R.casts "id" S.attributes) :
    save { R with casts := casts } db S = R.save db S := by
  change (if S.attributes.isNew then _ else _ : Action (Session σ) Unit) S =
    (if S.attributes.isNew then _ else _ : Action (Session σ) Unit) S
  cases new : S.attributes.isNew with
  | true =>
    rw [if_pos rfl, if_pos rfl, insert_recast]
  | false =>
    rw [if_neg Bool.false_ne_true, if_neg Bool.false_ne_true]
    have found : Session.onAttributes (Attributes.read casts "id") S =
        Session.onAttributes (Attributes.read R.casts "id") S := by
      simp only [Session.onAttributes, Action.within, reads new]
    refine Action.bind_congr_at found fun id t => ?_
    have run := R.execute_recast casts
      (updateCalls S.attributes.row.columns (id.getD .null)) db
    exact congrArg (fun x => (Session.onAdapter x >>= fun _ => pure ()) t) run

lemma delete_recast {casts : Casts}
    (reads : Attributes.read casts "id" S.attributes = Attributes.read R.casts "id" S.attributes) :
    delete { R with casts := casts } db S = R.delete db S := by
  have found : Session.onAttributes (Attributes.readId casts) S =
      Session.onAttributes (Attributes.readId R.casts) S := by
    have id : Attributes.readId casts S.attributes = Attributes.readId R.casts S.attributes :=
      Action.bind_congr_at reads fun _ _ => rfl
    simp only [Session.onAttributes, Action.within, id]
  rw [delete_eq, delete_eq]
  refine Action.bind_congr_at found fun id t => ?_
  cases id with
  | none => rfl
  | some id =>
    have run := R.execute_recast casts (deleteCalls id) db
    exact congrArg (fun x => (Session.onAdapter x >>= fun _ =>
      Session.modifyAttributes fun a => (a.remove "id").2) t) run

/-- Casts have no part in a call but for the column that it reads. -/
lemma answer_recast {casts : Casts} (decast : casts.decast = R.casts.decast) {call : RecordCall}
    (reads : ∀ column ∈ call.column? S.attributes,
      Attributes.read casts column S.attributes = Attributes.read R.casts column S.attributes) :
    answer { R with casts := casts } db call S = R.answer db call S := by
  cases call with
  | assign column value =>
    exact congrArg (fun decast => (Session.modifyAttributes (·.setRaw column
      (decast column value)) >>= fun _ => pure none : Action (Session σ) (Option Value)) S) decast
  | setRaw column value => rfl
  | remove column => rfl
  | read column =>
    simp only [answer, Session.onAttributes, Action.within, reads column rfl]
  | save =>
    have saved : save { R with casts := casts } db S = R.save db S := by
      refine save_recast fun stored => reads "id" ?_
      rw [RecordCall.column?, stored]
      rfl
    exact Action.bind_congr_at saved fun _ _ => rfl
  | delete => exact Action.bind_congr_at (delete_recast (reads "id" rfl)) fun _ _ => rfl

/-- A call that casts a column reads it, and finds a stored value that is not remembered. -/
lemma unremembered_of_consults {call : RecordCall} {column : String}
    (h : R.Consults db S call column) :
    call.column? S.attributes = some column ∧ S.attributes.memo.get? column = none ∧
      S.attributes.raw? column ≠ none := by
  obtain ⟨casts, agree, differs⟩ := h
  by_contra other
  refine differs (answer_recast agree.decast fun looked read => Attributes.read_recast agree ?_)
  by_cases hc : looked = column
  · subst hc
    have found : S.attributes.raw? looked = none ∨ ¬ S.attributes.memo.get? looked = none := by
      by_contra neither
      rw [not_or, not_not] at neither
      exact other ⟨read, neither.2, neither.1⟩
    exact Or.inr found
  · exact Or.inl hc

end RecordType

/-- The casts with another cast of one column. -/
def Casts.recast (casts : Casts) (column : String) (cast : Value → Value) : Casts :=
  ⟨(column, .custom (some cast) (some (casts.decast column))) :: casts.rules⟩

lemma Casts.rule?_recast (casts : Casts) (column other : String) (cast : Value → Value) :
    (casts.recast column cast).rule? other =
      if column = other then some (.custom (some cast) (some (casts.decast column)))
      else casts.rule? other := by
  rw [rule?, recast]
  by_cases hc : column = other
  · rw [if_pos hc, List.find?_cons_of_pos (by simpa using hc)]
    rfl
  · rw [if_neg hc, List.find?_cons_of_neg (by simpa using hc)]
    rfl

lemma Casts.agreeOff_recast (casts : Casts) (column : String) (cast : Value → Value) :
    casts.AgreeOff column (casts.recast column cast) where
  decast := by
    funext other v
    rw [Casts.decast, rule?_recast]
    by_cases hc : column = other
    · rw [if_pos hc, ← hc]
      rfl
    · rw [if_neg hc]
      rfl
  cast other off := by
    funext v
    rw [Casts.cast, rule?_recast, if_neg off.symm]
    rfl
  reports other off := by
    funext v
    rw [Casts.reports, rule?_recast, if_neg off.symm]
    rfl

namespace RecordType

variable {σ : Type} {R : RecordType} {db : Database σ} {S : Session σ}

/-- Reading a column casts it just if it is stored and not remembered. -/
theorem consults_read_iff (column : String) :
    R.Consults db S (.read column) column ↔
      S.attributes.memo.get? column = none ∧ S.attributes.raw? column ≠ none := by
  constructor
  · exact fun h => (unremembered_of_consults h).2
  rintro ⟨memo, present⟩
  obtain ⟨stored, hs⟩ := Option.ne_none_iff_exists'.mp present
  obtain ⟨other, differs⟩ : ∃ other, other ≠ R.casts.cast column stored := by
    cases R.casts.cast column stored with
    | null => exact ⟨.bool true, nofun⟩
    | _ => exact ⟨.null, nofun⟩
  refine ⟨R.casts.recast column fun _ => other, R.casts.agreeOff_recast column _, fun same => ?_⟩
  have results := congrArg Outcome.result same
  change (Attributes.read (R.casts.recast column fun _ => other) column S.attributes).result =
    (Attributes.read R.casts column S.attributes).result at results
  rw [Attributes.read_of_stored memo hs, Attributes.read_of_stored memo hs, Casts.cast,
    Casts.rule?_recast, if_pos rfl] at results
  exact differs (Option.some.inj (Except.ok.inj results))

/-! ## What a call leaves -/

/-- The call assigns or drops the column, on its own account or as the id that saving takes and
deleting drops. -/
def Writes (R : RecordType) (db : Database σ) (S : Session σ) (column : String) :
    RecordCall → Prop
  | .assign name _ | .setRaw name _ | .remove name => name = column
  | .read _ => False
  | .save => column = "id" ∧ S.attributes.isNew = true ∧ (R.save db S).result = .ok () ∧
      db.lastInsertId (R.save db S).state.adapter ≠ none
  | .delete => column = "id" ∧ (R.key S.attributes).isNull = false ∧
      (R.delete db S).result = .ok ()

/-- What a call leaves of a record. -/
inductive Leaves (R : RecordType) (db : Database σ) (S : Session σ) (call : RecordCall) :
    Attributes → Prop where
  | same (looks : call.column? S.attributes = none) : Leaves R db S call S.attributes
  | read {column : String} (looks : call.column? S.attributes = some column) :
      Leaves R db S call (Attributes.read R.casts column S.attributes).state
  | assigned {column : String} (looks : call.column? S.attributes = none)
      (writes : R.Writes db S column call) (value : Value) :
      Leaves R db S call (S.attributes.setRaw column value)
  | removed {column : String} (looks : call.column? S.attributes = none)
      (writes : R.Writes db S column call) : Leaves R db S call (S.attributes.remove column).2
  | dropped {column : String} (looks : call.column? S.attributes = some column)
      (writes : R.Writes db S column call) :
      Leaves R db S call ((Attributes.read R.casts column S.attributes).state.remove column).2

lemma leaves_save (sound : S.attributes.Sound R.casts) :
    R.Leaves db S .save (R.save db S).state.attributes := by
  cases new : S.attributes.isNew with
  | true =>
    have looks : RecordCall.save.column? S.attributes = none := by
      rw [RecordCall.column?, new]
      rfl
    obtain ⟨fails, passes⟩ := save_new (R := R) db new
    cases run : ((R.building (insertCalls (insertedColumns S.attributes))).execute db
        S.adapter).result with
    | error e =>
      rw [(fails e run).2]
      exact .same looks
    | ok n =>
      obtain ⟨result, state⟩ := passes n run
      rw [state]
      split
      · next id generated =>
        refine .assigned looks ⟨rfl, new, result, ?_⟩ _
        rw [state, generated]
        exact Option.some_ne_none id
      · exact .same looks
  | false =>
    have looks : RecordCall.save.column? S.attributes = some "id" := by
      rw [RecordCall.column?, new]
      rfl
    rw [(save_identified db sound new).2]
    exact .read looks

lemma leaves_delete (sound : S.attributes.Sound R.casts) :
    R.Leaves db S .delete (R.delete db S).state.attributes := by
  cases keyed : (R.key S.attributes).isNull with
  | true =>
    rw [(delete_identified_unkeyed db sound keyed).2]
    exact .read rfl
  | false =>
    obtain ⟨fails, passes⟩ := delete_identified_keyed db sound keyed
    cases run : ((R.building (deleteCalls (R.key S.attributes))).execute db S.adapter).result with
    | error e =>
      rw [(fails e run).2]
      exact .read rfl
    | ok n =>
      obtain ⟨result, state⟩ := passes n run
      rw [state]
      exact .dropped rfl ⟨rfl, keyed, result⟩

lemma leaves (sound : S.attributes.Sound R.casts) (call : RecordCall) :
    R.Leaves db S call (R.perform db call S).state.attributes := by
  cases call with
  | assign column value =>
    have writes : R.Writes db S column (.assign column value) := rfl
    exact .assigned rfl writes _
  | setRaw column value =>
    have writes : R.Writes db S column (.setRaw column value) := rfl
    exact .assigned rfl writes value
  | remove column =>
    have writes : R.Writes db S column (.remove column) := rfl
    exact .removed rfl writes
  | read column =>
    rw [← state_answer]
    exact .read rfl
  | save => exact leaves_save sound
  | delete => exact leaves_delete sound

section Leaves

variable {call : RecordCall} {a : Attributes} {column : String}

/-- A call leaves what is stored in a column that it does not write. -/
lemma Leaves.raw? (left : R.Leaves db S call a) (sound : S.attributes.Sound R.casts)
    (spared : ¬ R.Writes db S column call) : a.raw? column = S.attributes.raw? column := by
  have off {other : String} (writes : R.Writes db S other call) : other ≠ column := by
    rintro rfl
    exact spared writes
  have row (looked : String) : (Attributes.read R.casts looked S.attributes).state.row =
      S.attributes.row := (Attributes.read_result sound looked).2.1
  cases left with
  | same => rfl
  | read => rw [Attributes.raw?, row, Attributes.raw?]
  | assigned _ writes value => rw [Attributes.raw?_setRaw, if_neg (off writes)]
  | removed _ writes => rw [Attributes.raw?_remove sound.columns, if_neg (off writes)]
  | dropped _ writes =>
    rw [Attributes.raw?_remove (by rw [row]; exact sound.columns), if_neg (off writes),
      Attributes.raw?, row, Attributes.raw?]

/-- What is remembered stays so until the column is written. -/
lemma Leaves.remembered (left : R.Leaves db S call a) (sound : S.attributes.Sound R.casts)
    (spared : ¬ R.Writes db S column call) (memo : S.attributes.memo.get? column ≠ none) :
    a.memo.get? column ≠ none := by
  have off {other : String} (writes : R.Writes db S other call) : other ≠ column := by
    rintro rfl
    exact spared writes
  have read (looked : String) :
      (Attributes.read R.casts looked S.attributes).state.memo.get? column ≠ none := by
    obtain ⟨value, found⟩ := Option.ne_none_iff_exists'.mp memo
    rw [Attributes.get?_memo_read, found]
    exact Option.some_ne_none value
  cases left with
  | same => exact memo
  | read => exact read _
  | assigned _ writes value | removed _ writes =>
    change Columns.get? (Columns.erase _ _) column ≠ none
    rw [Columns.get?_erase sound.entries, if_neg (off writes)]
    exact memo
  | @dropped looked _ writes =>
    change Columns.get? (Columns.erase _ _) column ≠ none
    rw [Columns.get?_erase (Attributes.read_result sound looked).2.2.entries, if_neg (off writes)]
    exact read looked

/-- A column that a call reads is remembered, unless the call writes it. -/
lemma Leaves.remembers (left : R.Leaves db S call a)
    (looks : call.column? S.attributes = some column) (spared : ¬ R.Writes db S column call)
    (present : S.attributes.raw? column ≠ none) :
    a.memo.get? column ≠ none := by
  cases left with
  | @read looked read =>
    obtain rfl := Option.some.inj (looks.symm.trans read)
    obtain ⟨stored, hs⟩ := Option.ne_none_iff_exists'.mp present
    rw [Attributes.get?_memo_read, if_pos rfl, hs]
    cases S.attributes.memo.get? column with
    | none => exact Option.some_ne_none _
    | some value => exact Option.some_ne_none _
  | @dropped looked read writes =>
    obtain rfl := Option.some.inj (looks.symm.trans read)
    exact absurd writes spared
  | same none | assigned none | removed none => cases looks.symm.trans none

end Leaves

/-! ## Between two writes -/

/-- The record after some calls. The adapter may be in any state at each of them, whatever other
records did to it. -/
def along (R : RecordType) (db : Database σ) (a : Attributes) (calls : List (σ × RecordCall)) :
    Attributes :=
  calls.foldl (fun a (s, call) => (R.perform db call ⟨s, a⟩).state.attributes) a

/-- No call writes the column. -/
def Spares (R : RecordType) (db : Database σ) (column : String) :
    Attributes → List (σ × RecordCall) → Prop
  | _, [] => True
  | a, (s, call) :: rest =>
    ¬ R.Writes db ⟨s, a⟩ column call ∧
      R.Spares db column (R.perform db call ⟨s, a⟩).state.attributes rest

section Along

variable {a : Attributes} {column : String}

lemma remembered_along (sound : a.Sound R.casts) (memo : a.memo.get? column ≠ none)
    {calls : List (σ × RecordCall)} (spared : R.Spares db column a calls) :
    (R.along db a calls).memo.get? column ≠ none := by
  induction calls generalizing a with
  | nil => exact memo
  | cons call rest ih =>
    obtain ⟨s, call⟩ := call
    obtain ⟨first, later⟩ := spared
    have left : R.Leaves db ⟨s, a⟩ call _ := leaves sound call
    exact ih (sound_perform (S := ⟨s, a⟩) db sound call) (left.remembered sound first memo) later

/-- What a call has cast is remembered until it is written. -/
lemma remembered_of_consults (sound : a.Sound R.casts) {s : σ} {first : RecordCall}
    {between : List (σ × RecordCall)} (consults : R.Consults db ⟨s, a⟩ first column)
    (spared : R.Spares db column a ((s, first) :: between)) :
    (R.along db a ((s, first) :: between)).memo.get? column ≠ none := by
  obtain ⟨looks, _, present⟩ := unremembered_of_consults consults
  obtain ⟨kept, later⟩ := spared
  have left : R.Leaves db ⟨s, a⟩ first _ := leaves sound first
  exact remembered_along (sound_perform (S := ⟨s, a⟩) db sound first)
    (left.remembers looks kept present) later

/-- Once a call has cast a column, no call casts it again before it is written. -/
theorem consults_once (sound : a.Sound R.casts) {s t : σ} {first last : RecordCall}
    {between : List (σ × RecordCall)} (consults : R.Consults db ⟨s, a⟩ first column)
    (spared : R.Spares db column a ((s, first) :: between)) :
    ¬ R.Consults db ⟨t, R.along db a ((s, first) :: between)⟩ last column := fun again =>
  remembered_of_consults sound consults spared (unremembered_of_consults again).2.1

end Along

end RecordType

end Clausal
