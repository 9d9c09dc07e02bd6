import Clausal.Proofs.Record.Lifecycle

/-!
# The identity of a record

The row of a stored record is found by its key, which is the cast of the stored id. If the cast
keeps the id, then the `UPDATE` and the `DELETE` are for the row with the stored id. If it does not,
they are for whatever row has the cast value; a key that is NULL makes the `UPDATE` look for rows
without an id, and nothing is deleted.
-/

namespace Clausal

open Query Sql

/-! ## Rules that keep an id -/

/-- The rule gives a stored integer back: it is no kind of cast, or that of integers, or it reads
moments and this is none, or it is a transform that gives it back. -/
def CastRule.Keeps (i : Int64) : CastRule → Prop
  | .named name =>
    match CastKind.ofName? name with
    | none | some .int => True
    | some .datetime => CastKind.moment? (.int i) = none
    | some .float | some .boolean => False
  | .custom cast _ => ∀ f ∈ cast, f (.int i) = .int i

lemma CastRule.keeps_iff (rule : CastRule) (i : Int64) :
    rule.Keeps i ↔ rule.cast (.int i) = .int i := by
  cases rule with
  | named name =>
    rw [Keeps, cast]
    cases CastKind.ofName? name with
    | none => simp
    | some kind =>
      cases kind with
      | int => simp [CastKind.cast, Value.isNull, Value.toInt]
      | float => simp [CastKind.cast, Value.isNull]
      | boolean => simp [CastKind.cast, Value.isNull]
      | datetime =>
        simp only [CastKind.cast, Value.isNull]
        cases CastKind.moment? (.int i) with
        | none => simp
        | some moment => simp
  | custom cast decast =>
    rw [Keeps, CastRule.cast]
    cases cast with
    | none => simp
    | some f => simp

/-- The rule for ids, if there is one, gives this id back. -/
def Casts.KeepsId (casts : Casts) (i : Int64) : Prop :=
  ∀ rule ∈ casts.rule? "id", rule.Keeps i

lemma Casts.keepsId_iff (casts : Casts) (i : Int64) :
    casts.KeepsId i ↔ casts.cast "id" (.int i) = .int i := by
  rw [KeepsId, cast]
  cases casts.rule? "id" with
  | none => simp
  | some rule => simpa using rule.keeps_iff i

namespace RecordType

variable {σ : Type} {R : RecordType}

/-! ## The key of a stored record -/

/-- The rows without an id. -/
def idMissing : Condition := .compare (.name "id") "IS" .null

lemma conditions_idFilter_null : (idFilter .null).conditions = .ok [idMissing] := rfl

/-- What saving and deleting do to a stored record whose key is `k`. -/
structure FoundBy (R : RecordType) (db : Database σ) (S : Session (Recorded σ)) (k : Value) :
    Prop where
  updates : k.isNull = false → k ≠ .list [] →
    R.Delivers S.attributes (updateCalls S.attributes.row.columns k)
      (R.updating S.attributes.row.columns k) db S.adapter
      (R.save db.recorded S).state.adapter (R.save db.recorded S).result
  /-- Without a key, all rows without an id are updated. -/
  updatesMissing : k.isNull = true →
    R.Delivers S.attributes (updateCalls S.attributes.row.columns k)
      (R.updatingWhere S.attributes.row.columns idMissing) db S.adapter
      (R.save db.recorded S).state.adapter (R.save db.recorded S).result
  deletes : k.isNull = false → k ≠ .list [] →
    R.Delivers S.attributes (deleteCalls k) (R.deletion k) db S.adapter
      (R.delete db.recorded S).state.adapter (R.delete db.recorded S).result
  /-- Without a key, nothing is deleted. -/
  ignores : k.isNull = true →
    (R.delete db.recorded S).result = .ok () ∧ (R.delete db.recorded S).state.adapter = S.adapter ∧
      (R.delete db.recorded S).state.attributes.row = S.attributes.row
  refuses : k = .list [] →
    ((R.save db.recorded S).result = .error emptyId ∧
      (R.save db.recorded S).state.adapter.statements = S.adapter.statements) ∧
    ((R.delete db.recorded S).result = .error emptyId ∧
      (R.delete db.recorded S).state.adapter.statements = S.adapter.statements)

/-- Saving and deleting are for the row that has the stored id. -/
structure Identified (R : RecordType) (db : Database σ) (S : Session (Recorded σ)) (i : Int64) :
    Prop where
  stored : S.attributes.isNew = false
  /-- The value that the `UPDATE` assigns to the id. -/
  assigned : ("id", .int i) ∈ S.attributes.row.columns
  updates : R.Delivers S.attributes (updateCalls S.attributes.row.columns (.int i))
    (R.updating S.attributes.row.columns (.int i)) db S.adapter
    (R.save db.recorded S).state.adapter (R.save db.recorded S).result
  deletes : R.Delivers S.attributes (deleteCalls (.int i)) (R.deletion (.int i)) db S.adapter
    (R.delete db.recorded S).state.adapter (R.delete db.recorded S).result

lemma found_by_key {db : Database σ} {S : Session (Recorded σ)}
    (sound : S.attributes.Sound R.casts) (stored : S.attributes.isNew = false) :
    R.FoundBy db S (R.key S.attributes) := by
  have columns := columns_ne_nil stored
  refine ⟨fun keyed list => ?_, fun null => ?_, fun keyed list => ?_, fun null => ?_,
    fun list => ?_⟩
  · exact delivers_update sound stored ((R.prepare_update sound.columns columns keyed).1 list)
  · have missing : R.key S.attributes = .null := by
      cases hk : R.key S.attributes with
      | null => rfl
      | _ =>
        rw [hk] at null
        cases null
    have prepared := R.prepare_updateWhere sound.columns columns conditions_idFilter_null
    rw [← missing] at prepared
    exact delivers_update sound stored prepared
  · exact delivers_delete sound keyed ((R.prepare_delete keyed).1 list)
  · obtain ⟨a, row, _, result, state⟩ := delete_unkeyed (R := R) db.recorded sound null
    rw [result, state, row]
    exact ⟨rfl, rfl, rfl⟩
  · have keyed : (R.key S.attributes).isNull = false := by
      rw [list]
      rfl
    exact ⟨refuses_update sound stored ((R.prepare_update sound.columns columns keyed).2 list),
      refuses_delete sound keyed ((R.prepare_delete keyed).2 list)⟩

/-- After any calls, a record that is stored with an integer as its id is found by the cast of this
id; if the rule for ids keeps it, by the id itself, which is what the `UPDATE` assigns. A record
that is not stored is inserted, and deleting it does nothing if NULL is cast to NULL. -/
theorem found_by_stored_id (db : Database σ) (s : Recorded σ) (pairs : List (String × Value))
    (calls : List RecordCall) :
    let S := R.after db.recorded ⟨s, .ofPairs pairs⟩ calls
    (∀ i, S.attributes.raw? "id" = some (.int i) →
        R.FoundBy db S (R.casts.cast "id" (.int i)) ∧
          (R.casts.KeepsId i → R.Identified db S i)) ∧
      (S.attributes.isNew = true → (R.casts.cast "id" .null).isNull = true →
        R.Delivers S.attributes (insertCalls (insertedColumns S.attributes))
            (R.insertion (insertedColumns S.attributes)) db S.adapter
            (R.save db.recorded S).state.adapter (R.save db.recorded S).result ∧
          (R.delete db.recorded S).result = .ok () ∧
          (R.delete db.recorded S).state.adapter = S.adapter) := by
  intro S
  have sound : S.attributes.Sound R.casts :=
    sound_after db.recorded (Attributes.sound_ofPairs R.casts pairs) calls
  constructor
  · intro i stored
    have key : R.key S.attributes = R.casts.cast "id" (.int i) := by
      rw [RecordType.key, stored]
      rfl
    have old : S.attributes.isNew = false := by
      rw [Attributes.isNew, stored]
      rfl
    have found : R.FoundBy db S (R.key S.attributes) := found_by_key sound old
    rw [key] at found
    refine ⟨found, fun keeps => ?_⟩
    rw [(R.casts.keepsId_iff i).mp keeps] at found
    have single : Value.int i ≠ .list [] := by simp
    exact ⟨old, Columns.mem_of_get? stored, found.updates rfl single, found.deletes rfl single⟩
  · intro new null
    have unkeyed : (R.key S.attributes).isNull = true := by
      rw [RecordType.key]
      cases stored : S.attributes.raw? "id" with
      | none => rfl
      | some value =>
        rw [Attributes.isNew, stored] at new
        cases value with
        | null => exact null
        | _ => cases new
    obtain ⟨a, _, _, result, state⟩ := delete_unkeyed (R := R) db.recorded sound unkeyed
    exact ⟨delivers_insert sound new, result, by rw [state]⟩

/-- The first rule for the id counts. It keeps 7, so the row with this id is updated and deleted. -/
theorem found_by_stored_id_seven :
    let R : RecordType :=
      { table := "t", casts := ⟨[("id", .named " Integer"), ("id", .named "bool")]⟩ }
    let S := R.after Script.adapter.database.recorded ⟨{ inner := {} }, .ofPairs [("id", .int 7)]⟩
      [.read "id", .assign "name" (.text "x")]
    S.attributes.raw? "id" = some (.int 7) ∧ R.casts.KeepsId 7 ∧
      R.Identified Script.adapter.database S 7 ∧
      (R.after Script.adapter.database.recorded S [.save, .delete]).adapter.statements =
        [(.execute, "UPDATE `t` \nSET `id` = 7, `name` = 'x' \nWHERE ( `id` = 7 )"),
          (.execute, "DELETE FROM `t` \nWHERE ( `id` = 7 )")] := by
  intro R S
  have kind : CastKind.ofName? " Integer" = some .int := by decide +kernel
  have keeps : R.casts.KeepsId 7 := by
    rintro rule ⟨⟩
    simp [CastRule.Keeps, kind]
  have found := found_by_stored_id (R := R) Script.adapter.database { inner := {} }
    [("id", .int 7)] [.read "id", .assign "name" (.text "x")]
  exact ⟨rfl, keeps, (found.1 7 rfl).2 keeps, by decide +kernel⟩

/-- A cast that does not keep the id changes and deletes another row, or updates all rows without an
id and deletes none. -/
theorem save_lost_id :
    let stored : Session (Recorded Script) := ⟨{ inner := {} }, .ofPairs [("id", .int 7)]⟩
    let db := Script.adapter.database.recorded
    let truth : RecordType := { table := "t", casts := ⟨[("id", .named "bool")]⟩ }
    let erased : RecordType :=
      { table := "t", casts := ⟨[("id", .custom (some fun _ => .null) none)]⟩ }
    stored.attributes.isNew = false ∧
      (truth.save db stored).state.adapter.statements =
        [(.execute, "UPDATE `t` \nSET `id` = 7 \nWHERE ( `id` = 1 )")] ∧
      (truth.delete db stored).state.adapter.statements =
        [(.execute, "DELETE FROM `t` \nWHERE ( `id` = 1 )")] ∧
      (erased.save db stored).state.adapter.statements =
        [(.execute, "UPDATE `t` \nSET `id` = 7 \nWHERE ( `id` IS NULL )")] ∧
      (erased.delete db stored).state.adapter.statements = [] := by
  decide +kernel

end RecordType

end Clausal
