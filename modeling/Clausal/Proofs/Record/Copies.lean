import Clausal.Proofs.Record.Consulting

/-!
# Records without a memo

The memo of a record cannot be told from none. Beside records that keep theirs, the same calls are
made on records that lose it after every call; records can be copied at any point, memo and all.
Both ways give the same answers, send the adapter through the same states and store the same rows.
-/

namespace Clausal

/-- The record as if nothing had been read of it. -/
def Attributes.unread (a : Attributes) : Attributes := .ofRow a.row

namespace RecordType

variable {σ : Type} {R : RecordType} {db : Database σ}

/-! ## One record -/

section Record

variable {a : Attributes} {s : σ}

lemma sound_unread (sound : a.Sound R.casts) : a.unread.Sound R.casts where
  columns := sound.columns
  entries := List.nodup_nil
  memo _ _ h := by cases h

/-- Two outcomes differ in the memo at most. -/
structure Alike {α : Type} (left right : Outcome (Session σ) α) : Prop where
  result : right.result = left.result
  adapter : right.state.adapter = left.state.adapter
  row : right.state.attributes.row = left.state.attributes.row

lemma alike_save (sound : a.Sound R.casts) :
    Alike (R.save db ⟨s, a⟩) (R.save db ⟨s, a.unread⟩) := by
  have unread := sound_unread sound
  cases new : a.isNew with
  | true =>
    obtain ⟨fails, passes⟩ := save_new (R := R) (S := ⟨s, a⟩) db new
    obtain ⟨fails', passes'⟩ := save_new (R := R) (S := ⟨s, a.unread⟩) db new
    cases run : ((R.building (insertCalls (insertedColumns a))).execute db s).result with
    | error e =>
      obtain ⟨result, state⟩ := fails e run
      obtain ⟨result', state'⟩ := fails' e run
      refine ⟨result'.trans result.symm, ?_, ?_⟩ <;> rw [state, state'] <;> rfl
    | ok n =>
      obtain ⟨result, state⟩ := passes n run
      obtain ⟨result', state'⟩ := passes' n run
      refine ⟨result'.trans result.symm, ?_, ?_⟩
      · rw [state, state']
        rfl
      · have columns : insertedColumns a.unread = insertedColumns a := rfl
        rw [state, state']
        simp only [columns]
        cases db.lastInsertId
            ((R.building (insertCalls (insertedColumns a))).execute db s).state with
        | none => rfl
        | some id => rfl
  | false =>
    obtain ⟨result, state⟩ := save_identified (R := R) (S := ⟨s, a⟩) db sound new
    obtain ⟨result', state'⟩ := save_identified (R := R) (S := ⟨s, a.unread⟩) db unread new
    refine ⟨result'.trans result.symm, ?_, ?_⟩
    · rw [state, state']
      rfl
    · rw [state, state']
      exact (Attributes.read_result unread "id").2.1.trans
        (Attributes.read_result sound "id").2.1.symm

lemma alike_delete (sound : a.Sound R.casts) :
    Alike (R.delete db ⟨s, a⟩) (R.delete db ⟨s, a.unread⟩) := by
  have unread := sound_unread sound
  have row : (R.identified a.unread).row = (R.identified a).row :=
    (Attributes.read_result unread "id").2.1.trans (Attributes.read_result sound "id").2.1.symm
  cases keyed : (R.key a).isNull with
  | true =>
    obtain ⟨result, state⟩ := delete_identified_unkeyed (R := R) (S := ⟨s, a⟩) db sound keyed
    obtain ⟨result', state'⟩ :=
      delete_identified_unkeyed (R := R) (S := ⟨s, a.unread⟩) db unread keyed
    refine ⟨result'.trans result.symm, ?_, ?_⟩
    · rw [state, state']
    · rw [state, state']
      exact row
  | false =>
    obtain ⟨fails, passes⟩ := delete_identified_keyed (R := R) (S := ⟨s, a⟩) db sound keyed
    obtain ⟨fails', passes'⟩ :=
      delete_identified_keyed (R := R) (S := ⟨s, a.unread⟩) db unread keyed
    cases run : ((R.building (deleteCalls (R.key a))).execute db s).result with
    | error e =>
      obtain ⟨result, state⟩ := fails e run
      obtain ⟨result', state'⟩ := fails' e run
      refine ⟨result'.trans result.symm, ?_, ?_⟩
      · rw [state, state']
        rfl
      · rw [state, state']
        exact row
    | ok n =>
      obtain ⟨result, state⟩ := passes n run
      obtain ⟨result', state'⟩ := passes' n run
      refine ⟨result'.trans result.symm, ?_, ?_⟩
      · rw [state, state']
        rfl
      · rw [state, state']
        exact congrArg (fun row => (Row.remove row "id").2) row

lemma Alike.ignored {x : Action (Session σ) Unit} {S T : Session σ} (h : Alike (x S) (x T)) :
    Alike ((do x; return none : Action (Session σ) (Option Value)) S)
      ((do x; return none : Action (Session σ) (Option Value)) T) := by
  have quiet (S : Session σ) : ((do x; return none : Action (Session σ) (Option Value)) S).state =
      (x S).state := Action.state_bind_quiet (fun _ => .pure none) S
  refine ⟨?_, ?_, ?_⟩
  · rw [Action.result_bind, Action.result_bind, h.result]
    rfl
  · rw [quiet, quiet, h.adapter]
  · rw [quiet, quiet, h.row]

/-- What a call does is the same whether or not anything was read before. -/
lemma alike_answer (sound : a.Sound R.casts) (call : RecordCall) :
    Alike (R.answer db call ⟨s, a⟩) (R.answer db call ⟨s, a.unread⟩) := by
  cases call with
  | assign column value => exact ⟨rfl, rfl, rfl⟩
  | setRaw column value => exact ⟨rfl, rfl, rfl⟩
  | remove column => exact ⟨rfl, rfl, rfl⟩
  | read column =>
    obtain ⟨result, row, _⟩ := Attributes.read_result sound column
    obtain ⟨result', row', _⟩ := Attributes.read_result (sound_unread sound) column
    exact ⟨result'.trans result.symm, rfl, row'.trans row.symm⟩
  | save => exact (alike_save sound).ignored
  | delete => exact (alike_delete sound).ignored

end Record

/-! ## Records side by side -/

/-- Records that are worked on side by side, with one adapter. -/
structure Desk (σ : Type) where
  adapter : σ
  records : List Attributes

/-- A call on one of the records, or a copy of it, which is put behind the others. -/
inductive DeskStep where
  | call (i : Nat) (call : RecordCall)
  | copy (i : Nat)

/-- What a step answers, and what it leaves. The record that was called is put back as `keep`
leaves it. -/
def step (R : RecordType) (db : Database σ) (keep : Attributes → Attributes) (desk : Desk σ) :
    DeskStep → Option (Except Error (Option Value)) × Desk σ
  | .call i call =>
    match desk.records[i]? with
    | none => (none, desk)
    | some a =>
      let out := R.answer db call ⟨desk.adapter, a⟩
      (some out.result,
        { adapter := out.state.adapter, records := desk.records.set i (keep out.state.attributes) })
  | .copy i => (none, { desk with records := desk.records ++ desk.records[i]?.toList })

def run (R : RecordType) (db : Database σ) (keep : Attributes → Attributes) (desk : Desk σ) :
    List DeskStep → List (Option (Except Error (Option Value))) × Desk σ
  | [] => ([], desk)
  | first :: rest =>
    let (answer, next) := R.step db keep desk first
    let (answers, last) := R.run db keep next rest
    (answer :: answers, last)

/-- One record of given columns. -/
def Desk.ofPairs (s : σ) (pairs : List (String × Value)) : Desk σ := ⟨s, [.ofPairs pairs]⟩

def Desk.unread (desk : Desk σ) : Desk σ := ⟨desk.adapter, desk.records.map Attributes.unread⟩

def Desk.Sound (R : RecordType) (desk : Desk σ) : Prop :=
  ∀ a ∈ desk.records, a.Sound R.casts

variable (db) in
/-- A step on records that keep their memo, and on records that lose it. -/
lemma step_unread {desk : Desk σ} (sound : desk.Sound R) (now : DeskStep) :
    R.step db Attributes.unread desk.unread now =
        ((R.step db id desk now).1, (R.step db id desk now).2.unread) ∧
      (R.step db id desk now).2.Sound R := by
  cases now with
  | call i call =>
    simp only [step, Desk.unread, List.getElem?_map]
    cases found : desk.records[i]? with
    | none => exact ⟨rfl, sound⟩
    | some a =>
      have held := sound a (List.mem_of_getElem? found)
      obtain ⟨result, adapter, row⟩ : Alike (R.answer db call ⟨desk.adapter, a⟩) _ :=
        alike_answer held call
      refine ⟨?_, fun b mem => ?_⟩
      · simp only [Option.map_some, result, adapter, List.map_set, id_eq]
        rw [Attributes.unread, row]
        rfl
      · rcases List.mem_or_eq_of_mem_set mem with old | rfl
        · exact sound b old
        · rw [id_eq, state_answer]
          exact sound_perform (S := ⟨desk.adapter, a⟩) db held call
  | copy i =>
    refine ⟨?_, fun a mem => ?_⟩
    · simp only [step, Desk.unread, List.getElem?_map, List.map_append, Option.toList_map]
    · rcases List.mem_append.mp mem with old | copied
      · exact sound a old
      · exact sound a (List.mem_of_getElem? (Option.mem_toList.mp copied))

variable (db) in
lemma run_unread {desk : Desk σ} (sound : desk.Sound R) (steps : List DeskStep) :
    R.run db Attributes.unread desk.unread steps =
        ((R.run db id desk steps).1, (R.run db id desk steps).2.unread) ∧
      (R.run db id desk steps).2.Sound R := by
  induction steps generalizing desk with
  | nil => exact ⟨rfl, sound⟩
  | cons first rest ih =>
    obtain ⟨now, next⟩ := step_unread db sound first
    obtain ⟨later, last⟩ := ih next
    refine ⟨?_, last⟩
    simp only [run, now, later]

/-! ## What can be relied on -/

/-- What is read of a record, as if it had no memo, and how often it is cast. -/
structure Transparent (R : RecordType) (db : Database σ) (a : Attributes) : Prop where
  reads : ∀ column, (Attributes.read R.casts column a).result =
    .ok ((a.raw? column).map (R.casts.cast column))
  absent : ∀ column, (Attributes.read R.casts column a).result = .ok none ↔
    a.contains column = false
  assigned : ∀ column value,
    (Attributes.read R.casts column (a.assign R.casts column value)).result =
      .ok (some (R.casts.cast column (R.casts.decast column value)))
  /-- A call changes what is read of the columns that it writes, and of no other. -/
  spares : ∀ s call column, ¬ R.Writes db ⟨s, a⟩ column call →
    (Attributes.read R.casts column (R.perform db call ⟨s, a⟩).state.attributes).result =
      (Attributes.read R.casts column a).result
  /-- A column that was assigned is cast when it is read. -/
  casts : ∀ s column value,
    R.Consults db ⟨s, a.assign R.casts column value⟩ (.read column) column
  /-- Between two writes of a column, whatever the calls, it is cast once at most, and once it is
  cast, reading it reports nothing. -/
  once : ∀ s first between column, R.Consults db ⟨s, a⟩ first column →
    R.Spares db column a ((s, first) :: between) →
      (∀ t last, ¬ R.Consults db ⟨t, R.along db a ((s, first) :: between)⟩ last column) ∧
      (Attributes.read R.casts column (R.along db a ((s, first) :: between))).events = []
  /-- A moment that cannot be read is reported when it is first read. -/
  warned : ∀ column rule value, R.casts.rule? column = some rule → rule.kind? = some .datetime →
    value.isNull = false → CastKind.moment? value = none →
      (Attributes.read R.casts column (a.assign R.casts column value)).events =
        [.unparsable value.display]

section Transparent

variable {a : Attributes} {column : String}

lemma unremembered_assign (sound : a.Sound R.casts) (column : String) (value : Value) :
    (a.assign R.casts column value).memo.get? column = none ∧
      (a.assign R.casts column value).raw? column = some (R.casts.decast column value) := by
  constructor
  · change (a.memo.erase column).get? column = none
    rw [Columns.get?_erase sound.entries, if_pos rfl]
  · rw [Attributes.assign, Attributes.raw?_setRaw, if_pos rfl]

/-- A moment that cannot be read is stored as it is, and reported when it is cast. -/
lemma reports_unreadable {casts : Casts} {rule : CastRule} {value : Value}
    (found : casts.rule? column = some rule) (kind : rule.kind? = some .datetime)
    (present : value.isNull = false) (unreadable : CastKind.moment? value = none) :
    casts.reports column (casts.decast column value) = [.unparsable value.display] := by
  have stored : casts.decast column value = value := by
    simp only [Casts.decast, found]
    cases rule with
    | custom cast decast => cases kind
    | named name =>
      have named : CastKind.ofName? name = some .datetime := kind
      simp only [CastRule.decast, named, CastKind.decast, present, unreadable]
      rfl
  rw [stored]
  simp only [Casts.reports, found, CastRule.reports, kind, CastKind.reports, present, unreadable]
  rfl

lemma transparent (sound : a.Sound R.casts) : R.Transparent db a where
  reads column := (Attributes.read_result sound column).1
  absent column := by
    rw [(Attributes.read_result sound column).1, Attributes.contains, Row.contains]
    change _ ↔ (a.raw? column).isSome = false
    cases a.raw? column <;> simp
  assigned column value := by
    obtain ⟨_, raw⟩ := unremembered_assign sound column value
    have stored := sound.setRaw column (R.casts.decast column value)
    have read := (Attributes.read_result stored column).1
    exact read.trans (congrArg (fun stored => Except.ok (Option.map _ stored)) raw)
  spares s call column spared := by
    have left : R.Leaves db ⟨s, a⟩ call _ := leaves sound call
    rw [(Attributes.read_result (sound_perform (S := ⟨s, a⟩) db sound call) column).1,
      (Attributes.read_result sound column).1, left.raw? sound spared]
  casts s column value := by
    obtain ⟨memo, raw⟩ := unremembered_assign sound column value
    refine (consults_read_iff column).mpr ⟨memo, ?_⟩
    rw [raw]
    exact Option.some_ne_none _
  once s first between column consults spared := by
    refine ⟨fun t last => consults_once sound consults spared, ?_⟩
    have memo := remembered_of_consults sound consults spared
    obtain ⟨value, hv⟩ := Option.ne_none_iff_exists'.mp memo
    rw [Attributes.read_of_remembered hv]
  warned column rule value found kind present unreadable := by
    obtain ⟨memo, raw⟩ := unremembered_assign sound column value
    rw [Attributes.read_of_stored memo raw]
    exact reports_unreadable found kind present unreadable

end Transparent

/-- Whatever is called on a record and on copies of it, the answers, the adapter and the rows are as
if nothing were remembered, and every record can be relied on. -/
theorem memo_invisible (R : RecordType) (db : Database σ) (s : σ) (pairs : List (String × Value))
    (steps : List DeskStep) :
    let kept := R.run db id (.ofPairs s pairs) steps
    let lost := R.run db Attributes.unread (.ofPairs s pairs) steps
    lost.1 = kept.1 ∧ lost.2 = kept.2.unread ∧ ∀ a ∈ kept.2.records, R.Transparent db a := by
  have start : (Desk.ofPairs s pairs).Sound R := by
    intro a mem
    rw [List.mem_singleton.mp mem]
    exact Attributes.sound_ofPairs R.casts pairs
  obtain ⟨same, sound⟩ := run_unread db start steps
  have unread : (Desk.ofPairs s pairs).unread = Desk.ofPairs s pairs := rfl
  rw [unread] at same
  have answers := congrArg Prod.fst same
  have desks := congrArg Prod.snd same
  exact ⟨answers, desks, fun a mem => transparent (sound a mem)⟩

end RecordType

end Clausal
