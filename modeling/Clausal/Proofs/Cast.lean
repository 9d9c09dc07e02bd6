import Clausal.Cast
import Clausal.Proofs.Calendar.LeapSecond

/-!
# Casting what was decasted

Decasting writes a value in the form in which it is stored, and casting reads it back. The stored
form of a moment is what a clock shows: it has no fraction of a second, and of the leap seconds it
knows only those at the end of a minute. For all other kinds casting gives what it gives for the
value itself. Casting a second time changes nothing.
-/

namespace Clausal

open Calendar

namespace Value

/-- A moment with a leap second is at the end of a minute. -/
def Regular : Value → Prop
  | .datetime dt => dt.time.Regular
  | _ => True

/-- A moment at the start of its second; any other value as it is. -/
def withoutFraction : Value → Value
  | .datetime dt => .datetime ⟨dt.date, dt.time.withoutFraction⟩
  | v => v

/-- A moment as a clock shows it; any other value as it is. -/
def shown : Value → Value
  | .datetime dt => .datetime dt.shown
  | v => v

lemma shown_shown (v : Value) : v.shown.shown = v.shown := by
  cases v with
  | datetime dt => simp [shown, DateTime.shown, Time.shown_shown]
  | _ => rfl

lemma shown_eq_withoutFraction_iff {v : Value} : v.shown = v.withoutFraction ↔ v.Regular := by
  cases v with
  | datetime dt =>
    rw [shown, withoutFraction, DateTime.shown, Value.datetime.injEq, DateTime.mk.injEq]
    exact (and_iff_right rfl).trans Time.shown_eq_withoutFraction_iff
  | _ => exact iff_of_true rfl trivial

end Value

namespace CastKind

lemma cast_integer (n : Int64) : int.cast (.int n) = .int n := rfl

lemma cast_number (x : Number.Binary64) : float.cast (.float x) = .float x := rfl

lemma cast_truth (b : Bool) : boolean.cast (.bool b) = .bool b := rfl

lemma cast_moment (dt : DateTime) : datetime.cast (.datetime dt) = .datetime dt := rfl

/-- The values of the kind; of the moments, those without a fraction of a second. -/
def Domain : CastKind → Value → Prop
  | .int, .int _ | .float, .float _ | .boolean, .bool _ => True
  | .datetime, .datetime dt => dt.time.nanosecond % 1000000000 = 0
  | _, _ => False

/-! ## Moments -/

lemma moment?_toText (dt : DateTime) : moment? (.text dt.toText) = some dt.shown := by
  rw [moment?, DateTime.toText, String.toList_ofList, dt.strip_chars, dt.read?_chars]

/-- Counting from 1970 and reading give no leap second within a minute. -/
lemma regular_of_moment? {v : Value} {dt : DateTime} (regular : v.Regular)
    (h : moment? v = some dt) : dt.time.Regular := by
  cases v with
  | datetime own =>
    obtain rfl := Option.some.inj h
    exact regular
  | int n => exact DateTime.regular_ofTimestamp h nofun
  | text s => exact DateTime.regular_of_read h
  | _ => cases h

/-- A value is a moment, or neither direction changes it. -/
lemma moment_cases (v : Value) :
    (∃ dt, moment? v = some dt ∧ datetime.cast v = .datetime dt ∧
        datetime.decast v = .text dt.toText) ∨
      moment? v = none ∧ datetime.cast v = v ∧ datetime.decast v = v ∧ v.shown = v := by
  cases found : moment? v with
  | some dt =>
    have some : v.isNull = false := by
      cases v with
      | null => cases found
      | _ => rfl
    exact .inl ⟨dt, rfl, by simp [cast, some, found], by simp [decast, some, found]⟩
  | none =>
    refine .inr ⟨rfl, by simp [cast, found], by simp [decast, found], ?_⟩
    cases v with
    | datetime dt => cases found
    | _ => rfl

lemma cast_decast_moment (v : Value) :
    datetime.cast (datetime.decast v) = (datetime.cast v).shown := by
  rcases moment_cases v with ⟨dt, _, domain, stored⟩ | ⟨_, domain, stored, plain⟩
  · rw [stored, domain]
    simp [cast, Value.isNull, moment?_toText, Value.shown]
  · rw [stored, domain, plain]

lemma regular_cast {v : Value} (h : v.Regular) : (datetime.cast v).Regular := by
  rcases moment_cases v with ⟨dt, found, domain, _⟩ | ⟨_, domain, _⟩
  · rw [domain]
    exact regular_of_moment? h found
  · rwa [domain]

/-- Only a moment that has a leap second within a minute is cast to one. -/
lemma regular_cast_iff {v : Value} : (datetime.cast v).Regular ↔ v.Regular := by
  refine ⟨fun regular => ?_, regular_cast⟩
  cases v with
  | datetime dt => exact regular
  | _ => trivial

/-! ## All kinds -/

section Present

variable {v : Value}

lemma cast_of_null (kind : CastKind) (h : v.isNull = true) : kind.cast v = v := if_pos h

lemma decast_of_null (kind : CastKind) (h : v.isNull = true) : kind.decast v = v := if_pos h

variable (h : v.isNull = false)
include h

lemma cast_int : int.cast v = .int v.toInt := if_neg (ne_true_of_eq_false h)

lemma cast_float : float.cast v = .float v.toFloat := if_neg (ne_true_of_eq_false h)

lemma cast_boolean : boolean.cast v = .bool v.isTruthy := if_neg (ne_true_of_eq_false h)

lemma decast_boolean : boolean.decast v = .int (if v.isTruthy then 1 else 0) :=
  if_neg (ne_true_of_eq_false h)

end Present

lemma cast_decast {kind : CastKind} (other : kind ≠ .datetime) (v : Value) :
    kind.cast (kind.decast v) = kind.cast v := by
  cases kind with
  | int => cases v <;> rfl
  | float => cases v <;> rfl
  | datetime => exact absurd rfl other
  | boolean =>
    cases hv : v.isNull with
    | true => rw [decast_of_null _ hv]
    | false =>
      rw [decast_boolean hv, cast_boolean hv, cast_boolean rfl]
      cases v.isTruthy <;> rfl

lemma cast_cast (kind : CastKind) (v : Value) : kind.cast (kind.cast v) = kind.cast v := by
  cases hv : v.isNull with
  | true => rw [cast_of_null kind hv, cast_of_null kind hv]
  | false =>
    cases kind with
    | int => rw [cast_int hv, cast_integer]
    | float => rw [cast_float hv, cast_number]
    | boolean => rw [cast_boolean hv, cast_truth]
    | datetime =>
      rcases moment_cases v with ⟨dt, _, domain, _⟩ | ⟨_, domain, _⟩
      · rw [domain, cast_moment]
      · rw [domain, domain]

/-- A moment that a clock shows is cast to itself. -/
lemma cast_shown (v : Value) : datetime.cast (datetime.cast v).shown = (datetime.cast v).shown := by
  rcases moment_cases v with ⟨dt, _, domain, _⟩ | ⟨_, domain, _, plain⟩
  · rw [domain, Value.shown, cast_moment]
  · rw [domain, plain, domain]

/-- Of the values of its own kind a rule changes only leap seconds within a minute. -/
lemma cast_decast_eq_self_iff (kind : CastKind) {v : Value} (domain : kind.Domain v) :
    kind.cast (kind.decast v) = v ↔ v.Regular := by
  cases kind with
  | int =>
    cases v with
    | int n => exact iff_of_true rfl trivial
    | _ => cases domain
  | float =>
    cases v with
    | float x => exact iff_of_true rfl trivial
    | _ => cases domain
  | boolean =>
    cases v with
    | bool b => exact iff_of_true (by cases b <;> rfl) trivial
    | _ => cases domain
  | datetime =>
    cases v with
    | datetime dt =>
      have whole : (Value.datetime dt).withoutFraction = .datetime dt := by
        rw [Value.withoutFraction, Time.withoutFraction_eq_self domain]
      rw [cast_decast_moment, cast_moment, ← Value.shown_eq_withoutFraction_iff, whole]
    | _ => cases domain

end CastKind

namespace CastRule

open CastKind

/-- What casting and decasting do to all values, if the rule is of this kind. -/
structure RoundTrips (rule : CastRule) (kind : CastKind) : Prop where
  cast_decast : kind ≠ .datetime → ∀ v, rule.cast (rule.decast v) = rule.cast v
  /-- A moment comes back as a clock shows it: the fraction of the second is lost, and a leap second
  within a minute is taken for the second after it. -/
  moment : kind = .datetime → ∀ v, rule.cast (rule.decast v) = (rule.cast v).shown
  /-- Only the fraction is lost, and a leap second stays one, unless it is within a minute. -/
  fraction : kind = .datetime → ∀ v,
    rule.cast (rule.decast v) = (rule.cast v).withoutFraction ↔ v.Regular
  cast_cast : ∀ v, rule.cast (rule.cast v) = rule.cast v
  idempotent : ∀ v,
    rule.cast (rule.decast (rule.cast (rule.decast v))) = rule.cast (rule.decast v)
  keeps : ∀ v, kind.Domain v → (rule.cast (rule.decast v) = v ↔ v.Regular)
  unreadable : kind = .datetime → ∀ v, moment? v = none → rule.cast v = v ∧ rule.decast v = v

lemma roundTrips_of_kind {rule : CastRule} {kind : CastKind} (cast : rule.cast = kind.cast)
    (decast : rule.decast = kind.decast) : rule.RoundTrips kind := by
  refine ⟨?_, ?_, ?_, ?_, ?_, ?_, ?_⟩ <;> simp only [cast, decast]
  · exact fun other v => CastKind.cast_decast other v
  · rintro rfl v
    exact cast_decast_moment v
  · rintro rfl v
    rw [cast_decast_moment, Value.shown_eq_withoutFraction_iff, regular_cast_iff]
  · exact kind.cast_cast
  · intro v
    by_cases other : kind = .datetime
    · subst other
      rw [cast_decast_moment, cast_decast_moment, cast_shown, Value.shown_shown]
    · rw [CastKind.cast_decast other, CastKind.cast_decast other, kind.cast_cast]
  · exact fun v => kind.cast_decast_eq_self_iff
  · rintro rfl v unread
    rcases moment_cases v with ⟨dt, found, _⟩ | ⟨_, domain, stored, _⟩
    · cases unread.symm.trans found
    · exact ⟨domain, stored⟩

/-- A kind is named by each of its names, in any letter case and with blanks around it, and however
it is named, what was decasted is cast to what the value is cast to, in every year; a moment comes
back as a clock shows it. -/
theorem roundTrips_of_name {entry : String × CastKind} (listed : entry ∈ CastKind.names)
    {name : String} (lowered : (Text.trim name).map Char.toLower = entry.1) :
    RoundTrips (.named name) entry.2 := by
  have each : ∀ entry ∈ CastKind.names, CastKind.names.lookup entry.1 = some entry.2 := by
    decide +kernel
  have kind : CastKind.ofName? name = some entry.2 := by
    rw [CastKind.ofName?, lowered, each entry listed]
  apply roundTrips_of_kind
  · funext v
    simp only [CastRule.cast, kind]
  · funext v
    simp only [CastRule.decast, kind]

/-- A leap second in a year before the first, under a name in mixed case. -/
theorem roundTrips_of_name_mixedCase :
    let rule : CastRule := .named " DateTime\n"
    ("datetime", CastKind.datetime) ∈ CastKind.names ∧
      (Text.trim " DateTime\n").map Char.toLower = "datetime" ∧ RoundTrips rule .datetime ∧
      (rule.decast (.text "-44-3-15T23:59:60.25")).asText? = some "-0044-03-15 23:59:60" ∧
      (rule.cast (.text "-0044-03-15 23:59:60")).asDateTime?.map (·.time.nanosecond) =
        some 1000000000 := by
  have lowered : (Text.trim " DateTime\n").map Char.toLower = "datetime" := by decide +kernel
  have listed : ("datetime", CastKind.datetime) ∈ CastKind.names := by decide +kernel
  exact ⟨listed, lowered, roundTrips_of_name listed lowered, by decide +kernel, by decide +kernel⟩

/-- A clock 235 seconds ahead of UTC shows a leap second at the end of a minute. In UTC it is within
a minute, and what is stored of it is the second after it. -/
theorem cast_decast_irregular :
    let date : Date := ⟨2016, 12, 31, by decide, by decide, by decide⟩
    let wall : Time := ⟨23, 59, 59, 1333333333, by decide, by decide, by decide, by decide⟩
    let leap : Time := ⟨23, 56, 4, 1333333333, by decide, by decide, by decide, by decide⟩
    let next : Time := ⟨23, 56, 5, 0, by decide, by decide, by decide, by decide⟩
    let rule : CastRule := .named "datetime"
    let v : Value := .datetime ⟨date, leap⟩
    DateTime.toUtc? ⟨date, wall⟩ 235 = some ⟨date, leap⟩ ∧
      rule.cast v = v ∧ rule.decast v = .text "2016-12-31 23:56:05" ∧
      rule.cast (rule.decast v) = .datetime ⟨date, next⟩ ∧
      rule.cast (rule.decast v) ≠ (rule.cast v).withoutFraction := by
  intro date wall leap next rule v
  have kind : CastKind.ofName? "datetime" = some .datetime := by decide +kernel
  have cast (v : Value) : rule.cast v = CastKind.datetime.cast v := by
    simp only [rule, CastRule.cast, kind]
  have decast (v : Value) : rule.decast v = CastKind.datetime.decast v := by
    simp only [rule, CastRule.decast, kind]
  have stored : rule.decast v = .text "2016-12-31 23:56:05" := by
    have text : (DateTime.mk date leap).toText = "2016-12-31 23:56:05" := by decide +kernel
    rw [decast, ← text]
    rfl
  have back : rule.cast (rule.decast v) = .datetime ⟨date, next⟩ := by
    have shown : (DateTime.mk date leap).shown = ⟨date, next⟩ := by decide +kernel
    rw [cast, decast, cast_decast_moment, ← shown]
    rfl
  refine ⟨by decide +kernel, cast v, stored, back, ?_⟩
  rw [back, cast]
  change Value.datetime _ ≠ .datetime _
  rw [ne_eq, Value.datetime.injEq]
  decide +kernel

end CastRule

end Clausal
