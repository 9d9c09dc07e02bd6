import Clausal.Proofs.Calendar.Stored

/-!
# Leap seconds of moments that are read

Every moment that is read, or counted from 1970, has a leap second only at the end of a minute: a
clock shows one as the second 60, the fraction after it is less than a second, and a zone moves a
clock by whole minutes.
-/

namespace Clausal.Calendar

open Number (isDigit digitValue valueOf valueOf_lt)
open Text (Reader)
open Text.Reader

/-! ## Clocks -/

lemma Time.regular_of_lt {t : Time} (h : t.nanosecond < 1000000000) : t.Regular := by
  intro leap
  omega

lemma Time.eq_of_of? {hour minute second nanosecond : Nat} {t : Time}
    (h : Time.of? hour minute second nanosecond = some t) :
    t.hour = hour ∧ t.minute = minute ∧ t.second = second ∧ t.nanosecond = nanosecond := by
  rw [Time.of?] at h
  split at h
  · obtain rfl := Option.some.inj h
    exact ⟨rfl, rfl, rfl, rfl⟩
  · cases h

lemma Time.regular_of_clock {hour minute second fraction : Nat} (less : fraction < 1000000000)
    {t : Time} (h : Time.ofClock? hour minute second fraction = some t) : t.Regular := by
  rw [Time.ofClock?] at h
  split at h
  · intro _
    exact (Time.eq_of_of? h).2.2.1
  · refine Time.regular_of_lt ?_
    rw [(Time.eq_of_of? h).2.2.2]
    exact less

/-! ## Fractions -/

namespace Reading

/-- Nine digits are all that count of a fraction, so it is less than a second. -/
lemma fraction_lt {cs rest : List Char} {n : Nat} (h : fraction cs = some (n, rest)) :
    n < 1000000000 := by
  obtain ⟨point, after, -, h⟩ := exists_of_bind h
  cases point with
  | false =>
    obtain ⟨rfl, -⟩ := Prod.mk.inj (Option.some.inj h)
    decide
  | true =>
    obtain ⟨ds, afterDigits, taken, h⟩ := exists_of_bind h
    obtain ⟨digits, length⟩ := of_digits taken
    obtain ⟨_, end_, -, h⟩ := exists_of_bind h
    obtain ⟨rfl, -⟩ := Prod.mk.inj (Option.some.inj h)
    have shown := valueOf_lt digits
    have whole : 10 ^ ds.length * 10 ^ (9 - ds.length) = 1000000000 := by
      rw [← Nat.pow_add, Nat.add_sub_cancel' length]
    calc valueOf ds * Nat.pow 10 (9 - ds.length)
      _ < 10 ^ ds.length * 10 ^ (9 - ds.length) :=
        Nat.mul_lt_mul_of_pos_right shown (Nat.pow_pos (by decide))
      _ = 1000000000 := whole

lemma regular_clock {part : Reader Nat} {withFraction : Bool} {cs rest : List Char} {t : Time}
    (h : clock part withFraction cs = some (t, rest)) : t.Regular := by
  obtain ⟨hour, _, -, h⟩ := exists_of_bind h
  obtain ⟨_, _, -, h⟩ := exists_of_bind h
  obtain ⟨minute, _, -, h⟩ := exists_of_bind h
  obtain ⟨_, _, -, h⟩ := exists_of_bind h
  obtain ⟨second, _, -, h⟩ := exists_of_bind h
  cases withFraction with
  | false =>
    have less : 0 < 1000000000 := by decide
    exact Time.regular_of_clock less (eq_some_of_ofOption h)
  | true =>
    obtain ⟨n, _, read, h⟩ := exists_of_bind h
    exact Time.regular_of_clock (fraction_lt read) (eq_some_of_ofOption h)

lemma regular_stored {cs rest : List Char} {dt : DateTime}
    (h : stored cs = some (dt, rest)) : dt.time.Regular := by
  obtain ⟨_, _, -, h⟩ := exists_of_bind h
  obtain ⟨_, _, -, h⟩ := exists_of_bind h
  obtain ⟨t, _, read, h⟩ := exists_of_bind h
  obtain ⟨rfl, -⟩ := Prod.mk.inj (Option.some.inj h)
  exact regular_clock read

lemma regular_exchange {cs rest : List Char} {dt : DateTime}
    (h : exchange cs = some (dt, rest)) : dt.time.Regular := by
  obtain ⟨_, _, -, h⟩ := exists_of_bind h
  obtain ⟨_, _, -, h⟩ := exists_of_bind h
  obtain ⟨t, _, read, h⟩ := exists_of_bind h
  obtain ⟨rfl, -⟩ := Prod.mk.inj (Option.some.inj h)
  exact regular_clock read

/-! ## Zones -/

/-- Hours and minutes away from UTC. -/
lemma distance_minutes (negative : Bool) {cs rest : List Char} {offset : Int}
    (h : (do
      let hours ← number 2 2
      literal ':'
      let minutes ← number 2 2
      guard (hours < 24 ∧ minutes < 60)
      let seconds : Int := (hours * 3600 + minutes * 60 : Nat)
      return if negative then -seconds else seconds : Reader Int) cs = some (offset, rest)) :
    offset % 60 = 0 := by
  obtain ⟨hours, _, -, h⟩ := exists_of_bind h
  obtain ⟨_, _, -, h⟩ := exists_of_bind h
  obtain ⟨minutes, _, -, h⟩ := exists_of_bind h
  obtain ⟨_, _, -, h⟩ := exists_of_bind h
  obtain ⟨rfl, -⟩ := Prod.mk.inj (Option.some.inj h)
  split <;> omega

/-- A zone is a number of whole minutes away. -/
lemma zone_minutes {cs rest : List Char} {offset : Int} (h : zone cs = some (offset, rest)) :
    offset % 60 = 0 := by
  obtain ⟨utc, _, -, h⟩ := exists_of_bind h
  cases utc with
  | true =>
    obtain ⟨rfl, -⟩ := Prod.mk.inj (Option.some.inj h)
    rfl
  | false =>
    obtain ⟨negative, _, -, h⟩ := exists_of_bind h
    cases negative with
    | true => exact distance_minutes true h
    | false =>
      obtain ⟨_, _, -, h⟩ := exists_of_bind h
      exact distance_minutes false h

end Reading

namespace DateTime

lemma regular_ofTimestamp {seconds : Int} {nanosecond : Nat} {dt : DateTime}
    (h : ofTimestamp? seconds nanosecond = some dt)
    (last : 1000000000 ≤ nanosecond → seconds % 60 = 59) : dt.time.Regular := by
  obtain ⟨date, -, h⟩ := Option.bind_eq_some_iff.mp h
  obtain ⟨time, found, h⟩ := Option.bind_eq_some_iff.mp h
  obtain rfl := Option.some.inj h
  obtain ⟨-, -, second, nanosecond⟩ := Time.eq_of_of? found
  intro leap
  have := last (by rwa [← nanosecond])
  change time.second = 59
  rw [second]
  omega

lemma regular_toUtc {dt utc : DateTime} {offset : Int} (regular : dt.time.Regular)
    (minutes : offset % 60 = 0) (h : dt.toUtc? offset = some utc) : utc.time.Regular := by
  refine regular_ofTimestamp h fun leap => ?_
  have last := regular leap
  rw [timestamp, last]
  omega

end DateTime

lemma Reading.regular_zoned {cs rest : List Char} {dt : DateTime}
    (h : zoned cs = some (dt, rest)) : dt.time.Regular := by
  obtain ⟨_, _, -, h⟩ := exists_of_bind h
  obtain ⟨_, _, -, h⟩ := exists_of_bind h
  obtain ⟨_, _, -, h⟩ := exists_of_bind h
  obtain ⟨_, _, -, h⟩ := exists_of_bind h
  obtain ⟨_, _, -, h⟩ := exists_of_bind h
  obtain ⟨date, _, -, h⟩ := exists_of_bind h
  obtain ⟨_, _, -, h⟩ := exists_of_bind h
  obtain ⟨_, _, -, h⟩ := exists_of_bind h
  obtain ⟨time, _, read, h⟩ := exists_of_bind h
  obtain ⟨offset, _, away, h⟩ := exists_of_bind h
  have regular : (DateTime.mk date time).time.Regular := regular_clock read
  exact DateTime.regular_toUtc regular (zone_minutes away) (eq_some_of_ofOption h)

/-- In every form that is read, a leap second is the last second of a minute. -/
theorem DateTime.regular_of_read {cs : List Char} {dt : DateTime} (h : read? cs = some dt) :
    dt.time.Regular := by
  simp only [read?, Option.orElse_eq_orElse, Option.orElse_eq_or, Option.or_eq_some_iff] at h
  rcases h with h | ⟨-, h | ⟨-, h | ⟨-, h | ⟨-, h⟩⟩⟩⟩
  · exact Reading.regular_stored (exists_of_whole h)
  · exact Reading.regular_exchange (exists_of_whole h)
  · exact Reading.regular_zoned (exists_of_whole h)
  · obtain ⟨date, -, rfl⟩ := Option.map_eq_some_iff.mp h
    exact Time.regular_of_lt (show Time.midnight.nanosecond < 1000000000 by decide)
  · obtain ⟨n, -, h⟩ := Option.bind_eq_some_iff.mp h
    obtain ⟨i, -, h⟩ := Option.bind_eq_some_iff.mp h
    exact regular_ofTimestamp h fun leap => absurd leap (by decide)

end Clausal.Calendar
