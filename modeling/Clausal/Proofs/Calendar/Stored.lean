import Clausal.Calendar.Format
import Clausal.Calendar.Reading
import Clausal.Proofs.Number.Digits
import Clausal.Proofs.Text.Reader
import Mathlib.Algebra.Ring.Nat
import Mathlib.Data.List.Basic

/-!
# The stored form of a moment

The stored form is read back, in every year: it has four digits or a sign in front, and a sign
before more digits is read up to the next character that is none. What comes back is what the clock
shows, so the fraction of the second is lost, and the second 60 is a leap second again.
-/

namespace Clausal.Calendar

open Number (isDigit digitValue valueOf)
open Text (isBlank)
open Text.Reader

/-! ## What a clock shows -/

/-- A leap second prolongs the last second of a minute. -/
def Time.Regular (t : Time) : Prop :=
  1000000000 ≤ t.nanosecond → t.second = 59

/-- The time at the start of the second, or of the leap second. -/
def Time.withoutFraction (t : Time) : Time :=
  { t with
    nanosecond := t.nanosecond / 1000000000 * 1000000000
    inSecond := by have := t.inSecond; omega }

/-- The time that a clock shows. A leap second within a minute looks like the second after it. -/
def Time.shown (t : Time) : Time :=
  if inside : 1000000000 ≤ t.nanosecond ∧ t.second < 59 then
    { t with
      second := t.second + 1
      nanosecond := 0
      inMinute := by omega
      inSecond := Nat.zero_lt_of_lt t.inSecond }
  else t.withoutFraction

lemma Time.shown_of_regular {t : Time} (h : t.Regular) : t.shown = t.withoutFraction := by
  rw [Time.shown, dif_neg]
  rintro ⟨leap, early⟩
  have := h leap
  omega

/-- Only the fraction is lost just where a leap second, if there is one, is at the end of a
minute. -/
lemma Time.shown_eq_withoutFraction_iff {t : Time} :
    t.shown = t.withoutFraction ↔ t.Regular := by
  refine ⟨fun same leap => ?_, Time.shown_of_regular⟩
  by_contra other
  have early : t.second < 59 := by
    have := t.inMinute
    omega
  have second := congrArg Time.second same
  rw [Time.shown, dif_pos ⟨leap, early⟩] at second
  have next : t.second + 1 = t.second := second
  omega

lemma Time.regular_shown (t : Time) : t.shown.Regular := by
  intro leap
  rw [Time.shown] at leap ⊢
  split at leap
  · cases leap
  · next inside =>
    have whole : 1000000000 ≤ t.nanosecond / 1000000000 * 1000000000 := leap
    rw [dif_neg inside]
    change t.second = 59
    have := t.inMinute
    omega

lemma Time.withoutFraction_eq_self {t : Time} (h : t.nanosecond % 1000000000 = 0) :
    t.withoutFraction = t := by
  obtain ⟨hour, minute, second, nanosecond, _, _, _, _⟩ := t
  simp only [Time.withoutFraction, Time.mk.injEq, true_and]
  have : nanosecond % 1000000000 = 0 := h
  omega

lemma Time.shown_eq_self {t : Time} (regular : t.Regular) (whole : t.nanosecond % 1000000000 = 0) :
    t.shown = t := by
  rw [Time.shown_of_regular regular, Time.withoutFraction_eq_self whole]

lemma Time.shown_shown (t : Time) : t.shown.shown = t.shown := by
  refine Time.shown_eq_self t.regular_shown ?_
  rw [Time.shown]
  split
  · rfl
  · exact Nat.mul_mod_left _ _

/-- The clock at the second 60 reads the leap second. -/
lemma Time.ofClock?_shownSecond (t : Time) :
    Time.ofClock? t.hour t.minute t.shownSecond 0 = some t.shown := by
  have := t.inMinute
  have := t.inSecond
  rw [Time.ofClock?, Time.shownSecond, Time.shown]
  by_cases leap : 1000000000 ≤ t.nanosecond
  · have one : t.nanosecond / 1000000000 = 1 := by omega
    by_cases early : t.second < 59
    · rw [dif_pos ⟨leap, early⟩, one, if_neg (by omega), Time.of?,
        dif_pos ⟨t.inDay, t.inHour, by omega, by decide⟩]
    · have last : t.second = 59 := by omega
      rw [dif_neg fun h => early h.2, one, if_pos (by omega), Time.of?,
        dif_pos ⟨t.inDay, t.inHour, by decide, by decide⟩]
      simp [Time.withoutFraction, one, last]
  · have zero : t.nanosecond / 1000000000 = 0 := by omega
    rw [dif_neg fun h => leap h.1, zero, if_neg (by omega), Time.of?,
      dif_pos ⟨t.inDay, t.inHour, by omega, by decide⟩]
    simp [Time.withoutFraction, zero]

/-! ## Digits filled up with zeros -/

section Padded

variable (width n : Nat)

lemma valueOf_padded : valueOf (padded width n) = n := by
  change Nat.ofDigitChars 10 (List.replicate _ '0' ++ Nat.toDigits 10 n) 0 = n
  rw [Nat.ofDigitChars_append, Nat.ofDigitChars_replicate_zero, Nat.mul_zero,
    Nat.ofDigitChars_toDigits (by decide) (by decide)]

lemma isDigit_padded : ∀ c ∈ padded width n, isDigit c = true := by
  intro c hc
  rcases List.mem_append.mp hc with zero | digit
  · obtain ⟨_, rfl⟩ := List.mem_replicate.mp zero
    rfl
  · exact Nat.isDigit_of_mem_toDigits (by decide) (by decide) digit

lemma padded_ne_nil : padded width n ≠ [] := by
  intro empty
  exact Nat.toDigits_ne_nil (List.append_eq_nil_iff.mp empty).2

variable {width n}

lemma length_padded (h : n < 10 ^ width) (some : 0 < width) : (padded width n).length = width := by
  have := (Nat.length_toDigits_le_iff (b := 10) (by decide) some).mpr h
  rw [padded, List.length_append, List.length_replicate]
  omega

lemma exists_digit_cons (width n : Nat) (rest : List Char) :
    ∃ d ds, padded width n ++ rest = d :: ds ∧ isDigit d = true := by
  obtain ⟨d, ds, front⟩ := List.exists_cons_of_ne_nil (padded_ne_nil width n)
  exact ⟨d, ds ++ rest, by rw [front, List.cons_append], isDigit_padded width n d (by simp [front])⟩

end Padded

lemma digit_cases {c : Char} (h : isDigit c = true) :
    isBlank c = false ∧ c ≠ '-' ∧ c ≠ '+' := by
  have range := Number.isDigit_bounds h
  refine ⟨Number.not_isBlank_of_isDigit h, ?_, ?_⟩
  · rintro rfl
    revert range
    decide
  · rintro rfl
    revert range
    decide

lemma Date.exists_yearText_cons (d : Date) :
    ∃ c rest, d.yearText = c :: rest ∧ isBlank c = false := by
  rw [Date.yearText]
  split
  · obtain ⟨c, rest, front, digit⟩ := exists_digit_cons 4 d.year.natAbs []
    exact ⟨c, rest, by rwa [List.append_nil] at front, (digit_cases digit).1⟩
  · split
    · exact ⟨_, _, rfl, rfl⟩
    · exact ⟨_, _, rfl, rfl⟩

/-! ## Reading the parts -/

namespace Reading

/-- A character that ends a number. -/
def Ends (rest : List Char) : Prop :=
  ∀ c ∈ rest.head?, isDigit c = false

lemma blanks_padded (width n : Nat) (rest : List Char) :
    blanks (padded width n ++ rest) = some ((), padded width n ++ rest) := by
  obtain ⟨d, ds, front, digit⟩ := exists_digit_cons width n rest
  rw [front]
  exact blanks_of_head? (by rintro c ⟨⟩; exact (digit_cases digit).1)

lemma optional_padded {sign : Char} (h : sign = '-' ∨ sign = '+') (width n : Nat)
    (rest : List Char) :
    optional [sign] (padded width n ++ rest) = some (false, padded width n ++ rest) := by
  obtain ⟨d, ds, front, digit⟩ := exists_digit_cons width n rest
  obtain ⟨_, minus, plus⟩ := digit_cases digit
  rw [front]
  refine optional_of_head? ?_
  rintro c ⟨⟩ mem
  obtain rfl := List.mem_singleton.mp mem
  rcases h with h | h
  · exact minus h
  · exact plus h

lemma number_padded {least most n : Nat} (enough : least ≤ most) (some : 0 < most)
    (h : n < 10 ^ most) {rest : List Char} (ends : Ends rest) :
    number least most (padded most n ++ rest) = .some (n, rest) := by
  have length := length_padded h some
  rw [number_append (isDigit_padded most n) (by omega) (by omega) ends, valueOf_padded]

lemma longNumber_padded (width n : Nat) {rest : List Char} (ends : Ends rest) :
    longNumber (padded width n ++ rest) = some (n, rest) := by
  rw [longNumber_append (isDigit_padded width n) (padded_ne_nil width n) ends, valueOf_padded]

lemma short_padded {n : Nat} (h : n < 100) {rest : List Char} (ends : Ends rest) :
    short (padded 2 n ++ rest) = some (n, rest) := by
  rw [short, bind_of_some (blanks_padded 2 n rest)]
  exact number_padded (by decide) (by decide) h ends

lemma ends_dash (rest : List Char) : Ends ('-' :: rest) := by
  rintro c ⟨⟩
  rfl

lemma year_yearText (d : Date) (rest : List Char) :
    year (d.yearText ++ '-' :: rest) = some (d.year, '-' :: rest) := by
  have ends := ends_dash rest
  rw [Date.yearText, year]
  by_cases four : 0 ≤ d.year ∧ d.year ≤ 9999
  · rw [if_pos four, bind_of_some (blanks_padded _ _ _),
      bind_of_some (optional_padded (.inl rfl) _ _ _), if_neg (by decide),
      bind_of_some (optional_padded (.inr rfl) _ _ _), if_neg (by decide),
      bind_of_some (number_padded (by decide) (by decide) (by omega) ends)]
    have value : (d.year.natAbs : Int) = d.year := Int.natAbs_of_nonneg four.1
    rw [value]
    rfl
  · rw [if_neg four]
    by_cases negative : d.year < 0
    · rw [if_pos negative, List.cons_append,
        bind_of_some (blanks_of_head? (by rintro c ⟨⟩; rfl)),
        bind_of_some (optional_of_mem (by decide) _), if_pos rfl,
        bind_of_some (longNumber_padded 4 d.year.natAbs ends)]
      have value : -(d.year.natAbs : Int) = d.year := by omega
      rw [value]
      rfl
    · rw [if_neg negative, List.cons_append,
        bind_of_some (blanks_of_head? (by rintro c ⟨⟩; rfl)),
        bind_of_some (optional_of_head? (by rintro c ⟨⟩; decide)), if_neg (by decide),
        bind_of_some (optional_of_mem (by decide) _), if_pos rfl,
        bind_of_some (longNumber_padded 4 d.year.natAbs ends)]
      have value : (d.year.natAbs : Int) = d.year := by omega
      rw [value]
      rfl

lemma of?_self (d : Date) : Date.of? d.year d.month d.day = some d := by
  rw [Date.of?, dif_pos ⟨d.inYears, d.inYear, d.inMonth⟩]

lemma day_lt (d : Date) : d.month < 100 ∧ d.day < 100 := by
  have month := d.inYear
  have day := d.inMonth
  have longest : daysInMonth d.year d.month ≤ 31 := by
    rw [daysInMonth]
    split
    · split <;> decide
    · split <;> decide
  omega

lemma date_chars (d : Date) {rest : List Char} (ends : Ends rest) :
    date (d.chars ++ rest) = some (d, rest) := by
  obtain ⟨month, day⟩ := day_lt d
  rw [Date.chars, List.append_assoc, List.cons_append, List.append_assoc, List.cons_append, date,
    bind_of_some (year_yearText d _), bind_of_some (literal_cons _ _),
    bind_of_some (short_padded month (ends_dash _)), bind_of_some (literal_cons _ _),
    bind_of_some (short_padded day ends), of?_self, ofOption_some]

lemma ends_colon (rest : List Char) : Ends (':' :: rest) := by
  rintro c ⟨⟩
  rfl

lemma clock_chars (t : Time) : clock short false t.chars = some (t.shown, []) := by
  have hour : t.hour < 100 := Nat.lt_trans t.inDay (by decide)
  have minute : t.minute < 100 := Nat.lt_trans t.inHour (by decide)
  have second : t.shownSecond < 100 := by
    have := t.inMinute
    have := t.inSecond
    rw [Time.shownSecond]
    omega
  have last : short (padded 2 t.shownSecond) = some (t.shownSecond, []) := by
    have read : short (padded 2 t.shownSecond ++ []) = some (t.shownSecond, []) :=
      short_padded second nofun
    rwa [List.append_nil] at read
  rw [Time.chars, clock, bind_of_some (short_padded hour (ends_colon _)),
    bind_of_some (literal_cons _ _), bind_of_some (short_padded minute (ends_colon _)),
    bind_of_some (literal_cons _ _), bind_of_some last]
  change ofOption (Time.ofClock? t.hour t.minute t.shownSecond 0) [] = _
  rw [Time.ofClock?_shownSecond, ofOption_some]

end Reading

/-! ## Reading the whole -/

namespace DateTime

def shown (dt : DateTime) : DateTime := ⟨dt.date, dt.time.shown⟩

lemma stored_chars (dt : DateTime) : Reading.stored dt.chars = some (dt.shown, []) := by
  have ends : Reading.Ends (' ' :: dt.time.chars) := by
    rintro c ⟨⟩
    rfl
  have blank : blanks (' ' :: dt.time.chars) = some ((), dt.time.chars) := by
    rw [Time.chars]
    exact Reading.blanks_padded 2 dt.time.hour _
  rw [chars, Reading.stored, bind_of_some (Reading.date_chars dt.date ends), bind_of_some blank,
    bind_of_some (Reading.clock_chars dt.time)]
  rfl

/-- The first of the forms that are tried is the stored one. -/
theorem read?_chars (dt : DateTime) : read? dt.chars = some dt.shown := by
  rw [read?, whole_of_some dt.stored_chars]
  rfl

/-- No blanks stand around the stored form. -/
lemma strip_chars (dt : DateTime) : Text.strip dt.chars = dt.chars := by
  apply Text.strip_of_ends
  · obtain ⟨c, rest, front, plain⟩ := dt.date.exists_yearText_cons
    rw [chars, Date.chars, front]
    rintro d ⟨⟩
    exact plain
  · have split : dt.chars = (dt.date.chars ++ ' ' :: (padded 2 dt.time.hour ++ ':' ::
        (padded 2 dt.time.minute ++ [':']))) ++ padded 2 dt.time.shownSecond := by
      simp [chars, Time.chars]
    rw [split, List.getLast?_append_of_ne_nil _ (padded_ne_nil 2 _)]
    intro c hc
    exact (digit_cases (isDigit_padded 2 _ c (List.mem_of_getLast? hc))).1

end DateTime

end Clausal.Calendar
