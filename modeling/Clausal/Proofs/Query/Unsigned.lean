import Clausal.Proofs.Number.Unsigned
import Clausal.Proofs.Query.Holding
import Clausal.Proofs.Query.Names
import Clausal.Proofs.Query.Standing

/-!
# Unsigned numbers in the final text

Below `2 ^ 63` an unsigned number stands in the final text as its decimal digits, wherever the query
was given it. From there on a count is the largest signed integer, and a literal is the shortest
decimal of the nearest binary64 number, which is a multiple of a hundred.
-/

namespace Clausal

open Sql Number

/-! ## The two texts of a number -/

/-- What is written for a number that is a value. -/
def unsignedText (n : UInt64) : String := literal (.ofUnsigned n)

/-- How a number is written as a count and as a value. From `2 ^ 63` on the nearest binary64 number
is within 1024 of it, and the shortest decimal is within 2048 of that. -/
structure WrittenAs (n : Nat) (count literal : String) : Prop where
  exact : n < 2 ^ 63 → count = toString n ∧ literal = toString n
  saturated : 2 ^ 63 ≤ n → count = "9223372036854775807"
  rounded : 2 ^ 63 ≤ n →
    ∃ m, literal = toString m ∧ 100 ∣ m ∧ m ≤ n + 3072 ∧ n ≤ m + 3072

lemma ofUnsigned_of_lt {n : UInt64} (h : n.toNat < 2 ^ 63) :
    ∃ i : Int64, Value.ofUnsigned n = .int i ∧ i.toInt = n.toNat := by
  have fits : signed? n.toNat = some (Int64.ofInt n.toNat) := by
    rw [signed?, if_pos (by simp only [minSigned, maxSigned]; omega)]
  refine ⟨_, ?_, toInt_of_signed? fits⟩
  rw [Value.ofUnsigned, fits]

lemma ofUnsigned_of_le {n : UInt64} (h : 2 ^ 63 ≤ n.toNat) :
    Value.ofUnsigned n = .float (.finite false (Binary64.nearest n.toNat * Binary64.one)) := by
  have large : signed? n.toNat = none := by
    rw [signed?, if_neg (by simp only [minSigned, maxSigned]; omega)]
  rw [Value.ofUnsigned, large, Binary64.ofInt_large h n.toNat_lt]

lemma writtenAs (n : UInt64) : WrittenAs n.toNat (countText n) (unsignedText n) where
  exact h := by
    obtain ⟨i, held, whole⟩ := ofUnsigned_of_lt h
    rw [countText, unsignedText, held]
    exact ⟨congrArg toString whole, congrArg toString whole⟩
  saturated h := by
    rw [countText, ofUnsigned_of_le h, Placeholder.write, Value.toInt,
      Binary64.truncate_large (Binary64.nearest_bounds h n.toNat_lt).1]
    rfl
  rounded h := by
    obtain ⟨low, high, below, above⟩ := Binary64.nearest_bounds h n.toNat_lt
    obtain ⟨m, text, hundred, most, least⟩ := plain_large low high
    refine ⟨m, ?_, hundred, by omega, by omega⟩
    rw [unsignedText, ofUnsigned_of_le h]
    exact text

namespace Query

/-! ## The final text -/

/-- In the final text every number that a call gave the query stands as its literal, or as its count
in the bounds at the end, if no later call wrote the same clause. These are its digits below
`2 ^ 63`; from there on a count is the largest signed integer, and a literal is rounded. -/
theorem sql_of_unsigned {target : Target} {cs : List Call}
    (htarget : ∀ table ∈ target.table?, Inert table.toList) (hcs : ∀ c ∈ cs, c.Within steady)
    {p : Preparation} (hp : (built target cs).prepare = .ok p) {σ : Type} (adapter : Adapter σ)
    (s : σ) :
    ∃ text, ((built target cs).sql adapter.database s).result = .ok text ∧
      (built target cs).Shows text ∧
      (∀ before c later, cs = before ++ c :: later → (∀ d ∈ later, d.clause? ≠ c.clause?) →
        c.Held (built target cs)) ∧
      ∀ n : UInt64, WrittenAs n.toNat (countText n) (unsignedText n) := by
  have steady : (built target cs).Within steady := within_calls (within_start htarget) hcs
  have given : ∀ before c later, cs = before ++ c :: later →
      (∀ d ∈ later, d.clause? ≠ c.clause?) → c.Held (built target cs) := by
    rintro before c later rfl last
    exact held_calls (prepare_eq_ok hp).1 last
  by_cases none : p.args = []
  · have sent : ((built target cs).sql adapter.database s).result = .ok p.sql := by
      rw [(sql_of_ok hp adapter.database s).1, if_pos none]
    exact ⟨_, sent, shows hp fun some => absurd none some, given, writtenAs⟩
  · exact ⟨_, sql_of_steady steady hp none adapter.bindsByDefault s, shows hp fun _ => rfl, given,
      writtenAs⟩

/-- A page of the rows with a number. -/
def numberedPage (n limit offset : UInt64) : List Call := [
  .filter false (.compare (.name "a") none (.bound (.ofUnsigned n))),
  .limit (.count limit),
  .offset (.count offset)]

theorem sql_of_unsigned_page :
    let q := built (.table "t") (numberedPage 9223372036854775807 7 9223372036854775808)
    (∀ table ∈ (Target.table "t").table?, Inert table.toList) ∧
      (∀ c ∈ numberedPage 9223372036854775807 7 9223372036854775808, c.Within steady) ∧
      ∃ p text, q.prepare = .ok p ∧ (q.sql Script.adapter.database {}).result = .ok text ∧
        q.Shows text ∧ q.limit = some (.count 7) ∧
        WrittenAs 7 (countText 7) (unsignedText 7) ∧
        text = "SELECT * \nFROM `t` \nWHERE ( `a` = 9223372036854775807 ) \nLIMIT 7 \n" ++
          "OFFSET 9223372036854775807" := by
  intro q
  have table : ∀ name ∈ (Target.table "t").table?, Inert name.toList := by
    rintro name ⟨⟩
    decide
  have within : ∀ c ∈ numberedPage 9223372036854775807 7 9223372036854775808,
      c.Within steady := by
    have column : steady.column (.name "a") := (by decide : Inert "a".toList)
    simp only [numberedPage, List.forall_mem_cons]
    exact ⟨⟨column, nofun, nofun⟩, trivial, trivial, nofun⟩
  have sent : (q.sql Script.adapter.database {}).result =
      .ok ("SELECT * \nFROM `t` \nWHERE ( `a` = 9223372036854775807 ) \nLIMIT 7 \n" ++
        "OFFSET 9223372036854775807") := by
    decide +kernel
  obtain ⟨text, ht, shows, held, written⟩ := sql_of_unsigned table within rfl Script.adapter {}
  obtain rfl := Except.ok.inj (sent.symm.trans ht)
  have limit : q.limit = some (.count 7) :=
    held [_] (.limit (.count 7)) [.offset _] rfl (by decide)
  exact ⟨table, within, _, _, rfl, sent, shows, limit, written 7, rfl⟩

/-- The first count that no signed integer is, and the largest number. -/
theorem unsigned_page_changed :
    ((built (.table "t") [.limit (.count 9223372036854775808)]).sql Script.adapter.database
        {}).result = .ok "SELECT * \nFROM `t` \nLIMIT 9223372036854775807" ∧
      ((built (.table "t") (numberedPage 18446744073709551615 1 18446744073709551615)).sql
        Script.adapter.database {}).result =
        .ok ("SELECT * \nFROM `t` \nWHERE ( `a` = 18446744073709552000 ) \nLIMIT 1 \n" ++
          "OFFSET 9223372036854775807") := by
  constructor
  · decide +kernel
  · decide +kernel

end Query

end Clausal
