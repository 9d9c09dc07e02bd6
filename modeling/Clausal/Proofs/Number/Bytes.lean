import Clausal.Proofs.Number.Grammar
import Clausal.Text.Blank

/-!
# The scan by bytes

The same scan over the bytes of a text, by index. An index outside of the text fails, and so does a
cut within a character. All characters of a numeral are single bytes, so neither ever happens, and
the cut is where the numeral ends.
-/

namespace Clausal.Number

/-! ## Bytes at an index -/

namespace Bytes

def isPoint (c : Char) : Bool := c == '.'

def isMark (c : Char) : Bool := c == 'e' || c == 'E'

/-- Whether there is a byte at the index and it is such a character. The byte is read only if the
index is in the text. -/
def test? (p : Char → Bool) (bytes : List UInt8) (i : Nat) : Option Bool :=
  if i < bytes.length then bytes[i]?.map fun b => p (Char.ofUInt8 b) else some false

/-- The index after the digits that stand at an index. -/
def skipDigits (bytes : List UInt8) (i : Nat) : Option Nat :=
  if h : i < bytes.length then
    bytes[i]?.bind fun b =>
      if isDigit (Char.ofUInt8 b) then skipDigits bytes (i + 1) else some i
  else some i
termination_by bytes.length - i

/-- The index after the fraction, and whether there is a digit before it. -/
def scanFraction (bytes : List UInt8) (start stop : Nat) : Option (Nat × Bool) := do
  if ← test? isPoint bytes stop then
    let last ← skipDigits bytes (stop + 1)
    return if start < stop || stop + 1 < last then (last, true) else (stop, false)
  else return (stop, start < stop)

/-- The index after the exponent; an exponent without digits is left alone. -/
def scanExponent (bytes : List UInt8) (stop : Nat) : Option Nat := do
  if ← test? isMark bytes stop then
    let first := if ← test? isSign bytes (stop + 1) then stop + 2 else stop + 1
    let last ← skipDigits bytes first
    return if first < last then last else stop
  else return stop

/-- The index after the numeral that the bytes begin with. -/
def scan (bytes : List UInt8) : Option Nat := do
  let start := if ← test? isSign bytes 0 then 1 else 0
  let whole ← skipDigits bytes start
  let (stop, digits) ← scanFraction bytes start whole
  if digits then scanExponent bytes stop else return 0

/-- The text before a byte, which has to be the first one of a character. -/
def cut? (s : String) (i : Nat) : Option String :=
  if i ≤ s.utf8ByteSize then String.fromUTF8? (s.toUTF8.extract 0 i) else none

/-- The numeral that a text begins with after its blanks, by bytes. -/
def leading? (s : String) : Option String := do
  let t := String.ofList (Text.skipBlanks s.toList)
  cut? t (← scan t.toUTF8.data.toList)

/-! ## A text at an index -/

/-- The text from an index on. -/
def Stands (bytes : List UInt8) (i : Nat) (cs : List Char) : Prop :=
  i ≤ bytes.length ∧ bytes.drop i = cs.flatMap String.utf8EncodeChar

/-- Characters of one byte. -/
def Ascii (p : Char → Bool) : Prop := ∀ c, p c = true → c.toNat < 128

lemma utf8EncodeChar_of_lt {c : Char} (h : c.toNat < 128) :
    String.utf8EncodeChar c = [UInt8.ofNat c.toNat] :=
  if_pos (Nat.le_of_lt_succ h)

/-- A character of several bytes does not begin with that of a single one. -/
lemma utf8EncodeChar_of_le {c : Char} (h : 128 ≤ c.toNat) :
    ∃ b rest, String.utf8EncodeChar c = b :: rest ∧ 128 ≤ b.toNat := by
  have long : ¬ c.val.toNat ≤ 0x7f := Nat.not_le.mpr h
  have lead (n m : Nat) (hm : 128 ≤ m) (hn : n + m < 256) : 128 ≤ (UInt8.ofNat (n + m)).toNat := by
    rw [UInt8.toNat_ofNat_of_lt' hn]
    omega
  rw [String.utf8EncodeChar]
  simp only [if_neg long]
  split
  · exact ⟨_, _, rfl, lead _ 0xc0 (by decide) (by omega)⟩
  split
  · exact ⟨_, _, rfl, lead _ 0xe0 (by decide) (by omega)⟩
  · exact ⟨_, _, rfl, lead _ 0xf0 (by decide) (by omega)⟩

/-- What the first byte says of a character is what the character says. -/
lemma head?_utf8EncodeChar {p : Char → Bool} (h : Ascii p) (c : Char) (rest : List UInt8) :
    (String.utf8EncodeChar c ++ rest).head?.map (fun b => p (Char.ofUInt8 b)) = some (p c) := by
  rcases Nat.lt_or_ge c.toNat 128 with short | long
  · have same : Char.ofUInt8 (UInt8.ofNat c.toNat) = c := by
      apply Char.toNat_inj.mp
      change (UInt8.ofNat c.toNat).toNat = c.toNat
      exact UInt8.toNat_ofNat_of_lt' (Nat.lt_trans short (by decide))
    rw [utf8EncodeChar_of_lt short]
    simp [same]
  · obtain ⟨b, more, bytes, hb⟩ := utf8EncodeChar_of_le long
    have other : p c = false := Bool.eq_false_iff.mpr fun holds =>
      absurd (h c holds) (Nat.not_lt.mpr long)
    have none : p (Char.ofUInt8 b) = false := Bool.eq_false_iff.mpr fun holds =>
      absurd (h _ holds) (Nat.not_lt.mpr hb)
    rw [bytes, other]
    exact congrArg some none

lemma ascii_isDigit : Ascii isDigit := fun _ h =>
  Nat.lt_of_le_of_lt (isDigit_bounds h).2 (by decide)

lemma ascii_isSign : Ascii isSign := by
  intro c h
  rcases (isSign_iff c).mp h with rfl | rfl <;> decide

lemma ascii_isPoint : Ascii isPoint := by
  intro c h
  obtain rfl : c = '.' := by simpa [isPoint] using h
  decide

lemma ascii_isMark : Ascii isMark := by
  intro c h
  rcases (by simpa [isMark] using h : c = 'e' ∨ c = 'E') with rfl | rfl <;> decide

/-! ## Numerals are made of single bytes -/

lemma lt_of_mem_fraction {whole fraction : List Char}
    (h : fraction = [] ∨ Numeral.Fraction whole fraction) : ∀ c ∈ fraction, c.toNat < 128 := by
  rcases h with rfl | ⟨places, rfl, digits, -⟩
  · exact List.forall_mem_nil _
  · exact List.forall_mem_cons.mpr ⟨by decide, fun d hd => ascii_isDigit d (digits d hd)⟩

lemma lt_of_mem_optionalSign {sign : List Char} (h : OptionalSign sign) :
    ∀ c ∈ sign, c.toNat < 128 := by
  rcases h with rfl | ⟨c, hc, rfl⟩
  · exact List.forall_mem_nil _
  · exact List.forall_mem_singleton.mpr (ascii_isSign c hc)

lemma lt_of_mem_exponent {exponent : List Char}
    (h : exponent = [] ∨ Numeral.Exponent exponent) : ∀ c ∈ exponent, c.toNat < 128 := by
  rcases h with rfl | ⟨mark, sign, ds, rfl, hm, hs, hd⟩
  · exact List.forall_mem_nil _
  · refine List.forall_mem_cons.mpr ⟨ascii_isMark mark (by simpa [isMark] using hm), ?_⟩
    exact List.forall_mem_append.mpr
      ⟨lt_of_mem_optionalSign hs, fun d h => ascii_isDigit d (hd.2 d h)⟩

lemma lt_of_mem_text {n : Numeral} (wf : n.WellFormed) : ∀ c ∈ n.text, c.toNat < 128 := by
  simp only [Numeral.text, List.forall_mem_append]
  exact ⟨⟨⟨lt_of_mem_optionalSign wf.sign, fun d h => ascii_isDigit d (wf.mantissa.digits d h)⟩,
    lt_of_mem_fraction wf.mantissa.point⟩, lt_of_mem_exponent wf.exponent⟩

namespace Stands

variable {bytes : List UInt8} {i : Nat} {cs rest : List Char}

lemma start (cs : List Char) : Stands (cs.flatMap String.utf8EncodeChar) 0 cs :=
  ⟨Nat.zero_le _, List.drop_zero⟩

lemma lt_length {c : Char} (h : Stands bytes i (c :: rest)) : i < bytes.length := by
  refine Nat.lt_of_le_of_ne h.1 fun same => ?_
  have bare : String.utf8EncodeChar c ++ rest.flatMap String.utf8EncodeChar = [] := by
    rw [← List.flatMap_cons, ← h.2, same, List.drop_length]
  exact String.utf8EncodeChar_ne_nil (List.append_eq_nil_iff.mp bare).1

lemma eq_length (h : Stands bytes i []) : i = bytes.length :=
  Nat.le_antisymm h.1 (List.drop_eq_nil_iff.mp h.2)

lemma getElem? {p : Char → Bool} (hp : Ascii p) {c : Char} (h : Stands bytes i (c :: rest)) :
    bytes[i]?.map (fun b => p (Char.ofUInt8 b)) = some (p c) := by
  rw [← List.head?_drop, h.2, List.flatMap_cons, head?_utf8EncodeChar hp]

lemma test? {p : Char → Bool} (hp : Ascii p) (h : Stands bytes i cs) :
    Bytes.test? p bytes i = some (cs.head?.any p) := by
  rw [Bytes.test?]
  cases cs with
  | nil => rw [if_neg (Nat.not_lt.mpr (Nat.le_of_eq h.eq_length.symm))]; rfl
  | cons c rest => rw [if_pos h.lt_length, h.getElem? hp]; rfl

lemma next {c : Char} (short : c.toNat < 128) (h : Stands bytes i (c :: rest)) :
    Stands bytes (i + 1) rest := by
  refine ⟨h.lt_length, ?_⟩
  rw [← List.tail_drop, h.2, List.flatMap_cons, utf8EncodeChar_of_lt short]
  rfl

lemma skip {word : List Char} (short : ∀ c ∈ word, c.toNat < 128)
    (h : Stands bytes i (word ++ rest)) : Stands bytes (i + word.length) rest := by
  induction word generalizing i with
  | nil => exact h
  | cons c word ih =>
    obtain ⟨hc, more⟩ := List.forall_mem_cons.mp short
    rw [List.length_cons, Nat.add_comm word.length, ← Nat.add_assoc]
    exact ih more (h.next hc)

lemma skipDigits (h : Stands bytes i cs) :
    Bytes.skipDigits bytes i = some (i + (cs.takeWhile isDigit).length) := by
  induction cs generalizing i with
  | nil =>
    rw [Bytes.skipDigits, dif_neg (Nat.not_lt.mpr (Nat.le_of_eq h.eq_length.symm))]
    rfl
  | cons c rest ih =>
    obtain ⟨b, read, digit⟩ := Option.map_eq_some_iff.mp (h.getElem? ascii_isDigit)
    rw [Bytes.skipDigits, dif_pos h.lt_length, read, Option.bind_some, digit, List.takeWhile_cons]
    by_cases hd : isDigit c = true
    · rw [if_pos hd, if_pos hd, ih (h.next (ascii_isDigit c hd)), List.length_cons]
      congr 1
      omega
    · rw [if_neg hd, if_neg hd]
      rfl

lemma afterDigits (h : Stands bytes i cs) :
    Stands bytes (i + (cs.takeWhile isDigit).length) (cs.dropWhile isDigit) := by
  refine skip (fun c hc => ascii_isDigit c (List.mem_takeWhile_imp hc)) ?_
  rwa [List.takeWhile_append_dropWhile]

/-- A sign takes one byte or none. -/
lemma afterSign {sign tail : List Char} (split : takeSign cs = (sign, tail))
    (h : Stands bytes i cs) :
    i + sign.length = (if cs.head?.any isSign then i + 1 else i) ∧
      Stands bytes (i + sign.length) tail := by
  cases cs with
  | nil =>
    obtain ⟨rfl, rfl⟩ := Prod.mk.inj split
    exact ⟨rfl, h⟩
  | cons c rest =>
    by_cases hc : isSign c = true
    · obtain ⟨rfl, rfl⟩ := Prod.mk.inj ((if_pos hc).symm.trans split)
      exact ⟨(if_pos hc).symm, h.next (ascii_isSign c hc)⟩
    · obtain ⟨rfl, rfl⟩ := Prod.mk.inj ((if_neg hc).symm.trans split)
      exact ⟨(if_neg hc).symm, h⟩

lemma scanFraction {start : Nat} {whole : List Char} (h : Stands bytes (start + whole.length) cs) :
    Bytes.scanFraction bytes start (start + whole.length) =
      some (start + whole.length + (Numeral.scanFraction (!whole.isEmpty) cs).length,
        !(whole.isEmpty && (Numeral.scanFraction (!whole.isEmpty) cs).isEmpty)) := by
  have before : decide (start < start + whole.length) = !whole.isEmpty := by
    cases whole <;> simp
  rw [Bytes.scanFraction, h.test? ascii_isPoint]
  simp only [Option.bind_eq_bind, Option.bind_some, before]
  cases cs with
  | nil => simp [Numeral.scanFraction]
  | cons c rest =>
    rw [List.head?_cons, Option.any_some, Numeral.scanFraction]
    by_cases hc : c = '.'
    · subst hc
      have digits := (h.next (by decide)).skipDigits
      have after : decide (start + whole.length + 1 < start + whole.length + 1 +
          (rest.takeWhile isDigit).length) = !(rest.takeWhile isDigit).isEmpty := by
        cases rest.takeWhile isDigit <;> simp
      rw [if_pos (show isPoint '.' = true from rfl), digits, Option.bind_some, after]
      cases whole <;> cases rest.takeWhile isDigit <;> simp <;> omega
    · have other : isPoint c = false := by simpa [isPoint] using hc
      rw [other]
      simp [hc]

lemma scanExponent (h : Stands bytes i cs) :
    Bytes.scanExponent bytes i = some (i + (Numeral.scanExponent cs).length) := by
  rw [Bytes.scanExponent, h.test? ascii_isMark]
  simp only [Option.bind_eq_bind, Option.bind_some]
  cases cs with
  | nil => rfl
  | cons c rest =>
    cases split : takeSign rest with
    | mk sign tail =>
    rw [List.head?_cons, Option.any_some, Numeral.scanExponent]
    simp only [split]
    by_cases hm : isMark c = true
    · have next := h.next (ascii_isMark c hm)
      obtain ⟨first, stands⟩ := next.afterSign split
      rw [if_pos hm, next.test? ascii_isSign, Option.bind_some, ← first, stands.skipDigits]
      have mark : (decide (c = 'e') || decide (c = 'E')) = true := by simpa [isMark] using hm
      rw [mark]
      cases tail.takeWhile isDigit <;> simp; omega
    · have other : (decide (c = 'e') || decide (c = 'E')) = false := by simpa [isMark] using hm
      rw [if_neg hm, other]
      rfl

/-- The scan by bytes ends where the numeral does. -/
lemma scan (h : Stands bytes 0 cs) :
    Bytes.scan bytes = some (((Numeral.scan cs).map fun n => n.text.length).getD 0) := by
  cases split : takeSign cs with
  | mk sign tail =>
  obtain ⟨first, stands⟩ := h.afterSign split
  rw [Bytes.scan, h.test? ascii_isSign, Numeral.scan]
  have start : (if cs.head?.any isSign = true then 1 else 0) = sign.length := by
    simpa using first.symm
  rw [Nat.zero_add] at stands
  simp only [Option.bind_eq_bind, Option.bind_some, split, start, stands.skipDigits]
  have after := stands.afterDigits
  rw [after.scanFraction, Option.bind_some]
  obtain ⟨parts, rest, hf⟩ := Numeral.scanFraction_cases (tail.takeWhile isDigit)
    (tail.dropWhile isDigit)
  generalize Numeral.scanFraction _ (tail.dropWhile isDigit) = fraction at *
  cases none : (tail.takeWhile isDigit).isEmpty && fraction.isEmpty with
  | true => rfl
  | false =>
    rw [← hf] at after
    have stop := after.skip (lt_of_mem_fraction parts)
    rw [← hf, List.drop_left]
    change Bytes.scanExponent bytes _ = _
    rw [stop.scanExponent]
    simp [Numeral.text, Nat.add_assoc]

end Stands

/-! ## The cut -/

lemma cut?_append (s t : String) : cut? (s ++ t) s.utf8ByteSize = some s := by
  have first : (s ++ t).toUTF8.extract 0 s.utf8ByteSize = s.toByteArray := by
    rw [String.toUTF8_eq_toByteArray, String.toByteArray_append]
    exact ByteArray.extract_append_eq_left rfl
  rw [cut?, if_pos (by simp), first, String.fromUTF8?, dif_pos s.isValidUTF8]
  rfl

lemma bytes_ofList (cs : List Char) :
    (String.ofList cs).toUTF8.data.toList = cs.flatMap String.utf8EncodeChar := by
  simp [List.utf8Encode]

/-- Characters of one byte are counted by bytes. -/
lemma utf8ByteSize_ofList {cs : List Char} (short : ∀ c ∈ cs, c.toNat < 128) :
    (String.ofList cs).utf8ByteSize = cs.length := by
  have whole : Stands (cs.flatMap String.utf8EncodeChar) 0 (cs ++ []) := by
    rw [List.append_nil]
    exact Stands.start cs
  have length := (whole.skip short).eq_length
  rw [Nat.zero_add, ← bytes_ofList] at length
  exact length.symm

/-- Scanning by bytes never fails, and what is cut off is the numeral. -/
theorem leading?_eq (s : String) :
    leading? s = some (String.ofList
      (((Numeral.scan (Text.skipBlanks s.toList)).map Numeral.text).getD [])) := by
  have stop := (Stands.start (Text.skipBlanks s.toList)).scan
  rw [leading?, bytes_ofList, stop, Option.bind_eq_bind, Option.bind_some]
  cases found : Numeral.scan (Text.skipBlanks s.toList) with
  | none =>
    have cut := cut?_append "" (String.ofList (Text.skipBlanks s.toList))
    rwa [String.empty_append, String.utf8ByteSize_empty] at cut
  | some n =>
    obtain ⟨wf, rest, split⟩ := Numeral.of_scan found
    have cut := cut?_append (String.ofList n.text) (String.ofList rest)
    rwa [utf8ByteSize_ofList (lt_of_mem_text wf), ← String.ofList_append, split] at cut

end Bytes

end Clausal.Number
