import Clausal.Proofs.Number.Bytes
import Clausal.Proofs.Number.Reading
import Clausal.Value

/-!
# The number a text begins with

A text is read as a number by the longest numeral that stands at its start, after blanks. No other
part of the text has a say in it, and a text that begins with no numeral is zero.
-/

namespace Clausal.Value

open Number

/-- The numeral a text begins with, as written; nothing if there is none. -/
def leadingText (s : String) : List Char := ((leadingNumeral s).map Numeral.text).getD []

lemma toInt_text (s : String) :
    toInt (.text s) = ((leadingNumeral s).map Numeral.toSigned).getD 0 := by
  dsimp only [toInt]
  cases leadingNumeral s <;> rfl

lemma toFloat_text (s : String) :
    toFloat (.text s) = ((leadingNumeral s).map Numeral.toBinary64).getD Binary64.zero := by
  dsimp only [toFloat]
  cases leadingNumeral s <;> rfl

/-- The longest word of the grammar of numerals at the start of a text; nothing if none is there. -/
structure Longest (t w : List Char) : Prop where
  start : w <+: t
  numeral : w ≠ [] → w ∈ Numeral.grammar.matches'
  longest : ∀ v ∈ Numeral.grammar.matches', v <+: t → v <+: w
  empty : w = [] ↔ ∀ v ∈ Numeral.grammar.matches', ¬ v <+: t

/-- What the scan takes off a text is the longest numeral at its start. -/
lemma scan_longest (t : List Char) : Longest t (((Numeral.scan t).map Numeral.text).getD []) := by
  cases found : Numeral.scan t with
  | none =>
    have absent : ∀ v ∈ Numeral.grammar.matches', ¬ v <+: t := by
      intro v mem start
      obtain ⟨n, wf, rfl⟩ := Numeral.mem_grammar.mp mem
      obtain ⟨m, some, -⟩ := Numeral.exists_scan wf start
      rw [found] at some
      cases some
    exact ⟨List.nil_prefix, absurd rfl, fun v mem start => absurd start (absent v mem),
      fun _ => absent, fun _ => rfl⟩
  | some n =>
    obtain ⟨wf, start⟩ := Numeral.of_scan found
    have numeral : n.text ∈ Numeral.grammar.matches' := Numeral.mem_grammar.mpr ⟨n, wf, rfl⟩
    refine ⟨start, fun _ => numeral, fun v mem begins => ?_, fun none => ?_, fun absent => ?_⟩
    · obtain ⟨m, shorter, rfl⟩ := Numeral.mem_grammar.mp mem
      obtain ⟨whole, some, prefixed⟩ := Numeral.exists_scan shorter begins
      obtain rfl := Option.some.inj (found.symm.trans some)
      exact prefixed
    · exact absurd none wf.text_ne_nil
    · exact absurd start (absent n.text numeral)

/-- A text is worth what the readers of whole texts make of its leading numeral. The one of binary64
numbers takes it whenever there is one, so that only a text without a numeral falls back to zero. -/
theorem leadingText_longest (s : String) :
    Longest (Text.skipBlanks s.toList) (leadingText s) ∧
      Bytes.leading? s = some (String.ofList (leadingText s)) ∧
      (readBinary64? (leadingText s) = none ↔ leadingText s = []) ∧
      toFloat (.text s) = (readBinary64? (leadingText s)).getD Binary64.zero ∧
      toInt (.text s) =
        if leadingText s = [] then 0
        else (readSigned? (leadingText s)).getD
          (((readBinary64? (leadingText s)).map Binary64.truncate).getD 0) := by
  have longest := scan_longest (Text.skipBlanks s.toList)
  have cut := Bytes.leading?_eq s
  refine ⟨longest, cut, ?_⟩
  rw [toFloat_text, toInt_text]
  cases found : leadingNumeral s with
  | none =>
    have text : leadingText s = [] := by rw [leadingText, found]; rfl
    have refused : readBinary64? [] = none := rfl
    rw [text, refused]
    exact ⟨iff_of_true rfl rfl, rfl, (if_pos rfl).symm⟩
  | some n =>
    obtain ⟨wf, -⟩ := Numeral.of_scan found
    have text : leadingText s = n.text := by rw [leadingText, found]; rfl
    rw [text, Numeral.readBinary64?_text wf, Numeral.readSigned?_text wf, if_neg wf.text_ne_nil]
    refine ⟨iff_of_false nofun wf.text_ne_nil, rfl, ?_⟩
    change n.toSigned = _
    unfold Numeral.toSigned
    cases n.integer?.bind signed? <;> rfl

example : leadingText "  -5.e3km" = "-5.e3".toList ∧ leadingText "+.5e+" = "+.5".toList ∧
    leadingText ".e1" = [] := by decide

end Clausal.Value
