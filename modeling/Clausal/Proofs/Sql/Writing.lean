import Clausal.Proofs.Sql.Percent
import Mathlib.Algebra.Ring.Nat

/-!
# What is written for each piece

A verbatim text is bound like the rest of a statement. If it has no percent sign, or ends in a
separator, no percent sign of it reads what follows, so it is bound as it is alone: the statement is
written piece by piece, and it is written at all if no verbatim text has a placeholder.
-/

namespace Clausal.Sql

/-! ## Texts that are bound alone -/

/-- What a text is bound to without arguments. With placeholders it stays as it is. -/
def settle (s : String) : String :=
  Fragment.bound { sql := s }

/-- No percent sign in the text reads what follows. -/
inductive Closed : String → Prop where
  | free {s : String} (h : PercentFree s) : Closed s
  | before (s : String) {t : String} (h : Separates t) : Closed (s ++ t)

lemma Separates.apart_append {t : String} (h : Separates t) (rest : List Char) :
    Apart (t.toList ++ rest) := by
  obtain ⟨c, cs, hc⟩ := List.exists_cons_of_ne_nil h.nonempty
  intro d hd
  refine h.apart d ?_
  simpa [hc] using hd

lemma placeholders_free {cs : List Char} (h : '%' ∉ cs) (rest : List Char) :
    placeholders (cs ++ rest) = placeholders rest := by
  induction cs with
  | nil => rfl
  | cons c cs ih =>
    obtain ⟨hc, hcs⟩ := not_or.mp (fun h' => h (List.mem_cons.mpr h'))
    rw [List.cons_append, placeholders_cons (Ne.symm hc), ih hcs]

lemma placeholders_of_free {cs : List Char} (h : '%' ∉ cs) : placeholders cs = 0 := by
  have count := placeholders_free h []
  rwa [List.append_nil] at count

/-- A text before a separator is counted alone. -/
lemma placeholders_before (s : List Char) {t : String} (h : Separates t) (rest : List Char) :
    placeholders (s ++ (t.toList ++ rest)) = placeholders s + placeholders rest := by
  rw [placeholders_append (h.apart_append rest), placeholders_free h.percent]

lemma settle_of_binds {s : String} {out : List Char} (h : Binds s.toList [] out) :
    settle s = String.ofList out := by
  have bound := h.bind_eq
  rw [String.ofList_toList] at bound
  rw [settle, Fragment.bound, bound]

lemma settle_of_free {s : String} (h : PercentFree s) : settle s = s := by
  rw [settle_of_binds (inert_of_percentFree h).binds, String.ofList_toList]

lemma settle_of_placeholders {s : String} (h : placeholders s.toList ≠ 0) : settle s = s := by
  rw [settle, Fragment.bound, bind, if_neg (by simpa using h)]

/-- Around a text, texts without percent signs count nothing. -/
lemma placeholders_around {s t : String} (hs : PercentFree s) (ht : Separates t) (middle : String) :
    placeholders (s ++ middle ++ t).toList = placeholders middle.toList := by
  have alone := placeholders_before middle.toList ht []
  simp only [List.append_nil] at alone
  rw [String.append_assoc, String.toList_append, String.toList_append, placeholders_free hs, alone]
  rfl

/-- Around a text that is settled, they stay. -/
lemma settle_around {s t : String} (hs : PercentFree s) (ht : Separates t) (middle : String) :
    settle (s ++ middle ++ t) = s ++ settle middle ++ t := by
  by_cases silent : placeholders middle.toList = 0
  · obtain ⟨out, alone⟩ := exists_binds middle.toList [] silent
    have after := alone.append (inert_of_percentFree ht.percent).binds ht.apart
    have around : Binds (s ++ middle ++ t).toList [] (s.toList ++ (out ++ t.toList)) := by
      simpa only [String.toList_append, List.append_assoc, List.append_nil]
        using after.text_append hs
    rw [settle_of_binds around, settle_of_binds alone]
    simp only [String.ofList_append, String.ofList_toList, String.append_assoc]
  · have speaks := (placeholders_around hs ht middle).symm ▸ silent
    rw [settle_of_placeholders silent, settle_of_placeholders speaks]

/-- Texts are written so that texts without percent signs stay, also around others. -/
structure Keeps (rewrite : String → String) : Prop where
  free : ∀ {s}, PercentFree s → rewrite s = s
  around : ∀ {s t}, PercentFree s → Separates t → ∀ middle,
    rewrite (s ++ middle ++ t) = s ++ rewrite middle ++ t

lemma keeps_id : Keeps id where
  free _ := rfl
  around _ _ _ := rfl

lemma keeps_settle : Keeps settle where
  free := settle_of_free
  around := settle_around

/-! ## Closed texts in front -/

namespace Closed

variable {s : String}

lemma placeholders_append (h : Closed s) (rest : List Char) :
    placeholders (s.toList ++ rest) = placeholders s.toList + placeholders rest := by
  cases h with
  | free h => rw [placeholders_free h, placeholders_of_free h, Nat.zero_add]
  | before s h =>
    have alone := placeholders_before s.toList h []
    rw [List.append_nil] at alone
    rw [String.toList_append, List.append_assoc, placeholders_before s.toList h, alone]
    rfl

/-- A closed text without placeholders is settled before everything. -/
lemma binds_append (h : Closed s) (silent : placeholders s.toList = 0) {part out : List Char}
    {args : List Value} (hp : Binds part args out) :
    Binds (s.toList ++ part) args ((settle s).toList ++ out) := by
  cases h with
  | free h =>
    rw [settle_of_free h]
    exact hp.text_append h
  | @before s t h =>
    have alone := placeholders_before s.toList h []
    rw [List.append_nil, ← String.toList_append, silent] at alone
    obtain ⟨out', binds⟩ := exists_binds s.toList [] (Nat.eq_zero_of_add_eq_zero_right alone.symm)
    have settled := settle_around (s := "") (by decide) h s
    rw [String.empty_append, String.empty_append, settle_of_binds binds] at settled
    have whole := binds.append (hp.text_append h.percent) (h.apart_append part)
    rw [settled]
    simpa only [String.toList_append, String.toList_ofList, List.append_assoc, List.nil_append]
      using whole

end Closed

/-! ## Closed pieces -/

namespace Piece

/-- A closed text, or a place for a value or a count. -/
def Closed : Piece → Prop
  | .text s => Sql.Closed s
  | .value _ | .count _ => True
  | .fragment _ => False

/-- The text of a piece, where verbatim texts are rewritten. -/
def write (rewrite : String → String) : Piece → String
  | .text s => rewrite s
  | .value v => Placeholder.literal.write v
  | .count n => Placeholder.integer.write (Value.ofUnsigned n)
  | .fragment f => f.bound

@[simp] lemma write_text (rewrite : String → String) (s : String) :
    (text s).write rewrite = rewrite s := rfl

/-- The placeholders that are not for a value of the piece. -/
def surplus : Piece → Nat
  | .text s => placeholders s.toList
  | _ => 0

end Piece

/-- The text of pieces. -/
def written (rewrite : String → String) (pieces : List Piece) : String :=
  String.join (pieces.map (Piece.write rewrite))

section Written

variable (rewrite : String → String) (ps qs : List Piece)

@[simp] lemma written_nil : written rewrite [] = "" := rfl

@[simp] lemma written_cons (p : Piece) :
    written rewrite (p :: ps) = p.write rewrite ++ written rewrite ps := by
  simp [written]

@[simp] lemma written_append :
    written rewrite (ps ++ qs) = written rewrite ps ++ written rewrite qs := by
  simp [written]

lemma written_join (separator : String) (parts : List (List Piece)) :
    written rewrite (Piece.join separator parts) =
      (rewrite separator).intercalate (parts.map (written rewrite)) := by
  induction parts using Piece.join.induct with
  | case1 => rfl
  | case2 part => simp [Piece.join]
  | case3 part parts hne ih =>
    obtain ⟨next, rest, rfl⟩ := List.exists_cons_of_ne_nil hne
    simp only [Piece.join, written_append, written_cons, ih, Piece.write_text, List.map_cons,
      String.intercalate_cons_cons, String.append_assoc]

end Written

variable {ps : List Piece}

lemma placeholders_pieces (closed : ∀ p ∈ ps, p.Closed) :
    placeholders (Rendering.placeholder.chars ps) =
      (arguments ps).length + (ps.map Piece.surplus).sum := by
  induction ps with
  | nil => rfl
  | cons p ps ih =>
    rw [List.forall_mem_cons] at closed
    have tail := ih closed.2
    rw [Rendering.chars_cons, arguments_cons, List.length_append, List.map_cons, List.sum_cons]
    cases p with
    | text s =>
      have head : Closed s := closed.1
      rw [Rendering.piece, head.placeholders_append, tail]
      simp only [Piece.args, Piece.surplus, List.length_nil]
      omega
    | value v =>
      have head : placeholders (Rendering.placeholder.piece (.value v) ++
          Rendering.placeholder.chars ps) =
          1 + placeholders (Rendering.placeholder.chars ps) := rfl
      rw [head, tail]
      simp only [Piece.args, Piece.surplus, List.length_singleton]
      omega
    | count n =>
      have head : placeholders (Rendering.placeholder.piece (.count n) ++
          Rendering.placeholder.chars ps) =
          1 + placeholders (Rendering.placeholder.chars ps) := rfl
      rw [head, tail]
      simp only [Piece.args, Piece.surplus, List.length_singleton]
      omega
    | fragment f => exact closed.1.elim

lemma binds_written (closed : ∀ p ∈ ps, p.Closed) (silent : ∀ p ∈ ps, p.surplus = 0) :
    Binds (Rendering.placeholder.chars ps) (arguments ps) (written settle ps).toList := by
  induction ps with
  | nil => exact .nil
  | cons p ps ih =>
    rw [List.forall_mem_cons] at closed silent
    have tail := ih closed.2 silent.2
    rw [written_cons, String.toList_append]
    cases p with
    | text s => exact Closed.binds_append closed.1 silent.1 tail
    | value v => exact .placeholder_cons rfl v tail
    | count n => exact .placeholder_cons rfl (Value.ofUnsigned n) tail
    | fragment f => exact closed.1.elim

/-- Closed pieces are bound exactly if no verbatim text has a placeholder, and then each is written
by itself. -/
theorem bind_template_eq_ok_iff (closed : ∀ p ∈ ps, p.Closed) {text : String} :
    bind (template ps) (arguments ps) = .ok text ↔
      (∀ p ∈ ps, p.surplus = 0) ∧ text = written settle ps := by
  have count := placeholders_pieces closed
  by_cases silent : ∀ p ∈ ps, p.surplus = 0
  · have bound := (binds_written closed silent).bind_eq
    rw [← toList_template, String.ofList_toList, String.ofList_toList] at bound
    rw [bound]
    constructor
    · intro h
      exact ⟨silent, (Except.ok.inj h).symm⟩
    · rintro ⟨_, rfl⟩
      rfl
  · refine iff_of_false (fun h => ?_) fun h => silent h.1
    have more : placeholders (template ps).toList ≠ (arguments ps).length := by
      rw [toList_template, count]
      intro same
      have none : (ps.map Piece.surplus).sum = 0 := by omega
      exact silent (List.forall_mem_map.mp (List.sum_eq_zero_iff_forall_eq_nat.mp none))
    rw [bind, if_neg more] at h
    cases h

/-- Closed pieces without arguments are texts. -/
lemma template_of_no_arguments (closed : ∀ p ∈ ps, p.Closed) (none : arguments ps = []) :
    template ps = written id ps := by
  have each : ∀ p ∈ ps, p.template = p.write id := by
    intro p hp
    have own : p.args = [] := List.flatMap_eq_nil_iff.mp none p hp
    cases p with
    | text s => rfl
    | value v => cases own
    | count n => cases own
    | fragment f => exact (closed _ hp).elim
  rw [template, written, List.map_congr_left each]

end Clausal.Sql
