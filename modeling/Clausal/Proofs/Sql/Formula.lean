import Clausal.Proofs.Sql.Lexer
import Clausal.Text.LetterCase
import Mathlib.Data.List.Infix
import Mathlib.Tactic.Lemma

/-!
# Boolean expressions

How SQL reads a boolean expression: brackets bind tightest, then NOT, AND and OR. What stands
between the connectives is an atom, whatever it is made of; the AND that belongs to a BETWEEN, and
all that stands in brackets or between CASE and END, does not end an atom. A text is read in one way
at most. A formula is true, false or unknown, as in SQL.
-/

namespace Clausal.Sql

/-! ## What is open -/

/-- The token is a keyword, in any letter case. -/
def Token.isWord (keyword : String) : Token → Bool
  | .word w => Text.equalIgnoringCase w keyword
  | _ => false

lemma Token.isWord_eq_false {t : Token} {keyword other : String} (h : t.isWord keyword = true)
    (different : Text.equalIgnoringCase keyword other = false) : t.isWord other = false := by
  cases t with
  | word w =>
    simp only [isWord, Text.equalIgnoringCase, beq_iff_eq, beq_eq_false_iff_ne] at h different ⊢
    rwa [h]
  | _ => cases h

/-- A bracket, a CASE up to its END, or a BETWEEN up to its AND. -/
inductive Opened where
  | bracket
  | case
  | between
  deriving DecidableEq

namespace Opened

/-- What the token opens. -/
def opening (t : Token) : Option Opened :=
  if t = .sign '(' then some .bracket
  else if t.isWord "CASE" then some .case
  else if t.isWord "BETWEEN" then some .between
  else none

/-- What the token closes, if it is the last that was opened. -/
def closing (t : Token) : Option Opened :=
  if t = .sign ')' then some .bracket
  else if t.isWord "END" then some .case
  else if t.isWord "AND" then some .between
  else none

/-- What is open behind a token. A closing bracket has to close one. -/
def step (s : List Opened) (t : Token) : Option (List Opened) :=
  match opening t, closing t with
  | some o, _ => some (o :: s)
  | none, none => some s
  | none, some o =>
    if s.head? = some o then some s.tail else if o = .bracket then none else some s

def scan (s : List Opened) (ts : List Token) : Option (List Opened) :=
  ts.foldlM step s

@[simp] lemma scan_nil (s : List Opened) : scan s [] = some s := rfl

@[simp] lemma scan_cons (s : List Opened) (t : Token) (ts : List Token) :
    scan s (t :: ts) = (step s t).bind fun s' => scan s' ts :=
  List.foldlM_cons

lemma scan_append (s : List Opened) (a b : List Token) :
    scan s (a ++ b) = (scan s a).bind fun s' => scan s' b :=
  List.foldlM_append

/-- Inside a bracket the same is open as without it, and the bracket. -/
lemma step_bracket {s s' : List Opened} {t : Token} (h : step s t = some s') :
    step (s ++ [.bracket]) t = some (s' ++ [.bracket]) := by
  rw [step] at h ⊢
  cases hopen : opening t with
  | some o =>
    rw [hopen] at h
    obtain rfl := Option.some.inj h
    rfl
  | none =>
    rw [hopen] at h
    cases hclose : closing t with
    | none =>
      rw [hclose] at h
      obtain rfl := Option.some.inj h
      rfl
    | some o =>
      simp only [hclose] at h ⊢
      cases s with
      | nil => cases o <;> simp_all
      | cons other s =>
        by_cases last : other = o
        · simp_all
        · have kept : ¬ (other :: s).head? = some o := fun same => last (Option.some.inj same)
          have kept' : ¬ (other :: s ++ [bracket]).head? = some o := kept
          rw [if_neg kept] at h
          rw [if_neg kept']
          split at h
          · cases h
          · next inner =>
            obtain rfl := Option.some.inj h
            exact if_neg inner

lemma scan_bracket {s s' : List Opened} {ts : List Token} (h : scan s ts = some s') :
    scan (s ++ [.bracket]) ts = some (s' ++ [.bracket]) := by
  induction ts generalizing s with
  | nil =>
    obtain rfl := Option.some.inj h
    rfl
  | cons t ts ih =>
    rw [scan_cons] at h ⊢
    obtain ⟨next, first, rest⟩ := Option.bind_eq_some_iff.mp h
    rw [step_bracket first]
    exact ih rest

/-- A keyword that neither opens nor closes anything, where nothing is open. -/
lemma step_of_word {t : Token} {keyword : String} (h : t.isWord keyword = true)
    (case : Text.equalIgnoringCase keyword "CASE" = false)
    (between : Text.equalIgnoringCase keyword "BETWEEN" = false) : step [] t = some [] := by
  cases t with
  | word w =>
    have opens : opening (.word w) = none := by
      simp [opening, Token.isWord_eq_false h case, Token.isWord_eq_false h between]
    rw [step, opens]
    cases hclose : closing (.word w) with
    | none => rfl
    | some o =>
      cases o with
      | bracket =>
        rw [closing, if_neg nofun] at hclose
        split_ifs at hclose <;> cases hclose
      | case => rfl
      | between => rfl
  | _ => cases h

end Opened

open Opened

/-- All that is opened is closed again. -/
def Balanced (ts : List Token) : Prop := scan [] ts = some []

instance (ts : List Token) : Decidable (Balanced ts) :=
  inferInstanceAs (Decidable (_ = _))

namespace Balanced

variable {a b ts : List Token}

lemma nil : Balanced [] := rfl

lemma append_iff (ha : Balanced a) : Balanced (a ++ b) ↔ Balanced b := by
  rw [Balanced, scan_append, show scan [] a = some [] from ha]
  rfl

lemma cons_iff {t : Token} (ht : step [] t = some []) : Balanced (t :: ts) ↔ Balanced ts := by
  rw [Balanced, scan_cons, ht]
  rfl

lemma bracket (h : Balanced ts) : Balanced (.sign '(' :: (ts ++ [.sign ')'])) := by
  have inner : scan [.bracket] ts = some [.bracket] := scan_bracket h
  rw [Balanced, scan_cons, show step [] (.sign '(') = some [.bracket] from rfl, Option.bind_some,
    scan_append, inner]
  rfl

end Balanced

/-- No such token stands outside of what is open. -/
def Lacks (p : Token → Bool) (ts : List Token) : Prop :=
  ∀ a t b, ts = a ++ t :: b → Balanced a → p t = false

namespace Lacks

variable {p : Token → Bool} {a b ts : List Token} {t : Token}

lemma cons (ht : step [] t = some []) (hp : p t = false) (h : Lacks p ts) :
    Lacks p (t :: ts) := by
  intro front u back split balanced
  cases front with
  | nil =>
    obtain ⟨rfl, rfl⟩ := List.cons.inj split
    exact hp
  | cons v front =>
    obtain ⟨rfl, rfl⟩ := List.cons.inj split
    exact h front u back rfl ((Balanced.cons_iff ht).mp balanced)

lemma append (ha : Balanced a) (fa : Lacks p a) (fb : Lacks p b) : Lacks p (a ++ b) := by
  intro front u back split balanced
  rcases List.append_eq_append_iff.mp split with ⟨m, rfl, rest⟩ | ⟨m, rfl, rest⟩
  · exact fb m u back rest ((Balanced.append_iff ha).mp balanced)
  · cases m with
    | nil => exact fb [] u back rest.symm Balanced.nil
    | cons v m =>
      obtain ⟨rfl, _⟩ := List.cons.inj rest
      exact fa front u m rfl balanced

/-- Nothing in a bracket is outside of it. -/
lemma bracket (h : Balanced ts) (opening : p (.sign '(') = false)
    (closing : p (.sign ')') = false) : Lacks p (.sign '(' :: (ts ++ [.sign ')'])) := by
  intro front u back split balanced
  cases front with
  | nil =>
    obtain ⟨rfl, _⟩ := List.cons.inj split
    exact opening
  | cons v front =>
    obtain ⟨rfl, inner⟩ := List.cons.inj split
    have inside : scan [.bracket] front = some [] := balanced
    rcases List.append_eq_append_iff.mp inner with ⟨m, rfl, rest⟩ | ⟨m, rfl, rest⟩
    · cases m with
      | nil =>
        obtain ⟨rfl, _⟩ := List.cons.inj rest
        exact closing
      | cons w m =>
        have none := (List.cons.inj rest).2
        simp at none
    · -- in front of the token at least the bracket is still open
      obtain ⟨s, opened, _⟩ := Option.bind_eq_some_iff.mp ((scan_append [] front m).symm.trans h)
      have still := scan_bracket opened
      rw [List.nil_append, inside] at still
      simp at still

end Lacks

/-! ## Expressions -/

/-- A connective comes next, in words or in signs. -/
def connects : List Token → Bool
  | .sign a :: .sign b :: _ => a = b && (a = '|' || a = '&')
  | t :: _ => t.isWord "AND" || t.isWord "OR" || t.isWord "XOR"
  | [] => false

lemma connects_of_word {t : Token} (h : t.isWord "AND" = true ∨ t.isWord "OR" = true)
    (ts : List Token) : connects (t :: ts) = true := by
  cases t with
  | word w =>
    rw [connects]
    · rcases h with and | or
      · rw [and, Bool.true_or, Bool.true_or]
      · rw [or, Bool.or_true, Bool.true_or]
    · nofun
  | _ => rcases h with and | or <;> contradiction

/-- What has no connective outside of what is open. A query in brackets is one as well. -/
structure Atom (ts : List Token) : Prop where
  head : ts.head?.any (fun t => !t.isWord "NOT" && !t.isWord "SELECT") = true
  balanced : Balanced ts
  simple : ∀ i < ts.length, Balanced (ts.take i) → connects (ts.drop i) = false
  bracket : ts = .sign '(' :: (ts.tail.dropLast ++ [.sign ')']) → Balanced ts.tail.dropLast →
    ts.tail.head?.any (Token.isWord "SELECT") = true

instance (ts : List Token) : Decidable (Atom ts) :=
  decidable_of_iff
    (ts.head?.any (fun t => !t.isWord "NOT" && !t.isWord "SELECT") = true ∧ Balanced ts ∧
      (∀ i < ts.length, Balanced (ts.take i) → connects (ts.drop i) = false) ∧
      (ts = .sign '(' :: (ts.tail.dropLast ++ [.sign ')']) → Balanced ts.tail.dropLast →
        ts.tail.head?.any (Token.isWord "SELECT") = true))
    ⟨fun h => ⟨h.1, h.2.1, h.2.2.1, h.2.2.2⟩, fun h => ⟨h.1, h.2, h.3, h.4⟩⟩

inductive Formula where
  | atom (ts : List Token)
  | not (f : Formula)
  | and (f g : Formula)
  | or (f g : Formula)
  | group (f : Formula)

inductive Rank where
  | operand
  | term
  | expression

/-- Terms are joined by OR, and operands to terms by AND. -/
inductive Reads : Rank → List Token → Formula → Prop where
  | atom {ts : List Token} (atom : Atom ts) : Reads .operand ts (.atom ts)
  | not {t : Token} {ts : List Token} {f : Formula} (word : t.isWord "NOT" = true)
      (inner : Reads .operand ts f) : Reads .operand (t :: ts) (.not f)
  | group {ts : List Token} {f : Formula} (inner : Reads .expression ts f) :
      Reads .operand (.sign '(' :: (ts ++ [.sign ')'])) (.group f)
  | operand {ts : List Token} {f : Formula} (only : Reads .operand ts f) : Reads .term ts f
  | and {t : Token} {ts us : List Token} {f g : Formula} (word : t.isWord "AND" = true)
      (first : Reads .operand ts f) (rest : Reads .term us g) :
      Reads .term (ts ++ t :: us) (.and f g)
  | term {ts : List Token} {f : Formula} (only : Reads .term ts f) : Reads .expression ts f
  | or {t : Token} {ts us : List Token} {f g : Formula} (word : t.isWord "OR" = true)
      (first : Reads .term ts f) (rest : Reads .expression us g) :
      Reads .expression (ts ++ t :: us) (.or f g)

/-! ## One reading -/

lemma Atom.lacks {ts : List Token} (h : Atom ts) {p : Token → Bool}
    (word : ∀ t, p t = true → t.isWord "AND" = true ∨ t.isWord "OR" = true) : Lacks p ts := by
  rintro a t b rfl balanced
  refine Bool.eq_false_iff.mpr fun found => ?_
  have simple := h.simple a.length (by simp) (by simpa using balanced)
  rw [List.drop_left, connects_of_word (word t found)] at simple
  cases simple

lemma step_and {t : Token} (h : t.isWord "AND" = true) : step [] t = some [] :=
  step_of_word h (by decide) (by decide)

lemma step_or {t : Token} (h : t.isWord "OR" = true) : step [] t = some [] :=
  step_of_word h (by decide) (by decide)

lemma step_not {t : Token} (h : t.isWord "NOT" = true) : step [] t = some [] :=
  step_of_word h (by decide) (by decide)

namespace Reads

variable {r : Rank} {ts : List Token} {f g : Formula}

lemma balanced (h : Reads r ts f) : Balanced ts := by
  induction h with
  | atom atom => exact atom.balanced
  | not word _ ih => exact (Balanced.cons_iff (step_not word)).mpr ih
  | group _ ih => exact ih.bracket
  | operand _ ih => exact ih
  | and word _ _ ihf ihg =>
    exact (Balanced.append_iff ihf).mpr ((Balanced.cons_iff (step_and word)).mpr ihg)
  | term _ ih => exact ih
  | or word _ _ ihf ihg =>
    exact (Balanced.append_iff ihf).mpr ((Balanced.cons_iff (step_or word)).mpr ihg)

/-- Only a query begins with SELECT. -/
lemma head (h : Reads r ts f) : ∃ t us, ts = t :: us ∧ t.isWord "SELECT" = false := by
  induction h with
  | @atom ts atom =>
    have head := atom.head
    cases ts with
    | nil => cases head
    | cons t us =>
      simp only [List.head?_cons, Option.any_some, Bool.and_eq_true, Bool.not_eq_true'] at head
      exact ⟨t, us, rfl, head.2⟩
  | not word _ _ => exact ⟨_, _, rfl, Token.isWord_eq_false word (by decide)⟩
  | group _ _ => exact ⟨_, _, rfl, rfl⟩
  | operand _ ih => exact ih
  | and _ _ _ ihf _ =>
    obtain ⟨t, us, rfl, head⟩ := ihf
    exact ⟨t, _, rfl, head⟩
  | term _ ih => exact ih
  | or _ _ _ ihf _ =>
    obtain ⟨t, us, rfl, head⟩ := ihf
    exact ⟨t, _, rfl, head⟩

/-- A connective of its own rank or of a wider one does not occur in what is read. -/
lemma lacks (h : Reads r ts f) :
    match r with
    | .operand => Lacks (Token.isWord "AND") ts ∧ Lacks (Token.isWord "OR") ts
    | .term => Lacks (Token.isWord "OR") ts
    | .expression => True := by
  induction h with
  | atom atom =>
    exact ⟨atom.lacks fun _ => Or.inl, atom.lacks fun _ => Or.inr⟩
  | not word _ ih =>
    exact ⟨ih.1.cons (step_not word) (Token.isWord_eq_false word (by decide)),
      ih.2.cons (step_not word) (Token.isWord_eq_false word (by decide))⟩
  | group inner _ => exact ⟨.bracket inner.balanced rfl rfl, .bracket inner.balanced rfl rfl⟩
  | operand _ ih => exact ih.2
  | and word first _ ihf ihg =>
    exact .append first.balanced ihf.2
      (ihg.cons (step_and word) (Token.isWord_eq_false word (by decide)))
  | term _ _ => trivial
  | or _ _ _ _ _ => trivial

/-! The last rule of a reading. -/

lemma operand_cases (h : Reads .operand ts f) :
    (Atom ts ∧ f = .atom ts) ∨
      (∃ t us g, ts = t :: us ∧ t.isWord "NOT" = true ∧ Reads .operand us g ∧ f = .not g) ∨
      ∃ us g, ts = .sign '(' :: (us ++ [.sign ')']) ∧ Reads .expression us g ∧ f = .group g := by
  cases h with
  | atom atom => exact Or.inl ⟨atom, rfl⟩
  | not word inner => exact Or.inr (Or.inl ⟨_, _, _, rfl, word, inner, rfl⟩)
  | group inner => exact Or.inr (Or.inr ⟨_, _, rfl, inner, rfl⟩)

lemma term_cases (h : Reads .term ts f) :
    Reads .operand ts f ∨ ∃ a t b g k, ts = a ++ t :: b ∧ t.isWord "AND" = true ∧
      Reads .operand a g ∧ Reads .term b k ∧ f = .and g k := by
  cases h with
  | operand only => exact Or.inl only
  | and word first rest => exact Or.inr ⟨_, _, _, _, _, rfl, word, first, rest, rfl⟩

lemma expression_cases (h : Reads .expression ts f) :
    Reads .term ts f ∨ ∃ a t b g k, ts = a ++ t :: b ∧ t.isWord "OR" = true ∧
      Reads .term a g ∧ Reads .expression b k ∧ f = .or g k := by
  cases h with
  | term only => exact Or.inl only
  | or word first rest => exact Or.inr ⟨_, _, _, _, _, rfl, word, first, rest, rfl⟩

end Reads

/-- The first connective is where a text is split. -/
lemma Lacks.split_unique {p : Token → Bool} {a b a' b' : List Token} {t t' : Token}
    (ha : Balanced a) (ha' : Balanced a') (fa : Lacks p a) (fa' : Lacks p a') (ht : p t = true)
    (ht' : p t' = true) (same : a ++ t :: b = a' ++ t' :: b') : a = a' ∧ b = b' := by
  rcases List.append_eq_append_iff.mp same with ⟨m, rfl, rest⟩ | ⟨m, rfl, rest⟩
  · cases m with
    | nil => exact ⟨(List.append_nil a).symm, (List.cons.inj rest).2⟩
    | cons u m =>
      obtain ⟨rfl, _⟩ := List.cons.inj rest
      cases ht.symm.trans (fa' a t m rfl ha)
  · cases m with
    | nil => exact ⟨List.append_nil a', (List.cons.inj rest).2.symm⟩
    | cons u m =>
      obtain ⟨rfl, _⟩ := List.cons.inj rest
      cases ht'.symm.trans (fa a' t' m rfl ha')

lemma Atom.not_bracket {us : List Token} {g : Formula}
    (h : Atom (.sign '(' :: (us ++ [.sign ')']))) (inner : Reads .expression us g) : False := by
  have query := h.bracket (by simp) (by simpa using inner.balanced)
  obtain ⟨t, rest, rfl, head⟩ := inner.head
  have query : t.isWord "SELECT" = true := by simpa using query
  cases head.symm.trans query

lemma Atom.not_word {t : Token} {us : List Token} (h : Atom (t :: us))
    (word : t.isWord "NOT" = true) : False := by
  have head := h.head
  simp [word] at head

/-- A text has one reading of each rank at most. -/
theorem Reads.unique {r : Rank} {ts : List Token} {f g : Formula} (h : Reads r ts f)
    (h' : Reads r ts g) : f = g := by
  -- both readings split the text at its first connective of the rank, if it has one
  induction h generalizing g with
  | atom atom =>
    rcases h'.operand_cases with ⟨_, rfl⟩ | ⟨t, us, k, rfl, word, _, _⟩ | ⟨us, k, rfl, inner, _⟩
    · rfl
    · exact (atom.not_word word).elim
    · exact (atom.not_bracket inner).elim
  | not word _ ih =>
    rcases h'.operand_cases with ⟨atom, _⟩ | ⟨t, us, k, same, _, inner, rfl⟩ | ⟨us, k, same, _, _⟩
    · exact (atom.not_word word).elim
    · obtain ⟨rfl, rfl⟩ := List.cons.inj same
      rw [ih inner]
    · obtain ⟨rfl, _⟩ := List.cons.inj same
      cases word
  | group inner ih =>
    rcases h'.operand_cases with
      ⟨atom, _⟩ | ⟨t, us, k, same, word, _, _⟩ | ⟨us, k, same, other, rfl⟩
    · exact (atom.not_bracket inner).elim
    · obtain ⟨rfl, _⟩ := List.cons.inj same
      cases word
    · obtain rfl := List.append_cancel_right (List.cons.inj same).2
      rw [ih other]
  | operand only ih =>
    rcases h'.term_cases with other | ⟨a, t, b, k, l, rfl, word, first, _, _⟩
    · exact ih other
    · cases word.symm.trans (only.lacks.1 a t b rfl first.balanced)
  | and word first rest ihf ihg =>
    rcases h'.term_cases with other | ⟨a, t, b, k, l, same, word', first', rest', rfl⟩
    · cases word.symm.trans (other.lacks.1 _ _ _ rfl first.balanced)
    · obtain ⟨rfl, rfl⟩ := Lacks.split_unique first.balanced first'.balanced first.lacks.1
        first'.lacks.1 word word' same
      rw [ihf first', ihg rest']
  | term only ih =>
    rcases h'.expression_cases with other | ⟨a, t, b, k, l, rfl, word, first, _, _⟩
    · exact ih other
    · cases word.symm.trans (only.lacks a t b rfl first.balanced)
  | or word first rest ihf ihg =>
    rcases h'.expression_cases with other | ⟨a, t, b, k, l, same, word', first', rest', rfl⟩
    · cases word.symm.trans (other.lacks _ _ _ rfl first.balanced)
    · obtain ⟨rfl, rfl⟩ := Lacks.split_unique first.balanced first'.balanced first.lacks
        first'.lacks word word' same
      rw [ihf first', ihg rest']

/-! ## Truth -/

namespace Formula

def both : Option Bool → Option Bool → Option Bool
  | some false, _ | _, some false => some false
  | some true, some true => some true
  | _, _ => none

def either : Option Bool → Option Bool → Option Bool
  | some true, _ | _, some true => some true
  | some false, some false => some false
  | _, _ => none

/-- True, false or unknown, as the atoms are. -/
def truth (v : List Token → Option Bool) : Formula → Option Bool
  | .atom ts => v ts
  | .not f => (f.truth v).map Bool.not
  | .and f g => both (f.truth v) (g.truth v)
  | .or f g => either (f.truth v) (g.truth v)
  | .group f => f.truth v

lemma both_eq_true {a b : Option Bool} :
    both a b = some true ↔ a = some true ∧ b = some true := by
  rcases a with _ | _ | _ <;> rcases b with _ | _ | _ <;> decide

lemma either_eq_true {a b : Option Bool} :
    either a b = some true ↔ a = some true ∨ b = some true := by
  rcases a with _ | _ | _ <;> rcases b with _ | _ | _ <;> decide

lemma both_assoc (a b c : Option Bool) : both (both a b) c = both a (both b c) := by
  rcases a with _ | _ | _ <;> rcases b with _ | _ | _ <;> rcases c with _ | _ | _ <;> rfl

/-- The conjunction of two terms, as their text joined by AND is read. -/
def conjoin : Formula → Formula → Formula
  | .and f g, k => .and f (conjoin g k)
  | f, k => .and f k

lemma truth_conjoin (v : List Token → Option Bool) (f g : Formula) :
    (conjoin f g).truth v = both (f.truth v) (g.truth v) := by
  induction f with
  | and f k _ ih => rw [conjoin, truth, ih, truth, both_assoc]
  | _ => rfl

/-- What a term is the conjunction of. -/
def conjuncts : Formula → List Formula
  | .and f g => f.conjuncts ++ g.conjuncts
  | f => [f]

/-- Both terms are intact in their conjunction. -/
lemma conjuncts_conjoin (f g : Formula) :
    (conjoin f g).conjuncts = f.conjuncts ++ g.conjuncts := by
  induction f with
  | and f k _ ih => rw [conjoin, conjuncts, ih, conjuncts, List.append_assoc]
  | _ => rfl

end Formula

lemma Reads.conjoin {t : Token} {ts us : List Token} {f g : Formula} (word : t.isWord "AND" = true)
    (hf : Reads .term ts f) (hg : Reads .term us g) :
    Reads .term (ts ++ t :: us) (f.conjoin g) := by
  generalize rank : Rank.term = r at hf
  induction hf with
  | operand only _ =>
    have joined := Reads.and word only hg
    cases only <;> exact joined
  | and word' first rest _ ih =>
    rw [List.append_assoc]
    exact Reads.and word' first (ih rank)
  | _ => cases rank

end Clausal.Sql
