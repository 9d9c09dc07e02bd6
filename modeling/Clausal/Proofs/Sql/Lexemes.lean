import Clausal.Proofs.Sql.Lexer
import Clausal.Proofs.Sql.Rendering
import Mathlib.Data.List.Forall2

/-!
# Lexemes of pieces

A lexeme is a token that stands in a statement as it is, or a place for a value or a count. Lexemes
spell pieces if they give the tokens of every rendering of them: the template has a hole at each
place, the direct text the tokens of the literal.
-/

namespace Clausal.Sql

open Lexer

inductive Lexeme where
  | token (t : Token)
  | value (v : Value)
  | count (n : UInt64)

namespace Lexeme

abbrev word (s : String) : Lexeme := .token (.word s)

abbrev name (s : String) : Lexeme := .token (.name s)

abbrev sign (c : Char) : Lexeme := .token (.sign c)

def template : Lexeme → Token
  | .token t => t
  | .value _ => .hole .literal
  | .count _ => .hole .integer

def args : Lexeme → List Value
  | .token _ => []
  | .value v => [v]
  | .count n => [Value.ofUnsigned n]

def bound : Lexeme → List Token
  | .token t => [t]
  | .value v => Placeholder.literal.tokens v
  | .count n => Placeholder.integer.tokens (Value.ofUnsigned n)

/-- A token that is fixed, or a place for a constant or a count. -/
def Plain : Lexeme → Prop
  | .token t => t.fixed = true
  | .value v => Scalar v
  | .count _ => True

end Lexeme

/-- Filling the holes of the template gives the tokens of the direct text. -/
lemma fillHoles_lexemes {ls : List Lexeme} (h : ∀ l ∈ ls, l.Plain) :
    fillHoles (ls.map Lexeme.template) (ls.flatMap Lexeme.args) = ls.flatMap Lexeme.bound := by
  induction ls with
  | nil => rfl
  | cons l ls ih =>
    rw [List.forall_mem_cons] at h
    have tail := ih h.2
    cases l with
    | value v => simp [Lexeme.template, Lexeme.args, Lexeme.bound, fillHoles, tail]
    | count n => simp [Lexeme.template, Lexeme.args, Lexeme.bound, fillHoles, tail]
    | token t =>
      have fixed : t.fixed = true := h.1
      cases t with
      | hole p => cases fixed
      | _ => simp [Lexeme.template, Lexeme.args, Lexeme.bound, fillHoles, tail]

/-- Every string is quoted by an argument. -/
lemma exists_quotes_of_mem_bound {ls : List Lexeme} (h : ∀ l ∈ ls, l.Plain) {x : String}
    (hx : .text x ∈ ls.flatMap Lexeme.bound) : ∃ v ∈ ls.flatMap Lexeme.args, Quotes v x := by
  obtain ⟨l, hl, hx⟩ := List.mem_flatMap.mp hx
  have plain := h l hl
  cases l with
  | token t =>
    obtain rfl := List.mem_singleton.mp hx
    cases plain
  | value v =>
    refine ⟨v, List.mem_flatMap.mpr ⟨_, hl, List.mem_singleton.mpr rfl⟩, ?_⟩
    exact Placeholder.quotes_of_mem_tokens plain hx
  | count n => exact nomatch Placeholder.fixed_tokens_integer _ _ hx

/-! ## Renderings and their tokens -/

/-- The view of a lexeme has the tokens of what the rendering writes at its place. -/
structure Shows (r : Rendering) (view : Lexeme → List Token) : Prop where
  token : ∀ t, view (.token t) = [t]
  value : ∀ v, Scalar v → lex (r.value v) = some (view (.value v))
  count : ∀ n, lex (r.count n) = some (view (.count n))

lemma shows_placeholder : Shows .placeholder fun l => [l.template] where
  token _ := rfl
  value _ _ := rfl
  count _ := rfl

lemma shows_direct : Shows .direct Lexeme.bound where
  token _ := rfl
  value _ h := by
    obtain ⟨_, hl, _⟩ := exists_lex_literal h
    exact Placeholder.lex_write (p := .literal) hl
  count n := by
    obtain ⟨_, hl, _⟩ := exists_lex_integer (Value.ofUnsigned n).toInt.toInt
    exact Placeholder.lex_write (p := .integer) hl

/-! ## Spelling -/

structure Spells (ps : List Piece) (ls : List Lexeme) : Prop where
  lex : ∀ {r : Rendering} {view : Lexeme → List Token}, Shows r view →
    lex (r.chars ps) = some (ls.flatMap view)
  args : arguments ps = ls.flatMap Lexeme.args
  plain : ∀ l ∈ ls, l.Plain

/-- A text before a place: its tokens are fixed and over when it ends. -/
structure Leads (s : String) (ts : List Token) : Prop where
  closes : Closes s.toList ts
  fixed : ∀ t ∈ ts, t.fixed = true

instance (s : String) (ts : List Token) : Decidable (Leads s ts) :=
  decidable_of_iff (Closes s.toList ts ∧ ∀ t ∈ ts, t.fixed = true)
    ⟨fun h => ⟨h.1, h.2⟩, fun h => ⟨h.closes, h.fixed⟩⟩

/-- A text after a place: it also ends the tokens before it. -/
structure Parts (s : String) (ts : List Token) : Prop extends Leads s ts where
  nonempty : s.toList ≠ []
  breaks : Breaks s.toList

instance (s : String) (ts : List Token) : Decidable (Parts s ts) :=
  decidable_of_iff (Leads s ts ∧ s.toList ≠ [] ∧ Breaks s.toList)
    ⟨fun h => ⟨h.1, h.2.1, h.2.2⟩, fun h => ⟨h.toLeads, h.nonempty, h.breaks⟩⟩

lemma parts_comma : Parts ", " [.sign ','] := by decide

lemma flatMap_token {view : Lexeme → List Token} (h : ∀ t, view (.token t) = [t])
    (ts : List Token) : (ts.map Lexeme.token).flatMap view = ts := by
  simp [List.flatMap_map, h]

lemma args_token (ts : List Token) : (ts.map Lexeme.token).flatMap Lexeme.args = [] := by
  simp [List.flatMap_map, Lexeme.args]

lemma plain_token {ts : List Token} (h : ∀ t ∈ ts, t.fixed = true) :
    ∀ l ∈ ts.map Lexeme.token, l.Plain := by
  intro l hl
  obtain ⟨t, ht, rfl⟩ := List.mem_map.mp hl
  exact h t ht

namespace Leads

variable {s s' : String} {ts us : List Token}

lemma of_lex (hs : lex s.toList = some ts) (fixed : ∀ t ∈ ts, t.fixed = true) (hp : Parts s' us) :
    Leads (s ++ s') (ts ++ us) where
  closes := by
    obtain ⟨c, cs, hc⟩ := List.exists_cons_of_ne_nil hp.nonempty
    have closes := hp.closes
    have breaks := hp.breaks
    rw [String.toList_append]
    rw [hc] at closes breaks ⊢
    exact .of_lex_append hs closes breaks
  fixed := List.forall_mem_append.mpr ⟨fixed, hp.fixed⟩

lemma lex_name (hs : Leads s ts) (n : String) :
    lex (s ++ quoteName n).toList = some (ts ++ [.name n]) := by
  rw [String.toList_append]
  exact hs.closes.lex_append (lex_quoteName n)

lemma fixed_name (hs : Leads s ts) (n : String) : ∀ t ∈ ts ++ [.name n], t.fixed = true :=
  List.forall_mem_append.mpr ⟨hs.fixed, List.forall_mem_singleton.mpr rfl⟩

/-- A lead goes on with a name and a text after it. -/
lemma name (hs : Leads s ts) (n : String) (hp : Parts s' us) :
    Leads (s ++ quoteName n ++ s') (ts ++ [.name n] ++ us) :=
  .of_lex (hs.lex_name n) (hs.fixed_name n) hp

end Leads

namespace Spells

variable {ps qs : List Piece} {ls ms : List Lexeme} {s : String} {ts : List Token}

lemma nil : Spells [] [] where
  lex _ := rfl
  args := rfl
  plain := List.forall_mem_nil _

lemma append (hp : Spells ps ls) (hq : Spells qs ms)
    (breaks : ∀ r : Rendering, Breaks (r.chars qs)) :
    Spells (ps ++ qs) (ls ++ ms) where
  lex {r view} h := by
    rw [Rendering.chars_append, List.flatMap_append]
    exact lex_append (hp.lex h) (hq.lex h) (breaks r)
  args := by rw [arguments_append, List.flatMap_append, hp.args, hq.args]
  plain := List.forall_mem_append.mpr ⟨hp.plain, hq.plain⟩

lemma text (hs : Sql.lex s.toList = some ts) (fixed : ∀ t ∈ ts, t.fixed = true) :
    Spells [.text s] (ts.map .token) where
  lex {r view} h := by
    rw [flatMap_token h.token]
    simpa [Rendering.piece] using hs
  args := (args_token ts).symm
  plain := plain_token fixed

lemma text_cons (hs : Leads s ts) (hp : Spells ps ls) :
    Spells (.text s :: ps) (ts.map .token ++ ls) where
  lex {r view} h := by
    rw [List.flatMap_append, flatMap_token h.token]
    exact hs.closes.lex_append (hp.lex h)
  args := by
    rw [List.flatMap_append, args_token]
    exact hp.args
  plain := List.forall_mem_append.mpr ⟨plain_token hs.fixed, hp.plain⟩

lemma value {v : Value} (h : Scalar v) : Spells [.value v] [.value v] where
  lex {r view} shows := by simpa [Rendering.piece] using shows.value v h
  args := rfl
  plain := List.forall_mem_singleton.mpr h

lemma count (n : UInt64) : Spells [.count n] [.count n] where
  lex {r view} shows := by simpa [Rendering.piece] using shows.count n
  args := rfl
  plain := List.forall_mem_singleton.mpr trivial

lemma breaks_text (hs : Parts s ts) (qs : List Piece) (r : Rendering) :
    Breaks (r.chars (.text s :: qs)) := by
  obtain ⟨c, cs, hc⟩ := List.exists_cons_of_ne_nil hs.nonempty
  have breaks := hs.breaks
  rw [hc] at breaks
  rw [Rendering.chars_cons, Rendering.piece, hc]
  exact breaks

lemma close (hp : Spells ps ls) (hs : Parts s ts) :
    Spells (ps ++ [.text s]) (ls ++ ts.map .token) :=
  hp.append (.text hs.closes.lex hs.fixed) (breaks_text hs [])

/-- Parts spelled one by one are spelled together, with the tokens of the separator between them. -/
lemma join (hs : Parts s ts) {parts : List (List Piece)} {lists : List (List Lexeme)}
    (h : List.Forall₂ Spells parts lists) :
    Spells (Piece.join s parts) ((ts.map Lexeme.token).intercalate lists) := by
  induction h with
  | nil => exact nil
  | cons head tail ih =>
    cases tail with
    | nil => simpa [Piece.join, List.intercalate] using head
    | cons next rest =>
      rw [List.intercalate_cons_cons, List.append_assoc]
      exact head.append (ih.text_cons hs.toLeads) (breaks_text hs _)

end Spells

end Clausal.Sql
