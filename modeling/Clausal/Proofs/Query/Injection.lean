import Clausal.Database.Script
import Clausal.Proofs.Query.Alignment
import Clausal.Proofs.Query.RewritingCalls
import Clausal.Proofs.Query.Tokens
import Clausal.Query.Run

/-!
# Values cannot leave their places

The final text of a plain query has the tokens of its template, with the tokens of each value in the
place of its hole; every text is one string token, whatever characters it has. So queries that
differ in their texts only have statements that differ within string tokens only.
-/

namespace Clausal

open Sql

lemma plain_narrower : plain.Narrower percentFree where
  name _ h := h
  expression _ h := h.elim
  column c h := by
    cases c with
    | name s => exact h
    | raw sql => exact h.elim
  operator o h hp := absurd (h '%' hp) (by decide)
  slot s h := by
    rintro sql rfl
    obtain rfl : sql = "NULL" := h
    decide
  operand s h := by
    rintro sql rfl
    obtain rfl : sql = "NULL" := h
    decide
  fragment _ h := h.elim

namespace Query

/-! ## One run -/

/-- The tokens of a template and of its final text: the template has the names that were passed and
a hole at each place, the text has the tokens of the values there. Texts and dates are one string
each, and there are no other strings. -/
structure Tokenized (q : Query) (p : Preparation) (text : String) : Prop where
  template : lex p.sql.toList = some (q.lexemes.map Lexeme.template)
  statement : lex text.toList = some (fillHoles (q.lexemes.map Lexeme.template) p.args)
  decoded : ∀ v ∈ p.args, ∀ x, Quotes v x → Placeholder.literal.tokens v = [.text x]
  strings : ∀ x, .text x ∈ fillHoles (q.lexemes.map Lexeme.template) p.args →
    ∃ v ∈ p.args, Quotes v x

lemma sql_result {σ : Type} {q : Query} {p : Preparation} (hp : q.prepare = .ok p)
    (adapter : Adapter σ) (s : σ) :
    (q.sql adapter.database s).result =
      if p.args.isEmpty then .ok p.sql else Sql.bind p.sql p.args := by
  have last : (q.sql adapter.database s).result =
      ((if p.args.isEmpty then Action.pure p.sql else Action.ofExcept (Sql.bind p.sql p.args) :
        Action σ String) s).result := by
    rw [sql, prepared]
    rw [hp]
    rfl
  rw [last]
  split <;> rfl

lemma tokenized_of_steady {σ : Type} {q : Query} (free : q.Within rawFree) (h : q.Within steady)
    {p : Preparation} (hp : q.prepare = .ok p) (adapter : Adapter σ) (s : σ) :
    ∃ text, (q.sql adapter.database s).result = .ok text ∧ q.Tokenized p text := by
  have spells := spells_of_rawFree free hp
  have aligned := aligned_of_steady h hp
  have args : p.args = q.lexemes.flatMap Lexeme.args := spells.args
  have template : lex p.sql.toList = some (q.lexemes.map Lexeme.template) := by
    have shown := spells.lex shows_placeholder
    rw [← toList_template, ← List.map_eq_flatMap] at shown
    exact shown
  have filled :
      fillHoles (q.lexemes.map Lexeme.template) p.args = q.lexemes.flatMap Lexeme.bound := by
    rw [args]
    exact fillHoles_lexemes spells.plain
  have decoded (v : Value) (_ : v ∈ p.args) (x : String) (hx : Quotes v x) :
      Placeholder.literal.tokens v = [.text x] := Placeholder.tokens_of_quotes hx
  have strings (x : String) (hx : .text x ∈ fillHoles (q.lexemes.map Lexeme.template) p.args) :
      ∃ v ∈ p.args, Quotes v x := by
    rw [filled] at hx
    rw [args]
    exact exists_quotes_of_mem_bound spells.plain hx
  cases empty : p.args.isEmpty with
  | true =>
    refine ⟨p.sql, by rw [sql_result hp, empty]; rfl, template, ?_, decoded, strings⟩
    rw [List.isEmpty_iff.mp empty, fillHoles_nil]
    exact template
  | false =>
    have bound : Sql.bind p.sql p.args = .ok (String.ofList (Rendering.direct.chars p.pieces)) :=
      aligned.bind_template
    refine ⟨_, by rw [sql_result hp, empty]; exact bound, template, ?_, decoded, strings⟩
    rw [filled, String.toList_ofList]
    exact spells.lex shows_direct

lemma tokenized {σ : Type} {q : Query} (h : q.Within plain) {p : Preparation}
    (hp : q.prepare = .ok p) (adapter : Adapter σ) (s : σ) :
    ∃ text, (q.sql adapter.database s).result = .ok text ∧ q.Tokenized p text :=
  tokenized_of_steady (h.widen plain_rawFree)
    ((h.widen plain_narrower).widen percentFree_narrower) hp adapter s

end Query

/-! ## Two runs -/

/-- The value without its text. -/
def Value.blanked : Value → Value
  | .text _ => .text ""
  | v => v

/-- Leaves every text out. -/
def blanking : Rewriting where
  slot
    | .bound v => .bound v.blanked
    | .raw sql => .raw sql
  operand
    | .bound (.list items) => .bound (.list (items.map Value.blanked))
    | .bound v => .bound v.blanked
    | .raw sql => .raw sql
  fragment f := { f with args := f.args.map Value.blanked }
  bound
    | .count n => .count n
    | .raw f => .raw { f with args := f.args.map Value.blanked }

lemma neutral_blanking : blanking.Neutral where
  slot s := by
    cases s with
    | raw sql => rfl
    | bound v => cases v <;> rfl
  operand s := by
    cases s with
    | raw sql => rfl
    | bound v => cases v <;> rfl
  isNull s := by
    cases s with
    | raw sql => rfl
    | bound v => cases v <;> rfl
  emptyList s := by
    cases s with
    | raw sql => simp [blanking]
    | bound v => cases v <;> simp [blanking, Value.blanked]
  fragment _ := rfl

/-- The same template, with arguments that differ in their texts only. -/
def Blanked (pieces others : List Piece) : Prop :=
  Rendering.placeholder.chars others = Rendering.placeholder.chars pieces ∧
    arguments others = (arguments pieces).map Value.blanked

namespace Blanked

lemma text (s : String) : Blanked [.text s] [.text s] := ⟨rfl, rfl⟩

lemma append {a a' b b' : List Piece} (ha : Blanked a a') (hb : Blanked b b') :
    Blanked (a ++ b) (a' ++ b') := by
  constructor
  · rw [Rendering.chars_append, Rendering.chars_append, ha.1, hb.1]
  · rw [arguments_append, arguments_append, List.map_append, ha.2, hb.2]

lemma value (v : Value) : Blanked [.value v] [.value v.blanked] := ⟨rfl, rfl⟩

lemma slot (s : Slot) : Blanked [s.piece] [(blanking.slot s).piece] := by
  cases s with
  | bound v => exact value v
  | raw sql => exact text sql

lemma members (items : List Value) :
    Blanked (Piece.join ", " (items.map fun v => [.value v]))
      (Piece.join ", " ((items.map Value.blanked).map fun v => [.value v])) := by
  constructor
  · simp [Rendering.chars_join, Rendering.piece, Rendering.placeholder, Function.comp_def]
  · simp [arguments_join, Piece.args, List.map_eq_flatMap, List.flatMap_assoc]

lemma operand (column : ColumnRef) (operator : String) (s : Slot) :
    Blanked (Condition.compare column operator s).pieces
      (Condition.compare column operator (blanking.operand s)).pieces := by
  cases s with
  | raw sql => exact (text _).append (text sql)
  | bound v =>
    cases v with
    | list items => exact (text _).append ((members items).append (text ")"))
    | _ => exact (text _).append (value _)

lemma fragment (f : Fragment) : Blanked [.fragment f] [.fragment (blanking.fragment f)] := by
  constructor
  · rfl
  · simp [Piece.args, blanking]

lemma count (n : UInt64) : Blanked [.count n] [.count n] := by
  constructor
  · rfl
  · simp only [arguments_cons, arguments_nil, Piece.args, Value.ofUnsigned]
    split <;> rfl

lemma bound (keyword : String) (b : Bound) :
    Blanked (b.pieces keyword) ((blanking.bound b).pieces keyword) := by
  cases b with
  | count n => exact (text _).append (count n)
  | raw f => exact (text _).append (fragment f)

end Blanked

lemma respects_blanking : blanking.Respects Blanked where
  nil := ⟨rfl, rfl⟩
  text := Blanked.text
  append := Blanked.append
  slot := Blanked.slot
  operand := Blanked.operand
  fragment := Blanked.fragment
  bound := Blanked.bound

/-- Equal, or two strings. -/
def Token.Alike (t u : Token) : Prop :=
  t = u ∨ ∃ x y, t = .text x ∧ u = .text y

lemma Value.eq_or_texts {v u : Value} (h : v.blanked = u.blanked) :
    v = u ∨ ∃ x y, v = .text x ∧ u = .text y := by
  cases v with
  | text x =>
    cases u with
    | text y => exact Or.inr ⟨x, y, rfl, rfl⟩
    | _ => cases h
  | _ =>
    cases u with
    | text y => cases h
    | _ => exact Or.inl h

lemma alike_refl (ts : List Token) : List.Forall₂ Token.Alike ts ts :=
  List.forall₂_same.mpr fun _ _ => Or.inl rfl

lemma Placeholder.alike_tokens {v u : Value} (h : v.blanked = u.blanked) :
    List.Forall₂ Token.Alike (Placeholder.literal.tokens v) (Placeholder.literal.tokens u) := by
  rcases Value.eq_or_texts h with rfl | ⟨x, y, rfl, rfl⟩
  · exact alike_refl _
  · rw [Placeholder.tokens_of_quotes (.text x), Placeholder.tokens_of_quotes (.text y)]
    exact .cons (Or.inr ⟨x, y, rfl, rfl⟩) .nil

lemma Value.eq_ofUnsigned {n : UInt64} {u : Value} (h : (Value.ofUnsigned n).blanked = u.blanked) :
    Value.ofUnsigned n = u := by
  rcases Value.eq_or_texts h with same | ⟨x, _, text, _⟩
  · exact same
  · rw [Value.ofUnsigned] at text
    split at text <;> cases text

/-- Arguments that differ in their texts fill the holes with tokens that differ in strings. -/
lemma alike_fillHoles {ls : List Lexeme} (plain : ∀ l ∈ ls, l.Plain) {args : List Value}
    (h : (ls.flatMap Lexeme.args).map Value.blanked = args.map Value.blanked) :
    List.Forall₂ Token.Alike (fillHoles (ls.map Lexeme.template) (ls.flatMap Lexeme.args))
      (fillHoles (ls.map Lexeme.template) args) := by
  induction ls generalizing args with
  | nil => exact .nil
  | cons l ls ih =>
    rw [List.forall_mem_cons] at plain
    cases l with
    | token t =>
      have fixed : t.fixed = true := plain.1
      cases t with
      | hole p => cases fixed
      | _ => exact .cons (Or.inl rfl) (ih plain.2 h)
    | value v =>
      cases args with
      | nil => cases h
      | cons u us =>
        obtain ⟨head, tail⟩ := List.cons.inj h
        exact List.rel_append (Placeholder.alike_tokens head) (ih plain.2 tail)
    | count n =>
      cases args with
      | nil => cases h
      | cons u us =>
        obtain ⟨head, tail⟩ := List.cons.inj h
        obtain rfl := Value.eq_ofUnsigned head
        exact List.rel_append (alike_refl _) (ih plain.2 tail)

namespace Query

lemma rewrite_built (target : Target) (cs : List Call) :
    (built target cs).rewrite blanking = built target (cs.map (Call.rewrite blanking)) :=
  rewrite_calls neutral_blanking _ cs

/-- A query that differs in texts only is prepared from the same template, with arguments that
differ in texts only. -/
lemma prepare_of_blanked {q r : Query} (same : r.rewrite blanking = q.rewrite blanking)
    {p : Preparation} (hp : q.prepare = .ok p) :
    ∃ p', r.prepare = .ok p' ∧ p'.sql = p.sql ∧
      p.args.map Value.blanked = p'.args.map Value.blanked := by
  obtain ⟨pb, hb, _, chars, args⟩ := (agree_prepare respects_blanking q).of_ok hp
  rw [← same] at hb
  obtain ⟨p', hp', _, chars', args'⟩ := (agree_prepare respects_blanking r).symm.of_ok hb
  refine ⟨p', hp', ?_, args.symm.trans args'⟩
  have equal : p'.sql.toList = p.sql.toList := by
    change (Sql.template p'.pieces).toList = (Sql.template p.pieces).toList
    rw [toList_template, toList_template, ← chars, ← chars']
  exact String.toList_inj.mp equal

/-- The final text of a plain query has the tokens of the template with those of the values in its
holes. Calls that differ from these in their texts only have a text that differs from this within
its strings only. -/
theorem sql_tokenized {target : Target} {cs : List Call}
    (htarget : ∀ table ∈ target.table?, PercentFree table) (hcs : ∀ c ∈ cs, c.Within plain)
    {p : Preparation} (hp : (built target cs).prepare = .ok p) {σ : Type} (adapter : Adapter σ)
    (s : σ) :
    ∃ text, ((built target cs).sql adapter.database s).result = .ok text ∧
      (built target cs).Tokenized p text ∧
      ∀ cs', (∀ c ∈ cs', c.Within plain) →
        cs'.map (Call.rewrite blanking) = cs.map (Call.rewrite blanking) →
        ∃ p' text', (built target cs').prepare = .ok p' ∧
          ((built target cs').sql adapter.database s).result = .ok text' ∧
          (built target cs').Tokenized p' text' ∧ p'.sql = p.sql ∧
          ∃ ts ts', lex text.toList = some ts ∧ lex text'.toList = some ts' ∧
            List.Forall₂ Token.Alike ts ts' := by
  have start : Within plain { target := target } := within_start htarget
  have within : (built target cs).Within plain := within_calls start hcs
  obtain ⟨text, ht, tokens⟩ := tokenized within hp adapter s
  refine ⟨text, ht, tokens, fun cs' hcs' same => ?_⟩
  have within' : (built target cs').Within plain := within_calls start hcs'
  have equal : (built target cs').rewrite blanking = (built target cs).rewrite blanking := by
    rw [rewrite_built, rewrite_built, same]
  obtain ⟨p', hp', hsql, hargs⟩ := prepare_of_blanked equal hp
  obtain ⟨text', ht', tokens'⟩ := tokenized within' hp' adapter s
  refine ⟨p', text', hp', ht', tokens', hsql, _, _, tokens.statement, tokens'.statement, ?_⟩
  have template := tokens'.template
  rw [hsql, tokens.template] at template
  have spells := spells_prepare within hp
  have args : p.args = (built target cs).lexemes.flatMap Lexeme.args := spells.args
  rw [← Option.some.inj template, args]
  exact alike_fillHoles spells.plain (args ▸ hargs)

/-- Looks up a name. -/
def lookup (name : String) : List Call := [
  .filter false (.compare (.name "na`me") (some "=") (.bound (.text name))),
  .limit (.count 1)]

theorem sql_tokenized_lookup :
    (∀ c ∈ lookup "x' OR '1' = '1\\", c.Within plain) ∧ (∀ c ∈ lookup "%s", c.Within plain) ∧
      (lookup "%s").map (Call.rewrite blanking) =
        (lookup "x' OR '1' = '1\\").map (Call.rewrite blanking) ∧
      ∃ p p' text text', (built (.table "t") (lookup "x' OR '1' = '1\\")).prepare = .ok p ∧
        (built (.table "t") (lookup "%s")).prepare = .ok p' ∧
        (built (.table "t") (lookup "x' OR '1' = '1\\")).Tokenized p text ∧
        (built (.table "t") (lookup "%s")).Tokenized p' text' ∧ p'.sql = p.sql := by
  have within (name : String) : ∀ c ∈ lookup name, c.Within plain := by
    have operator : ∀ o ∈ some "=", plain.operator o := by
      rintro o ⟨⟩
      exact (by decide : OperatorText "=")
    have column : plain.column (.name "na`me") := (by decide : PercentFree "na`me")
    simp only [lookup, List.forall_mem_cons]
    exact ⟨⟨column, operator, trivial⟩, trivial, nofun⟩
  have table : ∀ name ∈ (Target.table "t").table?, PercentFree name := by
    rintro name ⟨⟩
    decide
  obtain ⟨text, _, tokens, runs⟩ := sql_tokenized table (within "x' OR '1' = '1\\") rfl
    Script.adapter {}
  obtain ⟨p', text', hp', _, tokens', same, _⟩ := runs (lookup "%s") (within "%s") rfl
  exact ⟨within _, within _, rfl, _, p', text, text', rfl, hp', tokens, tokens', same⟩

end Query

end Clausal
