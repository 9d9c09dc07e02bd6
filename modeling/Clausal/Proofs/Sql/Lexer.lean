import Clausal.Sql.Quoted
import Clausal.Sql.Template
import Mathlib.Tactic.Lemma

/-!
# Tokens of a statement

A lexer for the SQL of MySQL, one character at a time. Between backticks a doubled backtick stands
for one; between single quotes a backslash escapes the next character and a doubled quote stands for
one. Comments, variables, other quotes and text that ends inside quotes have no tokens here, so what
has tokens holds none of these. The placeholders of a template are tokens as well.
-/

namespace Clausal.Sql

inductive Token where
  /-- A keyword, a name without quotes, or a number. -/
  | word (s : String)
  | name (s : String)
  | text (s : String)
  | sign (c : Char)
  | hole (p : Placeholder)
  deriving DecidableEq, Repr

/-- Neither a text nor a hole. -/
def Token.fixed : Token → Bool
  | .word _ | .name _ | .sign _ => true
  | .text _ | .hole _ => false

namespace Lexer

/-- Characters beyond ASCII count as letters. -/
def isLetter (c : Char) : Bool :=
  let n := c.toNat
  (0x41 ≤ n && n ≤ 0x5A) || (0x61 ≤ n && n ≤ 0x7A) || 0x80 ≤ n

def isWordChar (c : Char) : Bool :=
  isLetter c || c.isDigit || c = '_' || c = '$'

def isBlank (c : Char) : Bool :=
  c ∈ [' ', '\t', '\n', '\x0b', '\x0c', '\r']

def isSign (c : Char) : Bool :=
  c ∈ ['(', ')', ',', '.', ';', '=', '<', '>', '!', '*', '+']

/-- What an escaped character in a text stands for. -/
def unescape (c : Char) : List Char :=
  if c = '0' then ['\x00']
  else if c = 'b' then ['\x08']
  else if c = 'n' then ['\n']
  else if c = 'r' then ['\r']
  else if c = 't' then ['\t']
  else if c = 'Z' then ['\x1a']
  else if c = '%' || c = '_' then ['\\', c]
  else [c]

/-- Where the lexer stands. A name or a text ends only when the character after its closing quote is
not another such quote. -/
inductive Mode where
  | gap
  | word (read : List Char)
  | name (read : List Char)
  | nameEnd (read : List Char)
  | text (read : List Char)
  | escape (read : List Char)
  | textEnd (read : List Char)
  | percent
  | minus
  deriving DecidableEq, Repr

def start (c : Char) : Option (List Token × Mode) :=
  if isBlank c then some ([], .gap)
  else if isWordChar c then some ([], .word [c])
  else if isSign c then some ([.sign c], .gap)
  else if c = backtick then some ([], .name [])
  else if c = '\'' then some ([], .text [])
  else if c = '%' then some ([], .percent)
  else if c = '-' then some ([], .minus)
  else none

/-- Ends a token before a character. -/
def emit (t : Token) (c : Char) : Option (List Token × Mode) :=
  (start c).map fun (ts, mode) => (t :: ts, mode)

namespace Mode

/-- A quote directly after a word, which would make it an introducer, and a second minus sign, which
could begin a comment, are not read. -/
def step : Mode → Char → Option (List Token × Mode)
  | gap, c => start c
  | word read, c =>
    if isWordChar c then some ([], word (read ++ [c]))
    else if c = '\'' then none
    else emit (.word (String.ofList read)) c
  | name read, c =>
    if c = backtick then some ([], nameEnd read) else some ([], name (read ++ [c]))
  | nameEnd read, c =>
    if c = backtick then some ([], name (read ++ [c])) else emit (.name (String.ofList read)) c
  | text read, c =>
    if c = '\'' then some ([], textEnd read)
    else if c = '\\' then some ([], escape read)
    else some ([], text (read ++ [c]))
  | escape read, c => some ([], text (read ++ unescape c))
  | textEnd read, c =>
    if c = '\'' then some ([], text (read ++ [c])) else emit (.text (String.ofList read)) c
  | percent, c => (Placeholder.ofChar? c).map fun p => ([.hole p], gap)
  | minus, c => if c = '-' then none else emit (.sign '-') c

/-- The tokens that the end of the text completes. -/
def finish : Mode → Option (List Token)
  | gap => some []
  | word read => some [.word (String.ofList read)]
  | nameEnd read => some [.name (String.ofList read)]
  | textEnd read => some [.text (String.ofList read)]
  | minus => some [.sign '-']
  | _ => none

end Mode

def run : Mode → List Char → Option (List Token × Mode)
  | mode, [] => some ([], mode)
  | mode, c :: cs => do
    let (ts, next) ← mode.step c
    let (us, last) ← run next cs
    return (ts ++ us, last)

end Lexer

open Lexer

/-- The tokens of a text. -/
def lex (cs : List Char) : Option (List Token) := do
  let (ts, mode) ← run .gap cs
  return ts ++ (← mode.finish)

namespace Lexer

/-! ## Reading on -/

/-- The lexer gets from one place to another with these tokens. -/
def Scans (mode : Mode) (cs : List Char) (ts : List Token) (last : Mode) : Prop :=
  run mode cs = some (ts, last)

namespace Scans

variable {mode next last : Mode} {a b cs : List Char} {ts us : List Token}

lemma nil (mode : Mode) : Scans mode [] [] mode := rfl

lemma cons {c : Char} (tail : Scans next cs us last) (head : mode.step c = some (ts, next)) :
    Scans mode (c :: cs) (ts ++ us) last := by
  simp only [Scans, run, head] at tail ⊢
  simp [tail]

/-- A step that completes no token. -/
lemma silent {c : Char} (head : mode.step c = some ([], next)) (tail : Scans next cs us last) :
    Scans mode (c :: cs) us last :=
  tail.cons head

lemma of_cons {c : Char} (h : Scans mode (c :: cs) us last) :
    ∃ ts next vs, mode.step c = some (ts, next) ∧ Scans next cs vs last ∧ us = ts ++ vs := by
  simp only [Scans, run, Option.bind_eq_bind, Option.bind_eq_some_iff] at h
  obtain ⟨⟨ts, next⟩, head, ⟨vs, other⟩, tail, same⟩ := h
  simp only [Option.pure_def, Option.some.injEq, Prod.mk.injEq] at same
  obtain ⟨rfl, rfl⟩ := same
  exact ⟨ts, next, vs, head, tail, rfl⟩

lemma append (ha : Scans mode a ts next) (hb : Scans next b us last) :
    Scans mode (a ++ b) (ts ++ us) last := by
  induction a generalizing mode ts with
  | nil =>
    obtain ⟨rfl, rfl⟩ : [] = ts ∧ mode = next := by simpa [Scans, run] using ha
    exact hb
  | cons c a ih =>
    obtain ⟨vs, between, ws, head, tail, rfl⟩ := ha.of_cons
    rw [List.append_assoc]
    exact (ih tail).cons head

end Scans

lemma lex_eq_some_iff {cs : List Char} {ts : List Token} :
    lex cs = some ts ↔
      ∃ us mode vs, Scans .gap cs us mode ∧ mode.finish = some vs ∧ ts = us ++ vs := by
  simp only [lex, Scans, Option.bind_eq_bind, Option.bind_eq_some_iff, Option.pure_def,
    Option.some.injEq, Prod.exists]
  constructor
  · rintro ⟨us, mode, hr, vs, hf, rfl⟩
    exact ⟨us, mode, vs, hr, hf, rfl⟩
  · rintro ⟨us, mode, vs, hr, hf, rfl⟩
    exact ⟨us, mode, hr, vs, hf, rfl⟩

/-- A character that ends every token before it. -/
def Breaking (c : Char) : Prop :=
  isWordChar c = false ∧ c ≠ backtick ∧ c ≠ '\'' ∧ c ≠ '-'

instance (c : Char) : Decidable (Breaking c) :=
  inferInstanceAs (Decidable (_ ∧ _))

/-- A text that ends every token before it. -/
def Breaks : List Char → Prop
  | [] => True
  | c :: _ => Breaking c

instance : (cs : List Char) → Decidable (Breaks cs)
  | [] => .isTrue trivial
  | c :: _ => inferInstanceAs (Decidable (Breaking c))

lemma step_of_breaking {mode : Mode} {vs : List Token} (hf : mode.finish = some vs) {c : Char}
    (hc : Breaking c) : mode.step c = (start c).map fun (ts, next) => (vs ++ ts, next) := by
  obtain ⟨word, tick, quote, minus⟩ := hc
  cases mode with
  | gap =>
    obtain rfl := Option.some.inj hf
    simp [Mode.step]
  | word read =>
    obtain rfl := Option.some.inj hf
    simp [Mode.step, word, quote, emit]
  | nameEnd read =>
    obtain rfl := Option.some.inj hf
    simp [Mode.step, tick, emit]
  | textEnd read =>
    obtain rfl := Option.some.inj hf
    simp [Mode.step, quote, emit]
  | minus =>
    obtain rfl := Option.some.inj hf
    simp [Mode.step, minus, emit]
  | name _ | text _ | escape _ | percent => cases hf

/-- A text whose last token is over when it ends. -/
def Closes (cs : List Char) (ts : List Token) : Prop := Scans .gap cs ts .gap

instance (cs : List Char) (ts : List Token) : Decidable (Closes cs ts) :=
  inferInstanceAs (Decidable (run .gap cs = some (ts, .gap)))

variable {a b : List Char} {ts us : List Token}

lemma scans_append (ha : lex a = some ts) {c : Char} {last : Mode}
    (hb : Scans .gap (c :: b) us last) (hc : Breaking c) :
    Scans .gap (a ++ c :: b) (ts ++ us) last := by
  obtain ⟨vs, mode, ws, first, finish, rfl⟩ := lex_eq_some_iff.mp ha
  obtain ⟨ys, next, zs, head, tail, rfl⟩ := hb.of_cons
  have begin' : start c = some (ys, next) := head
  have step : mode.step c = some (ws ++ ys, next) := by
    rw [step_of_breaking finish hc, begin']
    rfl
  rw [List.append_assoc, ← List.append_assoc ws]
  exact first.append (tail.cons step)

/-- Tokens of neighbours stay apart if the second begins with a character that ends them. -/
theorem lex_append (ha : lex a = some ts) (hb : lex b = some us) (breaks : Breaks b) :
    lex (a ++ b) = some (ts ++ us) := by
  cases b with
  | nil =>
    obtain rfl : [] = us := by simpa [lex, run, Mode.finish] using hb
    simpa using ha
  | cons c b =>
    obtain ⟨vs, mode, ws, scan, finish, rfl⟩ := lex_eq_some_iff.mp hb
    have whole := scans_append ha scan breaks
    exact lex_eq_some_iff.mpr ⟨_, mode, ws, whole, finish, (List.append_assoc ..).symm⟩

namespace Closes

lemma lex_append (ha : Closes a ts) (hb : lex b = some us) : lex (a ++ b) = some (ts ++ us) := by
  obtain ⟨vs, mode, ws, scan, finish, rfl⟩ := lex_eq_some_iff.mp hb
  have whole := Scans.append ha scan
  exact lex_eq_some_iff.mpr ⟨_, mode, ws, whole, finish, (List.append_assoc ..).symm⟩

lemma lex (h : Closes a ts) : lex a = some ts :=
  lex_eq_some_iff.mpr ⟨ts, .gap, [], h, rfl, (List.append_nil ts).symm⟩

/-- A text can be closed by one that begins with a character that ends tokens. -/
lemma of_lex_append (ha : Sql.lex a = some ts) {c : Char} (hb : Closes (c :: b) us)
    (hc : Breaking c) : Closes (a ++ c :: b) (ts ++ us) :=
  scans_append ha hb hc

end Closes

/-! ## Words, names and texts -/

lemma not_isBlank_of_isWordChar {c : Char} (h : isWordChar c = true) : isBlank c = false := by
  refine Bool.eq_false_iff.mpr fun blank => ?_
  simp only [isBlank, List.mem_cons, List.not_mem_nil, or_false, decide_eq_true_eq] at blank
  rcases blank with rfl | rfl | rfl | rfl | rfl | rfl <;> cases h

lemma step_of_isWordChar {c : Char} (h : isWordChar c = true) :
    Mode.gap.step c = some ([], .word [c]) := by
  simp [Mode.step, start, not_isBlank_of_isWordChar h, h]

lemma scans_word (read : List Char) {cs : List Char} (h : ∀ c ∈ cs, isWordChar c = true) :
    Scans (.word read) cs [] (.word (read ++ cs)) := by
  induction cs generalizing read with
  | nil => simpa using Scans.nil (.word read)
  | cons c cs ih =>
    have head : (Mode.word read).step c = some ([], .word (read ++ [c])) := by
      simp [Mode.step, h c List.mem_cons_self]
    have tail := ih (read ++ [c]) fun d hd => h d (List.mem_cons_of_mem c hd)
    rw [List.append_assoc] at tail
    exact tail.silent head

lemma lex_word {c : Char} {cs : List Char} (hc : isWordChar c = true)
    (h : ∀ d ∈ cs, isWordChar d = true) :
    lex (c :: cs) = some [.word (String.ofList (c :: cs))] := by
  have scan := (scans_word [c] h).silent (step_of_isWordChar hc)
  exact lex_eq_some_iff.mpr ⟨[], _, _, scan, rfl, rfl⟩

lemma scans_name (read cs : List Char) :
    Scans (.name read) (cs.flatMap (fun c => if c = backtick then [backtick, backtick] else [c]))
      [] (.name (read ++ cs)) := by
  induction cs generalizing read with
  | nil => simpa using Scans.nil (.name read)
  | cons c cs ih =>
    have tail := ih (read ++ [c])
    rw [List.append_assoc] at tail
    rw [List.flatMap_cons]
    by_cases h : c = backtick
    · subst h
      have opened : (Mode.name read).step backtick = some ([], .nameEnd read) := rfl
      exact (tail.silent rfl).silent opened
    · rw [if_neg h]
      exact tail.silent (by simp [Mode.step, h])

/-- A quoted name is one token, which is the name. -/
theorem lex_quoteName (n : String) : lex (quoteName n).toList = some [.name n] := by
  have closing : Scans (.name n.toList) [backtick] [] (.nameEnd n.toList) := rfl
  have inner := (scans_name [] n.toList).append closing
  have opening : Mode.gap.step backtick = some ([], .name []) := rfl
  rw [quoteName, String.toList_ofList]
  exact lex_eq_some_iff.mpr ⟨[], _, _, inner.silent opening, rfl, by simp⟩

lemma scans_escapeChar (read : List Char) (c : Char) :
    Scans (.text read) (escapeChar c) [] (.text (read ++ [c])) := by
  have escaped {d : Char} (hd : unescape d = [c]) :
      Scans (.text read) ['\\', d] [] (.text (read ++ [c])) := by
    have read' : (Mode.escape read).step d = some ([], .text (read ++ [c])) := by
      simp [Mode.step, hd]
    exact ((Scans.nil _).silent read').silent rfl
  rw [escapeChar]
  -- one branch for each character that is escaped
  iterate 7
    split
    · next h =>
      subst h
      exact escaped rfl
  next slash quote _ _ _ _ _ =>
    exact (Scans.nil _).silent (by simp [Mode.step, slash, quote])

lemma scans_text (read cs : List Char) :
    Scans (.text read) (cs.flatMap escapeChar) [] (.text (read ++ cs)) := by
  induction cs generalizing read with
  | nil => simpa using Scans.nil (.text read)
  | cons c cs ih =>
    have tail := ih (read ++ [c])
    rw [List.append_assoc] at tail
    rw [List.flatMap_cons]
    exact (scans_escapeChar read c).append tail

/-- A quoted text is one token, which is the text, whatever characters it has. -/
theorem lex_quoteText (s : String) : lex (quoteText s).toList = some [.text s] := by
  have closing : Scans (.text s.toList) ['\''] [] (.textEnd s.toList) := rfl
  have inner := (scans_text [] s.toList).append closing
  have opening : Mode.gap.step '\'' = some ([], .text []) := rfl
  rw [quoteText, String.toList_ofList]
  exact lex_eq_some_iff.mpr ⟨[], _, _, inner.silent opening, rfl, by simp⟩

/-! ## Texts without quotes -/

/-- A character that neither quotes nor opens a placeholder. -/
def Bare (c : Char) : Prop :=
  isBlank c = true ∨ isWordChar c = true ∨ isSign c = true

instance (c : Char) : Decidable (Bare c) :=
  inferInstanceAs (Decidable (_ ∨ _ ∨ _))

def Loose : Mode → Prop
  | .gap | .word _ => True
  | _ => False

lemma start_of_bare {c : Char} (h : Bare c) :
    ∃ ts next, start c = some (ts, next) ∧ Loose next ∧ ∀ t ∈ ts, t.fixed = true := by
  rw [start]
  split
  · exact ⟨[], .gap, rfl, trivial, List.forall_mem_nil _⟩
  split
  · exact ⟨[], .word [c], rfl, trivial, List.forall_mem_nil _⟩
  · next blank word =>
    have sign : isSign c = true := (h.resolve_left blank).resolve_left word
    rw [if_pos sign]
    exact ⟨[.sign c], .gap, rfl, trivial, List.forall_mem_singleton.mpr rfl⟩

lemma step_of_bare {mode : Mode} (hm : Loose mode) {c : Char} (h : Bare c) :
    ∃ ts next, mode.step c = some (ts, next) ∧ Loose next ∧ ∀ t ∈ ts, t.fixed = true := by
  obtain ⟨ts, next, hs, loose, fixed⟩ := start_of_bare h
  cases mode with
  | gap => exact ⟨ts, next, hs, loose, fixed⟩
  | word read =>
    by_cases word : isWordChar c = true
    · exact ⟨[], .word (read ++ [c]), by simp [Mode.step, word], trivial, List.forall_mem_nil _⟩
    · have quote : c ≠ '\'' := by
        rintro rfl
        revert h
        decide
      refine ⟨.word (String.ofList read) :: ts, next, ?_, loose, ?_⟩
      · simp [Mode.step, word, quote, emit, hs]
      · exact List.forall_mem_cons.mpr ⟨rfl, fixed⟩
  | _ => exact hm.elim

/-- A text of such characters has tokens, which are words and signs. -/
lemma exists_lex_of_bare {cs : List Char} (h : ∀ c ∈ cs, Bare c) :
    ∃ ts, lex cs = some ts ∧ ∀ t ∈ ts, t.fixed = true := by
  have scan (mode : Mode) (hm : Loose mode) : ∃ ts last, Scans mode cs ts last ∧ Loose last ∧
      ∀ t ∈ ts, t.fixed = true := by
    induction cs generalizing mode with
    | nil => exact ⟨[], mode, .nil mode, hm, List.forall_mem_nil _⟩
    | cons c cs ih =>
      rw [List.forall_mem_cons] at h
      obtain ⟨ts, next, step, loose, fixed⟩ := step_of_bare hm h.1
      obtain ⟨us, last, scan, loose', fixed'⟩ := ih h.2 next loose
      exact ⟨ts ++ us, last, scan.cons step, loose', List.forall_mem_append.mpr ⟨fixed, fixed'⟩⟩
  obtain ⟨ts, last, scan, loose, fixed⟩ := scan .gap trivial
  cases last with
  | gap => exact ⟨ts, Closes.lex scan, fixed⟩
  | word read =>
    refine ⟨_, lex_eq_some_iff.mpr ⟨ts, _, _, scan, rfl, rfl⟩, ?_⟩
    exact List.forall_mem_append.mpr ⟨fixed, List.forall_mem_singleton.mpr rfl⟩
  | _ => exact loose.elim

/-! ## Literals -/

lemma isWordChar_of_isDigit {c : Char} (h : c.isDigit = true) : isWordChar c = true := by
  simp [isWordChar, h]

lemma exists_digits (n : Nat) : ∃ c cs, n.repr.toList = c :: cs ∧ isWordChar c = true ∧
    ∀ d ∈ cs, isWordChar d = true := by
  have digits : ∀ c ∈ n.repr.toList, isWordChar c = true := by
    intro c hc
    rw [Nat.toList_repr] at hc
    exact isWordChar_of_isDigit (Nat.isDigit_of_mem_toDigits (by decide) (by decide) hc)
  obtain ⟨c, cs, hd⟩ : ∃ c cs, n.repr.toList = c :: cs := by
    rw [Nat.toList_repr]
    exact List.exists_cons_of_ne_nil Nat.toDigits_ne_nil
  rw [hd, List.forall_mem_cons] at digits
  exact ⟨c, cs, hd, digits⟩

/-- A minus sign before a number is a token of its own. -/
lemma lex_minus {c : Char} {cs : List Char} (hc : isWordChar c = true)
    (h : ∀ d ∈ cs, isWordChar d = true) :
    lex ('-' :: c :: cs) = some [.sign '-', .word (String.ofList (c :: cs))] := by
  have single : c ≠ '-' := by
    rintro rfl
    cases hc
  have second : Mode.minus.step c = some ([.sign '-'], .word [c]) := by
    have first := step_of_isWordChar hc
    simp only [Mode.step] at first
    simp [Mode.step, single, emit, first]
  have opening : Mode.gap.step '-' = some ([], .minus) := rfl
  have scan := ((scans_word [c] h).cons second).silent opening
  exact lex_eq_some_iff.mpr ⟨_, _, _, scan, rfl, rfl⟩

lemma exists_lex_integer (n : Int) :
    ∃ ts, lex (toString n).toList = some ts ∧ ∀ t ∈ ts, t.fixed = true := by
  cases n with
  | ofNat n =>
    obtain ⟨c, cs, hd, hc, h⟩ := exists_digits n
    change ∃ ts, lex n.repr.toList = some ts ∧ _
    rw [hd]
    exact ⟨_, lex_word hc h, by simp [Token.fixed]⟩
  | negSucc n =>
    obtain ⟨c, cs, hd, hc, h⟩ := exists_digits (n + 1)
    change ∃ ts, lex ("-" ++ (n + 1).repr).toList = some ts ∧ _
    rw [String.toList_append, hd]
    exact ⟨_, lex_minus hc h, by simp [Token.fixed]⟩

end Lexer

open Lexer

/-- A value whose literal is a constant of SQL. -/
def Scalar : Value → Prop
  | .float _ | .list _ => False
  | _ => True

/-- The value is written as this text between quotes. -/
inductive Quotes : Value → String → Prop where
  | text (s : String) : Quotes (.text s) s
  | datetime (dt : Calendar.DateTime) : Quotes (.datetime dt) dt.toText

lemma lex_literal_of_quotes {v : Value} {x : String} (h : Quotes v x) :
    lex (literal v).toList = some [.text x] := by
  cases h with
  | text => simpa only [literal] using lex_quoteText x
  | datetime dt => simpa only [literal] using lex_quoteText dt.toText

lemma exists_lex_literal {v : Value} (h : Scalar v) :
    ∃ ts, lex (literal v).toList = some ts ∧ ∀ x, .text x ∈ ts → Quotes v x := by
  have quoted {v : Value} {y : String} (hv : Quotes v y) :
      ∃ ts, lex (literal v).toList = some ts ∧ ∀ x, .text x ∈ ts → Quotes v x := by
    refine ⟨[.text y], lex_literal_of_quotes hv, fun x hx => ?_⟩
    obtain rfl : x = y := by simpa using hx
    exact hv
  cases v with
  | null => exact ⟨[.word "NULL"], rfl, by simp⟩
  | bool b => cases b <;> exact ⟨_, rfl, by simp⟩
  | int n =>
    obtain ⟨ts, hl, fixed⟩ := exists_lex_integer n.toInt
    exact ⟨ts, by simpa only [literal] using hl, fun x hx => nomatch fixed _ hx⟩
  | text s => exact quoted (.text s)
  | datetime dt => exact quoted (.datetime dt)
  | float _ | list _ => exact h.elim

/-! ## Filling holes -/

namespace Placeholder

/-- The tokens of what a value is written as. -/
def tokens (v : Value) (p : Placeholder) : List Token :=
  (lex (p.write v).toList).getD []

lemma lex_write {p : Placeholder} {v : Value} {ts : List Token}
    (h : lex (p.write v).toList = some ts) : lex (p.write v).toList = some (p.tokens v) := by
  simp [tokens, h]

lemma tokens_of_quotes {v : Value} {x : String} (h : Quotes v x) :
    literal.tokens v = [.text x] := by
  simp [tokens, write, lex_literal_of_quotes h]

/-- A string among the tokens of a constant is what the constant quotes. -/
lemma quotes_of_mem_tokens {v : Value} (h : Scalar v) {x : String}
    (hx : .text x ∈ literal.tokens v) : Quotes v x := by
  obtain ⟨ts, hl, texts⟩ := exists_lex_literal h
  have same : literal.tokens v = ts := by simp [tokens, write, hl]
  exact texts x (same ▸ hx)

lemma fixed_tokens_integer (v : Value) : ∀ t ∈ integer.tokens v, t.fixed = true := by
  obtain ⟨ts, hl, fixed⟩ := exists_lex_integer v.toInt.toInt
  have same : integer.tokens v = ts := by simp only [tokens, write, hl, Option.getD_some]
  rwa [same]

end Placeholder

/-- The tokens of a template with the tokens of the values in place of its holes, from the left. -/
def fillHoles : List Token → List Value → List Token
  | .hole p :: ts, v :: vs => p.tokens v ++ fillHoles ts vs
  | t :: ts, vs => t :: fillHoles ts vs
  | [], _ => []

lemma fillHoles_nil (ts : List Token) : fillHoles ts [] = ts := by
  induction ts with
  | nil => rfl
  | cons t ts ih => simp [fillHoles, ih]

end Clausal.Sql
