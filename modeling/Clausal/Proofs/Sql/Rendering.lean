import Clausal.Proofs.Sql.Binding
import Clausal.Sql.Piece
import Clausal.Sql.Quoted

/-!
# Renderings of pieces

A rendering says what is written at the places of a statement. The template and the direct text,
which has every literal in place, are two renderings of the same pieces. Pieces are aligned if
binding turns the first into the second wherever they stand.
-/

namespace Clausal

/-- The fragment with its own arguments bound; one that cannot be bound stays as it is. -/
def Fragment.bound (f : Fragment) : String :=
  match Sql.bind f.sql f.args with
  | .ok text => text
  | .error _ => f.sql

end Clausal

namespace Clausal.Sql

/-! ## Texts without percent signs -/

def PercentFree (s : String) : Prop := '%' ∉ s.toList

instance (s : String) : Decidable (PercentFree s) :=
  inferInstanceAs (Decidable ('%' ∉ s.toList))

lemma percentFree_append {s t : String} :
    PercentFree (s ++ t) ↔ PercentFree s ∧ PercentFree t := by
  simp [PercentFree, not_or]

lemma PercentFree.append {s t : String} (hs : PercentFree s) (ht : PercentFree t) :
    PercentFree (s ++ t) :=
  percentFree_append.mpr ⟨hs, ht⟩

/-! ## Renderings -/

structure Rendering where
  value : Value → List Char
  count : UInt64 → List Char
  fragment : Fragment → List Char

namespace Rendering

def piece (r : Rendering) : Piece → List Char
  | .text s => s.toList
  | .value v => r.value v
  | .count n => r.count n
  | .fragment f => r.fragment f

def chars (r : Rendering) (pieces : List Piece) : List Char :=
  pieces.flatMap r.piece

/-- A placeholder at every place. -/
def placeholder : Rendering where
  value _ := ['%', 's']
  count _ := ['%', 'd']
  fragment f := f.sql.toList

/-- The literal of its own value at every place. -/
def direct : Rendering where
  value v := (Placeholder.literal.write v).toList
  count n := (Placeholder.integer.write (Value.ofUnsigned n)).toList
  fragment f := f.bound.toList

variable (r : Rendering)

@[simp] lemma chars_nil : r.chars [] = [] := rfl

@[simp] lemma chars_cons (p : Piece) (ps : List Piece) :
    r.chars (p :: ps) = r.piece p ++ r.chars ps := rfl

@[simp] lemma chars_append (ps qs : List Piece) :
    r.chars (ps ++ qs) = r.chars ps ++ r.chars qs :=
  List.flatMap_append

lemma chars_join (separator : String) (parts : List (List Piece)) :
    r.chars (Piece.join separator parts) =
      separator.toList.intercalate (parts.map r.chars) := by
  induction parts using Piece.join.induct with
  | case1 => rfl
  | case2 part => simp [Piece.join, List.intercalate]
  | case3 part parts hne ih =>
    obtain ⟨next, rest, rfl⟩ := List.exists_cons_of_ne_nil hne
    simp only [Piece.join, chars_append, chars_cons, ih, piece, List.map_cons,
      List.intercalate_cons_cons, List.append_assoc]

end Rendering

lemma toList_template (pieces : List Piece) :
    (template pieces).toList = Rendering.placeholder.chars pieces := by
  rw [template, String.toList_join, List.flatMap_map, Rendering.chars]
  congr 1
  funext p
  cases p <;> simp [Piece.template, Rendering.piece, Rendering.placeholder]

lemma template_singleton (p : Piece) : template [p] = p.template := by
  simp [template]

lemma template_append (pieces more : List Piece) :
    template (pieces ++ more) = template pieces ++ template more := by
  rw [← String.toList_inj]
  simp [template, String.toList_join]

lemma template_join (separator : String) (parts : List (List Piece)) :
    template (Piece.join separator parts) = separator.intercalate (parts.map template) := by
  have each : (parts.map template).map String.toList = parts.map Rendering.placeholder.chars := by
    rw [List.map_map]
    exact List.map_congr_left fun part _ => toList_template part
  rw [← String.toList_inj, toList_template, Rendering.chars_join, String.toList_intercalate, each]

lemma template_text_cons (s : String) (pieces : List Piece) :
    template (.text s :: pieces) = s ++ template pieces := by
  rw [← List.singleton_append, template_append, template_singleton]
  rfl

lemma template_enclosed (before after : String) (pieces : List Piece) :
    template (.text before :: (pieces ++ [.text after])) = before ++ template pieces ++ after := by
  rw [template_text_cons, template_append, template_singleton, ← String.append_assoc]
  rfl

@[simp] lemma arguments_nil : arguments [] = [] := rfl

@[simp] lemma arguments_cons (p : Piece) (ps : List Piece) :
    arguments (p :: ps) = p.args ++ arguments ps := rfl

@[simp] lemma arguments_append (ps qs : List Piece) :
    arguments (ps ++ qs) = arguments ps ++ arguments qs :=
  List.flatMap_append

lemma arguments_join (separator : String) (parts : List (List Piece)) :
    arguments (Piece.join separator parts) = parts.flatMap arguments := by
  induction parts using Piece.join.induct with
  | case1 => rfl
  | case2 part => simp [Piece.join]
  | case3 part parts _ ih => simp [Piece.join, Piece.args, ih]

lemma arguments_enclosed (before after : String) (pieces : List Piece) :
    arguments (.text before :: (pieces ++ [.text after])) = arguments pieces :=
  (arguments_append pieces _).trans (List.append_nil _)

/-! ## Aligned pieces -/

/-- Binding the template with the arguments gives the direct text, before every text that stands
apart. -/
def Aligned (pieces : List Piece) : Prop :=
  Binds (Rendering.placeholder.chars pieces) (arguments pieces) (Rendering.direct.chars pieces)

/-- A text between parts: it shows no percent sign and completes none. -/
structure Separates (s : String) : Prop where
  nonempty : s.toList ≠ []
  percent : PercentFree s
  apart : Apart s.toList

lemma separates_of_cons {s : String} {c : Char} {cs : List Char} (h : s.toList = c :: cs)
    (hc : Placeholder.ofChar? c = none) (hs : PercentFree s) : Separates s where
  nonempty := by simp [h]
  percent := hs
  apart := by
    rw [h]
    refine apart_cons cs hc ?_
    rintro rfl
    exact hs (h ▸ List.mem_cons_self)

lemma Separates.apart_cons {s : String} (hs : Separates s) (pieces : List Piece) :
    Apart (Rendering.placeholder.chars (.text s :: pieces)) := by
  obtain ⟨c, cs, hc⟩ := List.exists_cons_of_ne_nil hs.nonempty
  intro d hd
  refine hs.apart d ?_
  simpa [Rendering.piece, hc] using hd

namespace Aligned

lemma nil : Aligned [] := Binds.nil

lemma append {ps qs : List Piece} (hp : Aligned ps) (hq : Aligned qs)
    (apart : Apart (Rendering.placeholder.chars qs)) : Aligned (ps ++ qs) := by
  rw [Aligned]
  rw [Rendering.chars_append, Rendering.chars_append, arguments_append]
  exact Binds.append hp hq apart

lemma text_cons {s : String} {ps : List Piece} (hs : PercentFree s) (hp : Aligned ps) :
    Aligned (.text s :: ps) :=
  Binds.text_append hs hp

lemma text {s : String} (hs : PercentFree s) : Aligned [.text s] :=
  nil.text_cons hs

lemma value_cons (v : Value) {ps : List Piece} (hp : Aligned ps) : Aligned (.value v :: ps) :=
  Binds.placeholder_cons rfl v hp

lemma count_cons (n : UInt64) {ps : List Piece} (hp : Aligned ps) : Aligned (.count n :: ps) :=
  Binds.placeholder_cons rfl (Value.ofUnsigned n) hp

lemma fragment {f : Fragment} (hf : placeholders f.sql.toList = f.args.length) :
    Aligned [.fragment f] := by
  obtain ⟨out, ho⟩ := exists_binds _ _ hf
  have bound : f.bound = String.ofList out := by
    have := ho.bind_eq
    rw [String.ofList_toList] at this
    simp only [Fragment.bound, this]
  simpa [Aligned, Rendering.piece, Rendering.placeholder, Rendering.direct, Piece.args, bound]
    using ho

lemma join {separator : String} (hs : Separates separator) (parts : List (List Piece))
    (hp : ∀ part ∈ parts, Aligned part) : Aligned (Piece.join separator parts) := by
  induction parts using Piece.join.induct with
  | case1 => exact nil
  | case2 part => exact hp part List.mem_cons_self
  | case3 part parts hne ih =>
    have tail := ih (fun p h => hp p (List.mem_cons_of_mem part h))
    simp only [Piece.join]
    exact (hp part List.mem_cons_self).append (tail.text_cons hs.percent) (hs.apart_cons _)

lemma placeholders_template {pieces : List Piece} (h : Aligned pieces) :
    placeholders (template pieces).toList = (arguments pieces).length := by
  have count := h.count [] apart_nil
  rw [List.append_nil] at count
  rw [toList_template, count]
  rfl

lemma bind_template {pieces : List Piece} (h : Aligned pieces) :
    bind (template pieces) (arguments pieces) =
      .ok (String.ofList (Rendering.direct.chars pieces)) := by
  rw [← Binds.bind_eq h, ← toList_template, String.ofList_toList]

end Aligned

end Clausal.Sql
