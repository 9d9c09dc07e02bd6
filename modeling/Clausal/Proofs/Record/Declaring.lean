import Clausal.Proofs.Failure
import Clausal.Proofs.Text.LetterCase
import Clausal.Record.Declared
import Mathlib.Data.List.Forall2

/-!
# What declarations mean

A declaration that is accepted stands for a record type that can be read off its text: the entries
of all cast lists, one list after another, are its rules, and the last table given is its table. A
kind that may be declared is one that values are cast by.
-/

namespace Clausal

/-- No rule that leaves values alone because its name is of no kind. -/
def CastRule.Known : CastRule → Prop
  | .named name => ∃ kind, CastKind.ofName? name = some kind
  | .custom .. => True

namespace Declaration

/-! ## What a text declares -/

def Entry.table? : Entry → Option String
  | .assign name (.text table) => if name = "table" then some table else none
  | _ => none

def Entry.casts? : Entry → Option (List CastEntry)
  | .casts entries => some entries
  | _ => none

/-- The entries of the markings for records, in the order of the text. -/
def Item.entries (item : Item) : List Entry :=
  (item.markings.filter (·.path == "record")).flatMap Marking.entries

def Item.tables (item : Item) : List String :=
  item.entries.filterMap Entry.table?

def Item.castLists (item : Item) : List (List CastEntry) :=
  item.entries.filterMap Entry.casts?

/-- The path given last for a direction. -/
def pathOf (direction : String) (directions : List (String × List String)) : Option (List String) :=
  (directions.filter (·.1 == direction)).getLast?.map (·.2)

namespace CastEntry

def column : CastEntry → List String
  | .named column _ => column
  | .custom column _ => column

/-- The rule that an entry writes down, with its transforms by direction. -/
def rule? (transform : List String → Value → Value) : CastEntry → Option CastRule
  | .named _ (.text kind) => some (.named kind)
  | .named _ .other => none
  | .custom _ directions =>
    some (.custom ((pathOf "cast" directions).map transform)
      ((pathOf "decast" directions).map transform))

/-- A row of a rule table is what the entry writes down. -/
def Gives (transform : List String → Value → Value) (entry : CastEntry)
    (rule : String × CastRule) : Prop :=
  entry.column = [rule.1] ∧ entry.rule? transform = some rule.2

end CastEntry

/-! ## Cast names -/

lemma plain_of_mem_castNames {name : String} (h : name ∈ castNames) :
    ∀ c ∈ name.toList, c ≠ 'k' ∧ c.toNat < 0x80 := by
  have each : ∀ name ∈ castNames,
      name.toList.all (fun c => decide (c ≠ 'k' ∧ c.toNat < 0x80)) = true := by decide +kernel
  exact fun c mem => of_decide_eq_true (List.all_eq_true.mp (each name h) c mem)

/-- Whichever characters a name is lowered by, the same names are accepted. -/
theorem mem_castNames_iff_of_lowers {s t : String} (lowered : Text.Lowers s.toList t.toList) :
    t ∈ castNames ↔ s.map Char.toLower ∈ castNames := by
  have same (name : String) (mem : name ∈ castNames) : t = name ↔ s.map Char.toLower = name := by
    rw [← String.toList_inj, lowered.eq_iff_of_plain (plain_of_mem_castNames mem),
      ← String.toList_map, String.toList_inj]
  constructor
  · intro mem
    rwa [(same t mem).mp rfl]
  · intro mem
    rwa [(same _ mem).mpr rfl]

lemma toLower_of_isBlank {c : Char} (blank : Text.isBlank c = true) : c.toLower = c := by
  simp only [Text.isBlank, Bool.or_eq_true, Bool.and_eq_true, decide_eq_true_eq, beq_iff_eq]
    at blank
  exact Text.toLower_eq_self (by omega)

lemma not_isBlank_of_mem_castNames {name : String} (h : name ∈ castNames) :
    ∀ c ∈ name.toList, Text.isBlank c = false := by
  have each : ∀ name ∈ castNames, name.toList.all (fun c => !Text.isBlank c) = true := by
    decide +kernel
  exact fun c mem => Bool.not_eq_true' _ ▸ List.all_eq_true.mp (each name h) c mem

lemma dropWhile_of_solid {cs : List Char} (solid : ∀ c ∈ cs, Text.isBlank c = false) :
    cs.dropWhile Text.isBlank = cs := by
  cases cs with
  | nil => rfl
  | cons c rest => rw [List.dropWhile_cons, solid c List.mem_cons_self]; rfl

lemma trim_of_solid {s : String} (solid : ∀ c ∈ s.toList, Text.isBlank c = false) :
    Text.trim s = s := by
  have reversed (c : Char) (mem : c ∈ s.toList.reverse) : Text.isBlank c = false :=
    solid c (List.mem_reverse.mp mem)
  rw [Text.trim, Text.strip, Text.skipBlanks, dropWhile_of_solid solid,
    dropWhile_of_solid reversed, List.reverse_reverse, String.ofList_toList]

/-- A name that is accepted has no blanks, so trimming keeps it, and it names a kind. -/
lemma exists_kind_of_mem_castNames {name : String} (h : name.map Char.toLower ∈ castNames) :
    ∃ kind, CastKind.ofName? name = some kind := by
  have solid (c : Char) (mem : c ∈ name.toList) : Text.isBlank c = false := by
    by_contra blank
    rw [Bool.not_eq_false] at blank
    have lowered : c.toLower ∈ (name.map Char.toLower).toList := by
      rw [String.toList_map]
      exact List.mem_map_of_mem mem
    rw [toLower_of_isBlank blank] at lowered
    rw [not_isBlank_of_mem_castNames h c lowered] at blank
    cases blank
  have listed : ∀ name ∈ castNames, (CastKind.names.lookup name).isSome = true := by decide +kernel
  rw [CastKind.ofName?, trim_of_solid solid]
  exact Option.isSome_iff_exists.mp (listed _ h)

/-! ## Reading an entry -/

lemma pathOf_cons_self (direction : String) (path : List String)
    (rest : List (String × List String)) :
    pathOf direction ((direction, path) :: rest) = (pathOf direction rest).or (some path) := by
  rw [pathOf, List.filter_cons_of_pos (by exact beq_self_eq_true direction), List.getLast?_cons]
  cases h : (rest.filter (·.1 == direction)).getLast? with
  | none => simp [pathOf, h]
  | some last => simp [pathOf, h]

lemma pathOf_cons_other {direction name : String} (other : name ≠ direction) (path : List String)
    (rest : List (String × List String)) :
    pathOf direction ((name, path) :: rest) = pathOf direction rest := by
  rw [pathOf, List.filter_cons_of_neg (by simpa using other), pathOf]

lemma readDirections_eq_ok {cast decast : Option (List String)}
    {directions : List (String × List String)} {spec : CastSpec}
    (h : readDirections cast decast directions = .ok spec) :
    spec =
      .custom ((pathOf "cast" directions).or cast) ((pathOf "decast" directions).or decast) := by
  induction directions generalizing cast decast with
  | nil => exact (Except.ok.inj h).symm
  | cons direction rest ih =>
    obtain ⟨name, path⟩ := direction
    rw [readDirections] at h
    split at h
    · next given =>
      subst given
      rw [ih h, pathOf_cons_self, pathOf_cons_other (by decide), Option.or_assoc, Option.some_or]
    · split at h
      · next given =>
        subst given
        rw [ih h, pathOf_cons_self, pathOf_cons_other (by decide), Option.or_assoc, Option.some_or]
      · cases h

lemma readColumn_eq_ok {path : List String} {column : String} (h : readColumn path = .ok column) :
    path = [column] := by
  unfold readColumn at h
  split at h
  · rw [Except.ok.inj h]
  · cases h

section Transform

variable (transform : List String → Value → Value)

/-- An entry that is read gives its only column a rule that is known. -/
lemma readCast_eq_ok {entry : CastEntry} {spec : String × CastSpec}
    (h : readCast entry = .ok spec) :
    entry.Gives transform (spec.1, spec.2.rule transform) ∧ (spec.2.rule transform).Known := by
  cases entry with
  | named path kind =>
    obtain ⟨name, alone, h⟩ := bind_eq_ok.mp h
    cases kind with
    | other => cases h
    | text kind =>
      simp only at h
      split at h
      · next known =>
        cases h
        exact ⟨⟨readColumn_eq_ok alone, rfl⟩, exists_kind_of_mem_castNames (by simpa using known)⟩
      · cases h
  | custom path directions =>
    obtain ⟨name, alone, h⟩ := bind_eq_ok.mp h
    split at h
    · cases h
    · obtain ⟨spec', directed, h⟩ := bind_eq_ok.mp h
      cases h
      rw [readDirections_eq_ok directed, Option.or_none, Option.or_none]
      exact ⟨⟨readColumn_eq_ok alone, rfl⟩, trivial⟩

variable {transform}

/-- The rule of a column is written in the first entry for that column. -/
lemma rule?_of_gives {entries : List CastEntry} {rules : List (String × CastRule)}
    (h : List.Forall₂ (CastEntry.Gives transform) entries rules) (column : String) :
    Casts.rule? ⟨rules⟩ column =
      (entries.find? (·.column == [column])).bind (·.rule? transform) := by
  rw [Casts.rule?]
  induction h with
  | nil => rfl
  | @cons entry rule _ _ gives _ ih =>
    obtain ⟨alone, ruled⟩ := gives
    by_cases same : rule.1 = column
    · rw [List.find?_cons_of_pos (by simpa using same),
        List.find?_cons_of_pos (by simpa [alone] using same)]
      exact ruled.symm
    · rw [List.find?_cons_of_neg (by simpa using same),
        List.find?_cons_of_neg (by simpa [alone] using same)]
      exact ih

end Transform

/-! ## Reading the markings -/

/-- The settings hold what the entries say: the last table, and all cast lists in one. -/
structure Gathers (entries : List Entry) (settings : Settings) : Prop where
  table : settings.table = (entries.filterMap Entry.table?).getLast?
  absent : settings.casts = none ↔ entries.filterMap Entry.casts? = []
  casts : List.Forall₂ (fun entry spec => readCast entry = .ok spec)
    (entries.filterMap Entry.casts?).flatten (settings.casts.getD [])
  full : ∀ list ∈ entries.filterMap Entry.casts?, list ≠ []

variable {settings after : Settings} {before : List Entry}

/-- What one more entry adds to the settings. -/
lemma Gathers.snoc (gathers : Gathers before settings) {last : Bool} {entry : Entry}
    (h : readEntry settings last entry = .ok after) : Gathers (before ++ [entry]) after := by
  cases entry with
  | word name =>
    rw [readEntry] at h
    repeat' split at h
    all_goals cases h
  | assign name value =>
    cases value with
    | other =>
      rw [readEntry] at h
      repeat' split at h
      all_goals cases h
    | text table =>
      rw [readEntry] at h
      repeat' split at h
      all_goals cases h
      next given =>
      have tables : [Entry.assign name (.text table)].filterMap Entry.table? = [table] := by
        simp [Entry.table?, given]
      have lists : [Entry.assign name (.text table)].filterMap Entry.casts? = [] := rfl
      refine ⟨?_, ?_, ?_, ?_⟩
      · rw [List.filterMap_append, tables, List.getLast?_concat]
      all_goals rw [List.filterMap_append, lists, List.append_nil]
      · exact gathers.absent
      · exact gathers.casts
      · exact gathers.full
  | casts entries =>
    rw [readEntry] at h
    split at h
    · cases h
    · next some =>
      obtain ⟨specs, mapped, h⟩ := bind_eq_ok.mp h
      cases h
      refine ⟨?_, ?_, ?_, ?_⟩
      · simpa [Entry.table?] using gathers.table
      · simp [Entry.casts?]
      · simpa [Entry.casts?] using List.rel_append gathers.casts (of_mapM_eq_ok mapped)
      · rw [List.filterMap_append, List.forall_mem_append]
        exact ⟨gathers.full, List.forall_mem_singleton.mpr (by simpa using some)⟩

lemma Gathers.append (gathers : Gathers before settings) {entries : List Entry}
    (h : readEntries settings entries = .ok after) : Gathers (before ++ entries) after := by
  induction entries generalizing settings before with
  | nil =>
    obtain rfl := Except.ok.inj h
    rwa [List.append_nil]
  | cons entry rest ih =>
    obtain ⟨next, read, h⟩ := bind_eq_ok.mp h
    rw [List.append_cons]
    exact ih (gathers.snoc read) h

lemma Gathers.foldlM (gathers : Gathers before settings) {markings : List Marking}
    (h : markings.foldlM (fun s a => readEntries s a.entries) settings = .ok after) :
    Gathers (before ++ markings.flatMap Marking.entries) after := by
  induction markings generalizing settings before with
  | nil =>
    obtain rfl := Except.ok.inj h
    rwa [List.flatMap_nil, List.append_nil]
  | cons marking rest ih =>
    rw [List.foldlM_cons] at h
    obtain ⟨next, read, h⟩ := bind_eq_ok.mp h
    rw [List.flatMap_cons, ← List.append_assoc]
    exact ih (gathers.append read) h

/-- The settings of an item are what its markings for records say. -/
lemma gathers_of_readMarkings {item : Item} (h : readMarkings item.markings = .ok settings) :
    Gathers item.entries settings :=
  have start : Gathers [] {} := ⟨rfl, by simp, .nil, nofun⟩
  start.foldlM h

lemma gathers_of_read {item : Item} {d : Declared} (h : read item = .ok d) :
    ∃ settings, Gathers item.entries settings ∧ d.casts = settings.casts ∧
      d.table = settings.table.getD (Text.snakeCase item.name) := by
  rw [read] at h
  split at h
  · cases h
  · cases h
  · cases h
  · cases h
  · obtain ⟨settings, marked, h⟩ := bind_eq_ok.mp h
    split at h
    · cases h
    · cases h
      exact ⟨settings, gathers_of_readMarkings marked, rfl, rfl⟩
    · cases h

/-- A list without entries is refused. -/
theorem ne_nil_of_read {item : Item} {d : Declared} (h : read item = .ok d) :
    ∀ entries ∈ item.castLists, entries ≠ [] := by
  obtain ⟨_, gathers, _⟩ := gathers_of_read h
  exact gathers.full

/-- The table and the rules of a declaration that is accepted. Without a cast list the rules are the
standard ones; otherwise they are the entries of all lists in their order, of which the first for a
column counts. (No entries would leave no rules; but a list without entries is refused.) Every rule
is custom or of a known kind. -/
theorem rules_of_read {item : Item} {d : Declared} (h : read item = .ok d)
    (transform : List String → Value → Value) :
    d.table = item.tables.getLast?.getD (Text.snakeCase item.name) ∧
    (d.casts = none ↔ item.castLists = []) ∧
    (item.castLists = [] → d.rules transform = Casts.standard) ∧
    (item.castLists ≠ [] →
      List.Forall₂ (CastEntry.Gives transform) item.castLists.flatten (d.rules transform).rules ∧
      ∀ column, (d.rules transform).rule? column =
        (item.castLists.flatten.find? (·.column == [column])).bind (·.rule? transform)) ∧
    ∀ rule ∈ (d.rules transform).rules, rule.2.Known := by
  obtain ⟨settings, gathers, casts, table⟩ := gathers_of_read h
  refine ⟨by rw [table, gathers.table]; rfl, casts ▸ gathers.absent, ?_⟩
  cases given : settings.casts with
  | none =>
    have standard : d.rules transform = Casts.standard := by rw [Declared.rules, casts, given]
    refine ⟨fun _ => standard, (absurd (gathers.absent.mp given) ·), ?_⟩
    rw [standard]
    exact List.forall_mem_singleton.mpr (exists_kind_of_mem_castNames (by decide +kernel))
  | some specs =>
    have read : List.Forall₂ _ item.castLists.flatten (settings.casts.getD []) := gathers.casts
    rw [given] at read
    have rules : d.rules transform = ⟨specs.map fun spec => (spec.1, spec.2.rule transform)⟩ := by
      rw [Declared.rules, casts, given]
    have gives : List.Forall₂ (CastEntry.Gives transform) item.castLists.flatten
        (d.rules transform).rules := by
      rw [rules, List.forall₂_map_right_iff]
      exact read.imp fun _ _ read => (readCast_eq_ok transform read).1
    refine ⟨fun absent => ?_, fun _ => ⟨gives, rule?_of_gives gives⟩, fun rule mem => ?_⟩
    · rw [gathers.absent.mpr absent] at given
      cases given
    · rw [rules, List.mem_map] at mem
      obtain ⟨spec, mem, rfl⟩ := mem
      obtain ⟨entry, _, read⟩ := exists_of_mem_right read mem
      exact (readCast_eq_ok transform read).2

/-- Two markings for records around another one: the second names the table again, and its entry for
a column that has one already does not count. -/
theorem rules_of_read_two_markings :
    let item : Item := {
      name := "BlogPost", shape := .named,
      fields := [⟨"store", .path ["orm", "Attributes"], []⟩, ⟨"draft", .path ["bool"], []⟩],
      markings := [
        ⟨"record", [.assign "table" (.text "drafts"), .casts [.named ["sticky"] (.text "BooLean"),
          .custom ["code"] [("cast", ["text", "lower"]), ("cast", ["text", "upper"])]]]⟩,
        ⟨"serde", [.casts [.named ["id"] (.text "float")]]⟩,
        ⟨"record", [.casts [.named ["code"] (.text "int")], .assign "table" (.text "posts")]⟩] }
    ∃ d, read item = .ok d ∧ d.table = "posts" ∧ d.casts ≠ none ∧
      ∀ transform, (d.rules transform).rule? "code" =
          some (.custom (some (transform ["text", "upper"])) none) ∧
        (d.rules transform).rule? "sticky" = some (.named "BooLean") ∧
        (CastRule.named "BooLean").Known ∧ (d.rules transform).rule? "id" = none := by
  intro item
  let declared : Declared := {
    table := "posts", store := "store", defaults := ["draft"],
    casts := some [("sticky", .named "BooLean"),
      ("code", .custom (some ["text", "upper"]) none), ("code", .named "int")] }
  have accepted : read item = .ok declared := eq_ok_of_toOption (by decide +kernel)
  obtain ⟨table, absent, _⟩ := rules_of_read accepted fun _ => id
  have occurs : item.castLists ≠ [] := by decide
  refine ⟨declared, accepted, table, mt absent.mp occurs, fun transform => ?_⟩
  obtain ⟨_, _, _, written, known⟩ := rules_of_read accepted transform
  obtain ⟨_, rule⟩ := written occurs
  have sticky : (declared.rules transform).rule? "sticky" = some (.named "BooLean") := rule "sticky"
  obtain ⟨found, mem, same⟩ := Option.map_eq_some_iff.mp sticky
  exact ⟨rule "code", sticky, same ▸ known found (List.mem_of_find?_eq_some mem), rule "id"⟩

end Declaration

end Clausal
