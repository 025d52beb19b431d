import TableAtlas.Proofs.Sql.Clauses
import TableAtlas.Proofs.Sql.Paths

/-!
# The names of a statement

A statement mentions names in two ways: as a path, where each part between points is quoted on its own,
or whole, in one pair of quotes. `Select.mentions` lists them in the order of the text. A statement has
a text if no path has an empty part (`Select.exists_text_iff`), and where no name is empty the text
holds each name in one pair of quotes just if no path has a point (`Select.exists_text_whole_iff`).
-/

namespace TableAtlas.Sql

open Fragment (plain join)

/-! ## Names in quotes -/

/-- The names of a fragment, in order. -/
def Fragment.names (f : Fragment) : List String :=
  f.filterMap Lexeme.name?

/-- The names in quotes of a text, `none` if a quote is left open. -/
def namesIn (sql : String) : Option (List String) :=
  (lex sql).map Fragment.names

namespace Fragment

@[simp] theorem names_nil : names [] = [] := rfl

@[simp] theorem names_append (f g : Fragment) : names (f ++ g) = names f ++ names g :=
  List.filterMap_append

@[simp] theorem names_name_cons (s : String) (f : Fragment) :
    names (.name s :: f) = s :: names f := rfl

@[simp] theorem names_plain (s : String) : names (plain s) = [] := by
  simp [names, plain, Lexeme.name?]

@[simp] theorem names_join (separator : String) (fs : List Fragment) :
    names (join separator fs) = fs.flatMap names := by
  cases fs with
  | nil => rfl
  | cons f fs =>
    rw [join_eq_ledBy, names_append, List.flatMap_cons]
    congr 1
    induction fs with
    | nil => rfl
    | cons g fs ih => simp [ih]

end Fragment

@[simp] theorem names_memberText (name : String) : (memberText name).names = nameParts name := by
  simp [memberText, memberLexemes, List.flatMap_map]

/-! ## Mentions -/

/-- A name as a statement mentions it. -/
inductive Mention
  /-- Each part between points in quotes of its own. -/
  | path (name : String)
  /-- All of the name in one pair of quotes. -/
  | whole (name : String)
  deriving DecidableEq, Repr

namespace Mention

def name : Mention → String
  | path name => name
  | whole name => name

/-- What the mention puts in quotes. -/
def quoted : Mention → List String
  | path name => nameParts name
  | whole name => [name]

theorem one_le_length_quoted (m : Mention) : 1 ≤ m.quoted.length := by
  cases m with
  | path name => exact List.length_pos_of_ne_nil (nameParts_ne_nil name)
  | whole name => exact Nat.le_refl 1

theorem quoted_eq_singleton {m : Mention} (h : ∀ name, m = path name → '.' ∉ name.toList) :
    m.quoted = [m.name] := by
  cases m with
  | path name => exact nameParts_of_notMem (h name rfl)
  | whole name => rfl

theorem length_le_length_flatMap_quoted (ms : List Mention) :
    ms.length ≤ (ms.flatMap quoted).length := by
  induction ms with
  | nil => exact Nat.le_refl 0
  | cons m ms ih =>
    have hm := m.one_le_length_quoted
    rw [List.flatMap_cons, List.length_append, List.length_cons]
    omega

/-- No path has a point. -/
def Unsplit (ms : List Mention) : Prop :=
  ∀ name, path name ∈ ms → '.' ∉ name.toList

theorem flatMap_quoted_eq_map_name_iff {ms : List Mention} :
    ms.flatMap quoted = ms.map name ↔ Unsplit ms := by
  constructor
  · intro h name hname
    obtain ⟨earlier, later, rfl⟩ := List.append_of_mem hname
    have hlength := congrArg List.length h
    have hearlier := length_le_length_flatMap_quoted earlier
    have hlater := length_le_length_flatMap_quoted later
    have hone := (path name).one_le_length_quoted
    simp only [List.flatMap_append, List.flatMap_cons, List.length_append, List.length_map,
      List.length_cons] at hlength
    exact length_nameParts_eq_one_iff.1 (by rw [quoted] at hone hlength; omega)
  · intro h
    rw [List.map_eq_flatMap]
    refine List.flatMap_congr fun m hm => ?_
    exact quoted_eq_singleton fun name hname => h name (hname ▸ hm)

end Mention

/-! ## The mentions of a statement -/

open Mention (quoted)

def Source.mentions : Source → List Mention
  | table name => [.path name]
  | aliased name asName => [.path name, .whole asName]

def Condition.mentions (c : Condition) : List Mention :=
  .path c.field :: (c.value.getD []).names.map .whole

mutual

/-- The names that an entry mentions, inner ones included. -/
def Entry.mentions : Entry → List Mention
  | .column name => [.path name]
  | .expression text asName => text.names.map .whole ++ asName.toList.map .whole
  | .subselect select asName => select.mentions ++ [.whole asName]

def entryMentions : List Entry → List Mention
  | [] => []
  | entry :: rest => entry.mentions ++ entryMentions rest

/-- The names that a statement mentions in the order of its text. -/
def Select.mentions : Select → List Mention
  | { source, entries, conditions, groupBy, orderBy, .. } =>
    entryMentions entries ++ source.toList.flatMap Source.mentions
      ++ conditions.flatMap Condition.mentions ++ groupBy.map .path
      ++ orderBy.map fun key => .path key.field

end

theorem entryMentions_eq (entries : List Entry) :
    entryMentions entries = entries.flatMap Entry.mentions := by
  induction entries with
  | nil => rfl
  | cons entry entries ih => rw [entryMentions, ih, List.flatMap_cons]

/-! ## Mentions and the text -/

theorem flatMap_quoted_whole (names : List String) : (names.map .whole).flatMap quoted = names := by
  simp [List.flatMap_map, quoted]

theorem Source.names_lexemes (s : Source) : s.lexemes.names = s.mentions.flatMap quoted := by
  cases s <;> simp [lexemes, mentions, quoted]

theorem Condition.names_lexemes (c : Condition) : c.lexemes.names = c.mentions.flatMap quoted := by
  obtain ⟨field, operator, value⟩ := c
  cases value <;> simp [lexemes, mentions, quoted, flatMap_quoted_whole]

theorem SortKey.names_lexemes (key : SortKey) :
    key.lexemes.names = (Mention.path key.field).quoted := by
  simp [lexemes, quoted]

theorem names_clauseLexemes {α : Type} (keyword separator : String) (text : α → Fragment)
    (items : List α) :
    (clauseLexemes keyword separator text items).flatMap Fragment.names =
      items.flatMap fun a => (text a).names := by
  cases items with
  | nil => rfl
  | cons a items => simp [clauseLexemes, List.flatMap_map]

theorem names_renderSelectList (fs : List Fragment) :
    (renderSelectList fs).names = fs.flatMap Fragment.names := by
  cases fs with
  | nil => simp [renderSelectList]
  | cons f fs => simp [renderSelectList]

theorem names_renderCount (keyword : String) (n : Option UInt64) :
    (renderCount keyword n).flatMap Fragment.names = [] := by
  cases n <;> simp [renderCount]

mutual

theorem Entry.names_lexemes : (entry : Entry) → entry.lexemes.names = entry.mentions.flatMap quoted
  | .column name => by simp [Entry.lexemes, Entry.mentions, quoted]
  | .expression text none => by simp [Entry.lexemes, Entry.mentions, flatMap_quoted_whole]
  | .expression text (some asName) => by
    simp [Entry.lexemes, Entry.mentions, flatMap_quoted_whole, quoted]
  | .subselect select asName => by
    have hselect := select.names_clauseLexemes
    simp [Entry.lexemes, Entry.mentions, hselect, quoted]

theorem names_entryLexemes : (entries : List Entry) →
    (entryLexemes entries).flatMap Fragment.names = (entryMentions entries).flatMap quoted
  | [] => rfl
  | entry :: rest => by
    rw [entryLexemes, entryMentions, List.flatMap_cons, List.flatMap_append, entry.names_lexemes,
      names_entryLexemes rest]

theorem Select.names_clauseLexemes : (s : Select) →
    s.clauseLexemes.flatMap Fragment.names = s.mentions.flatMap quoted
  | { source, entries, conditions, groupBy, orderBy, limit, offset } => by
    have hentries := names_entryLexemes entries
    have hsource : (source.map Source.lexemes).toList.flatMap Fragment.names =
        (source.toList.flatMap Source.mentions).flatMap quoted := by
      cases source <;> simp [Source.names_lexemes]
    simp only [Select.clauseLexemes, Select.mentions, List.flatMap_cons, List.flatMap_append,
      names_renderSelectList, hentries, hsource, Sql.names_clauseLexemes, names_renderCount,
      Condition.names_lexemes, SortKey.names_lexemes, names_memberText, List.flatMap_assoc,
      List.flatMap_map, quoted, List.append_nil, List.append_assoc]

end

theorem namesIn_text {layout : Layout} {s : Select} {sql : String} (hs : s.Standard)
    (h : s.text layout = .ok sql) : namesIn sql = some (s.mentions.flatMap quoted) := by
  rw [namesIn, lex_of_text hs h, Option.map_some, Select.lexemes, Fragment.names_join,
    s.names_clauseLexemes]

/-! ## Mentions that can be written -/

mutual

theorem Entry.mem_names : (entry : Entry) → ∀ name, name ∈ entry.names ↔ .path name ∈ entry.mentions
  | .column name => by simp [Entry.names, Entry.mentions]
  | .expression text asName => by simp [Entry.names, Entry.mentions]
  | .subselect select asName => by
    have hselect := select.mem_names
    simp [Entry.names, Entry.mentions, hselect]

theorem mem_entryNames : (entries : List Entry) →
    ∀ name, name ∈ entryNames entries ↔ .path name ∈ entryMentions entries
  | [] => by simp [entryNames, entryMentions]
  | entry :: rest => by
    have hentry := entry.mem_names
    have hrest := mem_entryNames rest
    simp [entryNames, entryMentions, hentry, hrest]

theorem Select.mem_names : (s : Select) → ∀ name, name ∈ s.names ↔ .path name ∈ s.mentions
  | { source, entries, conditions, groupBy, orderBy, limit, offset } => by
    have hentries := mem_entryNames entries
    have hsource : ∀ name, name ∈ (source.map Source.name).toList ↔
        .path name ∈ source.toList.flatMap Source.mentions := by
      intro name
      rcases source with _ | (_ | _) <;> simp [Source.name, Source.mentions]
    have hconditions : ∀ name, name ∈ conditions.map Condition.field ↔
        .path name ∈ conditions.flatMap Condition.mentions := by
      intro name
      simp [Condition.mentions, eq_comm]
    intro name
    simp only [Select.names, Select.mentions, List.mem_append, hentries, hsource, hconditions,
      List.mem_map, Mention.path.injEq, exists_eq_right]

end

theorem Select.exists_text_iff {layout : Layout} {s : Select} :
    (∃ sql, s.text layout = .ok sql) ↔ ∀ name, .path name ∈ s.mentions → "" ∉ nameParts name := by
  simp only [Select.text_eq, written_eq_ok_iff, exists_and_left, exists_eq', and_true,
    nameError?_eq_none_iff, s.mem_names]

/-- Where no name is empty, a statement has a text that holds each name in one pair of quotes just if
no path has a point. -/
theorem Select.exists_text_whole_iff (layout : Layout) {s : Select} {mentions : List Mention}
    (hs : s.Standard) (hquoted : s.mentions.flatMap quoted = mentions.flatMap quoted)
    (hne : ∀ m ∈ mentions, m.name ≠ "") :
    (∃ sql, s.text layout = .ok sql ∧ namesIn sql = some (mentions.map Mention.name)) ↔
      Mention.Unsplit mentions := by
  rw [← Mention.flatMap_quoted_eq_map_name_iff, ← hquoted]
  constructor
  · rintro ⟨sql, htext, hnames⟩
    exact Option.some.inj ((namesIn_text hs htext).symm.trans hnames)
  · intro hwhole
    have hparts : ∀ name, .path name ∈ s.mentions → "" ∉ nameParts name := by
      intro name hname hempty
      have hmem : "" ∈ s.mentions.flatMap quoted := List.mem_flatMap.2 ⟨_, hname, hempty⟩
      rw [hwhole] at hmem
      obtain ⟨m, hm, hname⟩ := List.mem_map.1 hmem
      exact hne m hm hname
    obtain ⟨sql, htext⟩ := Select.exists_text_iff.2 hparts
    exact ⟨sql, htext, (namesIn_text hs htext).trans (congrArg some hwhole)⟩

end TableAtlas.Sql
