import TableAtlas.Proofs.Plan.Tokens

/-!
# The text of planned queries

A planned query is written with the tokens of `statementTokens`, and its text is read back to them.
The words of tokens come from the fixed set of `Sql.Word`, so whatever text a schema or a query holds,
it reaches a statement as a name in quotes or not at all.
-/

namespace TableAtlas

namespace Plan

open Sql

/-! ## Parts -/

theorem lexemes_column (name : String) : (Entry.column name).lexemes = spell (memberTokens name) := by
  rw [Entry.lexemes, spell_memberTokens]

theorem lexemes_aggregate {a : Aggregate} {entry : Entry} (h : aggregateEntry a = .ok entry) :
    entry.lexemes = spell (aggregateTokens a) := by
  obtain ⟨function, target, hfunction, htarget, rfl⟩ := aggregateEntry_eq_ok_iff.1 h
  have htarget' : target = spell (targetTokens a.target) := by
    cases hcolumn : a.target with
    | none => simpa [hcolumn, targetTokens, Token.lexemes, Word.text] using htarget
    | some column =>
      rw [hcolumn] at htarget
      simp only [member_eq, written_eq_ok_iff] at htarget
      rw [targetTokens, spell_memberTokens, htarget.2]
  simp only [Entry.lexemes, aggregateTokens, hfunction, htarget', Fragment.plain_append,
    spell_append, spell_cons, spell_nil, Token.lexemes, Word.text, List.append_assoc,
    List.nil_append, List.cons_append]

theorem lexemes_labelLookup (t : Table) (number : Nat) (reference : Reference) (label : String) :
    (labelLookup t number reference label).lexemes =
      spell (lookupTokens t number reference label) := by
  have hpoint := point_notMem_lookupAlias number
  simp only [labelLookup, lookupTokens, Entry.lexemes, Select.clauseLexemes, entryLexemes,
    renderSelectList, clauseLexemes, renderCount, Option.map_some, Option.toList_some, List.map_cons,
    List.map_nil, Source.lexemes, Condition.lexemes, ← spell_memberTokens,
    memberTokens_append_point hpoint]
  have hnaming : Fragment.plain ") AS " = Fragment.plain ")" ++ Fragment.plain " AS " := rfl
  simp [Fragment.join, Token.lexemes, Word.text, Layout.separator, Operator.word, hnaming]

theorem lexemes_labelLookups (s : Schema) (t : Table) (names : List String) :
    (labelLookups s t names).map Entry.lexemes = (lookupPieces s t names).map spell := by
  rw [labelLookups, lookupPieces, List.mapIdx_eq_zipIdx_map, List.mapIdx_eq_zipIdx_map,
    List.map_map, List.map_map]
  refine List.map_congr_left fun pair _ => ?_
  exact lexemes_labelLookup t (pair.2 + 1) pair.1.1 pair.1.2

theorem lexemes_conditionOf {f : Filter} {operator : Operator}
    (h : Operator.ofText? f.operator = some operator) :
    (conditionOf operator f).lexemes = spell (filterTokens f) := by
  simp only [conditionOf, Condition.lexemes, filterTokens, h, spell_append, spell_memberTokens]
  cases operator.takesValue with
  | false => simp [Token.lexemes, Word.text]
  | true => simp [Token.lexemes, Word.text, placeholder]

theorem lexemes_sortKey (k : SortKey) : k.lexemes = spell (sortKeyTokens k) := by
  simp [SortKey.lexemes, sortKeyTokens, spell_memberTokens, Token.lexemes, Word.text]

theorem entryLexemes_clausesOf (s : Schema) (t : Table) {q : Query} {aggregate : List Entry}
    (conditions : List Condition) (h : aggregateEntries q = .ok aggregate) :
    entryLexemes (clausesOf s t q aggregate conditions).entries =
      (entryTokens s t q).map spell := by
  have haggregate : aggregate.map Entry.lexemes =
      (q.aggregate.map aggregateTokens).toList.map spell := by
    unfold aggregateEntries at h
    cases hq : q.aggregate with
    | none =>
      rw [hq] at h
      obtain rfl : [] = aggregate := by simpa using h
      rfl
    | some a =>
      simp only [hq, bind_eq_ok_iff, pure_eq_ok_iff] at h
      obtain ⟨entry, hentry, rfl⟩ := h
      simp [lexemes_aggregate hentry]
  have hcolumns : ((baseNames t q).map Entry.column).map Entry.lexemes =
      ((baseNames t q).map memberTokens).map spell := by
    simp [lexemes_column, Function.comp_def]
  rw [entryLexemes_eq, clausesOf, entryTokens, List.map_append, List.map_append, List.map_append,
    List.map_append, hcolumns, haggregate,
    lexemes_labelLookups]

theorem flatMap_clauseLexemes {α : Type} (keyword separator : Word) {text : α → Fragment}
    {items : List α} {pieces : List (List Token)} (h : items.map text = pieces.map spell) :
    ((clauseLexemes keyword.text separator.text text items).flatMap fun clause =>
        Fragment.plain "\n" ++ clause) =
      spell (clauseTokens keyword separator pieces) := by
  cases items with
  | nil =>
    obtain rfl : pieces = [] := by simpa using h.symm
    rfl
  | cons a items =>
    cases pieces with
    | nil => simp at h
    | cons piece pieces =>
      simp only [clauseLexemes, clauseTokens, List.isEmpty_cons, Bool.false_eq_true, if_false,
        spell_cons, spell_separated, h]
      simp [Token.lexemes, Word.text]

/-! ## Statements -/

theorem renderSelectList_spell (pieces : List (List Token)) :
    renderSelectList (pieces.map spell) = spell (selectTokens pieces) := by
  unfold renderSelectList selectTokens
  cases pieces with
  | nil => rfl
  | cons piece pieces =>
    simp only [List.isEmpty_map, List.isEmpty_cons, Bool.false_eq_true, if_false, spell_cons,
      spell_separated]
    rfl

/-- The text of planned clauses, token by token. -/
theorem lexemes_clausesOf {s : Schema} {t : Table} {q : Query} {aggregate : List Entry}
    {filters : List (Condition × Option String)} (haggregate : aggregateEntries q = .ok aggregate)
    (hfilters : q.allFilters.mapM readFilter = .ok filters) :
    (clausesOf s t q aggregate (filters.map Prod.fst)).lexemes .multiLine =
      spell (statementTokens s t q) := by
  have hentries := entryLexemes_clausesOf s t (filters.map Prod.fst) haggregate
  have hconditions : (filters.map Prod.fst).map Condition.lexemes =
      (q.allFilters.map filterTokens).map spell := by
    have h := map_eq_map_of_forall₂ (f := fun f => spell (filterTokens f)) (g := Condition.lexemes)
      (conditions_of_filters hfilters) fun f c ⟨operator, hoperator, _, hc⟩ =>
        hc ▸ (lexemes_conditionOf hoperator).symm
    rw [← h, List.map_map]
    rfl
  have hgroup : ((q.aggregate.map Aggregate.groupBy).getD []).map memberText =
      (((q.aggregate.map Aggregate.groupBy).getD []).map memberTokens).map spell := by
    simp [spell_memberTokens]
  have horder : q.allSortKeys.map SortKey.lexemes = (q.allSortKeys.map sortKeyTokens).map spell := by
    simp [lexemes_sortKey]
  have hclauses := flatMap_clauseLexemes .conditions .also hconditions
  have hgroups := flatMap_clauseLexemes .grouping .comma hgroup
  have horders := flatMap_clauseLexemes .ordering .comma horder
  simp only [clausesOf] at hentries
  simp only [Word.text] at hclauses hgroups horders
  simp only [Select.lexemes, clausesOf, Select.clauseLexemes, Fragment.join_cons, hentries,
    renderSelectList_spell, Layout.separator, List.flatMap_append, hclauses, hgroups, horders,
    statementTokens, headTokens, tailTokens, spell_append]
  cases q.offset with
  | none => simp [renderCount, Source.lexemes, Token.lexemes, Word.text, spell_memberTokens]
  | some n => simp [renderCount, Source.lexemes, Token.lexemes, Word.text, spell_memberTokens]

theorem select_spelled {s : Schema} {q : Query} {st : Statement} (h : select s q = .ok st) :
    ∃ t clause, s.table? q.table = some t ∧ selectFrom s t q = .ok (clause, st.params) ∧
      clause.render .multiLine = .ok (spell (statementTokens s t q)) ∧
      st.sql = (spell (statementTokens s t q)).text := by
  obtain ⟨t, clause, htable, hselect, htext⟩ := select_eq_ok_iff.1 h
  obtain ⟨-, aggregate, filters, haggregate, hfilters, hclause, -⟩ := selectFrom_eq_ok_iff.1 hselect
  have hlexemes : clause.lexemes .multiLine = spell (statementTokens s t q) :=
    hclause ▸ lexemes_clausesOf haggregate hfilters
  rw [Select.text_eq, written_eq_ok_iff, hlexemes] at htext
  refine ⟨t, clause, htable, hselect, ?_, htext.2.symm⟩
  rw [Select.render_eq, written_eq_ok_iff, hlexemes]
  exact ⟨htext.1, rfl⟩

/-- The text of a planned query is read back, with all quotes closed, to the tokens of its clauses:
outside of quotes stands nothing but words of the fixed set, and in quotes stand the parts of the
names it uses and the names it brings in, in this order. -/
theorem lex_select {s : Schema} {q : Query} {st : Statement} (h : select s q = .ok st) :
    ∃ t clause, s.table? q.table = some t ∧ selectFrom s t q = .ok (clause, st.params) ∧
      clause.render .multiLine = .ok (spell (statementTokens s t q)) ∧
      lex st.sql = some (spell (statementTokens s t q)) ∧
      (spell (statementTokens s t q)).filterMap Lexeme.char? =
        ((statementTokens s t q).filterMap Token.word?).flatMap (fun w => w.text.toList) ∧
      (spell (statementTokens s t q)).filterMap Lexeme.name? = statementNames s t q := by
  obtain ⟨t, clause, htable, hselect, hrender, hsql⟩ := select_spelled h
  refine ⟨t, clause, htable, hselect, hrender, ?_, filterMap_char?_spell _, ?_⟩
  · rw [hsql]
    exact lex_spell (apart_statementTokens s t q)
  · rw [filterMap_name?_spell, quotedNames_statementTokens]

/-- A table whose names hold backticks, points and question marks, with a column that refers. -/
def oddTable : Table where
  name := "a`b?"
  columns := SortedMap.empty.insert "``"
    ⟨"``", 1, "int", "MUL", none, true, "", "a`b?", some ⟨"``", "u.v", "i`d"⟩⟩
  primaryKey := none
  size := {}
  labelColumn := none
  referencedBy := []

def oddSchema : Schema where
  name := "odd"
  flavor := .mysql
  tables := (SortedMap.empty.insert "a`b?" oddTable).insert "u.v"
    ⟨"u.v", ∅, none, {}, some "n?", []⟩

def oddQuery : Query where
  table := "a`b?"
  columns := some ["``"]
  filters := some [⟨"x?", " LIKE ", some "`?"⟩]

def oddStatement : Statement where
  sql := "SELECT ``````, (SELECT `t1`.`n?` FROM `u`.`v` `t1` WHERE `t1`.`i``d` = " ++
    "`a``b?`.``````) AS `$label$`````\nFROM `a``b?`\nWHERE `x?` like ?\nLIMIT 300"
  params := ["%`?%"]

theorem select_odd : select oddSchema oddQuery = .ok oddStatement :=
  eq_ok_of_toOption (by decide +kernel)

theorem lex_select_odd :
    select oddSchema oddQuery = .ok oddStatement ∧
    ∃ f, lex oddStatement.sql = some f ∧
      f.filterMap Lexeme.name? = ["``", "t1", "n?", "u", "v", "t1", "t1", "i`d", "a`b?", "``",
        "$label$``", "a`b?", "x?"] := by
  have htable : oddSchema.table? oddQuery.table = some oddTable := by decide +kernel
  obtain ⟨t, -, ht, -, -, hlex, -, hnames⟩ := lex_select select_odd
  obtain rfl : oddTable = t := Option.some.inj (htable.symm.trans ht)
  have hlist : statementNames oddSchema oddTable oddQuery = ["``", "t1", "n?", "u", "v", "t1", "t1",
      "i`d", "a`b?", "``", "$label$``", "a`b?", "x?"] := by decide +kernel
  exact ⟨select_odd, _, hlex, hnames.trans hlist⟩

end Plan

end TableAtlas
