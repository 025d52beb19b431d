import TableAtlas.Proofs.Explorer.Statements
import TableAtlas.Proofs.Plan.Lookups
import TableAtlas.Proofs.Plan.Standard
import TableAtlas.Proofs.Sql.Mentions

/-!
# Names of the catalog in statements

Three kinds of statement are made from a schema alone: the selection of all columns of a table with
the look-ups of labels, the count of the references to a row, and the count of the rows of small
tables. Each mentions tables and columns of the schema, mostly as paths, so a point in the name of a
table or a column takes the name apart. The statements hold every name in one pair of quotes just if
no path among their mentions has a point (`names_whole_iff`).
-/

namespace TableAtlas

open Sql (Select Entry Mention namesIn)
open Sql.Mention (quoted)

/-! ## Names of a kind -/

namespace Catalog

/-- The fields of listed rows that hold names of tables and columns. -/
def nameFields : List String :=
  ["table_name", "column_name", "referenced_table_name", "referenced_column_name"]

/-- No name in the rows is empty. -/
def Named (rows : List Row) : Prop :=
  ∀ row ∈ rows, ∀ field ∈ nameFields, row.text? field ≠ some ""

instance (rows : List Row) : Decidable (Named rows) :=
  inferInstanceAs (Decidable (∀ row ∈ rows, ∀ field ∈ nameFields, row.text? field ≠ some ""))

/-- All names in the rows are of one kind. -/
def NamesAre (P : String → Prop) (rows : List Row) : Prop :=
  ∀ row ∈ rows, ∀ field ∈ nameFields, ∀ name ∈ row.text? field, P name

instance (P : String → Prop) [DecidablePred P] (rows : List Row) : Decidable (NamesAre P rows) :=
  inferInstanceAs (Decidable (∀ row ∈ rows, ∀ field ∈ nameFields, ∀ name ∈ row.text? field, P name))

theorem Named.namesAre {rows : List Row} (h : Named rows) : NamesAre (· ≠ "") rows := by
  rintro row hrow field hfield _ hname rfl
  exact h row hrow field hfield hname

section Kind

variable {P : String → Prop} {rows : List Row}

theorem NamesAre.of_mem_readColumns (hnames : NamesAre P rows) {tables : SortedMap Table}
    {columns : List Column} (h : readColumns tables rows = .ok columns) {c : Column}
    (hc : c ∈ columns) : P c.name := by
  obtain ⟨row, hrow, hread⟩ := exists_row_of_mem_readColumns h hc
  exact hnames row hrow "column_name" (by simp [nameFields]) _ (of_readColumn hread).2.1

theorem NamesAre.of_mem_acceptedKeys (hnames : NamesAre P rows) {s : Schema} {k : ForeignKey}
    (hk : k ∈ acceptedKeys s rows) : P k.reference.targetColumn := by
  obtain ⟨row, hrow, hkey⟩ := List.mem_filterMap.1 hk
  obtain ⟨-, -, -, hname, -⟩ := acceptedKey?_eq_some_iff.1 hkey
  exact hnames row hrow "referenced_column_name" (by simp [nameFields]) _ hname

end Kind

theorem ne_empty_of_labelColumn? {c : Configuration} {table label : String}
    (h : c.labelColumn? table = some label) : label ≠ "" := by
  rintro rfl
  simp [Configuration.labelColumn?, Option.filter_eq_some_iff, Text.isAllBlank] at h

end Catalog

/-- The names that a table goes by, has and refers to are of one kind, and so is a label that is not
the configured one. -/
structure Table.NamesAre (P : String → Prop) (configured : Option String) (t : Table) : Prop where
  name : P t.name
  column : ∀ column c, t.columns.get? column = some c → P c.name
  target : ∀ column c r, t.columns.get? column = some c → c.refersTo = some r → P r.targetColumn
  label : ∀ label, t.labelColumn = some label → configured = some label ∨ P label

/-- No name that a table goes by, or has or refers to, is empty. -/
structure Table.Named (t : Table) : Prop where
  name : t.name ≠ ""
  column : ∀ column c, t.columns.get? column = some c → c.name ≠ ""
  target : ∀ column c r, t.columns.get? column = some c → c.refersTo = some r →
    r.targetColumn ≠ ""
  label : ∀ label, t.labelColumn = some label → label ≠ ""

namespace Catalog

theorem of_labelColumn_withColumns {columns : List Column} {t : Table} {label : String}
    (h : (withColumns columns t).labelColumn = some label) :
    t.labelColumn = some label ∨
      ∃ column c, (withColumns columns t).columns.get? column = some c ∧ c.name = label := by
  cases hconfigured : t.labelColumn with
  | some configured => exact .inl (by simpa [withColumns, hconfigured] using h)
  | none =>
    simp only [withColumns, hconfigured] at h
    obtain ⟨c, hc, hname⟩ := Option.map_eq_some_iff.1 h
    obtain ⟨column, hcolumn⟩ := mem_columnsByOrdinal.1 (List.mem_of_find?_eq_some hc)
    exact .inr ⟨column, c, hcolumn, hname⟩

section Built

variable {c : Configuration} {tableRows columnRows referenceRows : List Row} {s : Schema}
  {table : String} {t : Table}

theorem namesAre_of_buildSchema {P : String → Prop}
    (h : buildSchema c tableRows columnRows referenceRows = .ok s)
    (hnames : ∀ rows ∈ [tableRows, columnRows, referenceRows], NamesAre P rows)
    (ht : s.table? table = some t) : t.NamesAre P (c.labelColumn? table) := by
  have hreferences := (references_of_buildSchema h ht).2.2
  obtain ⟨tables, columns, listed, htables, hcolumns, hlisted, hname, rfl⟩ :=
    exists_table_of_buildSchema h ht
  obtain ⟨⟨row, hrow, htext⟩, hlabel⟩ := of_readTables htables hlisted
  have hread : ∀ column col, (withColumns columns listed).columns.get? column = some col →
      P col.name := by
    intro column col hcol
    exact (hnames columnRows (by simp)).of_mem_readColumns hcolumns (mem_of_withColumns hcol).1
  refine
    { name := hname ▸ hnames tableRows (by simp) row hrow "table_name" (by simp [nameFields]) _ htext
      column := fun column col hcol => ?_
      target := fun column col r hcol hr => ?_
      label := fun label hsome => ?_ }
  · obtain ⟨read, hcolumn, rfl⟩ := exists_of_get?_withReferences hcol
    exact hread column read hcolumn
  · rw [(hreferences column col hcol).2] at hr
    exact (hnames referenceRows (by simp)).of_mem_acceptedKeys (of_lastReference_eq_some hr).1
  · rcases of_labelColumn_withColumns hsome with hconfigured | ⟨column, col, hcol, rfl⟩
    · exact .inl (hlabel.symm.trans hconfigured)
    · exact .inr (hread column col hcol)

theorem named_of_buildSchema (h : buildSchema c tableRows columnRows referenceRows = .ok s)
    (hnamed : ∀ rows ∈ [tableRows, columnRows, referenceRows], Named rows)
    (ht : s.table? table = some t) : t.Named := by
  have hnames := namesAre_of_buildSchema h (fun rows hrows => (hnamed rows hrows).namesAre) ht
  refine ⟨hnames.name, hnames.column, hnames.target, fun label hlabel => ?_⟩
  rcases hnames.label label hlabel with hconfigured | hne
  · exact ne_empty_of_labelColumn? hconfigured
  · exact hne

theorem labelColumn_of_configured (h : buildSchema c tableRows columnRows referenceRows = .ok s)
    (ht : s.table? table = some t) {label : String} (hlabel : c.labelColumn? table = some label) :
    t.labelColumn = some label := by
  obtain ⟨tables, columns, listed, htables, -, hlisted, -, rfl⟩ := exists_table_of_buildSchema h ht
  have hconfigured := (of_readTables htables hlisted).2.trans hlabel
  show (listed.labelColumn <|> _) = some label
  rw [hconfigured]
  rfl

end Built

end Catalog

/-! ## The mentions of each statement -/

namespace Plan

/-- A look-up puts its alias in front of the columns of the table that it looks into. -/
def lookupMentions (t : Table) (number : Nat) (reference : Reference) (label : String) :
    List Mention :=
  [.whole (lookupAlias number), .path label, .path reference.targetTable,
    .whole (lookupAlias number), .whole (lookupAlias number), .path reference.targetColumn,
    .whole t.name, .whole reference.column, .whole (labelMarker ++ reference.column)]

/-- The names in the selection of all columns of a table. -/
def selectMentions (s : Schema) (t : Table) : List Mention :=
  (t.columnsByOrdinal.map Column.name).map .path
    ++ ((t.columnsByOrdinal.map Column.name).filterMap (labelled? s t)).zipIdx.flatMap
      (fun found => lookupMentions t (found.2 + 1) found.1.1 found.1.2)
    ++ [.path t.name]

/-- The names in the count of the rows that refer by one foreign key. -/
def countMentions (r : Reference) : List Mention :=
  [.path r.targetTable, .path r.targetColumn, .whole (countAlias r)]

theorem quoted_labelLookup (t : Table) (number : Nat) (reference : Reference) (label : String) :
    (labelLookup t number reference label).mentions.flatMap quoted =
      (lookupMentions t number reference label).flatMap quoted := by
  have hpoint := point_notMem_lookupAlias number
  simp [labelLookup, lookupMentions, Entry.mentions, Select.mentions, Sql.entryMentions,
    Sql.Source.mentions, Sql.Condition.mentions, quoted, Sql.nameParts_append_point hpoint]

theorem quoted_clausesOf (s : Schema) (t : Table) (table : String) :
    (clausesOf s t (.ofTable table) [] []).mentions.flatMap quoted =
      (selectMentions s t).flatMap quoted := by
  have hlookups : ∀ names,
      ((labelLookups s t names).flatMap Entry.mentions).flatMap quoted =
        ((names.filterMap (labelled? s t)).zipIdx.flatMap fun found =>
          lookupMentions t (found.2 + 1) found.1.1 found.1.2).flatMap quoted := by
    intro names
    rw [labelLookups, List.mapIdx_eq_zipIdx_map, List.flatMap_map, List.flatMap_assoc,
      List.flatMap_assoc]
    exact List.flatMap_congr fun found _ => quoted_labelLookup t _ _ _
  have hcolumns : ∀ names : List String,
      (names.map Entry.column).flatMap Entry.mentions = names.map .path := by
    intro names
    rw [List.flatMap_map, List.map_eq_flatMap]
    exact List.flatMap_congr fun name _ => by rw [Entry.mentions]
  simp only [clausesOf, baseNames, Query.ofTable, Query.allSortKeys, Select.mentions,
    selectMentions, Sql.entryMentions_eq, List.flatMap_append, hlookups, hcolumns]
  simp [Sql.Source.mentions]

theorem mentions_countEntries (references : List Reference) :
    Select.mentions { entries := references.map countEntry } =
      references.flatMap countMentions := by
  have hentry : ∀ r, (countEntry r).mentions = countMentions r := by
    intro r
    simp [countEntry, countMentions, Entry.mentions, Entry.countAll, Select.mentions,
      Sql.entryMentions_eq, Sql.Source.mentions, Sql.Condition.mentions, Sql.placeholder]
  simp [Select.mentions, Sql.entryMentions_eq, List.flatMap_map, hentry]

/-! ### Mentioned names are not empty -/

theorem ne_empty_of_mem_lookupMentions {t : Table} {number : Nat} {reference : Reference}
    {label : String} (ht : t.name ≠ "") (hcolumn : reference.column ≠ "")
    (htable : reference.targetTable ≠ "") (htarget : reference.targetColumn ≠ "")
    (hlabel : label ≠ "") : ∀ m ∈ lookupMentions t number reference label, m.name ≠ "" := by
  have halias : lookupAlias number ≠ "" := by simp [lookupAlias]
  have hmarker : labelMarker ++ reference.column ≠ "" := by simp [labelMarker]
  simp [lookupMentions, Mention.name, ht, hcolumn, htable, htarget, hlabel, halias, hmarker]

section Named

variable {s : Schema} {t : Table} {table : String}

theorem ne_empty_of_mem_selectMentions (hwell : s.WellFormed)
    (hnamed : ∀ table t, s.table? table = some t → t.Named) (ht : s.table? table = some t) :
    ∀ m ∈ selectMentions s t, m.name ≠ "" := by
  have hown := hnamed table t ht
  intro m hm
  simp only [selectMentions, List.mem_append, List.mem_map, List.mem_flatMap,
    List.mem_singleton] at hm
  rcases hm with (⟨_, ⟨c, hc, rfl⟩, rfl⟩ | ⟨found, hfound, hm⟩) | rfl
  · obtain ⟨column, hcolumn⟩ := mem_columnsByOrdinal.1 hc
    exact hown.column column c hcolumn
  · obtain ⟨name, -, hlabelled⟩ := List.mem_filterMap.1 (List.fst_mem_of_mem_zipIdx hfound)
    obtain ⟨c, target, hc, hr, htarget, hlabel⟩ := labelled?_eq_some_iff.1 hlabelled
    have hcolumn : found.1.1.column ≠ "" := by
      rw [((hwell table t ht).refersTo name c _ hc hr).1, ← (hwell table t ht).columnName name c hc]
      exact hown.column name c hc
    have htable : found.1.1.targetTable ≠ "" := by
      rw [← (hwell _ target htarget).name]
      exact (hnamed _ target htarget).name
    exact ne_empty_of_mem_lookupMentions hown.name hcolumn htable (hown.target name c _ hc hr)
      ((hnamed _ target htarget).label _ hlabel) m hm
  · exact hown.name

theorem ne_empty_of_mem_countMentions (hwell : s.WellFormed)
    (hnamed : ∀ table t, s.table? table = some t → t.Named) (ht : s.table? table = some t) :
    ∀ m ∈ t.referencedBy.flatMap countMentions, m.name ≠ "" := by
  intro m hm
  obtain ⟨r, hr, hm⟩ := List.mem_flatMap.1 hm
  -- The column that refers is one of the schema, and so is its table.
  obtain ⟨c, hcolumn⟩ := Option.isSome_iff_exists.1 ((hwell table t ht).referencedBy r hr)
  obtain ⟨source, hsource, hcolumn⟩ := Schema.column?_eq_some_iff.1 hcolumn
  have htable : r.targetTable ≠ "" := by
    rw [← (hwell _ source hsource).name]
    exact (hnamed _ source hsource).name
  have hname : r.targetColumn ≠ "" := by
    rw [← (hwell _ source hsource).columnName _ c hcolumn]
    exact (hnamed _ source hsource).column _ c hcolumn
  have halias : countAlias r ≠ "" := by simp [countAlias, htable]
  simp only [countMentions, List.mem_cons, List.not_mem_nil, or_false] at hm
  rcases hm with rfl | rfl | rfl
  · exact htable
  · exact hname
  · exact halias

end Named

end Plan

namespace Catalog

/-- The names in the count of the rows of a table. -/
def rowCountMentions (table : String) : List Mention :=
  [.path table, .whole table]

theorem mentions_rowCounts (tables : List String) :
    (rowCounts tables).mentions = tables.flatMap rowCountMentions := by
  have hentry : ∀ table, Entry.mentions (.subselect
      { source := some (.table table), entries := [.countAll] } table) = rowCountMentions table := by
    intro table
    simp [rowCountMentions, Entry.mentions, Entry.countAll, Select.mentions, Sql.entryMentions_eq,
      Sql.Source.mentions]
  simp only [rowCounts, Select.mentions, Sql.entryMentions_eq, List.flatMap_map, hentry]
  simp

theorem rowCounts_standard (tables : List String) : (rowCounts tables).Standard := by
  rw [Select.standard_iff]
  refine ⟨fun entry hentry => ?_, by simp [rowCounts]⟩
  obtain ⟨table, -, rfl⟩ := List.mem_map.1 hentry
  rw [Entry.Standard, Select.standard_iff]
  exact ⟨by simp [Entry.countAll_standard], by simp⟩

end Catalog

theorem Catalog.ne_empty_of_mem_rowCountMentions {s : Schema}
    (hnamed : ∀ table t, s.table? table = some t → t.Named) :
    ∀ m ∈ (smallTables s).flatMap rowCountMentions, m.name ≠ "" := by
  intro m hm
  obtain ⟨table, htable, hm⟩ := List.mem_flatMap.1 hm
  obtain ⟨t, ht, rfl⟩ := List.mem_map.1 htable
  obtain ⟨name, hname⟩ := SortedMap.mem_values_iff.1 (List.mem_filter.1 ht).1
  have hne : t.name ≠ "" := (hnamed name t hname).name
  simp only [rowCountMentions, List.mem_cons, List.not_mem_nil, or_false] at hm
  rcases hm with rfl | rfl
  · exact hne
  · exact hne

/-! ## Names in one pair of quotes -/

theorem exists_statement_iff {written : Except Sql.NameError String} {params names : List String} :
    (∃ st : Statement, (written = .ok st.sql ∧ st.params = params) ∧ namesIn st.sql = some names) ↔
      ∃ sql, written = .ok sql ∧ namesIn sql = some names := by
  constructor
  · rintro ⟨st, ⟨hwritten, -⟩, hnames⟩
    exact ⟨st.sql, hwritten, hnames⟩
  · rintro ⟨sql, hwritten, hnames⟩
    exact ⟨⟨sql, params⟩, ⟨hwritten, rfl⟩, hnames⟩

namespace Plan

variable {s : Schema} {t : Table} {table : String} {st : Statement}

theorem select_ofTable (ht : s.table? table = some t) :
    select s (.ofTable table) =
      (liftName ((clausesOf s t (.ofTable table) [] []).text .multiLine) >>= fun sql =>
        pure ⟨sql, []⟩) := by
  have htable : s.table? (Query.ofTable table).table = some t := ht
  simp only [select, htable]
  rfl

theorem select_ofTable_eq_ok_iff (ht : s.table? table = some t) :
    select s (.ofTable table) = .ok st ↔
      (clausesOf s t (.ofTable table) [] []).text .multiLine = .ok st.sql ∧ st.params = [] := by
  obtain ⟨sql, params⟩ := st
  rw [select_ofTable ht, bind_eq_ok_iff]
  simp only [liftName_eq_ok_iff, pure_eq_ok_iff, Statement.mk.injEq]
  constructor
  · rintro ⟨sql', htext, rfl, rfl⟩
    exact ⟨htext, rfl⟩
  · rintro ⟨htext, rfl⟩
    exact ⟨sql, htext, rfl, rfl⟩

theorem referenceCount_of_table_eq_ok_iff (ht : s.table? table = some t)
    (hne : t.referencedBy ≠ []) {rowId : String} :
    referenceCount s table rowId = .ok (some st) ↔
      Select.text .multiLine { entries := t.referencedBy.map countEntry } = .ok st.sql ∧
        st.params = t.referencedBy.map fun _ => rowId := by
  rw [referenceCount_eq_ok_some_iff]
  constructor
  · rintro ⟨t', ht', -, hcount⟩
    obtain rfl : t = t' := Option.some.inj (ht.symm.trans ht')
    exact hcount
  · intro hcount
    exact ⟨t, ht, hne, hcount⟩

end Plan

/-- Three kinds of statement are made from a built schema alone. Each is made, with every name that it
mentions in one pair of quotes and no other name in quotes, just if no table, column or label that it
mentions as a path has a point in its name. -/
theorem names_whole_iff {c : Configuration} {tableRows columnRows referenceRows : List Row}
    {s : Schema} (hbuilt : Catalog.buildSchema c tableRows columnRows referenceRows = .ok s)
    (hnamed : ∀ rows ∈ [tableRows, columnRows, referenceRows], Catalog.Named rows) :
    (∀ table t, s.table? table = some t →
      ((∃ st, Plan.select s (.ofTable table) = .ok st ∧
          namesIn st.sql = some ((Plan.selectMentions s t).map Mention.name)) ↔
        Mention.Unsplit (Plan.selectMentions s t)) ∧
      (t.referencedBy ≠ [] → ∀ rowId,
        ((∃ st, Plan.referenceCount s table rowId = .ok (some st) ∧
            namesIn st.sql = some ((t.referencedBy.flatMap Plan.countMentions).map Mention.name)) ↔
          Mention.Unsplit (t.referencedBy.flatMap Plan.countMentions)))) ∧
    ((∃ st, Catalog.statement (Catalog.rowCounts (Catalog.smallTables s)) [] = .ok st ∧
        namesIn st.sql =
          some (((Catalog.smallTables s).flatMap Catalog.rowCountMentions).map Mention.name)) ↔
      Mention.Unsplit ((Catalog.smallTables s).flatMap Catalog.rowCountMentions)) := by
  have hwell := Catalog.wellFormed_of_buildSchema hbuilt
  have htables : ∀ table t, s.table? table = some t → t.Named :=
    fun table t => Catalog.named_of_buildSchema hbuilt hnamed
  refine ⟨fun table t ht => ⟨?_, fun hne rowId => ?_⟩, ?_⟩
  · rw [← Select.exists_text_whole_iff .multiLine (Plan.clausesOf_standard s t _ (by simp) (by simp))
      (Plan.quoted_clausesOf s t table) (Plan.ne_empty_of_mem_selectMentions hwell htables ht)]
    simp only [Plan.select_ofTable_eq_ok_iff ht]
    exact exists_statement_iff
  · rw [← Select.exists_text_whole_iff .multiLine (Plan.countEntries_standard t.referencedBy)
      (congrArg _ (Plan.mentions_countEntries t.referencedBy))
      (Plan.ne_empty_of_mem_countMentions hwell htables ht)]
    simp only [Plan.referenceCount_of_table_eq_ok_iff ht hne]
    exact exists_statement_iff
  · rw [← Select.exists_text_whole_iff .multiLine (Catalog.rowCounts_standard (Catalog.smallTables s))
      (congrArg _ (Catalog.mentions_rowCounts (Catalog.smallTables s)))
      (Catalog.ne_empty_of_mem_rowCountMentions htables)]
    simp only [Catalog.statement_eq_ok_iff]
    exact exists_statement_iff

open Plan (userTables userColumns userReferences userSchema) in
theorem names_whole_orders :
    Catalog.buildSchema (.mysql "root" "secret" "shop") (userTables "orders") (userColumns "orders")
        (userReferences "orders") = .ok (userSchema "orders") ∧
      (∀ rows ∈ [userTables "orders", userColumns "orders", userReferences "orders"],
        Catalog.Named rows) ∧
      ∃ st, Plan.select (userSchema "orders") (.ofTable "orders") = .ok st ∧
        namesIn st.sql = some ["user", "t1", "name", "users", "t1", "t1", "name", "orders", "user",
          "$label$user", "orders"] := by
  have hbuilt : Catalog.buildSchema (.mysql "root" "secret" "shop") (userTables "orders")
      (userColumns "orders") (userReferences "orders") = .ok (userSchema "orders") :=
    eq_ok_getD_of_isSome (by decide +kernel)
  have hnamed : ∀ rows ∈ [userTables "orders", userColumns "orders", userReferences "orders"],
      Catalog.Named rows := by decide +kernel
  have hmentions : ((userSchema "orders").table? "orders").map
      (Plan.selectMentions (userSchema "orders")) =
        some [.path "user", .whole "t1", .path "name", .path "users", .whole "t1", .whole "t1",
          .path "name", .whole "orders", .whole "user", .whole "$label$user", .path "orders"] := by
    decide +kernel
  obtain ⟨t, ht, hmentions⟩ := Option.map_eq_some_iff.1 hmentions
  have hunsplit : Mention.Unsplit (Plan.selectMentions (userSchema "orders") t) := by
    rw [hmentions]
    intro name hname
    simp only [List.mem_cons, Mention.path.injEq, reduceCtorEq, false_or, List.not_mem_nil,
      or_false] at hname
    rcases hname with rfl | rfl | rfl | rfl | rfl <;> decide
  obtain ⟨st, hselect, hnames⟩ := ((names_whole_iff hbuilt hnamed).1 "orders" t ht).1.2 hunsplit
  rw [hmentions] at hnames
  exact ⟨hbuilt, hnamed, st, hselect, hnames⟩

/-! ### A table with a point in its name -/

def dottedTables : List Row :=
  [Catalog.textRow [("table_name", "a.b")]]

def dottedColumns : List Row :=
  [Catalog.textRow [("table_name", "a.b"), ("column_name", "id")]]

def dottedSchema : Schema :=
  (Catalog.buildSchema (.mysql "root" "secret" "shop") dottedTables dottedColumns []).toOption.getD
    default

/-- The name of the table is taken for a path, and the statement asks for a table `b` of `a`. -/
theorem not_names_whole_dotted :
    Catalog.buildSchema (.mysql "root" "secret" "shop") dottedTables dottedColumns [] =
        .ok dottedSchema ∧
      (∀ rows ∈ [dottedTables, dottedColumns, []], Catalog.Named rows) ∧
      Plan.select dottedSchema (.ofTable "a.b") =
        .ok ⟨"SELECT `id`\nFROM `a`.`b`\nLIMIT 300", []⟩ ∧
      ¬∃ st, Plan.select dottedSchema (.ofTable "a.b") = .ok st ∧
        namesIn st.sql = some ["id", "a.b"] := by
  have hbuilt : Catalog.buildSchema (.mysql "root" "secret" "shop") dottedTables dottedColumns [] =
      .ok dottedSchema := eq_ok_getD_of_isSome (by decide +kernel)
  have hselect : Plan.select dottedSchema (.ofTable "a.b") =
      .ok ⟨"SELECT `id`\nFROM `a`.`b`\nLIMIT 300", []⟩ := eq_ok_of_toOption (by decide +kernel)
  refine ⟨hbuilt, by decide +kernel, hselect, ?_⟩
  rintro ⟨st, hst, hnames⟩
  obtain rfl := Except.ok.inj (hselect.symm.trans hst)
  have hread : namesIn "SELECT `id`\nFROM `a`.`b`\nLIMIT 300" = some ["id", "a", "b"] := by
    decide +kernel
  rw [hread] at hnames
  exact absurd hnames (by decide)

end TableAtlas
