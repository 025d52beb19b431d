import TableAtlas.Catalog.Assembly
import TableAtlas.Proofs.Result
import TableAtlas.Proofs.SortedMap

/-!
# Assembled schemas

What a schema holds that is built from the three listings of a catalog. Of the listed foreign keys it
takes in the accepted ones: those whose tables and whose column it has.
-/

namespace TableAtlas

namespace Schema

/-- A column of one of the tables. -/
def column? (s : Schema) (table column : String) : Option Column :=
  (s.table? table).bind fun t => t.columns.get? column

theorem column?_eq_some_iff {s : Schema} {table column : String} {c : Column} :
    s.column? table column = some c ↔
      ∃ t, s.table? table = some t ∧ t.columns.get? column = some c :=
  Option.bind_eq_some_iff

theorem isSome_column?_of_view {s : Schema} {table column : String}
    (h : (s.table? table).isSome = false) : (s.column? table column).isSome = false := by
  rw [column?, Option.isSome_eq_false_iff.1 h |> Option.isNone_iff_eq_none.1]
  rfl

end Schema

namespace Catalog

open Schema (isSome_column?_of_view)

/-! ## Listings -/

theorem requireText_eq_ok_iff {row : Row} {field text : String} :
    requireText row field = .ok text ↔ row.text? field = some text := by
  unfold requireText
  cases row.text? field <;> simp

theorem of_readTable {c : Configuration} {row : Row} {t : Table} (h : readTable c row = .ok t) :
    row.text? "table_name" = some t.name ∧ t.labelColumn = c.labelColumn? t.name ∧
      t.referencedBy = [] := by
  simp only [readTable, bind_eq_ok_iff, pure_eq_ok_iff, requireText_eq_ok_iff] at h
  obtain ⟨name, hname, rfl⟩ := h
  exact ⟨hname, rfl, rfl⟩

theorem exists_row_of_readTables {c : Configuration} {rows : List Row} {tables : SortedMap Table}
    {table : String} {t : Table} (h : readTables c rows = .ok tables)
    (ht : tables.get? table = some t) : t.name = table ∧ ∃ row ∈ rows, readTable c row = .ok t := by
  simp only [readTables, bind_eq_ok_iff, pure_eq_ok_iff] at h
  obtain ⟨listed, hlisted, rfl⟩ := h
  obtain ⟨t', hmem, heq⟩ := List.mem_map.1 (SortedMap.mem_of_get?_ofList ht)
  obtain ⟨hname, rfl⟩ := Prod.mk.inj heq
  exact ⟨hname, exists_of_mem_mapM hlisted hmem⟩

theorem name_of_readTables {c : Configuration} {rows : List Row} {tables : SortedMap Table}
    {name : String} {t : Table} (h : readTables c rows = .ok tables)
    (ht : tables.get? name = some t) : t.name = name :=
  (exists_row_of_readTables h ht).1

theorem of_readTables {c : Configuration} {rows : List Row} {tables : SortedMap Table}
    {table : String} {t : Table} (h : readTables c rows = .ok tables)
    (ht : tables.get? table = some t) :
    (∃ row ∈ rows, row.text? "table_name" = some table) ∧ t.labelColumn = c.labelColumn? table := by
  obtain ⟨rfl, row, hrow, hread⟩ := exists_row_of_readTables h ht
  obtain ⟨hname, hlabel, -⟩ := of_readTable hread
  exact ⟨⟨row, hrow, hname⟩, hlabel⟩

theorem of_readColumn {tables : SortedMap Table} {row : Row} {c : Column}
    (h : readColumn tables row = .ok (some c)) :
    row.text? "table_name" = some c.table ∧ row.text? "column_name" = some c.name ∧
      ¬isReservedName c.name ∧ c.refersTo = none ∧ tables.contains c.table ∧
      c.ordinal = ((row.natural? "ordinal_position").getD 0).toUInt32 := by
  simp only [readColumn, bind_eq_ok_iff, requireText_eq_ok_iff] at h
  obtain ⟨table, htable, h⟩ := h
  split at h
  · exact absurd (pure_eq_ok_iff.1 h) (by simp)
  · next hlisted =>
    obtain ⟨name, hname, h⟩ := bind_eq_ok_iff.1 h
    split at h
    · obtain ⟨_, hthrow, -⟩ := bind_eq_ok_iff.1 h
      exact absurd hthrow throw_ne_ok
    · next hreserved =>
      obtain rfl := Option.some.inj (pure_eq_ok_iff.1 h)
      exact ⟨htable, requireText_eq_ok_iff.1 hname, hreserved, rfl, by simpa using hlisted, rfl⟩

theorem of_readColumn_eq_none {tables : SortedMap Table} {row : Row}
    (h : readColumn tables row = .ok none) :
    ∃ table, row.text? "table_name" = some table ∧ ¬tables.contains table := by
  simp only [readColumn, bind_eq_ok_iff, requireText_eq_ok_iff] at h
  obtain ⟨table, htable, h⟩ := h
  split at h
  · next hview => exact ⟨table, htable, by simpa using hview⟩
  · obtain ⟨_, -, h⟩ := bind_eq_ok_iff.1 h
    split at h
    · obtain ⟨_, hthrow, -⟩ := bind_eq_ok_iff.1 h
      exact absurd hthrow throw_ne_ok
    · cases pure_eq_ok_iff.1 h

theorem exists_row_of_mem_readColumns {tables : SortedMap Table} {rows : List Row}
    {columns : List Column} (h : readColumns tables rows = .ok columns) {c : Column}
    (hc : c ∈ columns) : ∃ row ∈ rows, readColumn tables row = .ok (some c) := by
  simp only [readColumns, bind_eq_ok_iff, pure_eq_ok_iff] at h
  obtain ⟨read, hread, rfl⟩ := h
  obtain ⟨column, hcolumn, heq⟩ := List.mem_filterMap.1 hc
  obtain rfl : column = some c := heq
  exact exists_of_mem_mapM hread hcolumn

/-! ## Accepted foreign keys -/

/-- The foreign key of a row, `none` unless the schema has both tables and the column that refers. -/
def acceptedKey? (s : Schema) (row : Row) : Option ForeignKey := do
  let table ← row.text? "table_name"
  let target ← row.text? "referenced_table_name"
  let column ← row.text? "column_name"
  let targetColumn ← row.text? "referenced_column_name"
  if (s.table? target).isSome && (s.column? table column).isSome then
    some ⟨table, ⟨column, target, targetColumn⟩⟩
  else none

theorem acceptedKey?_eq_some_iff {s : Schema} {row : Row} {k : ForeignKey} :
    acceptedKey? s row = some k ↔
      row.text? "table_name" = some k.table ∧
      row.text? "referenced_table_name" = some k.reference.targetTable ∧
      row.text? "column_name" = some k.reference.column ∧
      row.text? "referenced_column_name" = some k.reference.targetColumn ∧
      (s.table? k.reference.targetTable).isSome ∧ (s.column? k.table k.reference.column).isSome := by
  simp only [acceptedKey?, Option.bind_eq_bind, Option.bind_eq_some_iff,
    Option.ite_none_right_eq_some, Bool.and_eq_true]
  constructor
  · rintro ⟨table, htable, target, htarget, column, hcolumn, targetColumn, htargetColumn, hlisted, hk⟩
    obtain rfl := Option.some.inj hk
    exact ⟨htable, htarget, hcolumn, htargetColumn, hlisted⟩
  · rintro ⟨htable, htarget, hcolumn, htargetColumn, hlisted⟩
    exact ⟨_, htable, _, htarget, _, hcolumn, _, htargetColumn, hlisted, rfl⟩

/-- The accepted foreign keys in the order in which they are listed. -/
def acceptedKeys (s : Schema) (rows : List Row) : List ForeignKey :=
  rows.filterMap (acceptedKey? s)

theorem of_mem_acceptedKeys {s : Schema} {rows : List Row} {k : ForeignKey}
    (h : k ∈ acceptedKeys s rows) :
    (s.table? k.reference.targetTable).isSome ∧ (s.column? k.table k.reference.column).isSome := by
  obtain ⟨row, -, hrow⟩ := List.mem_filterMap.1 h
  obtain ⟨-, -, -, -, hlisted⟩ := acceptedKey?_eq_some_iff.1 hrow
  exact hlisted

section Accepted

variable {s : Schema} {tables : SortedMap Table} {hasColumn : String → String → Bool}

theorem readForeignKey_eq_acceptedKey? {row : Row} {key : Option ForeignKey}
    (htables : ∀ table, tables.contains table = (s.table? table).isSome)
    (hcolumns : ∀ table column, tables.contains table →
      hasColumn table column = (s.column? table column).isSome)
    (h : readForeignKey tables hasColumn row = .ok key) : acceptedKey? s row = key := by
  simp only [readForeignKey, bind_eq_ok_iff, requireText_eq_ok_iff] at h
  obtain ⟨table, htable, target, htarget, h⟩ := h
  simp only [acceptedKey?, htable, htarget, Option.bind_eq_bind, Option.bind_some]
  split at h
  · next hviews =>
    rw [htables, htables, Bool.or_eq_true, Bool.not_eq_true', Bool.not_eq_true'] at hviews
    have hnone : ∀ column,
        ((s.table? target).isSome && (s.column? table column).isSome) = false := by
      intro column
      rcases hviews with hview | hview
      · rw [isSome_column?_of_view hview, Bool.and_false]
      · rw [hview, Bool.false_and]
    rw [pure_eq_ok_iff] at h
    simp [hnone, ← h]
  · next hlisted =>
    rw [htables, htables, Bool.not_eq_true, Bool.or_eq_false_iff, Bool.not_eq_false',
      Bool.not_eq_false'] at hlisted
    simp only [bind_eq_ok_iff, requireText_eq_ok_iff] at h
    obtain ⟨column, hcolumn, targetColumn, htargetColumn, h⟩ := h
    rw [hcolumns table column (by rw [htables]; exact hlisted.1)] at h
    simp only [hcolumn, htargetColumn, hlisted.2, Option.bind_some, Bool.true_and]
    split at h
    · next hsome => rw [if_pos hsome, pure_eq_ok_iff.1 h]
    · next hnone => rw [if_neg hnone, pure_eq_ok_iff.1 h]

theorem readForeignKeys_eq_acceptedKeys {columns : List Column} {rows : List Row}
    {keys : List ForeignKey}
    (htables : ∀ table, tables.contains table = (s.table? table).isSome)
    (hcolumns : ∀ table column, tables.contains table →
      (columns.any fun c => c.table = table && c.name = column) = (s.column? table column).isSome)
    (h : readForeignKeys tables columns rows = .ok keys) : keys = acceptedKeys s rows := by
  simp only [readForeignKeys, bind_eq_ok_iff, pure_eq_ok_iff] at h
  obtain ⟨read, hread, rfl⟩ := h
  refine (filterMap_eq_filterMap_of_forall₂ (mapM_eq_ok_iff.1 hread) fun row key hrow => ?_).symm
  exact readForeignKey_eq_acceptedKey? htables hcolumns hrow

end Accepted

/-! ## Tables -/

@[simp] theorem name_withColumns (columns : List Column) (t : Table) :
    (withColumns columns t).name = t.name := rfl

theorem contains_withColumns (columns : List Column) (t : Table) (column : String) :
    (withColumns columns t).columns.contains column =
      columns.any fun c => c.table = t.name && c.name = column := by
  rw [withColumns, SortedMap.contains_ofList, List.any_map, List.any_filter]
  rfl

theorem name_of_withColumns {columns : List Column} {t : Table} {column : String} {c : Column}
    (h : (withColumns columns t).columns.get? column = some c) : c.name = column := by
  obtain ⟨own, -, heq⟩ := List.mem_map.1 (SortedMap.mem_of_get?_ofList h)
  obtain ⟨hname, rfl⟩ := Prod.mk.inj heq
  exact hname

theorem exists_of_get?_withReferences {keys : List ForeignKey} {t : Table} {column : String}
    {c : Column} (h : (withReferences keys t).columns.get? column = some c) :
    ∃ listed, t.columns.get? column = some listed ∧
      c = { listed with refersTo := lastReference keys t.name listed.name } := by
  rw [withReferences, SortedMap.get?_map, Option.map_eq_some_iff] at h
  obtain ⟨listed, hlisted, rfl⟩ := h
  exact ⟨listed, hlisted, rfl⟩

theorem get?_withReferences {keys : List ForeignKey} {columns : List Column} {t : Table}
    {column : String} {c : Column}
    (h : (withReferences keys (withColumns columns t)).columns.get? column = some c) :
    c.name = column ∧ c.refersTo = lastReference keys t.name column := by
  obtain ⟨listed, hlisted, rfl⟩ := exists_of_get?_withReferences h
  have hname := name_of_withColumns hlisted
  exact ⟨hname, by rw [hname, name_withColumns]⟩

/-! ## Schemas -/

/-- The schema of tables, columns and foreign keys that have been read. -/
def assembled (c : Configuration) (tables : SortedMap Table) (columns : List Column)
    (keys : List ForeignKey) : Schema :=
  ⟨c.database, c.flavor, tables.map fun _ t => withReferences keys (withColumns columns t)⟩

theorem isSome_table?_assembled (c : Configuration) (tables : SortedMap Table) (columns : List Column)
    (keys : List ForeignKey) (table : String) :
    ((assembled c tables columns keys).table? table).isSome = tables.contains table := by
  rw [Schema.table?, assembled, SortedMap.get?_map, Option.isSome_map, SortedMap.contains]

theorem isSome_column?_assembled {c : Configuration} {rows : List Row} {tables : SortedMap Table}
    (htables : readTables c rows = .ok tables) (columns : List Column) (keys : List ForeignKey)
    {table : String} (htable : tables.contains table) (column : String) :
    ((assembled c tables columns keys).column? table column).isSome =
      columns.any fun c => c.table = table && c.name = column := by
  obtain ⟨t, ht⟩ := SortedMap.contains_iff.1 htable
  have hname := name_of_readTables htables ht
  rw [Schema.column?, Schema.table?, assembled, SortedMap.get?_map, ht, Option.map_some,
    Option.bind_some, ← SortedMap.contains, withReferences, SortedMap.contains_map,
    contains_withColumns, hname]

theorem buildSchema_eq_ok_iff {c : Configuration} {tableRows columnRows referenceRows : List Row}
    {s : Schema} :
    buildSchema c tableRows columnRows referenceRows = .ok s ↔
      ∃ tables columns keys, readTables c tableRows = .ok tables ∧
        readColumns tables columnRows = .ok columns ∧
        readForeignKeys tables columns referenceRows = .ok keys ∧
        s = assembled c tables columns keys := by
  simp only [buildSchema, bind_eq_ok_iff, pure_eq_ok_iff, exists_and_left, eq_comm (b := s),
    assembled]

section Built

variable {c : Configuration} {tableRows columnRows referenceRows : List Row} {s : Schema}

theorem listings_of_buildSchema (h : buildSchema c tableRows columnRows referenceRows = .ok s) :
    ∃ tables columns, readTables c tableRows = .ok tables ∧
      readColumns tables columnRows = .ok columns ∧
      readForeignKeys tables columns referenceRows = .ok (acceptedKeys s referenceRows) ∧
      s = assembled c tables columns (acceptedKeys s referenceRows) := by
  obtain ⟨tables, columns, keys, htables, hcolumns, hkeys, hs⟩ := buildSchema_eq_ok_iff.1 h
  have hlisted (table : String) : tables.contains table = (s.table? table).isSome := by
    rw [hs, isSome_table?_assembled]
  have hcolumn (table column : String) (htable : tables.contains table) :
      (columns.any fun c => c.table = table && c.name = column) =
        (s.column? table column).isSome := by
    rw [hs, isSome_column?_assembled htables _ _ htable]
  have haccepted := readForeignKeys_eq_acceptedKeys hlisted hcolumn hkeys
  exact ⟨tables, columns, htables, hcolumns, haccepted ▸ hkeys, haccepted ▸ hs⟩

theorem tables_of_buildSchema (h : buildSchema c tableRows columnRows referenceRows = .ok s) :
    ∃ tables columns, readTables c tableRows = .ok tables ∧
      readColumns tables columnRows = .ok columns ∧
      s.tables = tables.map fun _ t =>
        withReferences (acceptedKeys s referenceRows) (withColumns columns t) := by
  obtain ⟨tables, columns, htables, hcolumns, -, hs⟩ := listings_of_buildSchema h
  exact ⟨tables, columns, htables, hcolumns, congrArg Schema.tables hs⟩

theorem exists_table_of_buildSchema
    (h : buildSchema c tableRows columnRows referenceRows = .ok s) {table : String} {t : Table}
    (ht : s.table? table = some t) :
    ∃ tables columns listed, readTables c tableRows = .ok tables ∧
      readColumns tables columnRows = .ok columns ∧ tables.get? table = some listed ∧
      listed.name = table ∧
      t = withReferences (acceptedKeys s referenceRows) (withColumns columns listed) := by
  obtain ⟨tables, columns, htables, hcolumns, hs⟩ := tables_of_buildSchema h
  rw [Schema.table?, hs, SortedMap.get?_map, Option.map_eq_some_iff] at ht
  obtain ⟨listed, hlisted, rfl⟩ := ht
  exact ⟨tables, columns, listed, htables, hcolumns, hlisted, name_of_readTables htables hlisted, rfl⟩

/-- A table of a built schema lists the accepted keys that point at it, and each of its columns has
the last accepted key of its own. -/
theorem references_of_buildSchema (h : buildSchema c tableRows columnRows referenceRows = .ok s)
    {table : String} {t : Table} (ht : s.table? table = some t) :
    t.name = table ∧ t.referencedBy = reverseReferences (acceptedKeys s referenceRows) table ∧
      ∀ column c, t.columns.get? column = some c → c.name = column ∧
        c.refersTo = lastReference (acceptedKeys s referenceRows) table column := by
  obtain ⟨tables, columns, listed, -, -, -, hname, rfl⟩ := exists_table_of_buildSchema h ht
  refine ⟨hname, ?_, fun column c hc => ?_⟩
  · rw [withReferences, name_withColumns, hname]
  · rw [← hname]
    exact get?_withReferences hc

theorem column_of_buildSchema (h : buildSchema c tableRows columnRows referenceRows = .ok s)
    {table column : String} {col : Column} (hcol : s.column? table column = some col) :
    col.name = column ∧
      col.refersTo = lastReference (acceptedKeys s referenceRows) table column := by
  obtain ⟨t, ht, hget⟩ := Schema.column?_eq_some_iff.1 hcol
  exact (references_of_buildSchema h ht).2.2 column col hget

end Built

end Catalog

end TableAtlas
