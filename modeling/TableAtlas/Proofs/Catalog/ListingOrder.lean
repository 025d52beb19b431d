import Mathlib.Data.Prod.Lex
import Mathlib.Data.String.Basic
import TableAtlas.Proofs.Catalog.References

/-!
# The order of tables and columns

A server may list tables and columns in any order. If no table and no column of a table is listed
twice, the order of these two listings is lost in the schema: maps hold what they are made of, the
columns of a key are sorted by position and name, and the label is searched among columns in the order
of their positions (`buildSchema_listingOrder`).
-/

namespace TableAtlas.Catalog

/-! ## What the rows are about -/

/-- The names of the listed tables. -/
def tableNames (rows : List Row) : List String :=
  rows.filterMap fun row => row.text? "table_name"

/-- The table and the name of the column that a row lists. -/
def columnSource? (row : Row) : Option (String × String) := do
  let table ← row.text? "table_name"
  let name ← row.text? "column_name"
  return (table, name)

theorem columnSource?_eq_some_iff {row : Row} {table name : String} :
    columnSource? row = some (table, name) ↔
      row.text? "table_name" = some table ∧ row.text? "column_name" = some name := by
  simp [columnSource?, Option.bind_eq_some_iff]

/-- The listed columns, each with its table. -/
def columnSources (rows : List Row) : List (String × String) :=
  rows.filterMap columnSource?

def columnSource (c : Column) : String × String :=
  (c.table, c.name)

theorem names_of_readTable {c : Configuration} {rows : List Row} {listed : List Table}
    (h : rows.mapM (readTable c) = .ok listed) : tableNames rows = listed.map Table.name := by
  rw [← List.filterMap_eq_map]
  exact filterMap_eq_filterMap_of_forall₂ (mapM_eq_ok_iff.1 h) fun row t hread =>
    (of_readTable hread).1

theorem contains_of_readTables {c : Configuration} {rows : List Row} {tables : SortedMap Table}
    (h : readTables c rows = .ok tables) {table : String} :
    tables.contains table ↔ table ∈ tableNames rows := by
  simp only [readTables, bind_eq_ok_iff, pure_eq_ok_iff] at h
  obtain ⟨listed, hlisted, rfl⟩ := h
  simp [SortedMap.contains_ofList, names_of_readTable hlisted]

theorem source_of_readColumn {tables : SortedMap Table} {row : Row} {c : Column}
    (h : readColumn tables row = .ok (some c)) : columnSource? row = some (columnSource c) := by
  obtain ⟨htable, hname, -⟩ := of_readColumn h
  exact columnSource?_eq_some_iff.2 ⟨htable, hname⟩

theorem sublist_columnSources {tables : SortedMap Table} {rows : List Row} {columns : List Column}
    (h : readColumns tables rows = .ok columns) :
    (columns.map columnSource).Sublist (columnSources rows) := by
  simp only [readColumns, bind_eq_ok_iff, pure_eq_ok_iff] at h
  obtain ⟨read, hread, rfl⟩ := h
  rw [List.map_filterMap]
  refine sublist_filterMap_of_forall₂ (mapM_eq_ok_iff.1 hread) fun row column source hrow hsource => ?_
  obtain ⟨c, rfl, rfl⟩ := Option.map_eq_some_iff.1 hsource
  exact source_of_readColumn hrow

theorem exists_of_readColumns {tables : SortedMap Table} {rows : List Row} {columns : List Column}
    (h : readColumns tables rows = .ok columns) {table column : String}
    (htable : tables.contains table) :
    (∃ c ∈ columns, c.table = table ∧ c.name = column) ↔ (table, column) ∈ columnSources rows := by
  constructor
  · rintro ⟨c, hc, rfl, rfl⟩
    exact (sublist_columnSources h).subset (List.mem_map_of_mem hc)
  · intro hsource
    simp only [readColumns, bind_eq_ok_iff, pure_eq_ok_iff] at h
    obtain ⟨read, hread, rfl⟩ := h
    obtain ⟨row, hrow, hsource⟩ := List.mem_filterMap.1 hsource
    obtain ⟨read?, hmem, hread⟩ := exists_mem_of_mapM hread hrow
    cases read? with
    | none =>
      obtain ⟨table', htable', hview⟩ := of_readColumn_eq_none hread
      have hsame : table' = table :=
        Option.some.inj (htable'.symm.trans (columnSource?_eq_some_iff.1 hsource).1)
      exact absurd htable (hsame ▸ hview)
    | some c =>
      have hpair : (c.table, c.name) = (table, column) :=
        Option.some.inj ((source_of_readColumn hread).symm.trans hsource)
      obtain ⟨rfl, rfl⟩ := Prod.mk.inj hpair
      exact ⟨c, List.mem_filterMap.2 ⟨some c, hmem, rfl⟩, rfl, rfl⟩

section Built

variable {c : Configuration} {tableRows columnRows referenceRows : List Row} {s : Schema}

theorem isSome_table?_iff (h : buildSchema c tableRows columnRows referenceRows = .ok s)
    {table : String} : (s.table? table).isSome ↔ table ∈ tableNames tableRows := by
  obtain ⟨tables, columns, htables, -, -, hs⟩ := listings_of_buildSchema h
  rw [hs, isSome_table?_assembled, contains_of_readTables htables]

theorem isSome_column?_iff (h : buildSchema c tableRows columnRows referenceRows = .ok s)
    {table column : String} :
    (s.column? table column).isSome ↔
      table ∈ tableNames tableRows ∧ (table, column) ∈ columnSources columnRows := by
  obtain ⟨tables, columns, htables, hcolumns, -, hs⟩ := listings_of_buildSchema h
  rw [← contains_of_readTables htables]
  by_cases htable : tables.contains table
  · rw [hs, isSome_column?_assembled htables _ _ htable, and_iff_right htable,
      ← exists_of_readColumns hcolumns htable]
    simp
  · have hview : (s.table? table).isSome = false := by
      rw [hs, isSome_table?_assembled]
      exact Bool.not_eq_true _ |>.mp htable
    simp [Schema.isSome_column?_of_view hview, htable]

end Built

/-! ## Listings in another order -/

theorem readTables_of_perm {c : Configuration} {rows others : List Row} {tables : SortedMap Table}
    (hdistinct : (tableNames rows).Nodup) (hperm : others.Perm rows)
    (h : readTables c rows = .ok tables) : readTables c others = .ok tables := by
  simp only [readTables, bind_eq_ok_iff, pure_eq_ok_iff] at h ⊢
  obtain ⟨listed, hlisted, rfl⟩ := h
  obtain ⟨listed', hlisted', hperm'⟩ := exists_mapM_of_perm hperm hlisted
  have hnames : tableNames rows = (listed.map fun t => (t.name, t)).map Prod.fst := by
    rw [List.map_map]
    exact names_of_readTable hlisted
  exact ⟨listed', hlisted', SortedMap.ofList_eq_of_perm (hnames ▸ hdistinct) (hperm'.map _)⟩

theorem readColumns_of_perm {tables : SortedMap Table} {rows others : List Row}
    {columns : List Column} (hperm : others.Perm rows) (h : readColumns tables rows = .ok columns) :
    ∃ columns', readColumns tables others = .ok columns' ∧ columns'.Perm columns := by
  simp only [readColumns, bind_eq_ok_iff, pure_eq_ok_iff] at h ⊢
  obtain ⟨read, hread, rfl⟩ := h
  obtain ⟨read', hread', hperm'⟩ := exists_mapM_of_perm hperm hread
  exact ⟨_, ⟨read', hread', rfl⟩, hperm'.filterMap id⟩

theorem readForeignKeys_of_perm_columns (tables : SortedMap Table) {columns columns' : List Column}
    (hperm : columns'.Perm columns) (rows : List Row) :
    readForeignKeys tables columns' rows = readForeignKeys tables columns rows := by
  have hany : ∀ table column : String,
      (columns'.any fun c => c.table = table && c.name = column) =
        columns.any fun c => c.table = table && c.name = column := by
    intro table column
    exact hperm.any_eq
  simp only [readForeignKeys, hany]

/-! ## Tables with columns in another order -/

theorem keyOrder_iff_toLex {a b : UInt32 × String} :
    keyOrder a b ↔ toLex (a.1.toNat, a.2) ≤ toLex (b.1.toNat, b.2) := by
  simp [keyOrder, Prod.Lex.toLex_le_toLex, UInt32.lt_iff_toNat_lt, UInt32.toNat_inj]

theorem keyOrder_trans (a b c : UInt32 × String) (hab : keyOrder a b) (hbc : keyOrder b c) :
    keyOrder a c := by
  rw [keyOrder_iff_toLex] at hab hbc ⊢
  exact hab.trans hbc

theorem keyOrder_total (a b : UInt32 × String) : keyOrder a b || keyOrder b a := by
  rw [Bool.or_eq_true, keyOrder_iff_toLex, keyOrder_iff_toLex]
  exact le_total _ _

theorem keyOrder_antisymm {a b : UInt32 × String} (hab : keyOrder a b) (hba : keyOrder b a) :
    a = b := by
  rw [keyOrder_iff_toLex] at hab hba
  obtain ⟨hposition, hname⟩ := Prod.mk.inj (toLex.injective (le_antisymm hab hba))
  exact Prod.ext (UInt32.toNat_inj.1 hposition) hname

theorem primaryKeyOf_of_perm {columns columns' : List Column} (hperm : columns'.Perm columns) :
    primaryKeyOf columns' = primaryKeyOf columns := by
  have hkeys : ((columns'.filter Column.isPrimary).map fun c => (c.ordinal, c.name)).Perm
      ((columns.filter Column.isPrimary).map fun c => (c.ordinal, c.name)) :=
    (hperm.filter _).map _
  have hsorted : (((columns'.filter Column.isPrimary).map fun c =>
        (c.ordinal, c.name)).mergeSort keyOrder) =
      ((columns.filter Column.isPrimary).map fun c => (c.ordinal, c.name)).mergeSort keyOrder := by
    apply @List.Perm.eq_of_pairwise _ fun a b => keyOrder a b
    · intro a b _ _ hab hba
      exact keyOrder_antisymm hab hba
    · exact List.pairwise_mergeSort keyOrder_trans keyOrder_total _
    · exact List.pairwise_mergeSort keyOrder_trans keyOrder_total _
    · exact (List.mergeSort_perm _ _).trans (hkeys.trans (List.mergeSort_perm _ _).symm)
  simp only [primaryKeyOf, hsorted]

theorem nodup_ownNames {columns : List Column} (hdistinct : (columns.map columnSource).Nodup)
    (table : String) :
    (((columns.filter fun c => c.table = table).map fun c => (c.name, c)).map Prod.fst).Nodup := by
  rw [List.map_map]
  refine List.Nodup.map_on (fun c hc c' hc' hname => ?_) (hdistinct.of_map.filter _)
  obtain ⟨hmem, htable⟩ := List.mem_filter.1 hc
  obtain ⟨hmem', htable'⟩ := List.mem_filter.1 hc'
  have hsource : columnSource c = columnSource c' :=
    Prod.ext ((of_decide_eq_true htable).trans (of_decide_eq_true htable').symm) hname
  exact List.inj_on_of_nodup_map hdistinct hmem hmem' hsource

theorem withColumns_of_perm {columns columns' : List Column}
    (hdistinct : (columns.map columnSource).Nodup) (hperm : columns'.Perm columns) (t : Table) :
    withColumns columns' t = withColumns columns t := by
  have hown : (columns'.filter fun c => c.table = t.name).Perm
      (columns.filter fun c => c.table = t.name) := hperm.filter _
  have hcolumns := SortedMap.ofList_eq_of_perm (nodup_ownNames hdistinct t.name) (hown.map _)
  have hkey := primaryKeyOf_of_perm hown
  simp only [withColumns, hcolumns, hkey]

/-! ## Schemas -/

section Built

variable {c : Configuration} {tableRows tableRows' columnRows columnRows' : List Row}

theorem buildSchema_of_perm (htables : (tableNames tableRows).Nodup)
    (hcolumns : (columnSources columnRows).Nodup) (hpermTables : tableRows'.Perm tableRows)
    (hpermColumns : columnRows'.Perm columnRows) {referenceRows : List Row} {s : Schema}
    (h : buildSchema c tableRows columnRows referenceRows = .ok s) :
    buildSchema c tableRows' columnRows' referenceRows = .ok s := by
  obtain ⟨tables, columns, keys, hreadTables, hreadColumns, hreadKeys, rfl⟩ :=
    buildSchema_eq_ok_iff.1 h
  have hdistinct : (columns.map columnSource).Nodup :=
    hcolumns.sublist (sublist_columnSources hreadColumns)
  obtain ⟨columns', hreadColumns', hperm⟩ := readColumns_of_perm hpermColumns hreadColumns
  refine buildSchema_eq_ok_iff.2 ⟨tables, columns', keys, ?_, hreadColumns', ?_, ?_⟩
  · exact readTables_of_perm htables hpermTables hreadTables
  · rw [readForeignKeys_of_perm_columns tables hperm]
    exact hreadKeys
  · simp only [assembled, withColumns_of_perm hdistinct hperm]

/-- If no table and no column of a table is listed twice, tables and columns may be listed in any
order: the same schema comes out, or none does. -/
theorem buildSchema_listingOrder (htables : (tableNames tableRows).Nodup)
    (hcolumns : (columnSources columnRows).Nodup) (hpermTables : tableRows'.Perm tableRows)
    (hpermColumns : columnRows'.Perm columnRows) (referenceRows : List Row) :
    (buildSchema c tableRows' columnRows' referenceRows).toOption =
      (buildSchema c tableRows columnRows referenceRows).toOption := by
  have htables' : (tableNames tableRows').Nodup := (hpermTables.filterMap _).nodup_iff.2 htables
  have hcolumns' : (columnSources columnRows').Nodup :=
    (hpermColumns.filterMap _).nodup_iff.2 hcolumns
  ext s
  rw [toOption_eq_some_iff, toOption_eq_some_iff]
  constructor
  · exact buildSchema_of_perm htables' hcolumns' hpermTables.symm hpermColumns.symm
  · exact buildSchema_of_perm htables hcolumns hpermTables hpermColumns

end Built

/-! ## A catalog listed backwards -/

def lineTables : List Row :=
  ["lines", "orders"].map fun table => textRow [("table_name", table)]

/-- The key of a line is listed against the order of the positions, and its label is one of two columns
in the same position. -/
def lineColumns : List Row :=
  [("lines", "order_id", "2", "PRI"), ("lines", "number", "1", "PRI"), ("lines", "title", "3", ""),
    ("lines", "full_name", "3", ""), ("orders", "id", "1", "PRI")].map
    fun (table, column, ordinal, kind) => textRow [("table_name", table), ("column_name", column),
      ("ordinal_position", ordinal), ("column_key", kind)]

def lineReferences : List Row :=
  [textRow [("table_name", "lines"), ("column_name", "order_id"), ("referenced_table_name", "orders"),
    ("referenced_column_name", "id")]]

theorem buildSchema_listingOrder_lines :
    (buildSchema (.mysql "root" "secret" "shop") lineTables lineColumns
        lineReferences).toOption.isSome ∧
      (buildSchema (.mysql "root" "secret" "shop") lineTables.reverse lineColumns.reverse
          lineReferences).toOption =
        (buildSchema (.mysql "root" "secret" "shop") lineTables lineColumns
          lineReferences).toOption := by
  have htables : (tableNames lineTables).Nodup := by decide +kernel
  have hcolumns : (columnSources lineColumns).Nodup := by decide +kernel
  refine ⟨by decide +kernel, ?_⟩
  exact buildSchema_listingOrder htables hcolumns (List.reverse_perm _) (List.reverse_perm _) _

end TableAtlas.Catalog
