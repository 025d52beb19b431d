import TableAtlas.Proofs.Catalog.KeyOrder
import TableAtlas.Proofs.Plan.Planning

/-!
# The order of the catalog

A catalog gives each column a position of up to 64 bits. A schema keeps the lower half of it, and orders
columns by this half and then by name: those of a table, those of a selection of all columns, and those
of a key. This is the order of the catalog just if no two columns of a table change places when the
upper halves are dropped (`inCatalogOrder_iff`), as they cannot while positions are less than 2³².
-/

namespace TableAtlas

/-! ## Positions -/

/-- The names go by position. -/
def Ascending (position : String → UInt64) (names : List String) : Prop :=
  names.Pairwise fun a b => position a ≤ position b

/-- By the lower half of the position, and in one half by name. -/
def HalfBefore (position : String → UInt64) (a b : String) : Prop :=
  Precedes ((position a).toUInt32, a) ((position b).toUInt32, b)

instance (position : String → UInt64) (a b : String) : Decidable (HalfBefore position a b) :=
  inferInstanceAs (Decidable (Precedes _ _))

theorem HalfBefore.of_lt {position : String → UInt64} {a b : String}
    (ha : (position a).toNat < UInt32.size) (hb : (position b).toNat < UInt32.size)
    (h : position a < position b) : HalfBefore position a b := by
  left
  rw [UInt64.lt_iff_toNat_lt] at h
  rw [UInt32.lt_iff_toNat_lt]
  show (position a).toNat % UInt32.size < (position b).toNat % UInt32.size
  rwa [Nat.mod_eq_of_lt ha, Nat.mod_eq_of_lt hb]

/-- Names that go by the halves of their positions go by the positions just if all those behind another
by position are so by the halves. -/
theorem ascending_iff_of_pairwise {position : String → UInt64} {names : List String}
    (h : names.Pairwise (HalfBefore position)) :
    Ascending position names ↔
      ∀ a ∈ names, ∀ b ∈ names, position a < position b → HalfBefore position a b := by
  have hasymm : ∀ a b, HalfBefore position a b → ¬HalfBefore position b a :=
    fun _ _ => Precedes.asymm
  have hirrefl : ∀ a, ¬position a < position a := fun a => UInt64.lt_irrefl _
  rw [← pairwise_not_iff_of_pairwise hasymm hirrefl h]
  simp only [Ascending, UInt64.not_lt]

namespace Catalog

/-- The columns that the rows list for a table. -/
def listedColumns (rows : List Row) (table : String) : List String :=
  ((columnSources rows).filter fun source => source.1 = table).map Prod.snd

theorem mem_listedColumns {rows : List Row} {table column : String} :
    column ∈ listedColumns rows table ↔ (table, column) ∈ columnSources rows := by
  simp [listedColumns]

/-- Each row that lists a column of a listed table gives its position. -/
def Reports (tableRows columnRows : List Row) (position : String → String → UInt64) : Prop :=
  ∀ row ∈ columnRows, ∀ table ∈ row.text? "table_name", table ∈ tableNames tableRows →
    ∀ column ∈ row.text? "column_name",
      row.natural? "ordinal_position" = some (position table column)

/-- Without the upper halves of their positions, the columns of each listed table stand in the same
order. -/
def HalvesKeepOrder (tableRows columnRows : List Row) (position : String → String → UInt64) : Prop :=
  ∀ table ∈ tableNames tableRows, ∀ a ∈ listedColumns columnRows table,
    ∀ b ∈ listedColumns columnRows table,
      position table a < position table b → HalfBefore (position table) a b

instance (tableRows columnRows : List Row) (position : String → String → UInt64) :
    Decidable (Reports tableRows columnRows position) :=
  inferInstanceAs (Decidable (∀ row ∈ columnRows, ∀ table ∈ row.text? "table_name",
    table ∈ tableNames tableRows → ∀ column ∈ row.text? "column_name",
      row.natural? "ordinal_position" = some (position table column)))

instance (tableRows columnRows : List Row) (position : String → String → UInt64) :
    Decidable (HalvesKeepOrder tableRows columnRows position) :=
  inferInstanceAs (Decidable (∀ table ∈ tableNames tableRows,
    ∀ a ∈ listedColumns columnRows table, ∀ b ∈ listedColumns columnRows table,
      position table a < position table b → HalfBefore (position table) a b))

end Catalog

/-! ## Selected columns -/

/-- The columns in a select list, in their order. -/
def Sql.columnNames (entries : List Sql.Entry) : List String :=
  entries.filterMap fun
    | .column name => some name
    | _ => none

theorem Plan.selectFrom_ofTable (s : Schema) (t : Table) (table : String) :
    ∃ clause, selectFrom s t (.ofTable table) = .ok (clause, []) ∧
      Sql.columnNames clause.entries = t.columnsByOrdinal.map Column.name := by
  refine ⟨clausesOf s t (.ofTable table) [] [], rfl, ?_⟩
  have hlookups : ∀ names, Sql.columnNames (labelLookups s t names) = [] := by
    intro names
    rw [Sql.columnNames, List.filterMap_eq_nil_iff]
    intro entry hentry
    obtain ⟨i, hi, rfl⟩ := List.mem_mapIdx.1 hentry
    rfl
  have hcolumns : ∀ names, Sql.columnNames (names.map .column) = names := by
    intro names
    rw [Sql.columnNames, List.filterMap_map]
    exact List.filterMap_some
  show Sql.columnNames ((t.columnsByOrdinal.map Column.name).map .column ++ [] ++ _) = _
  rw [List.append_nil, Sql.columnNames, List.filterMap_append, ← Sql.columnNames, ← Sql.columnNames,
    hcolumns, hlookups, List.append_nil]

/-- The columns of a table, those of a selection of all of them, and those of a key of several columns
go by position. -/
structure Table.InOrder (s : Schema) (position : String → UInt64) (t : Table) : Prop where
  columns : Ascending position (t.columnsByOrdinal.map Column.name)
  selection : ∃ clause, Plan.selectFrom s t (.ofTable t.name) = .ok (clause, []) ∧
    Ascending position (Sql.columnNames clause.entries)
  key : ∀ names, t.primaryKey = some (.composite names) → Ascending position names

/-! ## Schemas -/

namespace Catalog

section Built

variable {c : Configuration} {tableRows columnRows referenceRows : List Row} {s : Schema}
  {position : String → String → UInt64} {table : String} {t : Table}

theorem ordinal_of_mem_readColumns {tables : SortedMap Table} {columns : List Column}
    (hreports : Reports tableRows columnRows position) (htables : readTables c tableRows = .ok tables)
    (h : readColumns tables columnRows = .ok columns) {col : Column} (hcol : col ∈ columns) :
    col.ordinal = (position col.table col.name).toUInt32 := by
  obtain ⟨row, hrow, hread⟩ := exists_row_of_mem_readColumns h hcol
  obtain ⟨htable, hname, -, -, hlisted, hordinal⟩ := of_readColumn hread
  have hposition := hreports row hrow col.table htable ((contains_of_readTables htables).1 hlisted)
    col.name hname
  rw [hordinal, hposition, Option.getD_some]

theorem contains_of_buildSchema (h : buildSchema c tableRows columnRows referenceRows = .ok s)
    (ht : s.table? table = some t) {column : String} :
    t.columns.contains column ↔ column ∈ listedColumns columnRows table := by
  have hcolumn : s.column? table column = t.columns.get? column := by
    rw [Schema.column?, ht, Option.bind_some]
  have htable := (isSome_table?_iff h).1 (Option.isSome_of_eq_some ht)
  rw [SortedMap.contains, ← hcolumn, isSome_column?_iff h, mem_listedColumns, and_iff_right htable]

theorem mem_names_columnsByOrdinal (h : buildSchema c tableRows columnRows referenceRows = .ok s)
    (ht : s.table? table = some t) {column : String} :
    column ∈ t.columnsByOrdinal.map Column.name ↔ column ∈ listedColumns columnRows table := by
  have hname := (wellFormed_of_buildSchema h table t ht).columnName
  rw [← contains_of_buildSchema h ht, SortedMap.contains_iff, List.mem_map]
  simp only [mem_columnsByOrdinal]
  constructor
  · rintro ⟨col, ⟨name, hcol⟩, rfl⟩
    exact ⟨col, hname name col hcol ▸ hcol⟩
  · rintro ⟨col, hcol⟩
    exact ⟨col, ⟨column, hcol⟩, hname column col hcol⟩

variable (hreports : Reports tableRows columnRows position)
  (h : buildSchema c tableRows columnRows referenceRows = .ok s) (ht : s.table? table = some t)
include hreports h ht

theorem ordinal_of_buildSchema {column : String} {col : Column}
    (hcol : t.columns.get? column = some col) :
    col.ordinal = (position table col.name).toUInt32 := by
  obtain ⟨tables, columns, listed, htables, hcolumns, -, hname, rfl⟩ :=
    exists_table_of_buildSchema h ht
  obtain ⟨read, hread, rfl⟩ := exists_of_get?_withReferences hcol
  obtain ⟨hmem, htable⟩ := mem_of_withColumns hread
  have hordinal := ordinal_of_mem_readColumns hreports htables hcolumns hmem
  rwa [htable.trans hname] at hordinal

theorem pairwise_names_columnsByOrdinal :
    (t.columnsByOrdinal.map Column.name).Pairwise (HalfBefore (position table)) := by
  have hname := (wellFormed_of_buildSchema h table t ht).columnName
  rw [List.pairwise_map]
  refine (pairwise_columnsByOrdinal hname).imp_of_mem ?_
  intro a b ha hb hab
  obtain ⟨_, ha⟩ := mem_columnsByOrdinal.1 ha
  obtain ⟨_, hb⟩ := mem_columnsByOrdinal.1 hb
  rw [Column.Before, ordinal_of_buildSchema hreports h ht ha,
    ordinal_of_buildSchema hreports h ht hb] at hab
  exact hab

theorem pairwise_keyColumns :
    t.keyColumns.Pairwise fun a b => ¬HalfBefore (position table) b a := by
  obtain ⟨tables, columns, listed, htables, hcolumns, -, hname, rfl⟩ :=
    exists_table_of_buildSchema h ht
  rw [keyColumns_withReferences, keyColumns_eq_sorted, List.pairwise_map]
  refine (List.pairwise_mergeSort keyOrder_trans keyOrder_total _).imp_of_mem ?_
  intro a b ha hb hab
  have hhalf : ∀ key, key ∈ ((columns.filter fun col => col.table = listed.name).filter
      Column.isPrimary).map (fun col => (col.ordinal, col.name)) →
        key = ((position table key.2).toUInt32, key.2) := by
    intro key hmem
    obtain ⟨col, hcol, rfl⟩ := List.mem_map.1 hmem
    obtain ⟨hread, htable⟩ := List.mem_filter.1 (List.mem_filter.1 hcol).1
    have hordinal := ordinal_of_mem_readColumns hreports htables hcolumns hread
    rw [(of_decide_eq_true htable).trans hname] at hordinal
    exact Prod.ext hordinal rfl
  rw [keyOrder_iff_not_precedes, hhalf a (List.mem_mergeSort.1 ha),
    hhalf b (List.mem_mergeSort.1 hb)] at hab
  exact hab

/-- A table is in order just if its columns keep their order without the upper halves. -/
theorem inOrder_iff :
    t.InOrder s (position table) ↔
      ∀ a ∈ listedColumns columnRows table, ∀ b ∈ listedColumns columnRows table,
        position table a < position table b → HalfBefore (position table) a b := by
  have hsorted := ascending_iff_of_pairwise (pairwise_names_columnsByOrdinal hreports h ht)
  simp only [mem_names_columnsByOrdinal h ht] at hsorted
  rw [← hsorted]
  constructor
  · exact Table.InOrder.columns
  · intro hcolumns
    obtain ⟨clause, hclause, hnames⟩ := Plan.selectFrom_ofTable s t t.name
    refine ⟨hcolumns, ⟨clause, hclause, hnames ▸ hcolumns⟩, fun names hkey => ?_⟩
    have hnames : t.keyColumns = names := by
      rw [Table.keyColumns, hkey]
      rfl
    have hlisted : ∀ a ∈ names, a ∈ listedColumns columnRows table := by
      intro a ha
      rw [← contains_of_buildSchema h ht]
      exact (wellFormed_of_buildSchema h table t ht).keyColumns a (hnames ▸ ha)
    refine (hnames ▸ pairwise_keyColumns hreports h ht).imp_of_mem ?_
    intro a b ha hb hab
    rw [← UInt64.not_lt]
    intro hlt
    exact hab (hsorted.1 hcolumns b (hlisted b hb) a (hlisted a ha) hlt)

end Built

/-- The columns of all tables stand in the order of the catalog just if they keep it without the upper
halves of their positions, and so they do if all positions are less than 2³². -/
theorem inCatalogOrder_iff {c : Configuration} {tableRows columnRows referenceRows : List Row}
    {s : Schema} {position : String → String → UInt64}
    (hreports : Reports tableRows columnRows position)
    (h : buildSchema c tableRows columnRows referenceRows = .ok s) :
    ((∀ table t, s.table? table = some t → t.InOrder s (position table)) ↔
      HalvesKeepOrder tableRows columnRows position) ∧
    ((∀ table ∈ tableNames tableRows, ∀ column ∈ listedColumns columnRows table,
        (position table column).toNat < UInt32.size) →
      ∀ table t, s.table? table = some t → t.InOrder s (position table)) := by
  have hiff : (∀ table t, s.table? table = some t → t.InOrder s (position table)) ↔
      HalvesKeepOrder tableRows columnRows position := by
    constructor
    · intro horder table htable
      obtain ⟨t, ht⟩ := Option.isSome_iff_exists.1 ((isSome_table?_iff h).2 htable)
      exact (inOrder_iff hreports h ht).1 (horder table t ht)
    · intro hkeep table t ht
      have htable := (isSome_table?_iff h).1 (Option.isSome_of_eq_some ht)
      exact (inOrder_iff hreports h ht).2 (hkeep table htable)
  refine ⟨hiff, fun hsmall => hiff.2 ?_⟩
  intro table htable a ha b hb hlt
  exact HalfBefore.of_lt (hsmall table htable a ha) (hsmall table htable b hb) hlt

/-! ## Large positions -/

/-- The rows of lines with a key of two columns, for the positions of these. -/
def keyedLines (order number : String) : List Row :=
  [("order_id", order), ("number", number)].map fun (column, ordinal) =>
    textRow [("table_name", "lines"), ("column_name", column), ("ordinal_position", ordinal),
      ("column_key", "PRI")]

def keyedPosition (order number : UInt64) : String → String → UInt64 :=
  fun _ column => if column = "order_id" then order else number

def keyedSchema (order number : String) : Schema :=
  (buildSchema (.mysql "root" "secret" "shop") lineTables (keyedLines order number) []).toOption.getD
    default

theorem inCatalogOrder_iff_lines :
    Reports lineTables (keyedLines "4294967297" "8589934594") (keyedPosition 4294967297 8589934594) ∧
      buildSchema (.mysql "root" "secret" "shop") lineTables (keyedLines "4294967297" "8589934594") [] =
        .ok (keyedSchema "4294967297" "8589934594") ∧
      ∀ table t, (keyedSchema "4294967297" "8589934594").table? table = some t →
        t.InOrder (keyedSchema "4294967297" "8589934594")
          (keyedPosition 4294967297 8589934594 table) := by
  have hreports : Reports lineTables (keyedLines "4294967297" "8589934594")
      (keyedPosition 4294967297 8589934594) := by decide +kernel
  have hbuilt : buildSchema (.mysql "root" "secret" "shop") lineTables
      (keyedLines "4294967297" "8589934594") [] = .ok (keyedSchema "4294967297" "8589934594") :=
    eq_ok_getD_of_isSome (by decide +kernel)
  have hkeep : HalvesKeepOrder lineTables (keyedLines "4294967297" "8589934594")
      (keyedPosition 4294967297 8589934594) := by decide +kernel
  exact ⟨hreports, hbuilt, (inCatalogOrder_iff hreports hbuilt).1.2 hkeep⟩

/-- The lower half of the second position is zero, and its column comes first. -/
theorem not_inCatalogOrder_lines :
    Reports lineTables (keyedLines "1" "4294967296") (keyedPosition 1 4294967296) ∧
      keyedPosition 1 4294967296 "lines" "order_id" ≠ keyedPosition 1 4294967296 "lines" "number" ∧
      buildSchema (.mysql "root" "secret" "shop") lineTables (keyedLines "1" "4294967296") [] =
        .ok (keyedSchema "1" "4294967296") ∧
      ∃ t, (keyedSchema "1" "4294967296").table? "lines" = some t ∧
        ¬t.InOrder (keyedSchema "1" "4294967296") (keyedPosition 1 4294967296 "lines") := by
  have hreports : Reports lineTables (keyedLines "1" "4294967296") (keyedPosition 1 4294967296) := by
    decide +kernel
  have hbuilt : buildSchema (.mysql "root" "secret" "shop") lineTables (keyedLines "1" "4294967296") [] =
      .ok (keyedSchema "1" "4294967296") := eq_ok_getD_of_isSome (by decide +kernel)
  have hlines : ((keyedSchema "1" "4294967296").table? "lines").isSome := by decide +kernel
  obtain ⟨t, ht⟩ := Option.isSome_iff_exists.1 hlines
  refine ⟨hreports, by decide +kernel, hbuilt, t, ht, ?_⟩
  rw [inOrder_iff hreports hbuilt ht]
  decide +kernel

end Catalog

end TableAtlas
