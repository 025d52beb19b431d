import TableAtlas.Proofs.Catalog.ListingOrder
import TableAtlas.Proofs.Catalog.WellFormed
import TableAtlas.Proofs.Sorting

/-!
# The order of key columns

A table keeps the order of its columns twice. The columns of its key are sorted by position and name as
they are listed, and all its columns are sorted by position out of a map that goes by name. Both orders
break ties by name, so the key is made of the key columns in the order of all columns
(`keyColumns_of_buildSchema`).
-/

namespace TableAtlas.Catalog

/-! ## Key columns -/

theorem keyOrder_iff_not_precedes {a b : UInt32 × String} : keyOrder a b ↔ ¬Precedes b a := by
  rw [keyOrder_iff_toLex, precedes_iff_toLex, not_lt]

/-! ## Tables with foreign keys -/

@[simp] theorem keyColumns_withReferences (keys : List ForeignKey) (t : Table) :
    (withReferences keys t).keyColumns = t.keyColumns := rfl

theorem columnsByOrdinal_withReferences (keys : List ForeignKey) (t : Table) :
    (withReferences keys t).columnsByOrdinal =
      t.columnsByOrdinal.map fun c => { c with refersTo := lastReference keys t.name c.name } :=
  columnsByOrdinal_of_map rfl fun _ => rfl

/-! ## Listed columns -/

section Listed

variable {columns : List Column} (hdistinct : (columns.map columnSource).Nodup) (t : Table)
include hdistinct

theorem perm_columnsByOrdinal_withColumns :
    (withColumns columns t).columnsByOrdinal.Perm (columns.filter fun c => c.table = t.name) := by
  have hentries := (SortedMap.entries_ofList_perm (nodup_ownNames hdistinct t.name)).map Prod.snd
  rw [List.map_map] at hentries
  have hvalues : (withColumns columns t).columns.values.Perm
      ((columns.filter fun c => c.table = t.name).map id) := hentries
  rw [List.map_id] at hvalues
  exact (List.mergeSort_perm _ _).trans hvalues

/-- The key columns are sorted alike among themselves and among all columns. -/
theorem keyColumns_withColumns :
    (withColumns columns t).keyColumns =
      ((withColumns columns t).columnsByOrdinal.filter Column.isPrimary).map Column.name := by
  have hlisted := ((perm_columnsByOrdinal_withColumns hdistinct t).filter Column.isPrimary).map
    fun c => (c.ordinal, c.name)
  have hsorted : (((withColumns columns t).columnsByOrdinal.filter Column.isPrimary).map
      fun c => (c.ordinal, c.name)).Pairwise fun a b => keyOrder a b := by
    rw [List.pairwise_map]
    refine ((pairwise_columnsByOrdinal fun _ _ => name_of_withColumns).filter _).imp ?_
    intro a b hab
    exact keyOrder_iff_not_precedes.2 hab.asymm
  have heq : (((columns.filter fun c => c.table = t.name).filter Column.isPrimary).map
        fun c => (c.ordinal, c.name)).mergeSort keyOrder =
      ((withColumns columns t).columnsByOrdinal.filter Column.isPrimary).map
        fun c => (c.ordinal, c.name) := by
    apply @List.Perm.eq_of_pairwise _ fun a b => keyOrder a b
    · intro a b _ _ hab hba
      exact keyOrder_antisymm hab hba
    · exact List.pairwise_mergeSort keyOrder_trans keyOrder_total _
    · exact hsorted
    · exact (List.mergeSort_perm _ _).trans hlisted.symm
  rw [keyColumns_eq_sorted, heq, List.map_map]
  rfl

end Listed

/-! ## Schemas -/

/-- If no column is listed twice, the key of a table is made of its key columns in the order of all its
columns, whatever positions are given for them. -/
theorem keyColumns_of_buildSchema {c : Configuration}
    {tableRows columnRows referenceRows : List Row} {s : Schema}
    (hdistinct : (columnSources columnRows).Nodup)
    (h : buildSchema c tableRows columnRows referenceRows = .ok s) {table : String} {t : Table}
    (ht : s.table? table = some t) :
    t.keyColumns = (t.columnsByOrdinal.filter Column.isPrimary).map Column.name := by
  obtain ⟨tables, columns, listed, -, hcolumns, -, -, rfl⟩ := exists_table_of_buildSchema h ht
  have hread : (columns.map columnSource).Nodup := hdistinct.sublist (sublist_columnSources hcolumns)
  rw [keyColumns_withReferences, keyColumns_withColumns hread, columnsByOrdinal_withReferences,
    List.filter_map, List.map_map]
  rfl

/-! ## Positions that tell nothing apart -/

/-- Of the columns of the key one has no position, and one has a position that cannot be read. -/
def batchColumns : List Row :=
  [textRow [("table_name", "lines"), ("column_name", "order_id"), ("ordinal_position", "1"),
      ("column_key", "PRI")],
    textRow [("table_name", "lines"), ("column_name", "number"), ("column_key", "PRI")],
    textRow [("table_name", "lines"), ("column_name", "note"), ("ordinal_position", "0")],
    textRow [("table_name", "lines"), ("column_name", "batch"), ("ordinal_position", "first"),
      ("column_key", "PRI")]]

def batchSchema : Schema :=
  (buildSchema (.mysql "root" "secret" "shop") lineTables batchColumns []).toOption.getD default

theorem keyColumns_of_buildSchema_batch :
    (columnSources batchColumns).Nodup ∧
      buildSchema (.mysql "root" "secret" "shop") lineTables batchColumns [] = .ok batchSchema ∧
      ∃ t, batchSchema.table? "lines" = some t ∧
        t.columns.keys = ["batch", "note", "number", "order_id"] ∧
        t.keyColumns = (t.columnsByOrdinal.filter Column.isPrimary).map Column.name := by
  have hdistinct : (columnSources batchColumns).Nodup := by decide +kernel
  have hbuilt : buildSchema (.mysql "root" "secret" "shop") lineTables batchColumns [] =
      .ok batchSchema := eq_ok_getD_of_isSome (by decide +kernel)
  have hkeys : (batchSchema.table? "lines").map (fun t => t.columns.keys) =
      some ["batch", "note", "number", "order_id"] := by decide +kernel
  obtain ⟨t, ht, hcolumns⟩ := Option.map_eq_some_iff.1 hkeys
  exact ⟨hdistinct, hbuilt, t, ht, hcolumns, keyColumns_of_buildSchema hdistinct hbuilt ht⟩

end TableAtlas.Catalog
