import TableAtlas.Proofs.Catalog.ListingOrder
import TableAtlas.Proofs.Catalog.WellFormed
import TableAtlas.Proofs.Sorting

/-!
# Recording foreign keys

Foreign keys may be recorded one after another, each at both of its ends: the column that refers holds
the key in the stead of an earlier one, and the table that is referred to lists it behind the others. A
built schema is what is left when all accepted keys are recorded and the lists are sorted
(`recorded_of_buildSchema`). Which keys are accepted is told by the listings alone.
-/

namespace TableAtlas.Catalog

/-! ## One key after another -/

/-- Records a key at both of its ends. -/
def recordKey (tables : SortedMap Table) (k : ForeignKey) : SortedMap Table :=
  let tables := tables.modify k.table fun t => { t with
    columns := t.columns.modify k.reference.column fun c => { c with refersTo := some k.reference } }
  tables.modify k.reference.targetTable fun t => { t with
    referencedBy := t.referencedBy ++ [k.reference.inverse k.table] }

/-- The keys that point at a table, seen from it, in the order in which they are listed. -/
def pointingAt (keys : List ForeignKey) (table : String) : List Reference :=
  (keys.filter fun k => k.reference.targetTable = table).map fun k => k.reference.inverse k.table

/-- A table for which keys have been recorded. -/
def withRecorded (keys : List ForeignKey) (table : String) (t : Table) : Table :=
  { t with
    columns := t.columns.map fun column c => { c with refersTo := lastReference keys table column }
    referencedBy := pointingAt keys table }

theorem pointingAt_append_singleton (keys : List ForeignKey) (k : ForeignKey) (table : String) :
    pointingAt (keys ++ [k]) table =
      pointingAt keys table ++
        if k.reference.targetTable = table then [k.reference.inverse k.table] else [] := by
  by_cases hk : k.reference.targetTable = table
  · simp [pointingAt, hk]
  · simp [pointingAt, hk]

theorem columns_append_singleton (columns : SortedMap Column) (keys : List ForeignKey) (k : ForeignKey)
    (table : String) :
    (columns.map fun column c => { c with refersTo := lastReference (keys ++ [k]) table column }) =
      if table = k.table then
        (columns.map fun column c => { c with refersTo := lastReference keys table column }).modify
          k.reference.column fun c => { c with refersTo := some k.reference }
      else columns.map fun column c => { c with refersTo := lastReference keys table column } := by
  ext column : 1
  by_cases htable : table = k.table
  · by_cases hcolumn : column = k.reference.column
    · simp [SortedMap.get?_modify, lastReference_append_singleton, ForeignKey.source, htable, hcolumn,
        Function.comp_def]
    · simp [SortedMap.get?_modify, lastReference_append_singleton, ForeignKey.source, htable, hcolumn,
        Ne.symm hcolumn, Function.comp_def]
  · simp [lastReference_append_singleton, ForeignKey.source, htable, Ne.symm htable]

/-- Recording a key leaves the tables as if it had been the last of the keys. -/
theorem recordKey_withRecorded (tables : SortedMap Table) (keys : List ForeignKey) (k : ForeignKey) :
    recordKey (tables.map (withRecorded keys)) k = tables.map (withRecorded (keys ++ [k])) := by
  ext table : 1
  simp only [recordKey, SortedMap.get?_modify, SortedMap.get?_map, Option.map_map, Function.comp_def]
  congr 1
  funext t
  simp only [withRecorded, columns_append_singleton, pointingAt_append_singleton,
    eq_comm (a := table)]
  -- A key changes the table that refers and the one referred to, and these may be one table.
  by_cases htable : k.table = table
  · by_cases htarget : k.reference.targetTable = table
    · simp [htable, htarget]
    · simp [htable, htarget]
  · by_cases htarget : k.reference.targetTable = table
    · simp [htable, htarget]
    · simp [htable, htarget]

theorem foldl_recordKey (tables : SortedMap Table) (keys : List ForeignKey) :
    keys.foldl recordKey (tables.map (withRecorded [])) = tables.map (withRecorded keys) := by
  induction keys using List.reverseRecOn with
  | nil => rfl
  | append_singleton keys k ih =>
    rw [List.foldl_append, ih, List.foldl_cons, List.foldl_nil, recordKey_withRecorded]

/-! ## Which keys are accepted -/

/-- A row gives a key, and both its tables are listed, and so is the column that refers. -/
structure Accepted (tableRows columnRows : List Row) (row : Row) (k : ForeignKey) : Prop where
  table : row.text? "table_name" = some k.table
  column : row.text? "column_name" = some k.reference.column
  targetTable : row.text? "referenced_table_name" = some k.reference.targetTable
  targetColumn : row.text? "referenced_column_name" = some k.reference.targetColumn
  tableIsListed : k.table ∈ tableNames tableRows
  targetIsListed : k.reference.targetTable ∈ tableNames tableRows
  columnIsListed : (k.table, k.reference.column) ∈ columnSources columnRows

section Built

variable {c : Configuration} {tableRows columnRows referenceRows : List Row} {s : Schema}

theorem acceptedKey?_iff_accepted (h : buildSchema c tableRows columnRows referenceRows = .ok s)
    {row : Row} {k : ForeignKey} :
    acceptedKey? s row = some k ↔ Accepted tableRows columnRows row k := by
  rw [acceptedKey?_eq_some_iff, isSome_table?_iff h, isSome_column?_iff h]
  constructor
  · rintro ⟨htable, htarget, hcolumn, htargetColumn, htargetListed, hlisted, hcolumnListed⟩
    exact ⟨htable, hcolumn, htarget, htargetColumn, hlisted, htargetListed, hcolumnListed⟩
  · rintro ⟨htable, hcolumn, htarget, htargetColumn, hlisted, htargetListed, hcolumnListed⟩
    exact ⟨htable, htarget, hcolumn, htargetColumn, htargetListed, hlisted, hcolumnListed⟩

end Built

/-! ## What recording leaves -/

/-- A table with the list of its keys sorted. -/
def sortReferences (t : Table) : Table :=
  { t with referencedBy := t.referencedBy.mergeSort referenceOrder }

theorem withReferences_eq {keys : List ForeignKey} {table : String} {t : Table} (hname : t.name = table)
    (hcolumns : ∀ column c, t.columns.get? column = some c → c.name = column) :
    withReferences keys t = sortReferences (withRecorded keys table t) := by
  subst hname
  have hsame : (t.columns.map fun _ c => { c with refersTo := lastReference keys t.name c.name }) =
      t.columns.map fun column c => { c with refersTo := lastReference keys t.name column } := by
    ext column : 1
    rw [SortedMap.get?_map, SortedMap.get?_map]
    refine Option.map_congr fun c hc => ?_
    rw [hcolumns column c hc]
  simp only [withReferences, sortReferences, withRecorded, hsame, reverseReferences, pointingAt]

/-- Nothing is recorded at a table. -/
def Unrecorded (t : Table) : Prop :=
  t.referencedBy = [] ∧ ∀ column c, t.columns.get? column = some c → c.refersTo = none

theorem Unrecorded.withRecorded_nil {t : Table} (h : Unrecorded t) (table : String) :
    withRecorded [] table t = t := by
  obtain ⟨hlist, hcolumns⟩ := h
  have hsame : (t.columns.map fun column c =>
      { c with refersTo := lastReference [] table column }) = t.columns := by
    ext column : 1
    rw [SortedMap.get?_map]
    cases hc : t.columns.get? column with
    | none => rfl
    | some c =>
      rw [Option.map_some]
      have hnone : lastReference [] table column = c.refersTo := (hcolumns column c hc).symm
      rw [hnone]
  have hnil : pointingAt [] table = t.referencedBy := hlist.symm
  rw [withRecorded, hsame, hnil]

section Built

variable {c : Configuration} {tableRows columnRows referenceRows : List Row} {s : Schema}

theorem unrecorded_withColumns {tables : SortedMap Table} {columns : List Column}
    (htables : readTables c tableRows = .ok tables)
    (hcolumns : readColumns tables columnRows = .ok columns) {table : String} {t : Table}
    (ht : tables.get? table = some t) : Unrecorded (withColumns columns t) := by
  constructor
  · obtain ⟨-, row, -, hrow⟩ := exists_row_of_readTables htables ht
    exact (of_readTable hrow).2.2
  · intro column col hcol
    obtain ⟨row, -, hrow⟩ := exists_row_of_mem_readColumns hcolumns (mem_of_withColumns hcol).1
    exact (of_readColumn hrow).2.2.2.1

/-- A built schema is what is left when the accepted keys are recorded one after another. -/
theorem exists_recorded (h : buildSchema c tableRows columnRows referenceRows = .ok s) :
    ∃ tables : SortedMap Table, (∀ table t, tables.get? table = some t → Unrecorded t) ∧
      s.tables = ((acceptedKeys s referenceRows).foldl recordKey tables).map
        fun _ => sortReferences := by
  obtain ⟨tables, columns, htables, hcolumns, hs⟩ := tables_of_buildSchema h
  have hunrecorded : ∀ table t, (tables.map fun _ t => withColumns columns t).get? table = some t →
      Unrecorded t := by
    intro table t ht
    rw [SortedMap.get?_map, Option.map_eq_some_iff] at ht
    obtain ⟨listed, hlisted, rfl⟩ := ht
    exact unrecorded_withColumns htables hcolumns hlisted
  refine ⟨_, hunrecorded, ?_⟩
  have hstart : (tables.map fun _ t => withColumns columns t) =
      (tables.map fun _ t => withColumns columns t).map (withRecorded []) := by
    ext table : 1
    rw [SortedMap.get?_map (withRecorded [])]
    cases ht : (tables.map fun _ t => withColumns columns t).get? table with
    | none => rfl
    | some t => rw [Option.map_some, (hunrecorded table t ht).withRecorded_nil]
  rw [hstart, foldl_recordKey, hs]
  ext table : 1
  simp only [SortedMap.get?_map, Option.map_map]
  refine Option.map_congr fun t ht => ?_
  have hname : (withColumns columns t).name = table :=
    (name_withColumns columns t).trans (name_of_readTables htables ht)
  exact withReferences_eq hname fun column col hcol => name_of_withColumns hcol

end Built

theorem lastReference_eq_some_iff_append {keys : List ForeignKey} {table column : String}
    {r : Reference} :
    lastReference keys table column = some r ↔
      ∃ earlier later, keys = earlier ++ ⟨table, r⟩ :: later ∧ r.column = column ∧
        ∀ k ∈ later, k.source ≠ (table, column) := by
  have hsource (k : ForeignKey) :
      (decide (k.table = table) && decide (k.reference.column = column)) = true ↔
        k.source = (table, column) := by
    simp [ForeignKey.source]
  simp only [lastReference, Option.map_eq_some_iff, List.find?_eq_some_iff_append, hsource,
    Bool.not_eq_true', ← Bool.not_eq_true]
  constructor
  · rintro ⟨⟨_, _⟩, ⟨hk, later, earlier, hkeys, hlater⟩, rfl⟩
    obtain ⟨rfl, hcolumn⟩ := Prod.mk.inj hk
    refine ⟨earlier.reverse, later.reverse, ?_, hcolumn, fun k hmem => ?_⟩
    · rw [← List.reverse_reverse keys, hkeys]
      simp
    · exact hlater k (List.mem_reverse.1 hmem)
  · rintro ⟨earlier, later, rfl, rfl, hlater⟩
    refine ⟨⟨table, r⟩, ⟨rfl, later.reverse, earlier.reverse, by simp, fun k hmem => ?_⟩, rfl⟩
    exact hlater k (List.mem_reverse.1 hmem)

theorem lastReference_eq_none_iff {keys : List ForeignKey} {table column : String} :
    lastReference keys table column = none ↔ ∀ k ∈ keys, k.source ≠ (table, column) := by
  simp [lastReference, ForeignKey.source]

theorem filter_reverseReferences (keys : List ForeignKey) (table : String)
    (source : String × String) :
    ((reverseReferences keys table).filter fun e => (e.targetTable, e.targetColumn) = source) =
      (pointingAt keys table).filter fun e => (e.targetTable, e.targetColumn) = source := by
  refine filter_mergeSort_of_tied referenceOrder_trans referenceOrder_total (fun a b ha hb => ?_) _
  rw [decide_eq_true_eq] at ha hb
  rw [referenceOrder_iff_toLex, ha, hb]

/-- A built schema takes in the keys of rows whose tables and whose column are listed, and is what is
left when they are recorded one after another. A column holds its last key, and the table that this key
points at lists it. A table lists all keys that point at it, by the table and the column that refer, and
keys of one column in the order in which they came. -/
theorem recorded_of_buildSchema {c : Configuration} {tableRows columnRows referenceRows : List Row}
    {s : Schema} (h : buildSchema c tableRows columnRows referenceRows = .ok s) :
    (∀ row k, acceptedKey? s row = some k ↔ Accepted tableRows columnRows row k) ∧
    (∃ tables : SortedMap Table, (∀ table t, tables.get? table = some t → Unrecorded t) ∧
      s.tables = ((acceptedKeys s referenceRows).foldl recordKey tables).map
        fun _ => sortReferences) ∧
    (∀ table column col, s.column? table column = some col →
      (∀ r, col.refersTo = some r ↔ ∃ earlier later,
        acceptedKeys s referenceRows = earlier ++ ⟨table, r⟩ :: later ∧ r.column = column ∧
          ∀ k ∈ later, k.source ≠ (table, column)) ∧
      (col.refersTo = none ↔ ∀ k ∈ acceptedKeys s referenceRows, k.source ≠ (table, column)) ∧
      ∀ r, col.refersTo = some r →
        ∃ t, s.table? r.targetTable = some t ∧ r.inverse table ∈ t.referencedBy) ∧
    ∀ table t, s.table? table = some t →
      t.referencedBy.Perm (pointingAt (acceptedKeys s referenceRows) table) ∧
      (t.referencedBy.Pairwise fun a b => a.targetTable < b.targetTable ∨
        a.targetTable = b.targetTable ∧ a.targetColumn ≤ b.targetColumn) ∧
      ∀ source : String × String,
        (t.referencedBy.filter fun e => (e.targetTable, e.targetColumn) = source) =
          (pointingAt (acceptedKeys s referenceRows) table).filter
            fun e => (e.targetTable, e.targetColumn) = source := by
  refine ⟨fun row k => acceptedKey?_iff_accepted h, exists_recorded h, fun table column col hcol => ?_,
    fun table t ht => ?_⟩
  · have hr := (column_of_buildSchema h hcol).2
    refine ⟨fun r => ?_, ?_, fun r hsome => ?_⟩
    · rw [hr, lastReference_eq_some_iff_append]
    · rw [hr, lastReference_eq_none_iff]
    · rw [hr] at hsome
      exact exists_referencedBy h (of_lastReference_eq_some hsome).1
  · have hlist := (references_of_buildSchema h ht).2.1
    rw [hlist]
    refine ⟨List.mergeSort_perm _ _, ?_, filter_reverseReferences _ _⟩
    exact (sorted_reverseReferences _ _).imp referenceOrder_iff.1

theorem recorded_of_buildSchema_orders :
    buildSchema (.mysql "root" "secret" "shop") orderTables orderColumns
        (orderReferences ["users", "orders", "orders"]) =
      .ok (orderSchema ["users", "orders", "orders"]) ∧
    (∃ col, (orderSchema ["users", "orders", "orders"]).column? "orders" "user_id" = some col ∧
      col.refersTo = some ⟨"user_id", "orders", "id"⟩) ∧
    ∃ t, (orderSchema ["users", "orders", "orders"]).table? "orders" = some t ∧
      t.referencedBy.Perm [⟨"id", "orders", "user_id"⟩, ⟨"id", "orders", "user_id"⟩] := by
  have hbuilt : buildSchema (.mysql "root" "secret" "shop") orderTables orderColumns
      (orderReferences ["users", "orders", "orders"]) =
      .ok (orderSchema ["users", "orders", "orders"]) := eq_ok_getD_of_isSome (by decide +kernel)
  have hkeys : acceptedKeys (orderSchema ["users", "orders", "orders"])
      (orderReferences ["users", "orders", "orders"]) =
      [⟨"orders", "user_id", "users", "id"⟩, ⟨"orders", "user_id", "orders", "id"⟩] ++
        [⟨"orders", "user_id", "orders", "id"⟩] := by decide +kernel
  obtain ⟨col, hcol⟩ : ∃ col,
      (orderSchema ["users", "orders", "orders"]).column? "orders" "user_id" = some col :=
    Option.isSome_iff_exists.1 (by decide +kernel)
  obtain ⟨t, ht⟩ : ∃ t, (orderSchema ["users", "orders", "orders"]).table? "orders" = some t :=
    Option.isSome_iff_exists.1 (by decide +kernel)
  obtain ⟨-, -, hcolumns, htables⟩ := recorded_of_buildSchema hbuilt
  refine ⟨hbuilt, ⟨col, hcol, ?_⟩, t, ht, ?_⟩
  · exact ((hcolumns _ _ col hcol).1 _).2 ⟨_, [], hkeys, rfl, by simp⟩
  · have hperm := (htables _ t ht).1
    rw [hkeys] at hperm
    exact hperm

end TableAtlas.Catalog
