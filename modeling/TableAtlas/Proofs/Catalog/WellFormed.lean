import Mathlib.Data.Prod.Lex
import Mathlib.Data.String.Basic
import TableAtlas.Catalog.Reflection
import TableAtlas.Proofs.Catalog.References
import TableAtlas.Proofs.Database.Outcome

/-!
# Well-formed schemas

What holds of every schema that is built from the listings of a catalog or learned from a database:
each thing goes by the name it is listed under, keys and references name only what is there, and the
lists of references are sorted. The rows of the listings may repeat themselves, speak of views and
come in any order (`wellFormed_of_catalog`).
-/

namespace TableAtlas

/-! ## The invariant -/

/-- A table that a schema lists as `table` is in order. -/
structure Table.WellFormedIn (s : Schema) (table : String) (t : Table) : Prop where
  name : t.name = table
  columnName : ∀ column c, t.columns.get? column = some c → c.name = column
  columnTable : ∀ column c, t.columns.get? column = some c → c.table = table
  /-- No column is named like an added label. -/
  notReserved : ∀ column c, t.columns.get? column = some c → ¬labelMarker.toList <+: c.name.toList
  keyColumns : ∀ column ∈ t.keyColumns, t.columns.contains column
  compositeKey : ∀ columns, t.primaryKey = some (.composite columns) → 2 ≤ columns.length
  refersTo : ∀ column c r, t.columns.get? column = some c → c.refersTo = some r →
    r.column = column ∧ (s.table? r.targetTable).isSome
  /-- The column that refers is one of the schema. -/
  referencedBy : ∀ e ∈ t.referencedBy, (s.column? e.targetTable e.targetColumn).isSome
  /-- By the table that refers, then by its column. -/
  sorted : t.referencedBy.Pairwise fun a b =>
    a.targetTable < b.targetTable ∨ a.targetTable = b.targetTable ∧ a.targetColumn ≤ b.targetColumn

def Schema.WellFormed (s : Schema) : Prop :=
  ∀ table t, s.table? table = some t → t.WellFormedIn s table

namespace Catalog

/-! ## Listed columns -/

theorem name_of_mem_readColumns {tables : SortedMap Table} {rows : List Row} {columns : List Column}
    (h : readColumns tables rows = .ok columns) {c : Column} (hc : c ∈ columns) :
    ¬labelMarker.toList <+: c.name.toList := by
  obtain ⟨row, -, hrow⟩ := exists_row_of_mem_readColumns h hc
  have hname := (of_readColumn hrow).2.2.1
  rwa [isReservedName, List.isPrefixOf_iff_prefix] at hname

theorem mem_of_withColumns {columns : List Column} {t : Table} {column : String} {c : Column}
    (h : (withColumns columns t).columns.get? column = some c) : c ∈ columns ∧ c.table = t.name := by
  obtain ⟨listed, hlisted, heq⟩ := List.mem_map.1 (SortedMap.mem_of_get?_ofList h)
  obtain ⟨-, rfl⟩ := Prod.mk.inj heq
  obtain ⟨hmem, htable⟩ := List.mem_filter.1 hlisted
  exact ⟨hmem, by simpa using htable⟩

/-! ## Primary keys -/

theorem columns_primaryKeyOf (columns : List Column) :
    ((primaryKeyOf columns).map PrimaryKey.columns).getD [] =
      (((columns.filter Column.isPrimary).map fun c => (c.ordinal, c.name)).mergeSort keyOrder).map
        Prod.snd := by
  simp only [primaryKeyOf]
  generalize (List.mergeSort _ keyOrder).map Prod.snd = names
  match names with
  | [] => rfl
  | [_] => rfl
  | _ :: _ :: _ => rfl

theorem keyColumns_eq_sorted (columns : List Column) (t : Table) :
    (withColumns columns t).keyColumns =
      ((((columns.filter fun c => c.table = t.name).filter Column.isPrimary).map fun c =>
        (c.ordinal, c.name)).mergeSort keyOrder).map Prod.snd :=
  columns_primaryKeyOf _

theorem mem_columns_primaryKeyOf {columns : List Column} {name : String} :
    name ∈ ((primaryKeyOf columns).map PrimaryKey.columns).getD [] ↔
      ∃ c ∈ columns, c.isPrimary ∧ c.name = name := by
  rw [columns_primaryKeyOf, List.mem_map]
  simp only [List.mem_mergeSort, List.mem_map, List.mem_filter]
  constructor
  · rintro ⟨key, ⟨c, ⟨hc, hprimary⟩, rfl⟩, hname⟩
    exact ⟨c, hc, hprimary, hname⟩
  · rintro ⟨c, hc, hprimary, hname⟩
    exact ⟨(c.ordinal, c.name), ⟨c, ⟨hc, hprimary⟩, rfl⟩, hname⟩

theorem two_le_length_of_composite {columns : List Column} {names : List String}
    (h : primaryKeyOf columns = some (.composite names)) : 2 ≤ names.length := by
  simp only [primaryKeyOf] at h
  generalize (List.mergeSort _ keyOrder).map Prod.snd = keys at h
  match keys, h with
  | [], h => simp at h
  | [_], h => simp at h
  | first :: second :: rest, h =>
    obtain rfl : first :: second :: rest = names := by simpa using h
    simp

theorem contains_of_mem_keyColumns {columns : List Column} {t : Table} {name : String}
    (h : name ∈ (withColumns columns t).keyColumns) :
    (withColumns columns t).columns.contains name := by
  obtain ⟨c, hc, -, rfl⟩ := mem_columns_primaryKeyOf.1 h
  obtain ⟨hmem, htable⟩ := List.mem_filter.1 hc
  rw [contains_withColumns, List.any_eq_true]
  exact ⟨c, hmem, by simpa using htable⟩

/-! ## The lists of references -/

theorem referenceOrder_iff {a b : Reference} :
    referenceOrder a b ↔ a.targetTable < b.targetTable ∨
      a.targetTable = b.targetTable ∧ a.targetColumn ≤ b.targetColumn := by
  simp [referenceOrder]

theorem referenceOrder_iff_toLex {a b : Reference} :
    referenceOrder a b ↔
      toLex (a.targetTable, a.targetColumn) ≤ toLex (b.targetTable, b.targetColumn) := by
  rw [referenceOrder_iff, Prod.Lex.toLex_le_toLex]

theorem referenceOrder_trans (a b c : Reference) (hab : referenceOrder a b)
    (hbc : referenceOrder b c) : referenceOrder a c := by
  rw [referenceOrder_iff_toLex] at hab hbc ⊢
  exact hab.trans hbc

theorem referenceOrder_total (a b : Reference) : referenceOrder a b || referenceOrder b a := by
  rw [Bool.or_eq_true, referenceOrder_iff_toLex, referenceOrder_iff_toLex]
  exact le_total _ _

theorem sorted_reverseReferences (keys : List ForeignKey) (table : String) :
    (reverseReferences keys table).Pairwise fun a b => referenceOrder a b :=
  List.pairwise_mergeSort referenceOrder_trans referenceOrder_total _

/-! ## Built schemas -/

theorem wellFormed_of_buildSchema {c : Configuration} {tableRows columnRows referenceRows : List Row}
    {s : Schema} (h : buildSchema c tableRows columnRows referenceRows = .ok s) : s.WellFormed := by
  intro table t ht
  obtain ⟨hname, hlist, hcolumn⟩ := references_of_buildSchema h ht
  obtain ⟨tables, columns, listed, -, hcolumns, -, hown, rfl⟩ := exists_table_of_buildSchema h ht
  -- A column is a listed one that has been given its reference.
  have hread : ∀ column col,
      (withReferences (acceptedKeys s referenceRows)
        (withColumns columns listed)).columns.get? column = some col →
      ∃ read ∈ columns, read.table = table ∧ col.table = read.table ∧ col.name = read.name := by
    intro column col hcol
    obtain ⟨read, hread, rfl⟩ := exists_of_get?_withReferences hcol
    obtain ⟨hmem, htable⟩ := mem_of_withColumns hread
    exact ⟨read, hmem, htable.trans hown, rfl, rfl⟩
  refine
    { name := hname
      columnName := fun column col hcol => (hcolumn column col hcol).1
      columnTable := fun column col hcol => ?_
      notReserved := fun column col hcol => ?_
      keyColumns := fun column hmem => ?_
      compositeKey := fun names hkey => two_le_length_of_composite hkey
      refersTo := fun column col r hcol hr => ?_
      referencedBy := fun e he => ?_
      sorted := ?_ }
  · obtain ⟨read, -, htable, hcol, -⟩ := hread column col hcol
    exact hcol.trans htable
  · obtain ⟨read, hmem, -, -, hcol⟩ := hread column col hcol
    exact hcol ▸ name_of_mem_readColumns hcolumns hmem
  · rw [withReferences, SortedMap.contains_map]
    exact contains_of_mem_keyColumns hmem
  · rw [(hcolumn column col hcol).2] at hr
    obtain ⟨hkey, hcol⟩ := of_lastReference_eq_some hr
    exact ⟨hcol, (of_mem_acceptedKeys hkey).1⟩
  · exact (of_mem_acceptedKeys ((mem_referencedBy h ht).1 he)).2
  · rw [hlist]
    exact (sorted_reverseReferences _ _).imp referenceOrder_iff.1

end Catalog

/-! ## Exact row counts -/

/-- The table with a count of its rows in the place of its estimate, if there is a count. -/
def Table.recounted (t : Table) (count? : Option UInt64) : Table :=
  { t with size := { t.size with rows := count? <|> t.size.rows } }

@[simp] theorem Table.recounted_none (t : Table) : t.recounted none = t := rfl

namespace Catalog

theorem applyCount_eq (tables : SortedMap Table) (cell : String × Json) :
    applyCount tables cell = tables.modify cell.1 fun t => t.recounted cell.2.cellNatural? := by
  unfold applyCount
  cases cell.2.cellNatural? with
  | none =>
    refine SortedMap.ext fun table => ?_
    simp [SortedMap.get?_modify]
  | some n => rfl

theorem get?_foldl_applyCount {cells : List (String × Json)}
    (hdistinct : (cells.map Prod.fst).Nodup) (tables : SortedMap Table) (table : String) :
    (cells.foldl applyCount tables).get? table = (tables.get? table).map fun t =>
      t.recounted (((cells.find? (·.1 = table)).map Prod.snd).bind Json.cellNatural?) := by
  induction cells generalizing tables with
  | nil => simp
  | cons cell cells ih =>
    obtain ⟨hcell, hcells⟩ := List.nodup_cons.1 hdistinct
    rw [List.foldl_cons, ih hcells, applyCount_eq, SortedMap.get?_modify, Option.map_map]
    congr 1
    funext t
    by_cases htable : cell.1 = table
    · have hnone : cells.find? (·.1 = table) = none := by
        rw [List.find?_eq_none]
        intro other hother hname
        exact hcell (List.mem_map.2 ⟨other, hother, (of_decide_eq_true hname).trans htable.symm⟩)
      simp [htable, hnone]
    · simp [htable, Ne.symm htable]

theorem applyCounts_eq (s : Schema) (row : Row) :
    (applyCounts s row).tables = s.tables.map fun table t =>
      t.recounted ((row.get? table).bind Json.cellNatural?) := by
  refine SortedMap.ext fun table => ?_
  rw [SortedMap.get?_map]
  exact get?_foldl_applyCount row.distinct s.tables table

end Catalog

theorem Schema.WellFormed.resize {s s' : Schema} (h : s.WellFormed)
    {resize : String → Table → TableSize}
    (hs : s'.tables = s.tables.map fun table t => { t with size := resize table t }) :
    s'.WellFormed := by
  have htable (table : String) : s'.table? table =
      (s.table? table).map fun t => { t with size := resize table t } := by
    rw [Schema.table?, hs, SortedMap.get?_map, Schema.table?]
  have hcolumn (table column : String) : s'.column? table column = s.column? table column := by
    rw [Schema.column?, Schema.column?, htable, Option.bind_map]
    rfl
  intro table t ht
  rw [htable, Option.map_eq_some_iff] at ht
  obtain ⟨t, ht, rfl⟩ := ht
  have ht := h table t ht
  refine { ht with refersTo := fun column c r hc hr => ?_, referencedBy := fun e he => ?_ }
  · rw [htable, Option.isSome_map]
    exact ht.refersTo column c r hc hr
  · rw [hcolumn]
    exact ht.referencedBy e he

namespace Catalog

open Program (Source)

section Learned

variable {σ : Type} {source : Source σ} {state : σ} {c : Configuration} {s : Schema}

theorem of_countRows {built : Schema} (h : ((countRows built).run.run source state).value = .ok s) :
    s = built ∨ ∃ row, s = applyCounts built row := by
  unfold countRows at h
  split at h
  · left
    exact (Except.ok.inj h).symm
  · simp only [Inquiry.value_bind_eq_ok_iff] at h
    obtain ⟨statement, -, rows, -, h⟩ := h
    cases rows with
    | nil =>
      rw [Inquiry.outcome_throw] at h
      cases h
    | cons row rows =>
      right
      exact ⟨row, (Except.ok.inj h).symm⟩

/-- A pass that ends well has built a schema from three replies, and then counted rows. -/
theorem of_reflect (h : ((reflect c).run.run source state).value = .ok s) :
    ∃ tableRows columnRows referenceRows built,
      buildSchema c tableRows columnRows referenceRows = .ok built ∧
        (s = built ∨ ∃ row, s = applyCounts built row) := by
  simp only [reflect, Inquiry.value_bind_eq_ok_iff] at h
  obtain ⟨_, -, _, -, _, -, listings, -, built, hbuilt, h⟩ := h
  exact ⟨listings.1, listings.2.1, listings.2.2, built, hbuilt, of_countRows h⟩

theorem wellFormed_of_reflect (h : ((reflect c).run.run source state).value = .ok s) :
    s.WellFormed := by
  obtain ⟨_, _, _, built, hbuilt, rfl | ⟨row, rfl⟩⟩ := of_reflect h
  · exact wellFormed_of_buildSchema hbuilt
  · exact (wellFormed_of_buildSchema hbuilt).resize (applyCounts_eq built row)

end Learned

/-- The schema that three listings describe is well-formed, and so is each that a pass learns from a
database, whatever the database answers. -/
theorem wellFormed_of_catalog (c : Configuration) (s : Schema) :
    (∀ tableRows columnRows referenceRows,
      buildSchema c tableRows columnRows referenceRows = .ok s → s.WellFormed) ∧
    ∀ {σ : Type} (source : Source σ) (state : σ),
      ((reflect c).run.run source state).value = .ok s → s.WellFormed :=
  ⟨fun _ _ _ => wellFormed_of_buildSchema, fun _ _ => wellFormed_of_reflect⟩

/-! ## A catalog with repeated rows and a view -/

def itemTables : List Row :=
  [("orders", "20000"), ("items", "3"), ("orders", "30000")].map fun (table, rows) =>
    textRow [("TABLE_NAME", table), ("TABLE_ROWS", rows)]

def itemColumns : List Row :=
  [("items", "order_id", "2", "PRI"), ("summary", "$label$x", "1", ""), ("orders", "id", "1", "PRI"),
    ("items", "number", "1", "PRI"), ("orders", "parent", "2", "MUL"), ("orders", "parent", "3", "")].map
    fun (table, column, ordinal, kind) => textRow [("TABLE_NAME", table), ("COLUMN_NAME", column),
      ("ORDINAL_POSITION", ordinal), ("COLUMN_KEY", kind)]

def itemReferences : List Row :=
  [("orders", "parent", "orders"), ("summary", "x", "orders"), ("items", "order_id", "orders")].map
    fun (table, column, target) => textRow [("TABLE_NAME", table), ("COLUMN_NAME", column),
      ("REFERENCED_TABLE_NAME", target), ("REFERENCED_COLUMN_NAME", "id")]

def itemSchema : Schema :=
  (buildSchema (.mysql "root" "secret" "shop") itemTables itemColumns itemReferences).toOption.getD
    default

/-- What a database replies to a pass: these rows, and a count for the small table. -/
def itemReplies : List Reply :=
  [.ok itemTables, .ok itemColumns, .ok itemReferences, .ok [textRow [("items", "7")]]]

def learnedItemSchema : Schema :=
  ((reflect (.mysql "root" "secret" "shop")).run.run Program.replay itemReplies).value.toOption.getD
    default

theorem wellFormed_items :
    buildSchema (.mysql "root" "secret" "shop") itemTables itemColumns itemReferences =
        .ok itemSchema ∧ itemSchema.WellFormed ∧
      ((reflect (.mysql "root" "secret" "shop")).run.run Program.replay itemReplies).value =
        .ok learnedItemSchema ∧ learnedItemSchema.WellFormed := by
  have hbuilt : buildSchema (.mysql "root" "secret" "shop") itemTables itemColumns itemReferences =
      .ok itemSchema := eq_ok_getD_of_isSome (by decide +kernel)
  have hlearned :
      ((reflect (.mysql "root" "secret" "shop")).run.run Program.replay itemReplies).value =
        .ok learnedItemSchema := eq_ok_getD_of_isSome (by decide +kernel)
  exact ⟨hbuilt, (wellFormed_of_catalog _ _).1 _ _ _ hbuilt,
    hlearned, (wellFormed_of_catalog _ _).2 _ _ hlearned⟩

end Catalog

end TableAtlas
