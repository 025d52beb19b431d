import TableAtlas.Proofs.Catalog.WellFormed

/-!
# The order of foreign keys

A server may list foreign keys in any order, too. A column keeps the key that is listed last for it,
and a table lists its keys by the columns that refer, whatever these refer to. So the schema is the
same for each order just if no column refers to two different columns (`buildSchema_keyOrder_iff`).
A column of one key alone, and which keys the tables list, never depend on the order.
-/

namespace TableAtlas.Catalog

/-! ## Keys in another order -/

/-- A column that has no two different keys. -/
def RefersOnce (keys : List ForeignKey) (source : String × String) : Prop :=
  ∀ k ∈ keys, ∀ k' ∈ keys, k.source = source → k'.source = source → k = k'

theorem lastReference_eq_some_iff {keys : List ForeignKey} {table column : String}
    (honce : RefersOnce keys (table, column)) {r : Reference} :
    lastReference keys table column = some r ↔ ⟨table, r⟩ ∈ keys ∧ r.column = column := by
  constructor
  · exact of_lastReference_eq_some
  · rintro ⟨hk, rfl⟩
    exact lastReference_of_mem hk fun k' hk' hsource => honce k' hk' ⟨table, r⟩ hk hsource rfl

theorem lastReference_of_perm {keys keys' : List ForeignKey} (hperm : keys'.Perm keys)
    {table column : String} (honce : RefersOnce keys (table, column)) :
    lastReference keys' table column = lastReference keys table column := by
  have honce' : RefersOnce keys' (table, column) := fun k hk k' hk' =>
    honce k (hperm.mem_iff.1 hk) k' (hperm.mem_iff.1 hk')
  ext r
  rw [lastReference_eq_some_iff honce', lastReference_eq_some_iff honce, hperm.mem_iff]

theorem source_eq_of_tied {table : String} {e e' : Reference} (h : referenceOrder e e')
    (h' : referenceOrder e' e) : (listedKey table e).source = (listedKey table e').source := by
  rw [referenceOrder_iff_toLex] at h h'
  exact toLex.injective (le_antisymm h h')

theorem reverseReferences_of_perm {keys keys' : List ForeignKey} (hperm : keys'.Perm keys)
    (honce : ∀ source, RefersOnce keys source) (table : String) :
    reverseReferences keys' table = reverseReferences keys table := by
  apply @List.Perm.eq_of_pairwise _ fun a b => referenceOrder a b
  · intro e e' he he' htied htied'
    have hk : listedKey table e ∈ keys := hperm.mem_iff.1 (mem_reverseReferences.1 he)
    have hk' : listedKey table e' ∈ keys := mem_reverseReferences.1 he'
    have hsource : (listedKey table e).source = (listedKey table e').source :=
      source_eq_of_tied htied htied'
    exact listedKey_injective table (honce _ _ hk _ hk' hsource rfl)
  · exact sorted_reverseReferences _ _
  · exact sorted_reverseReferences _ _
  · have hlisted : (keys'.filter fun k => k.reference.targetTable = table).Perm
        (keys.filter fun k => k.reference.targetTable = table) := hperm.filter _
    exact (List.mergeSort_perm _ _).trans ((hlisted.map _).trans (List.mergeSort_perm _ _).symm)

theorem readForeignKeys_of_perm {tables : SortedMap Table} {columns : List Column}
    {rows others : List Row} {keys : List ForeignKey} (hperm : others.Perm rows)
    (h : readForeignKeys tables columns rows = .ok keys) :
    ∃ keys', readForeignKeys tables columns others = .ok keys' ∧ keys'.Perm keys := by
  simp only [readForeignKeys, bind_eq_ok_iff, pure_eq_ok_iff] at h ⊢
  obtain ⟨read, hread, rfl⟩ := h
  obtain ⟨read', hread', hperm'⟩ := exists_mapM_of_perm hperm hread
  exact ⟨_, ⟨read', hread', rfl⟩, hperm'.filterMap id⟩

/-! ## Schemas -/

/-- A table without anything that foreign keys add to it. -/
def withoutReferences (t : Table) : Table :=
  { t with
    columns := t.columns.map fun _ col => { col with refersTo := none }
    referencedBy := [] }

theorem withoutReferences_withReferences (keys : List ForeignKey) (t : Table) :
    withoutReferences (withReferences keys t) = withoutReferences t := by
  have hcolumns : (t.columns.map fun _ col =>
        { col with refersTo := lastReference keys t.name col.name }).map
          (fun _ col => { col with refersTo := none }) =
      t.columns.map fun _ col => { col with refersTo := none } := by
    ext column : 1
    simp only [SortedMap.get?_map, Option.map_map, Function.comp_def]
  simp only [withoutReferences, withReferences, hcolumns]

section Assembled

variable {c : Configuration} {tableRows : List Row} {tables : SortedMap Table}
  {columns : List Column} {keys keys' : List ForeignKey}

theorem column?_assembled_of_perm (htables : readTables c tableRows = .ok tables)
    (hperm : keys'.Perm keys) {table column : String} (honce : RefersOnce keys (table, column)) :
    (assembled c tables columns keys').column? table column =
      (assembled c tables columns keys).column? table column := by
  simp only [assembled, Schema.column?, Schema.table?, SortedMap.get?_map]
  cases ht : tables.get? table with
  | none => rfl
  | some t =>
    simp only [Option.map_some, Option.bind_some, withReferences, SortedMap.get?_map]
    cases hcol : (withColumns columns t).columns.get? column with
    | none => rfl
    | some col =>
      have hsame := lastReference_of_perm hperm honce
      simp only [Option.map_some, name_withColumns, name_of_readTables htables ht,
        name_of_withColumns hcol, hsame]

theorem assembled_of_perm (hperm : keys'.Perm keys) (honce : ∀ source, RefersOnce keys source) :
    assembled c tables columns keys' = assembled c tables columns keys := by
  have hlast (table column : String) :
      lastReference keys' table column = lastReference keys table column :=
    lastReference_of_perm hperm (honce (table, column))
  simp only [assembled, withReferences, hlast, reverseReferences_of_perm hperm honce]

end Assembled

section Built

variable {c : Configuration} {tableRows columnRows referenceRows : List Row} {s : Schema}

theorem exists_buildSchema_of_perm {rows : List Row}
    (h : buildSchema c tableRows columnRows referenceRows = .ok s)
    (hperm : rows.Perm referenceRows) :
    ∃ tables columns s', readTables c tableRows = .ok tables ∧
      s = assembled c tables columns (acceptedKeys s referenceRows) ∧
      s' = assembled c tables columns (acceptedKeys s' rows) ∧
      buildSchema c tableRows columnRows rows = .ok s' ∧
      (acceptedKeys s' rows).Perm (acceptedKeys s referenceRows) := by
  obtain ⟨tables, columns, htables, hcolumns, hkeys, hs⟩ := listings_of_buildSchema h
  obtain ⟨keys, hkeys', hpermKeys⟩ := readForeignKeys_of_perm hperm hkeys
  have hbuilt := buildSchema_eq_ok_iff.2 ⟨tables, columns, keys, htables, hcolumns, hkeys', rfl⟩
  obtain ⟨tables', columns', htables', hcolumns', haccepted, hs'⟩ := listings_of_buildSchema hbuilt
  -- The listings of tables and columns are the same, so they are read the same.
  obtain rfl : tables = tables' := Except.ok.inj (htables.symm.trans htables')
  obtain rfl : columns = columns' := Except.ok.inj (hcolumns.symm.trans hcolumns')
  rw [hkeys'] at haccepted
  exact ⟨tables, columns, _, htables, hs, hs', hbuilt, Except.ok.inj haccepted ▸ hpermKeys⟩

/-- If each order gives the same schema, a column holds each of its keys: any of them may be listed
last. -/
theorem refersTo_of_every_order
    (hevery : ∀ rows, rows.Perm referenceRows → buildSchema c tableRows columnRows rows = .ok s)
    {k : ForeignKey} (hk : k ∈ acceptedKeys s referenceRows) {col : Column}
    (hcol : s.column? k.table k.reference.column = some col) : col.refersTo = some k.reference := by
  obtain ⟨row, hrow, hkey⟩ := List.mem_filterMap.1 hk
  obtain ⟨earlier, later, rfl⟩ := List.append_of_mem hrow
  have hlast : buildSchema c tableRows columnRows (earlier ++ later ++ [row]) = .ok s := by
    apply hevery
    rw [List.append_assoc]
    exact (List.perm_append_singleton row later).append_left earlier
  have haccepted : acceptedKeys s (earlier ++ later ++ [row]) =
      acceptedKeys s (earlier ++ later) ++ [k] := by
    simp [acceptedKeys, hkey]
  rw [(column_of_buildSchema hlast hcol).2, haccepted, lastReference_append_singleton]
  exact if_pos rfl

theorem refersOnce_of_every_order
    (hevery : ∀ rows, rows.Perm referenceRows → buildSchema c tableRows columnRows rows = .ok s)
    (source : String × String) : RefersOnce (acceptedKeys s referenceRows) source := by
  rintro ⟨table, r⟩ hk ⟨table', r'⟩ hk' rfl hsource
  obtain ⟨rfl, hcolumn⟩ : table' = table ∧ r'.column = r.column := Prod.mk.inj hsource
  obtain ⟨col, hcol⟩ := Option.isSome_iff_exists.1 (of_mem_acceptedKeys hk).2
  have hr : col.refersTo = some r := refersTo_of_every_order hevery hk hcol
  have hr' : col.refersTo = some r' := refersTo_of_every_order hevery hk' (hcolumn ▸ hcol)
  rw [Option.some.inj (hr.symm.trans hr')]

/-- In whatever order the keys of a schema are listed, a schema is built. It has the same tables and
columns, its tables list the same keys, and each column that has no two different keys holds the same
one. It is the same schema for each order just if no column has two different keys. -/
theorem buildSchema_keyOrder_iff
    (h : buildSchema c tableRows columnRows referenceRows = .ok s) :
    (∀ rows, rows.Perm referenceRows → ∃ s', buildSchema c tableRows columnRows rows = .ok s' ∧
      s'.tables.map (fun _ => withoutReferences) = s.tables.map (fun _ => withoutReferences) ∧
      s'.reverseKeys.Perm s.reverseKeys ∧
      ∀ table column, RefersOnce (acceptedKeys s referenceRows) (table, column) →
        s'.column? table column = s.column? table column) ∧
    ((∀ rows, rows.Perm referenceRows → buildSchema c tableRows columnRows rows = .ok s) ↔
      ∀ source, RefersOnce (acceptedKeys s referenceRows) source) := by
  refine ⟨fun rows hperm => ?_, refersOnce_of_every_order, fun honce rows hperm => ?_⟩
  · obtain ⟨tables, columns, s', htables, hs, hs', hbuilt, hkeys⟩ :=
      exists_buildSchema_of_perm h hperm
    refine ⟨s', hbuilt, ?_, ?_, fun table column honce => ?_⟩
    · rw [hs, hs']
      ext table : 1
      simp only [assembled, SortedMap.get?_map, Option.map_map, Function.comp_def,
        withoutReferences_withReferences]
    · exact (perm_reverseKeys hbuilt).trans (hkeys.trans (perm_reverseKeys h).symm)
    · have hcolumn : (assembled c tables columns (acceptedKeys s' rows)).column? table column =
          (assembled c tables columns (acceptedKeys s referenceRows)).column? table column :=
        column?_assembled_of_perm htables hkeys honce
      rwa [← hs, ← hs'] at hcolumn
  · obtain ⟨tables, columns, s', -, hs, hs', hbuilt, hkeys⟩ := exists_buildSchema_of_perm h hperm
    rw [hbuilt, hs', assembled_of_perm hkeys honce, ← hs]

end Built

/-! ## Two keys of one column -/

theorem buildSchema_keyOrder_items :
    buildSchema (.mysql "root" "secret" "shop") itemTables itemColumns itemReferences =
        .ok itemSchema ∧
      ∀ rows, rows.Perm itemReferences →
        buildSchema (.mysql "root" "secret" "shop") itemTables itemColumns rows = .ok itemSchema := by
  have hbuilt : buildSchema (.mysql "root" "secret" "shop") itemTables itemColumns itemReferences =
      .ok itemSchema := eq_ok_getD_of_isSome (by decide +kernel)
  have hsources : ∀ k ∈ acceptedKeys itemSchema itemReferences,
      ∀ k' ∈ acceptedKeys itemSchema itemReferences, k.source = k'.source → k = k' := by
    decide +kernel
  refine ⟨hbuilt, (buildSchema_keyOrder_iff hbuilt).2.2 fun source k hk k' hk' h h' => ?_⟩
  exact hsources k hk k' hk' (h.trans h'.symm)

/-- The user of an order refers to the table that is listed last. -/
theorem buildSchema_reordered_orders :
    (orderReferences ["users", "people"]).Nodup ∧
    (orderReferences ["people", "users"]).Perm (orderReferences ["users", "people"]) ∧
    ∃ s s', buildSchema (.mysql "root" "secret" "shop") orderTables orderColumns
        (orderReferences ["users", "people"]) = .ok s ∧
      buildSchema (.mysql "root" "secret" "shop") orderTables orderColumns
        (orderReferences ["people", "users"]) = .ok s' ∧ s' ≠ s := by
  refine ⟨?_, .swap _ _ _, orderSchema ["users", "people"], orderSchema ["people", "users"],
    eq_ok_of_toOption (by decide +kernel), eq_ok_of_toOption (by decide +kernel), fun heq => ?_⟩
  · exact List.Nodup.of_map (fun row => row.text? "referenced_table_name") (by decide +kernel)
  · have hpeople : ((orderSchema ["users", "people"]).column? "orders" "user_id").map
        Column.refersTo = some (some ⟨"user_id", "people", "id"⟩) := by decide +kernel
    have husers : ((orderSchema ["people", "users"]).column? "orders" "user_id").map
        Column.refersTo = some (some ⟨"user_id", "users", "id"⟩) := by decide +kernel
    rw [heq, hpeople] at husers
    exact absurd husers (by decide)

end TableAtlas.Catalog
