import TableAtlas.Proofs.Catalog.Faults

/-!
# Views

The catalog lists the columns of views, and foreign keys may be listed with a view at one of their ends,
while the listing of tables leaves views out. A schema does not depend on rows like these, wherever they
stand and whatever they hold besides the names of their tables (`buildSchema_ignores_views`).
-/

namespace TableAtlas.Catalog

/-! ## Rows of views -/

/-- The row names a table, and this one is not listed. -/
def isViewColumn (tableRows : List Row) (row : Row) : Bool :=
  (row.text? "table_name").isSome && !namesListed tableRows row "table_name"

/-- The row names two tables, and these are not both listed. -/
def isViewReference (tableRows : List Row) (row : Row) : Bool :=
  (row.text? "table_name").isSome && (row.text? "referenced_table_name").isSome &&
    !(namesListed tableRows row "table_name" && namesListed tableRows row "referenced_table_name")

section Listed

variable {tableRows : List Row} {tables : SortedMap Table}
  (htables : ∀ table, tables.contains table ↔ table ∈ tableNames tableRows)
include htables

theorem readColumn_of_isViewColumn {row : Row} (h : isViewColumn tableRows row) :
    readColumn tables row = .ok none := by
  rw [isViewColumn, Bool.and_eq_true, Option.isSome_iff_exists] at h
  obtain ⟨⟨table, htable⟩, hview⟩ := h
  rw [namesListed_eq htable, ← contains_eq htables] at hview
  rw [readColumn, requireText_eq_ok_iff.2 htable]
  exact if_pos hview

theorem readForeignKey_of_isViewReference {hasColumn : String → String → Bool} {row : Row}
    (h : isViewReference tableRows row) : readForeignKey tables hasColumn row = .ok none := by
  rw [isViewReference, Bool.and_eq_true, Bool.and_eq_true, Option.isSome_iff_exists,
    Option.isSome_iff_exists] at h
  obtain ⟨⟨⟨table, htable⟩, target, htarget⟩, hview⟩ := h
  rw [namesListed_eq htable, namesListed_eq htarget, ← contains_eq htables, ← contains_eq htables,
    Bool.not_and] at hview
  rw [readForeignKey, requireText_eq_ok_iff.2 htable, requireText_eq_ok_iff.2 htarget]
  exact if_pos hview

theorem readColumns_without_views (rows : List Row) :
    readColumns tables (rows.filter fun row => !isViewColumn tableRows row) =
      readColumns tables rows :=
  mapM_filter_filterMap_id fun row _ hview =>
    readColumn_of_isViewColumn htables (by simpa using hview)

theorem readForeignKeys_without_views (columns : List Column) (rows : List Row) :
    readForeignKeys tables columns (rows.filter fun row => !isViewReference tableRows row) =
      readForeignKeys tables columns rows :=
  mapM_filter_filterMap_id fun row _ hview =>
    readForeignKey_of_isViewReference htables (by simpa using hview)

end Listed

/-! ## Schemas -/

theorem buildSchema_without_views (c : Configuration) (tableRows columnRows referenceRows : List Row) :
    buildSchema c tableRows (columnRows.filter fun row => !isViewColumn tableRows row)
        (referenceRows.filter fun row => !isViewReference tableRows row) =
      buildSchema c tableRows columnRows referenceRows := by
  refine bind_congr_of_ok fun tables hread => ?_
  have htables (table : String) : tables.contains table ↔ table ∈ tableNames tableRows :=
    contains_of_readTables hread
  simp only [readColumns_without_views htables, readForeignKeys_without_views htables]

/-- Listings that differ in rows of views alone give the same schema, wherever these rows stand and
whatever else they hold, and they fail alike. -/
theorem buildSchema_ignores_views {c : Configuration}
    {tableRows columnRows columnRows' referenceRows referenceRows' : List Row}
    (hcolumns : columnRows'.filter (fun row => !isViewColumn tableRows row) =
      columnRows.filter fun row => !isViewColumn tableRows row)
    (hreferences : referenceRows'.filter (fun row => !isViewReference tableRows row) =
      referenceRows.filter fun row => !isViewReference tableRows row) :
    buildSchema c tableRows columnRows' referenceRows' =
      buildSchema c tableRows columnRows referenceRows := by
  rw [← buildSchema_without_views, hcolumns, hreferences, buildSchema_without_views]

/-! ## A view of orders -/

/-- Before each column one of a view with the name of a label, and behind it one without a name. -/
def orderColumnsWithViews : List Row :=
  orderColumns.flatMap fun row =>
    [textRow [("table_name", "recent_orders"), ("column_name", "$label$user_id")], row,
      textRow [("table_name", "recent_orders")]]

/-- Around each foreign key one from a view and one to it, both without their columns. -/
def orderReferencesWithViews : List Row :=
  (orderReferences ["users"]).flatMap fun row =>
    [textRow [("table_name", "recent_orders"), ("referenced_table_name", "users")], row,
      textRow [("table_name", "orders"), ("referenced_table_name", "recent_orders")]]

theorem buildSchema_ignores_views_orders :
    buildSchema (.mysql "root" "secret" "shop") orderTables orderColumnsWithViews
      orderReferencesWithViews = .ok (orderSchema ["users"]) := by
  have hplain : buildSchema (.mysql "root" "secret" "shop") orderTables orderColumns
      (orderReferences ["users"]) = .ok (orderSchema ["users"]) :=
    eq_ok_of_toOption (by decide +kernel)
  have hcolumns : orderColumnsWithViews.filter (fun row => !isViewColumn orderTables row) =
      orderColumns.filter fun row => !isViewColumn orderTables row := by rfl
  have hreferences : orderReferencesWithViews.filter (fun row => !isViewReference orderTables row) =
      (orderReferences ["users"]).filter fun row => !isViewReference orderTables row := by rfl
  exact (buildSchema_ignores_views hcolumns hreferences).trans hplain

end TableAtlas.Catalog
