import TableAtlas.Proofs.Catalog.ListingOrder

/-!
# Listings that cannot be read

The rows of a table have to name it. Those of columns and foreign keys have to name their tables, and
what else they are about only where these are listed; a listed table must not have a column with a name
that is kept for labels. A schema is built just if no row is at fault, and else the error is that of the
first faulty row (`buildSchema_fails_iff`).
-/

namespace TableAtlas

/-! ## Fields that a row lacks -/

theorem Json.cellText?_eq_none_iff {value : Json} : value.cellText? = none ↔ value = .null := by
  cases value <;> simp [cellText?]

namespace Row

/-- A field is missing if no cell of the row goes by its name, in any case, or if the cell is null. -/
inductive Lacks (row : Row) (field : String) : Prop
  | absent (h : ∀ cell ∈ row.cells, ¬Text.eqIgnoringCase cell.1 field)
  | null (h : row.field? field = some .null)

theorem exists_cell_of_field? {row : Row} {field : String} {value : Json}
    (h : row.field? field = some value) :
    ∃ cell ∈ row.cells, Text.eqIgnoringCase cell.1 field ∧ cell.2 = value := by
  rw [field?] at h
  split at h
  · next hget =>
    obtain rfl := Option.some.inj h
    obtain ⟨cell, hcell, rfl⟩ := Option.map_eq_some_iff.1 hget
    obtain rfl : cell.1 = field := by simpa using List.find?_some hcell
    exact ⟨cell, List.mem_of_find?_eq_some hcell, Text.eqIgnoringCase_self _, rfl⟩
  · obtain ⟨cell, hcell, rfl⟩ := Option.map_eq_some_iff.1 h
    have hname := List.find?_some hcell
    exact ⟨cell, List.mem_of_find?_eq_some hcell, hname, rfl⟩

theorem field?_eq_none_iff {row : Row} {field : String} :
    row.field? field = none ↔ ∀ cell ∈ row.cells, ¬Text.eqIgnoringCase cell.1 field := by
  constructor
  · intro h
    rw [field?] at h
    split at h
    · cases h
    · simpa [List.find?_eq_none] using h
  · intro h
    by_contra hsome
    obtain ⟨value, hvalue⟩ := Option.ne_none_iff_exists'.1 hsome
    obtain ⟨cell, hcell, hname, -⟩ := exists_cell_of_field? hvalue
    exact h cell hcell hname

theorem lacks_iff {row : Row} {field : String} : row.Lacks field ↔ row.text? field = none := by
  rw [text?, Option.bind_eq_none_iff]
  constructor
  · rintro (h | h) value hvalue
    · rw [field?_eq_none_iff.2 h] at hvalue
      cases hvalue
    · obtain rfl := Option.some.inj (h.symm.trans hvalue)
      rfl
  · intro h
    cases hfield : row.field? field with
    | none => exact .absent (field?_eq_none_iff.1 hfield)
    | some value => exact .null (by rw [hfield, Json.cellText?_eq_none_iff.1 (h value hfield)])

instance (row : Row) (field : String) : Decidable (row.Lacks field) :=
  decidable_of_iff _ lacks_iff.symm

end Row

namespace Catalog

/-! ## What rows have to hold -/

/-- The row names a listed table under the field. -/
def namesListed (tableRows : List Row) (row : Row) (field : String) : Bool :=
  (row.text? field).any fun table => table ∈ tableNames tableRows

/-- The fields that the row of a column has to have. -/
def columnFields (tableRows : List Row) (row : Row) : List String :=
  "table_name" :: if namesListed tableRows row "table_name" then ["column_name"] else []

/-- The fields that the row of a foreign key has to have. -/
def referenceFields (tableRows : List Row) (row : Row) : List String :=
  ["table_name", "referenced_table_name"] ++
    if namesListed tableRows row "table_name" ∧ namesListed tableRows row "referenced_table_name" then
      ["column_name", "referenced_column_name"]
    else []

/-- The listings can be read: no row lacks a field that it has to have, and no column of a listed table
has a name that is kept for labels. -/
structure Readable (tableRows columnRows referenceRows : List Row) : Prop where
  tables : ∀ row ∈ tableRows, ¬row.Lacks "table_name"
  columns : ∀ row ∈ columnRows, ¬row.Lacks "table_name" ∧
    (namesListed tableRows row "table_name" → ¬row.Lacks "column_name" ∧
      ∀ name, row.text? "column_name" = some name → ¬labelMarker.toList <+: name.toList)
  references : ∀ row ∈ referenceRows, ¬row.Lacks "table_name" ∧ ¬row.Lacks "referenced_table_name" ∧
    (namesListed tableRows row "table_name" → namesListed tableRows row "referenced_table_name" →
      ¬row.Lacks "column_name" ∧ ¬row.Lacks "referenced_column_name")

/-! ## Faults -/

/-- The fault of a row that lacks one of the fields; the first of them is told. -/
def lacking? (row : Row) (fields : List String) : Option Error :=
  (fields.find? fun field => row.Lacks field).map fun field => .source (.unexpectedRow (.noText field))

/-- The fault of a column of a listed table with a name that is kept for labels. -/
def reserved? (tableRows : List Row) (row : Row) : Option Error := do
  let table ← row.text? "table_name"
  let name ← row.text? "column_name"
  if table ∈ tableNames tableRows ∧ labelMarker.toList <+: name.toList then
    some (.compilation (.reservedColumn table name))
  else none

def tableFault? (row : Row) : Option Error :=
  lacking? row ["table_name"]

def columnFault? (tableRows : List Row) (row : Row) : Option Error :=
  (lacking? row (columnFields tableRows row)).or (reserved? tableRows row)

def referenceFault? (tableRows : List Row) (row : Row) : Option Error :=
  lacking? row (referenceFields tableRows row)

/-- The fault of the first faulty row: of the tables, or else of the columns, or else of the foreign
keys. -/
def firstFault? (tableRows columnRows referenceRows : List Row) : Option Error :=
  (tableRows.findSome? tableFault?).or
    ((columnRows.findSome? (columnFault? tableRows)).or
      (referenceRows.findSome? (referenceFault? tableRows)))

theorem namesListed_eq {tableRows : List Row} {row : Row} {field table : String}
    (h : row.text? field = some table) :
    namesListed tableRows row field = decide (table ∈ tableNames tableRows) := by
  rw [namesListed, h, Option.any_some]

section Faultless

variable {tableRows columnRows referenceRows : List Row} {row : Row}

theorem lacking?_eq_none_iff {fields : List String} :
    lacking? row fields = none ↔ ∀ field ∈ fields, ¬row.Lacks field := by
  simp [lacking?]

theorem reserved?_eq_none_iff :
    reserved? tableRows row = none ↔ (namesListed tableRows row "table_name" →
      ∀ name, row.text? "column_name" = some name → ¬labelMarker.toList <+: name.toList) := by
  rw [reserved?, namesListed]
  cases row.text? "table_name" with
  | none => simp
  | some table => cases row.text? "column_name" <;> simp

theorem columnFault?_eq_none_iff :
    columnFault? tableRows row = none ↔ ¬row.Lacks "table_name" ∧
      (namesListed tableRows row "table_name" → ¬row.Lacks "column_name" ∧
        ∀ name, row.text? "column_name" = some name → ¬labelMarker.toList <+: name.toList) := by
  rw [columnFault?, Option.or_eq_none_iff, lacking?_eq_none_iff, reserved?_eq_none_iff, columnFields]
  cases namesListed tableRows row "table_name" <;> simp [and_assoc]

theorem referenceFault?_eq_none_iff :
    referenceFault? tableRows row = none ↔
      ¬row.Lacks "table_name" ∧ ¬row.Lacks "referenced_table_name" ∧
      (namesListed tableRows row "table_name" → namesListed tableRows row "referenced_table_name" →
        ¬row.Lacks "column_name" ∧ ¬row.Lacks "referenced_column_name") := by
  rw [referenceFault?, lacking?_eq_none_iff, referenceFields]
  cases namesListed tableRows row "table_name" <;>
    cases namesListed tableRows row "referenced_table_name" <;> simp

theorem firstFault?_eq_none_iff :
    firstFault? tableRows columnRows referenceRows = none ↔
      Readable tableRows columnRows referenceRows := by
  simp only [firstFault?, Option.or_eq_none_iff, List.findSome?_eq_none_iff, tableFault?,
    lacking?_eq_none_iff, columnFault?_eq_none_iff, referenceFault?_eq_none_iff,
    List.forall_mem_singleton]
  constructor
  · rintro ⟨htables, hcolumns, hreferences⟩
    exact ⟨htables, hcolumns, hreferences⟩
  · rintro ⟨htables, hcolumns, hreferences⟩
    exact ⟨htables, hcolumns, hreferences⟩

end Faultless

/-! ## Rows that are read -/

/-- Reading goes on behind a field that the row has, and so does the search for what it lacks. -/
theorem requireText_bind_eq_error_iff {α : Type} {row : Row} {field : String} {fields : List String}
    {next : String → Except Error α} {other : Option Error} {e : Error}
    (h : ∀ text, row.text? field = some text →
      (next text = .error e ↔ (lacking? row fields).or other = some e)) :
    (requireText row field >>= next) = .error e ↔
      (lacking? row (field :: fields)).or other = some e := by
  rw [bind_eq_error_iff, requireText]
  cases htext : row.text? field with
  | none =>
    have hlacks : row.Lacks field := Row.lacks_iff.2 htext
    simp [lacking?, hlacks]
  | some text =>
    have hlacks : ¬row.Lacks field := by simp [Row.lacks_iff, htext]
    have hrest := h text htext
    rw [lacking?] at hrest
    simp [lacking?, hlacks, hrest]

theorem readTable_eq_error_iff {c : Configuration} {row : Row} {e : Error} :
    readTable c row = .error e ↔ tableFault? row = some e := by
  rw [readTable, tableFault?, ← Option.or_none (o := lacking? row _)]
  refine requireText_bind_eq_error_iff fun table _ => ?_
  exact iff_of_false pure_ne_error (by simp [lacking?])

theorem readTables_eq_error_iff {c : Configuration} {rows : List Row} {e : Error} :
    readTables c rows = .error e ↔ rows.findSome? tableFault? = some e := by
  rw [readTables, bind_pure_eq_error_iff, mapM_eq_error_iff fun row e => readTable_eq_error_iff]

section Listed

variable {tableRows : List Row} {tables : SortedMap Table}
  (htables : ∀ table, tables.contains table ↔ table ∈ tableNames tableRows)
include htables

theorem contains_eq (table : String) :
    tables.contains table = decide (table ∈ tableNames tableRows) := by
  rw [Bool.eq_iff_iff, htables, decide_eq_true_iff]

theorem readColumn_eq_error_iff {row : Row} {e : Error} :
    readColumn tables row = .error e ↔ columnFault? tableRows row = some e := by
  refine requireText_bind_eq_error_iff fun table htable => ?_
  rw [namesListed_eq htable, contains_eq htables, reserved?, htable, Option.bind_eq_bind,
    Option.bind_some]
  by_cases hlisted : table ∈ tableNames tableRows
  · simp only [hlisted, decide_true, Bool.not_true, Bool.false_eq_true, if_false, if_true, true_and]
    refine requireText_bind_eq_error_iff fun name hname => ?_
    rw [hname, lacking?]
    by_cases hreserved : labelMarker.toList <+: name.toList
    · simp [isReservedName, hreserved, throw, throwThe, MonadExceptOf.throw, bind, Except.bind]
    · simp [isReservedName, hreserved, pure, Except.pure]
  · -- The row of a view, whose other fields are not looked at.
    simp [hlisted, pure, Except.pure, lacking?]

theorem readColumns_eq_error_iff {rows : List Row} {e : Error} :
    readColumns tables rows = .error e ↔ rows.findSome? (columnFault? tableRows) = some e := by
  rw [readColumns, bind_pure_eq_error_iff,
    mapM_eq_error_iff fun row e => readColumn_eq_error_iff htables]

theorem readForeignKey_eq_error_iff {hasColumn : String → String → Bool} {row : Row} {e : Error} :
    readForeignKey tables hasColumn row = .error e ↔ referenceFault? tableRows row = some e := by
  rw [readForeignKey, referenceFault?, ← Option.or_none (o := lacking? row _)]
  refine requireText_bind_eq_error_iff fun table htable => ?_
  refine requireText_bind_eq_error_iff fun target htarget => ?_
  rw [namesListed_eq htable, namesListed_eq htarget, contains_eq htables, contains_eq htables]
  by_cases hlisted : table ∈ tableNames tableRows ∧ target ∈ tableNames tableRows
  · simp only [hlisted, decide_true, Bool.not_true, Bool.or_false, Bool.false_eq_true, if_false,
      and_self, if_true]
    refine requireText_bind_eq_error_iff fun column _ => ?_
    refine requireText_bind_eq_error_iff fun targetColumn _ => ?_
    split
    · exact iff_of_false pure_ne_error (by simp [lacking?])
    · exact iff_of_false pure_ne_error (by simp [lacking?])
  · rw [← Bool.not_and, ← Bool.decide_and, decide_eq_false hlisted, Bool.not_false, if_pos rfl,
      if_neg (by simpa using hlisted)]
    exact iff_of_false pure_ne_error (by simp [lacking?])

theorem readForeignKeys_eq_error_iff {columns : List Column} {rows : List Row} {e : Error} :
    readForeignKeys tables columns rows = .error e ↔
      rows.findSome? (referenceFault? tableRows) = some e := by
  rw [readForeignKeys, bind_pure_eq_error_iff,
    mapM_eq_error_iff fun row e => readForeignKey_eq_error_iff htables]

end Listed

/-! ## Schemas -/

section Built

variable {c : Configuration} {tableRows columnRows referenceRows : List Row}

theorem buildSchema_eq_error_iff (e : Error) :
    buildSchema c tableRows columnRows referenceRows = .error e ↔
      firstFault? tableRows columnRows referenceRows = some e := by
  rw [firstFault?, ← Option.or_none (o := referenceRows.findSome? _)]
  refine bind_eq_error_iff_or (fun e => readTables_eq_error_iff) (fun tables hread => ?_) e
  have htables (table : String) : tables.contains table ↔ table ∈ tableNames tableRows :=
    contains_of_readTables hread
  refine bind_eq_error_iff_or (fun e => readColumns_eq_error_iff htables) fun columns _ => ?_
  refine bind_eq_error_iff_or (fun e => readForeignKeys_eq_error_iff htables) fun keys _ e => ?_
  exact iff_of_false pure_ne_error (Option.some_ne_none e).symm

/-- A schema is built just if the listings can be read. Otherwise the error is that of the first faulty
row, the tables before the columns and these before the foreign keys: it tells the first of the fields
that the row lacks though it has to have it, or else the name that is kept for labels. -/
theorem buildSchema_fails_iff :
    ((∃ s, buildSchema c tableRows columnRows referenceRows = .ok s) ↔
      Readable tableRows columnRows referenceRows) ∧
    ∀ e, buildSchema c tableRows columnRows referenceRows = .error e ↔
      firstFault? tableRows columnRows referenceRows = some e := by
  refine ⟨?_, buildSchema_eq_error_iff⟩
  rw [exists_eq_ok_iff, ← firstFault?_eq_none_iff, Option.eq_none_iff_forall_ne_some]
  exact forall_congr' fun e => not_congr (buildSchema_eq_error_iff e)

/-- The column of a view may have any name, and foreign keys come last. -/
example :
    firstFault? [textRow [("table_name", "orders")]]
      [textRow [("TABLE_NAME", "notes"), ("COLUMN_NAME", "$label$id")],
        textRow [("TABLE_NAME", "orders"), ("COLUMN_NAME", "$label$id")]]
      [textRow [("table_name", "orders")]] =
        some (.compilation (.reservedColumn "orders" "$label$id")) := by
  rfl

end Built

end Catalog

end TableAtlas
