import TableAtlas.Catalog.Cell
import TableAtlas.Error
import TableAtlas.Text.LowerCase

/-!
# Listings of the catalog

The rows of the three catalog listings read as tables, columns and foreign keys. Rows about tables that
are not listed, such as views, are passed over whatever else they hold; a row that has to be read and
lacks a field makes the listing unreadable.
-/

namespace TableAtlas.Catalog

/-- A text that a row must have. -/
def requireText (row : Row) (field : String) : Except Error String :=
  match row.text? field with
  | some text => .ok text
  | none => .error (.source (.unexpectedRow (.noText field)))

/-! ## Tables -/

/-- The sum of two sizes, or the one that is known. -/
def totalSize : Option UInt64 → Option UInt64 → Option UInt64
  | some data, some index => some (data + index)
  | some data, none => some data
  | none, index => index

/-- The table that a row lists, still without columns. -/
def readTable (c : Configuration) (row : Row) : Except Error Table := do
  let name ← requireText row "table_name"
  let data := row.natural? "data_length"
  let index := row.natural? "index_length"
  return {
    name
    columns := ∅
    primaryKey := none
    size := {
      rows := row.natural? "table_rows"
      dataBytes := data
      indexBytes := index
      totalBytes := totalSize data index }
    labelColumn := c.labelColumn? name
    referencedBy := [] }

/-- The listed tables; of two rows of one name the later counts. -/
def readTables (c : Configuration) (rows : List Row) : Except Error (SortedMap Table) := do
  let tables ← rows.mapM (readTable c)
  return .ofList (tables.map fun t => (t.name, t))

/-! ## Columns -/

/-- The column that a row lists, `none` if its table is not listed. -/
def readColumn (tables : SortedMap Table) (row : Row) : Except Error (Option Column) := do
  let table ← requireText row "table_name"
  if !tables.contains table then return none
  let name ← requireText row "column_name"
  if isReservedName name then throw (.compilation (.reservedColumn table name))
  return some {
    name
    ordinal := ((row.natural? "ordinal_position").getD 0).toUInt32
    declaredType := (row.text? "column_type").getD ""
    keyKind := (row.text? "column_key").getD ""
    defaultValue := row.text? "column_default"
    isNullable := row.flag "is_nullable"
    extra := (row.text? "extra").getD ""
    table
    refersTo := none }

def readColumns (tables : SortedMap Table) (rows : List Row) : Except Error (List Column) := do
  let columns ← rows.mapM (readColumn tables)
  return columns.filterMap id

/-! ## Foreign keys -/

/-- A foreign key: the table that refers, and the reference held by its column. -/
structure ForeignKey where
  table : String
  reference : Reference
  deriving DecidableEq, Repr

/-- The foreign key that a row lists, `none` if one of its tables or its column is not listed. -/
def readForeignKey (tables : SortedMap Table) (hasColumn : String → String → Bool) (row : Row) :
    Except Error (Option ForeignKey) := do
  let table ← requireText row "table_name"
  let target ← requireText row "referenced_table_name"
  if !tables.contains table || !tables.contains target then return none
  let column ← requireText row "column_name"
  let targetColumn ← requireText row "referenced_column_name"
  if hasColumn table column then return some ⟨table, ⟨column, target, targetColumn⟩⟩
  else return none

def readForeignKeys (tables : SortedMap Table) (columns : List Column) (rows : List Row) :
    Except Error (List ForeignKey) := do
  let hasColumn (table column : String) : Bool :=
    columns.any fun c => c.table = table && c.name = column
  let keys ← rows.mapM (readForeignKey tables hasColumn)
  return keys.filterMap id

end TableAtlas.Catalog
