import TableAtlas.Catalog.Listing

/-!
# Assembling a schema

Puts listed tables, columns and foreign keys together. Each table gets its columns, its primary key in
the order of the columns' positions, a label column, and the foreign keys that point at it; each
column gets the last foreign key listed for it.
-/

namespace TableAtlas.Catalog

/-! ## Primary keys -/

/-- The order of key columns: by position, then by name. -/
def keyOrder (a b : UInt32 × String) : Bool :=
  a.1 < b.1 || (a.1 = b.1 && a.2 ≤ b.2)

/-- The primary key made of the listed key columns of a table. -/
def primaryKeyOf (columns : List Column) : Option PrimaryKey :=
  let keys := (columns.filter Column.isPrimary).map fun c => (c.ordinal, c.name)
  match (keys.mergeSort keyOrder).map Prod.snd with
  | [] => none
  | [column] => some (.single column)
  | columns => some (.composite columns)

/-! ## Labels -/

/-- How the names of columns end that label a row. -/
def labelEndings : List String := ["name", "title", "label"]

/-- A name that ends like that of a label, in upper or lower case. -/
def isLabelName (name : String) : Bool :=
  labelEndings.any fun ending => ending.toList.isSuffixOf (Text.lowerCase name).toList

/-- The first column with the name of a label. -/
def findLabel (t : Table) : Option String :=
  (t.columnsByOrdinal.find? fun c => isLabelName c.name).map Column.name

/-! ## Foreign keys -/

/-- The order in which a table lists the foreign keys that point at it. -/
def referenceOrder (a b : Reference) : Bool :=
  a.targetTable < b.targetTable || (a.targetTable = b.targetTable && a.targetColumn ≤ b.targetColumn)

/-- The last foreign key listed for a column. -/
def lastReference (keys : List ForeignKey) (table column : String) : Option Reference :=
  (keys.reverse.find? fun k => k.table = table && k.reference.column = column).map
    ForeignKey.reference

/-- The foreign keys that point at a table, seen from it. -/
def reverseReferences (keys : List ForeignKey) (table : String) : List Reference :=
  ((keys.filter fun k => k.reference.targetTable = table).map fun k =>
    k.reference.inverse k.table).mergeSort referenceOrder

/-! ## Tables -/

/-- A listed table with its columns, its key and its label. -/
def withColumns (columns : List Column) (t : Table) : Table :=
  let own := columns.filter fun c => c.table = t.name
  let t := { t with
    columns := .ofList (own.map fun (c : Column) => (c.name, c))
    primaryKey := primaryKeyOf own }
  { t with labelColumn := t.labelColumn <|> findLabel t }

/-- A table with its foreign keys at both ends. -/
def withReferences (keys : List ForeignKey) (t : Table) : Table :=
  { t with
    columns := t.columns.map fun _ c =>
      { c with refersTo := lastReference keys t.name c.name }
    referencedBy := reverseReferences keys t.name }

/-- The schema that the three listings of a catalog describe. -/
def buildSchema (c : Configuration) (tableRows columnRows referenceRows : List Row) :
    Except Error Schema := do
  let tables ← readTables c tableRows
  let columns ← readColumns tables columnRows
  let keys ← readForeignKeys tables columns referenceRows
  return {
    name := c.database
    flavor := c.flavor
    tables := tables.map fun _ t => withReferences keys (withColumns columns t) }

end TableAtlas.Catalog
