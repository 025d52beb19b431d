import TableAtlas.SortedMap

/-!
# Schemas

What is known of a database: its tables with their columns, keys, sizes and labels. A foreign key is
recorded at both of its ends, at the column that refers and at the table that is referred to.
-/

namespace TableAtlas

/-- The kind of database server. -/
inductive Flavor
  | mysql
  | postgresql
  deriving DecidableEq, Repr, Inhabited

/--
One end of a foreign key. At a column, `column` is the column itself and the target is what it refers
to; at a table that is referred to, `column` is the column referred to and the target is the column
that refers.
-/
structure Reference where
  column : String
  targetTable : String
  targetColumn : String
  deriving DecidableEq, Repr, Inhabited

namespace Reference

/-- The same foreign key seen from its other end, for a reference held by `table`. -/
def inverse (r : Reference) (table : String) : Reference :=
  ⟨r.targetColumn, table, r.column⟩

end Reference

inductive PrimaryKey
  | single (column : String)
  | composite (columns : List String)
  deriving DecidableEq, Repr

/-- The columns of a key in their order. -/
def PrimaryKey.columns : PrimaryKey → List String
  | single column => [column]
  | composite columns => columns

structure Column where
  name : String
  /-- The position in the table. -/
  ordinal : UInt32
  /-- The type as it was declared, such as `varchar(255)`. -/
  declaredType : String
  /-- The part in keys: `PRI`, `UNI`, `MUL` or nothing. -/
  keyKind : String
  defaultValue : Option String
  isNullable : Bool
  extra : String
  /-- The table that has the column. -/
  table : String
  refersTo : Option Reference
  deriving DecidableEq, Repr, Inhabited

/-- The column is part of the primary key. -/
def Column.isPrimary (c : Column) : Bool :=
  c.keyKind = "PRI"

/-- Row count and sizes of a table as far as they are known. -/
structure TableSize where
  rows : Option UInt64 := none
  dataBytes : Option UInt64 := none
  indexBytes : Option UInt64 := none
  totalBytes : Option UInt64 := none
  deriving DecidableEq, Repr, Inhabited

structure Table where
  name : String
  columns : SortedMap Column
  primaryKey : Option PrimaryKey
  size : TableSize
  /-- The column that names a row for a reader. -/
  labelColumn : Option String
  /-- The foreign keys that point at this table, each seen from here. -/
  referencedBy : List Reference
  deriving DecidableEq, Inhabited

namespace Table

/-- The columns by position; columns of one position stand in the order of their names. -/
def columnsByOrdinal (t : Table) : List Column :=
  t.columns.values.mergeSort fun a b => a.ordinal ≤ b.ordinal

/-- The columns of the primary key, none if the table lacks one. -/
def keyColumns (t : Table) : List String :=
  (t.primaryKey.map PrimaryKey.columns).getD []

end Table

structure Schema where
  name : String
  flavor : Flavor
  tables : SortedMap Table
  deriving DecidableEq, Inhabited

namespace Schema

def table? (s : Schema) (name : String) : Option Table :=
  s.tables.get? name

end Schema

/-- How the names of label columns begin that a query adds; no column of a table may begin so. -/
def labelMarker : String := "$label$"

/-- A name that is kept for added label columns. -/
def isReservedName (name : String) : Bool :=
  labelMarker.toList.isPrefixOf name.toList

end TableAtlas
