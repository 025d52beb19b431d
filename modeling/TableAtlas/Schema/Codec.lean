import TableAtlas.Codec.Record
import TableAtlas.Schema.Basic

/-!
# Schemas as JSON

The form in which a schema is published. Absent keys, labels and references and empty lists of
references are left out; unknown sizes and defaults are null.
-/

namespace TableAtlas

open Codec (Field)

def Flavor.text : Flavor → String
  | mysql => "mysql"
  | postgresql => "postgresql"

def Flavor.codec : Codec Flavor :=
  Codec.choice [("mysql", .mysql), ("postgresql", .postgresql)] Flavor.text

def Reference.codec : Codec Reference :=
  Codec.record "ForeignKeyRef"
    [String, String, String]
    (.required "srcColumnName" .string, .required "destTableName" .string,
      .required "destColumnName" .string, ())
    (fun r => (r.column, r.targetTable, r.targetColumn, ()))
    (fun (column, targetTable, targetColumn, ()) => { column, targetTable, targetColumn })

/-- A key of one column is its name, a key of several the list of their names. -/
def PrimaryKey.codec : Codec PrimaryKey where
  encode
    | .single column => .string column
    | .composite columns => (Codec.list .string).encode columns
  decode origin document :=
    match Codec.string.decode origin document, (Codec.list .string).decode origin document with
    | .ok column, _ => .ok (.single column)
    | _, .ok columns => .ok (.composite columns)
    | _, _ =>
      if (document.value? Document.deepest).isSome then .error (Codec.Reason.noShape "PrimaryKey").here
      else .error Codec.Reason.malformed.here

def Column.codec : Codec Column :=
  Codec.record "Column"
    [String, UInt32, String, String, Option String, Bool, String, String, Option Reference]
    (.required "columnName" .string, .required "ordinalPosition" .uint32,
      .required "columnType" .string, .required "columnKey" .string,
      .nullable "columnDefault" .string, .required "isNullable" .bool, .required "extra" .string,
      .required "tableName" .string, .sparse "refersTo" Reference.codec, ())
    (fun c => (c.name, c.ordinal, c.declaredType, c.keyKind, c.defaultValue, c.isNullable, c.extra,
      c.table, c.refersTo, ()))
    (fun (name, ordinal, declaredType, keyKind, defaultValue, isNullable, extra, table, refersTo, ()) =>
      { name, ordinal, declaredType, keyKind, defaultValue, isNullable, extra, table, refersTo })

def TableSize.codec : Codec TableSize :=
  Codec.record "TableMeta"
    [Option UInt64, Option UInt64, Option UInt64, Option UInt64]
    (.nullable "numRows" .uint64, .nullable "numDataBytes" .uint64,
      .nullable "numIndexBytes" .uint64, .nullable "numTotalBytes" .uint64, ())
    (fun s => (s.rows, s.dataBytes, s.indexBytes, s.totalBytes, ()))
    (fun (rows, dataBytes, indexBytes, totalBytes, ()) => { rows, dataBytes, indexBytes, totalBytes })

def Table.codec : Codec Table :=
  Codec.record "Table"
    [String, SortedMap Column, Option PrimaryKey, TableSize, Option String,
      List Reference]
    (.required "tableName" .string, .required "columns" (.sortedMap Column.codec),
      .sparse "primaryColumnName" PrimaryKey.codec, .required "meta" TableSize.codec,
      .sparse "nameColumnName" .string,
      { Field.defaulted "referencedBy" (.list Reference.codec) [] with omits := List.isEmpty }, ())
    (fun t => (t.name, t.columns, t.primaryKey, t.size, t.labelColumn, t.referencedBy, ()))
    (fun (name, columns, primaryKey, size, labelColumn, referencedBy, ()) =>
      { name, columns, primaryKey, size, labelColumn, referencedBy })

def Schema.codec : Codec Schema :=
  Codec.record "Schema"
    [String, Flavor, SortedMap Table]
    (.required "name" .string, .required "dbType" Flavor.codec,
      .required "tables" (.sortedMap Table.codec), ())
    (fun s => (s.name, s.flavor, s.tables, ()))
    (fun (name, flavor, tables, ()) => { name, flavor, tables })

end TableAtlas
