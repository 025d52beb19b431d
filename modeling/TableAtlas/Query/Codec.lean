import TableAtlas.Codec.Record
import TableAtlas.Query.Basic

/-!
# Queries as JSON

The form in which a query is sent.
-/

namespace TableAtlas

open Codec (Field)

def Sql.Direction.text : Sql.Direction → String
  | ascending => "asc"
  | descending => "desc"

def Sql.Direction.codec : Codec Sql.Direction :=
  Codec.choice [("asc", .ascending), ("desc", .descending)] Sql.Direction.text

def Sql.SortKey.codec : Codec Sql.SortKey :=
  Codec.record "OrderByField"
    [String, Sql.Direction]
    (.required "field" .string, .required "order" Sql.Direction.codec, ())
    (fun k => (k.field, k.direction, ()))
    (fun (field, direction, ()) => { field, direction })

def Filter.codec : Codec Filter :=
  Codec.record "WhereFilter"
    [String, String, Option String]
    (.required "field" .string, .required "op" .string, .optional "value" .string, ())
    (fun f => (f.field, f.operator, f.value, ()))
    (fun (field, operator, value, ()) => { field, operator, value })

def Aggregate.codec : Codec Aggregate :=
  Codec.record "Aggregate"
    [String, Option String, List String]
    (.required "math" .string, .optional "on" .string, .defaulted "groupBy" (.list .string) [], ())
    (fun a => (a.function, a.target, a.groupBy, ()))
    (fun (function, target, groupBy, ()) => { function, target, groupBy })

def Query.codec : Codec Query :=
  Codec.record "SelectQuery"
    [String, Option (List String), Option (List Filter), Option Aggregate,
      Option (List Sql.SortKey), Option UInt64, Option UInt64]
    (.required "from" .string, .optional "select" (.list .string),
      .optional "where" (.list Filter.codec), .optional "aggregate" Aggregate.codec,
      .optional "orderBy" (.list Sql.SortKey.codec), .optional "limit" .uint64,
      .optional "offset" .uint64, ())
    (fun q => (q.table, q.columns, q.filters, q.aggregate, q.orderBy, q.limit, q.offset, ()))
    (fun (table, columns, filters, aggregate, orderBy, limit, offset, ()) =>
      { table, columns, filters, aggregate, orderBy, limit, offset })

end TableAtlas
