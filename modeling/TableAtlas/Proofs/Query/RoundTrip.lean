import TableAtlas.Plan.Select
import TableAtlas.Proofs.Codec.Spelling
import TableAtlas.Query.Codec

/-!
# Queries read back

A query can be sent in many forms. Whatever form it had, what has been read of it is written in one form
of its own, and that form reads back as the same query: nothing that a plan depends on is lost, and
absent and empty lists stay apart (`Query.reread`).
-/

namespace TableAtlas

open Codec (Field)

/-! ## Lawful parts -/

theorem Sql.Direction.codec_lawful : Sql.Direction.codec.Lawful :=
  Codec.choice_lawful fun direction => by cases direction <;> rfl

theorem Sql.SortKey.codec_lawful : Sql.SortKey.codec.Lawful := by
  refine Codec.record_lawful "OrderByField" (by decide) ⟨?_, ?_, trivial⟩ fun _ => rfl
  · exact Field.required_lawful _ Codec.string_lawful
  · exact Field.required_lawful _ Sql.Direction.codec_lawful

theorem Filter.codec_lawful : Filter.codec.Lawful := by
  refine Codec.record_lawful "WhereFilter" (by decide) ⟨?_, ?_, ?_, trivial⟩ fun _ => rfl
  · exact Field.required_lawful _ Codec.string_lawful
  · exact Field.required_lawful _ Codec.string_lawful
  · exact Field.optional_lawful _ Codec.string_lawful Codec.string_neverNull

theorem Aggregate.codec_lawful : Aggregate.codec.Lawful := by
  refine Codec.record_lawful "Aggregate" (by decide) ⟨?_, ?_, ?_, trivial⟩ fun _ => rfl
  · exact Field.required_lawful _ Codec.string_lawful
  · exact Field.optional_lawful _ Codec.string_lawful Codec.string_neverNull
  · exact Field.defaulted_lawful _ (Codec.list_lawful Codec.string_lawful) []

theorem Aggregate.codec_neverNull : Aggregate.codec.NeverNull :=
  Codec.record_neverNull _ _ _ _

/-! ## Queries -/

namespace Query

/-- The fields of a query in the order of their positions. Of these only the table has to be there. -/
def fields : Codec.Fields [String, Option (List String), Option (List Filter), Option Aggregate,
    Option (List Sql.SortKey), Option UInt64, Option UInt64] :=
  (.required "from" .string, .optional "select" (.list .string),
    .optional "where" (.list Filter.codec), .optional "aggregate" Aggregate.codec,
    .optional "orderBy" (.list Sql.SortKey.codec), .optional "limit" .uint64,
    .optional "offset" .uint64, ())

/-- The values of the fields. -/
def parts (q : Query) : Codec.Values [String, Option (List String), Option (List Filter),
    Option Aggregate, Option (List Sql.SortKey), Option UInt64, Option UInt64] :=
  (q.table, q.columns, q.filters, q.aggregate, q.orderBy, q.limit, q.offset, ())

theorem nodup_fieldNames : (Codec.fieldNames fields).Nodup := by decide

theorem fields_lawful : Codec.FieldsLawful fields := by
  refine ⟨?_, ?_, ?_, ?_, ?_, ?_, ?_, trivial⟩
  · exact Field.required_lawful _ Codec.string_lawful
  · exact Field.optional_lawful _ (Codec.list_lawful Codec.string_lawful) (Codec.list_neverNull _)
  · exact Field.optional_lawful _ (Codec.list_lawful Filter.codec_lawful) (Codec.list_neverNull _)
  · exact Field.optional_lawful _ Aggregate.codec_lawful Aggregate.codec_neverNull
  · exact Field.optional_lawful _ (Codec.list_lawful Sql.SortKey.codec_lawful)
      (Codec.list_neverNull _)
  · exact Field.optional_lawful _ Codec.uint64_lawful Codec.uint64_neverNull
  · exact Field.optional_lawful _ Codec.uint64_lawful Codec.uint64_neverNull

theorem codec_lawful : Query.codec.Lawful :=
  Codec.record_lawful "SelectQuery" nodup_fieldNames fields_lawful fun _ => rfl

theorem decodeValue_iff (j : Json) (q : Query) :
    Query.codec.decodeValue j = .ok q ↔ Codec.Spells fields q.parts j := by
  refine (Codec.record_decodeValue_iff nodup_fieldNames j).trans ⟨?_, fun h => ⟨q.parts, h, rfl⟩⟩
  rintro ⟨values, hspells, rfl⟩
  exact hspells

/-- Every query reads back as it is from what is written of it. A value is read as a query just if it
spells its parts: an object that has a member for each part, or none or null for an absent one, and any
other members besides, or a list of the parts that may end early. Whichever it is, what has been read is
written in a form that reads as the same query, so that every schema plans the two alike. -/
theorem reread :
    (∀ q, Query.codec.decodeValue (Query.codec.encode q) = .ok q) ∧
      ∀ j q, (Query.codec.decodeValue j = .ok q ↔ Codec.Spells fields q.parts j) ∧
        (Query.codec.decodeValue j = .ok q →
          Query.codec.decodeValue (Query.codec.encode q) = .ok q ∧
            ∀ s, (Query.codec.decodeValue (Query.codec.encode q)).map (Plan.select s) =
              (Query.codec.decodeValue j).map (Plan.select s)) := by
  have hread : ∀ q, Query.codec.decodeValue (Query.codec.encode q) = .ok q := codec_lawful
  refine ⟨hread, fun j q => ⟨decodeValue_iff j q, fun h => ⟨hread q, fun s => ?_⟩⟩⟩
  rw [hread q, h]

end Query

/-! ### A query in an odd form -/

/-- Nulls, an unknown member, lists in place of objects and an object in place of a name. -/
def oddQueryJson : Json :=
  .object [("select", .null), ("note", .array [.null]),
    ("where", .array [.array [.string "total", .string ">", .string "10"],
      .array [.string "status", .string "is null"],
      .object [("op", .string "="), ("note", .bool true), ("field", .string "id"),
        ("value", .string "7")]]),
    ("aggregate", .array [.string "sum", .string "total"]),
    ("orderBy", .array [.array [.string "id", .object [("desc", .null)]]]),
    ("limit", .ofNat 0), ("from", .string "orders")]

def oddQuery : Query where
  table := "orders"
  filters := some [⟨"total", ">", some "10"⟩, ⟨"status", "is null", none⟩, ⟨"id", "=", some "7"⟩]
  aggregate := some ⟨"sum", some "total", []⟩
  orderBy := some [⟨"id", .descending⟩]
  limit := some 0

theorem Query.reread_odd :
    Query.codec.decodeValue oddQueryJson = .ok oddQuery ∧
      Query.codec.decodeValue (Query.codec.encode oddQuery) = .ok oddQuery ∧
      ∀ s, (Query.codec.decodeValue (Query.codec.encode oddQuery)).map (Plan.select s) =
        (Query.codec.decodeValue oddQueryJson).map (Plan.select s) := by
  have hread : Query.codec.decodeValue oddQueryJson = .ok oddQuery :=
    eq_ok_of_toOption (by decide +kernel)
  exact ⟨hread, (Query.reread.2 oddQueryJson oddQuery).2 hread⟩

end TableAtlas
