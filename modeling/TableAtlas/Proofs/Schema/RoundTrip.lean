import TableAtlas.Proofs.Codec.Lawful
import TableAtlas.Schema.Codec

/-!
# Published schemas are lossless

Nothing of a schema is lost when it is published: what is written of it reads back as the same schema,
whatever it holds. Absent keys, labels and references and empty lists of references are left out and
come back as what they were; a key of one column and a list of key columns are told apart by their kind.
-/

namespace TableAtlas

open Codec (Field)

theorem Flavor.codec_lawful : Flavor.codec.Lawful :=
  Codec.choice_lawful fun flavor => by cases flavor <;> rfl

theorem Reference.codec_lawful : Reference.codec.Lawful := by
  refine Codec.record_lawful "ForeignKeyRef" (by decide) ⟨?_, ?_, ?_, trivial⟩ fun _ => rfl
  · exact Field.required_lawful _ Codec.string_lawful
  · exact Field.required_lawful _ Codec.string_lawful
  · exact Field.required_lawful _ Codec.string_lawful

theorem Reference.codec_neverNull : Reference.codec.NeverNull :=
  Codec.record_neverNull _ _ _ _

theorem PrimaryKey.codec_lawful : PrimaryKey.codec.Lawful := by
  intro key
  cases key with
  | single column => rfl
  | composite columns =>
    have hlist := Codec.decodeValue_of_lawful (Codec.list_lawful Codec.string_lawful) columns
    -- A list is no string, so only the second shape fits.
    have hstring : Codec.string.decode .value ((Codec.list .string).encode columns).toDocument =
        .error (Codec.wrongType "a string" ((Codec.list .string).encode columns).toDocument) := by
      simp only [Codec.string, Codec.list, Json.toDocument]
    simp only [Codec.decodeValue, PrimaryKey.codec, hstring, hlist]

theorem PrimaryKey.codec_neverNull : PrimaryKey.codec.NeverNull := by
  intro key
  cases key <;> nofun

theorem Column.codec_lawful : Column.codec.Lawful := by
  refine Codec.record_lawful "Column" (by decide) ⟨?_, ?_, ?_, ?_, ?_, ?_, ?_, ?_, ?_, trivial⟩
    fun _ => rfl
  · exact Field.required_lawful _ Codec.string_lawful
  · exact Field.required_lawful _ Codec.uint32_lawful
  · exact Field.required_lawful _ Codec.string_lawful
  · exact Field.required_lawful _ Codec.string_lawful
  · exact Field.nullable_lawful _ Codec.string_lawful Codec.string_neverNull
  · exact Field.required_lawful _ Codec.bool_lawful
  · exact Field.required_lawful _ Codec.string_lawful
  · exact Field.required_lawful _ Codec.string_lawful
  · exact Field.sparse_lawful _ Reference.codec_lawful Reference.codec_neverNull

theorem TableSize.codec_lawful : TableSize.codec.Lawful := by
  have hsize (name : String) : (Field.nullable name Codec.uint64).Lawful :=
    Field.nullable_lawful name Codec.uint64_lawful Codec.uint64_neverNull
  exact Codec.record_lawful "TableMeta" (by decide) ⟨hsize _, hsize _, hsize _, hsize _, trivial⟩
    fun _ => rfl

theorem Table.codec_lawful : Table.codec.Lawful := by
  refine Codec.record_lawful "Table" (by decide) ⟨?_, ?_, ?_, ?_, ?_, ?_, trivial⟩ fun _ => rfl
  · exact Field.required_lawful _ Codec.string_lawful
  · exact Field.required_lawful _ (Codec.sortedMap_lawful Column.codec_lawful)
  · exact Field.sparse_lawful _ PrimaryKey.codec_lawful PrimaryKey.codec_neverNull
  · exact Field.required_lawful _ TableSize.codec_lawful
  · exact Field.sparse_lawful _ Codec.string_lawful Codec.string_neverNull
  · -- A list of references is left out if it is empty, and that is what a missing one is taken for.
    exact {
      codec := Codec.list_lawful Reference.codec_lawful
      omitted := fun references homits => by
        obtain rfl := List.isEmpty_iff.1 homits
        rfl }

theorem Schema.codec_lawful : Schema.codec.Lawful := by
  refine Codec.record_lawful "Schema" (by decide) ⟨?_, ?_, ?_, trivial⟩ fun _ => rfl
  · exact Field.required_lawful _ Codec.string_lawful
  · exact Field.required_lawful _ Flavor.codec_lawful
  · exact Field.required_lawful _ (Codec.sortedMap_lawful Table.codec_lawful)

/-- Every schema reads back as it is from what is written of it. So a value that reads as a schema, or
as none, does so again when what has been read of it is written and read once more. -/
theorem Schema.read_written :
    (∀ s, Schema.codec.decodeValue (Schema.codec.encode s) = .ok s) ∧
      ∀ j, (do
        let s ← Schema.codec.decodeValue j
        Schema.codec.decodeValue (Schema.codec.encode s)) = Schema.codec.decodeValue j := by
  have hread : ∀ s, Schema.codec.decodeValue (Schema.codec.encode s) = .ok s := Schema.codec_lawful
  refine ⟨hread, fun j => ?_⟩
  cases Schema.codec.decodeValue j with
  | error p => rfl
  | ok s => exact hread s

end TableAtlas
