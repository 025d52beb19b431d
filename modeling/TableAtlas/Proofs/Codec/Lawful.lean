import TableAtlas.Codec.Record
import TableAtlas.Proofs.SortedMap

/-!
# Lawful codecs

The law of codecs, that what was written reads back, is handed on from the parts of a value to the
whole: to options, lists, maps and records. A value that is left out when it is written has to be the
one that is taken for a missing field, and nothing else may be written as null where null stands for an
absent value.
-/

namespace TableAtlas

namespace Json

theorem toDocuments_eq (items : List Json) : toDocuments items = items.map toDocument := by
  induction items with
  | nil => rfl
  | cons item rest ih => rw [toDocuments, ih, List.map_cons]

theorem toMembers_eq (members : List (String × Json)) :
    toMembers members = members.map fun member => (some member.1, member.2.toDocument) := by
  induction members with
  | nil => rfl
  | cons member rest ih => rw [toMembers, ih, List.map_cons]

theorem toDocument_eq_null_iff {j : Json} : j.toDocument = .null ↔ j = .null := by
  cases j <;> simp [toDocument]

end Json

namespace Codec

variable {α : Type} {c : Codec α}

theorem decodeValue_of_lawful (h : c.Lawful) (a : α) :
    c.decode .value (c.encode a).toDocument = .ok a :=
  h a

/-! ## Scalars -/

theorem string_lawful : string.Lawful := fun _ => rfl

theorem bool_lawful : bool.Lawful := fun _ => rfl

theorem decodeNatural_ofNat (wanted : String) {limit n : Nat} (h : n < limit)
    (hword : n < UInt64.size) : decodeNatural wanted limit (Json.ofNat n).toDocument = .ok n := by
  have hn : n.toUInt64.toNat = n := UInt64.toNat_ofNat_of_lt' hword
  simp only [decodeNatural, Json.ofNat, Json.toDocument, hn, if_pos h]

theorem uint32_lawful : uint32.Lawful := by
  intro n
  have hword : n.toNat < UInt64.size := Nat.lt_trans n.toNat_lt_size (by decide)
  have hread := decodeNatural_ofNat "u32" n.toNat_lt_size hword
  simp only [decodeValue, uint32, hread]
  exact congrArg Except.ok UInt32.ofNat_toNat

theorem uint64_lawful : uint64.Lawful := by
  intro n
  have hread := decodeNatural_ofNat "u64" n.toNat_lt_size n.toNat_lt_size
  simp only [decodeValue, uint64, hread]
  exact congrArg Except.ok UInt64.ofNat_toNat

/-! ## Options -/

/-- No value is written as null. -/
def NeverNull (c : Codec α) : Prop :=
  ∀ a, c.encode a ≠ .null

theorem string_neverNull : string.NeverNull := nofun

theorem uint64_neverNull : uint64.NeverNull := nofun

theorem option_lawful (h : c.Lawful) (hnull : c.NeverNull) : c.option.Lawful := by
  intro value
  cases value with
  | none => rfl
  | some a =>
    have hdocument : (c.encode a).toDocument ≠ .null := fun heq =>
      hnull a (Json.toDocument_eq_null_iff.1 heq)
    -- The document is not null, so that the value inside is read.
    simp only [decodeValue, option, Json.ofOption, decodeValue_of_lawful h]
    rfl

/-! ## Lists -/

theorem decodeItems_encode (h : c.Lawful) (index : Nat) (items : List α) :
    decodeItems (c.decode .value) index (items.map fun a => (c.encode a).toDocument) = .ok items := by
  induction items generalizing index with
  | nil => rfl
  | cons a rest ih =>
    rw [List.map_cons, decodeItems, decodeValue_of_lawful h, ih]
    rfl

theorem list_neverNull (c : Codec α) : c.list.NeverNull := nofun

theorem list_lawful (h : c.Lawful) : c.list.Lawful := by
  intro items
  have hdocument : (c.list.encode items).toDocument =
      .array (items.map fun a => (c.encode a).toDocument) true := by
    simp only [list, Json.toDocument, Json.toDocuments_eq, List.map_map, Function.comp_def]
  rw [decodeValue, hdocument]
  simp only [list, decodeItems_encode h]
  rfl

/-! ## Maps -/

theorem decodeEntries_encode (h : c.Lawful) (m : SortedMap α) (entries : List (String × α)) :
    decodeEntries (c.decode .value) m
        (entries.map fun entry => (some entry.1, (c.encode entry.2).toDocument)) =
      .ok (entries.foldl (fun m entry => m.insert entry.1 entry.2) m) := by
  induction entries generalizing m with
  | nil => rfl
  | cons entry rest ih =>
    rw [List.map_cons, decodeEntries, decodeValue_of_lawful h, List.foldl_cons, ← ih]
    rfl

theorem sortedMap_lawful (h : c.Lawful) : c.sortedMap.Lawful := by
  intro m
  have hdocument : (c.sortedMap.encode m).toDocument =
      .object (m.entries.map fun entry => (some entry.1, (c.encode entry.2).toDocument)) true := by
    simp only [sortedMap, Json.toDocument, Json.toMembers_eq, List.map_map, Function.comp_def]
  have hread : decodeEntries (c.decode .value) ∅
      (m.entries.map fun entry => (some entry.1, (c.encode entry.2).toDocument)) = .ok m := by
    rw [decodeEntries_encode h]
    exact congrArg Except.ok (SortedMap.ofList_entries m)
  rw [decodeValue, hdocument]
  simp only [sortedMap, hread]
  rfl

/-! ## Choices among names -/

/-- Each value has to be the first one that goes by its name. -/
theorem choice_lawful {choices : List (String × α)} {nameOf : α → String}
    (h : ∀ a, choices.find? (·.1 = nameOf a) = some (nameOf a, a)) :
    (choice choices nameOf).Lawful := by
  intro a
  simp only [decodeValue, choice, Json.toDocument, choose, h]

/-! ## Records -/

/-- A field reads what it writes, and falls back on the values that it does not write. -/
structure Field.Lawful (f : Field α) : Prop where
  codec : f.codec.Lawful
  omitted : ∀ a, f.omits a → f.whenMissing = some a

namespace Field

theorem required_lawful (name : String) (h : c.Lawful) : (required name c).Lawful where
  codec := h
  omitted := nofun

theorem defaulted_lawful (name : String) (h : c.Lawful) (fallback : α) :
    (defaulted name c fallback).Lawful where
  codec := h
  omitted := nofun

theorem optional_lawful (name : String) (h : c.Lawful) (hnull : c.NeverNull) :
    (optional name c).Lawful where
  codec := option_lawful h hnull
  omitted value homits := by
    obtain rfl := Option.isNone_iff_eq_none.1 homits
    rfl

theorem nullable_lawful (name : String) (h : c.Lawful) (hnull : c.NeverNull) :
    (nullable name c).Lawful where
  codec := option_lawful h hnull
  omitted := nofun

theorem sparse_lawful (name : String) (h : c.Lawful) (hnull : c.NeverNull) :
    (sparse name c).Lawful where
  codec := option_lawful h hnull
  omitted value homits := by
    obtain rfl := Option.isNone_iff_eq_none.1 homits
    rfl

end Field

def fieldNames : {types : List Type} → Fields types → List String
  | [], _ => []
  | _ :: _, (field, fields) => field.name :: fieldNames fields

def FieldsLawful : {types : List Type} → Fields types → Prop
  | [], _ => True
  | _ :: _, (field, fields) => field.Lawful ∧ FieldsLawful fields

/-- The places of the fields that are written. -/
def writtenSlots : {types : List Type} → Fields types → Values types → Slots types
  | [], _, _ => ()
  | _ :: _, (field, fields), (a, values) =>
    (if field.omits a then none else some a, writtenSlots fields values)

/-- Members of an object that are documents of what is written. -/
def writtenMembers {types : List Type} (fields : Fields types) (values : Values types) :
    List (Option String × Document) :=
  (encodeFields fields values).map fun member => (some member.1, member.2.toDocument)

section Records

variable {types : List Type}

theorem mem_names_of_mem_written {fields : Fields types} {values : Values types}
    {member : Option String × Document} (h : member ∈ writtenMembers fields values) :
    ∃ name ∈ fieldNames fields, member.1 = some name := by
  induction types with
  | nil => exact absurd h List.not_mem_nil
  | cons β types ih =>
    obtain ⟨field, fields⟩ := fields
    obtain ⟨a, values⟩ := values
    have hrest (h : member ∈ writtenMembers fields values) :
        ∃ name ∈ field.name :: fieldNames fields, member.1 = some name := by
      obtain ⟨name, hname, heq⟩ := ih h
      exact ⟨name, List.mem_cons_of_mem _ hname, heq⟩
    simp only [writtenMembers, encodeFields] at h
    split at h
    · exact hrest h
    · rw [List.map_cons, List.mem_cons] at h
      rcases h with rfl | h
      · exact ⟨field.name, List.mem_cons_self, rfl⟩
      · exact hrest h

theorem readAllMembers_past {origin : Origin} {field : Field α} {fields : Fields types}
    {slot : Option α} {slots : Slots types} {members : List (Option String × Document)}
    (h : ∀ member ∈ members, member.1 ≠ some field.name) :
    @readAllMembers origin (α :: types) (field, fields) (slot, slots) members =
      (readAllMembers origin fields slots members).map fun slots => (slot, slots) := by
  induction members generalizing slots with
  | nil => rfl
  | cons member rest ih =>
    obtain ⟨name, value⟩ := member
    obtain ⟨hname, hrest⟩ := List.forall_mem_cons.1 h
    cases name with
    | none => rfl
    | some name =>
      have hne : field.name ≠ name := fun heq => hname (congrArg some heq.symm)
      simp only [readAllMembers, readMember, if_neg hne]
      cases hread : readMember origin name value fields slots with
      | none =>
        simp only [Option.map_none]
        split
        · exact ih hrest
        · rfl
      | some result =>
        cases result with
        | ok slots => exact ih hrest
        | error p => rfl

theorem readAllMembers_written {fields : Fields types} (hnames : (fieldNames fields).Nodup)
    (hfields : FieldsLawful fields) (values : Values types) :
    readAllMembers .value fields (Slots.free types) (writtenMembers fields values) =
      .ok (writtenSlots fields values) := by
  induction types with
  | nil => rfl
  | cons β types ih =>
    obtain ⟨field, fields⟩ := fields
    obtain ⟨a, values⟩ := values
    obtain ⟨hfield, hfields⟩ := hfields
    obtain ⟨hname, hnames⟩ := List.nodup_cons.1 hnames
    have hpast (slot : Option β) :
        @readAllMembers .value (β :: types) (field, fields) (slot, Slots.free types)
            (writtenMembers fields values) = .ok (slot, writtenSlots fields values) := by
      rw [readAllMembers_past, ih hnames hfields]
      · rfl
      · intro member hmember heq
        obtain ⟨name, hmem, hmember⟩ := mem_names_of_mem_written hmember
        obtain rfl : field.name = name := Option.some.inj (heq.symm.trans hmember)
        exact hname hmem
    simp only [writtenMembers, encodeFields, writtenSlots, Slots.free]
    split
    · exact hpast none
    · simp only [List.map_cons, readAllMembers, readMember, if_true,
        decodeValue_of_lawful hfield.codec]
      exact hpast (some a)

theorem fillMissing_written {fields : Fields types} (hfields : FieldsLawful fields)
    (values : Values types) : fillMissing fields (writtenSlots fields values) = .ok values := by
  induction types with
  | nil => rfl
  | cons β types ih =>
    obtain ⟨field, fields⟩ := fields
    obtain ⟨a, values⟩ := values
    obtain ⟨hfield, hfields⟩ := hfields
    simp only [writtenSlots, fillMissing, ih hfields]
    by_cases homits : field.omits a
    · simp only [homits, if_true, hfield.omitted a homits]
      rfl
    · simp only [homits]
      rfl

/-- A record reads back if its fields do and go by different names. -/
theorem record_lawful (name : String) {fields : Fields types} {toValues : α → Values types}
    {ofValues : Values types → α} (hnames : (fieldNames fields).Nodup)
    (hfields : FieldsLawful fields) (hvalues : ∀ a, ofValues (toValues a) = a) :
    (record name types fields toValues ofValues).Lawful := by
  intro a
  have hdocument : ((record name types fields toValues ofValues).encode a).toDocument =
      .object (writtenMembers fields (toValues a)) true := by
    simp only [record, Json.toDocument, Json.toMembers_eq, writtenMembers]
  rw [decodeValue, hdocument]
  simp only [record, readAllMembers_written hnames hfields, bind, Except.bind,
    fillMissing_written hfields]
  exact congrArg Except.ok (hvalues a)

theorem record_neverNull (name : String) (fields : Fields types) (toValues : α → Values types)
    (ofValues : Values types → α) : (record name types fields toValues ofValues).NeverNull := nofun

end Records

end Codec

end TableAtlas
