import TableAtlas.Proofs.Codec.Lawful
import TableAtlas.Proofs.Result

/-!
# What spells a record

A record can be spelled in many ways: as an object whose members come in any order, lack what has a
fallback and hold more than is asked for, or as the list of its fields, cut short where the rest has a
fallback. Here the spellings of a record are told without the reader, field by field, and the reader is
shown to accept them and nothing else (`record_decodeValue_iff`).
-/

namespace TableAtlas

namespace Document

mutual

theorem isWhole_toDocument (j : Json) : j.toDocument.isWhole := by
  match j with
  | .null | .bool _ | .number _ | .string _ => rfl
  | .array items => exact areWhole_toDocuments items
  | .object members => exact membersAreWhole_toMembers members

theorem areWhole_toDocuments (items : List Json) : areWhole (Json.toDocuments items) := by
  match items with
  | [] => rfl
  | item :: rest =>
    simp only [Json.toDocuments, areWhole, isWhole_toDocument item, areWhole_toDocuments rest,
      Bool.and_self]

theorem membersAreWhole_toMembers (members : List (String × Json)) :
    membersAreWhole (Json.toMembers members) := by
  match members with
  | [] => rfl
  | (name, value) :: rest =>
    simp only [Json.toMembers, membersAreWhole, isWhole_toDocument value,
      membersAreWhole_toMembers rest, Bool.and_self]

end

end Document

namespace Codec

/-! ## Spellings -/

/-- The values of the members of a name. -/
def valuesNamed (name : String) (members : List (String × Json)) : List Json :=
  (members.filter fun member => member.1 = name).map Prod.snd

/-- An object gives a value to a field by its only member of that name, or by having none. -/
def Field.GivenBy {α : Type} (field : Field α) (a : α) : List Json → Prop
  | [] => field.whenMissing = some a
  | [value] => field.codec.decodeValue value = .ok a
  | _ => False

/-- An object spells the values of fields; it may have members of other names. -/
def MembersSpell : {types : List Type} → Fields types → Values types → List (String × Json) → Prop
  | [], _, _, _ => True
  | _ :: _, (field, fields), (a, values), members =>
    field.GivenBy a (valuesNamed field.name members) ∧ MembersSpell fields values members

/-- A list spells the values of fields by their positions. -/
def ItemsSpell : {types : List Type} → Fields types → Values types → List Json → Prop
  | [], _, _, items => items = []
  | _ :: _, (field, fields), (a, values), [] => field.whenCut = some a ∧ ItemsSpell fields values []
  | _ :: _, (field, fields), (a, values), item :: items =>
    field.codec.decodeValue item = .ok a ∧ ItemsSpell fields values items

/-- What spells the values of fields. -/
def Spells {types : List Type} (fields : Fields types) (values : Values types) : Json → Prop
  | .object members => MembersSpell fields values members
  | .array items => ItemsSpell fields values items
  | _ => False

/-! ## Reading objects -/

section Objects

variable {α : Type} {types : List Type}

/-- Other members than those of one name. -/
def othersThan (name : String) (members : List (String × Json)) : List (String × Json) :=
  members.filter fun member => member.1 ≠ name

theorem valuesNamed_othersThan {name other : String} (h : name ≠ other)
    (members : List (String × Json)) :
    valuesNamed name (othersThan other members) = valuesNamed name members := by
  unfold valuesNamed othersThan
  rw [List.filter_filter]
  congr 2
  funext member
  by_cases hname : member.1 = name
  · simp [hname, h]
  · simp [hname]

theorem membersSpell_othersThan {name : String} {fields : Fields types} {values : Values types}
    (h : name ∉ fieldNames fields) (members : List (String × Json)) :
    MembersSpell fields values (othersThan name members) ↔ MembersSpell fields values members := by
  induction types with
  | nil => exact Iff.rfl
  | cons β types ih =>
    obtain ⟨field, fields⟩ := fields
    obtain ⟨a, values⟩ := values
    rw [fieldNames, List.mem_cons, not_or] at h
    obtain ⟨hname, hrest⟩ := h
    show _ ∧ _ ↔ _ ∧ _
    rw [valuesNamed_othersThan (Ne.symm hname), ih hrest]

/-- The place of a field after the values of its name have been read in turn. -/
def Field.Fills (field : Field α) (slot slot' : Option α) : List Json → Prop
  | [] => slot' = slot
  | [value] => slot = none ∧ ∃ a, field.codec.decodeValue value = .ok a ∧ slot' = some a
  | _ => False

/-- A place that is taken stays as it is, and no further value may come. -/
theorem Field.fills_some_iff {field : Field α} {a : α} {slot : Option α} {values : List Json} :
    field.Fills (some a) slot values ↔ values = [] ∧ slot = some a := by
  match values with
  | [] => simp [Fills]
  | [_] => simp [Fills]
  | _ :: _ :: _ => simp [Fills]

theorem Field.fills_none_cons_iff {field : Field α} {slot : Option α} {value : Json}
    {rest : List Json} :
    field.Fills none slot (value :: rest) ↔
      ∃ a, field.codec.decodeValue value = .ok a ∧ field.Fills (some a) slot rest := by
  simp only [fills_some_iff]
  cases rest with
  | nil => simp [Fills]
  | cons next rest => simp [Fills]

theorem readAllMembers_cons_iff {field : Field α} {fields : Fields types} {slot slot' : Option α}
    {slots slots' : Slots types} (members : List (String × Json)) :
    @readAllMembers .value (α :: types) (field, fields) (slot, slots) (Json.toMembers members) =
        .ok (slot', slots') ↔
      field.Fills slot slot' (valuesNamed field.name members) ∧
        readAllMembers .value fields slots (Json.toMembers (othersThan field.name members)) =
          .ok slots' := by
  induction members generalizing slot slots with
  | nil =>
    show (Except.ok (slot, slots) : Except Problem (Option α × Slots types)) =
      .ok (slot', slots') ↔ slot' = slot ∧ (Except.ok slots : Except Problem _) = .ok slots'
    rw [Except.ok.injEq, Except.ok.injEq, Prod.mk.injEq, eq_comm (a := slot)]
  | cons member rest ih =>
    obtain ⟨name, value⟩ := member
    by_cases hname : name = field.name
    · subst hname
      have hvalues : valuesNamed field.name ((field.name, value) :: rest) =
          value :: valuesNamed field.name rest := by simp [valuesNamed]
      have hothers : othersThan field.name ((field.name, value) :: rest) =
          othersThan field.name rest := by simp [othersThan]
      rw [hvalues, hothers]
      simp only [Json.toMembers, readAllMembers, readMember, if_true]
      cases slot with
      | some a => simp [Field.fills_some_iff]
      | none =>
        rw [Field.fills_none_cons_iff, decodeValue]
        cases field.codec.decode .value value.toDocument with
        | error p => simp [within, Except.mapError, Except.map]
        | ok a => simpa [within, Except.mapError, Except.map] using ih
    · have hvalues : valuesNamed field.name ((name, value) :: rest) = valuesNamed field.name rest := by
        simp [valuesNamed, hname]
      have hothers : othersThan field.name ((name, value) :: rest) =
          (name, value) :: othersThan field.name rest := by simp [othersThan, hname]
      have hwhole := Document.isWhole_toDocument value
      rw [hvalues, hothers]
      simp only [Json.toMembers, readAllMembers, readMember, if_neg (Ne.symm hname)]
      cases readMember .value name value.toDocument fields slots with
      | none => simpa [hwhole] using ih
      | some result =>
        cases result with
        | error p => simp [Except.map]
        | ok slots => exact ih

theorem fillMissing_cons_iff {field : Field α} {fields : Fields types} {slot : Option α}
    {slots : Slots types} {a : α} {values : Values types} :
    @fillMissing (α :: types) (field, fields) (slot, slots) = .ok (a, values) ↔
      (slot <|> field.whenMissing) = some a ∧ fillMissing fields slots = .ok values := by
  rw [fillMissing]
  cases slot <|> field.whenMissing with
  | none =>
    refine iff_of_false (fun h => ?_) fun h => ?_
    · cases h
    · cases h.1
  | some b =>
    cases fillMissing fields slots with
    | error p =>
      refine iff_of_false (fun h => ?_) fun h => ?_
      · cases h
      · cases h.2
    | ok values' =>
      show (Except.ok (b, values') : Except Problem (α × Values types)) = .ok (a, values) ↔ _
      rw [Except.ok.injEq, Except.ok.injEq, Option.some.injEq, Prod.mk.injEq]

theorem Field.givenBy_iff {field : Field α} {a : α} {values : List Json} :
    field.GivenBy a values ↔
      ∃ slot, field.Fills none slot values ∧ (slot <|> field.whenMissing) = some a := by
  match values with
  | [] => simp [GivenBy, Fills]
  | [value] => simp [GivenBy, Fills]
  | _ :: _ :: _ => simp [GivenBy, Fills]

theorem readAllMembers_nil (fields : Fields []) (slots : Slots [])
    (members : List (String × Json)) :
    readAllMembers .value fields slots (Json.toMembers members) = .ok slots := by
  induction members with
  | nil => rfl
  | cons member rest ih =>
    obtain ⟨name, value⟩ := member
    simp only [Json.toMembers, readAllMembers, readMember, Document.isWhole_toDocument, if_true]
    exact ih

theorem readAllMembers_spell_iff {fields : Fields types} (hnames : (fieldNames fields).Nodup)
    {values : Values types} (members : List (String × Json)) :
    (∃ slots, readAllMembers .value fields (Slots.free types) (Json.toMembers members) = .ok slots ∧
        fillMissing fields slots = .ok values) ↔
      MembersSpell fields values members := by
  induction types generalizing members with
  | nil => exact iff_of_true ⟨(), readAllMembers_nil fields () members, rfl⟩ trivial
  | cons β types ih =>
    obtain ⟨field, fields⟩ := fields
    obtain ⟨a, values⟩ := values
    obtain ⟨hname, hnames⟩ := List.nodup_cons.1 hnames
    rw [MembersSpell, Field.givenBy_iff, ← membersSpell_othersThan hname, ← ih hnames]
    constructor
    · rintro ⟨⟨slot, slots⟩, hread, hfill⟩
      obtain ⟨hslot, hslots⟩ := (readAllMembers_cons_iff members).1 hread
      obtain ⟨ha, hvalues⟩ := fillMissing_cons_iff.1 hfill
      exact ⟨⟨slot, hslot, ha⟩, slots, hslots, hvalues⟩
    · rintro ⟨⟨slot, hslot, ha⟩, slots, hslots, hvalues⟩
      exact ⟨(slot, slots), (readAllMembers_cons_iff members).2 ⟨hslot, hslots⟩,
        fillMissing_cons_iff.2 ⟨ha, hvalues⟩⟩

end Objects

/-! ## Reading lists -/

section Lists

variable {α : Type} {types : List Type} {wanted : String}

theorem readPositions_nil_iff {field : Field α} {fields : Fields types} {index : Nat} {a : α}
    {values : Values types} {rest : List Document} :
    @readPositions .value true wanted index (α :: types) (field, fields) [] =
        .ok ((a, values), rest) ↔
      field.whenCut = some a ∧
        readPositions .value true wanted (index + 1) fields [] = .ok (values, rest) := by
  rw [readPositions]
  cases field.whenCut with
  | none =>
    refine iff_of_false (fun h => ?_) fun h => ?_
    · cases h
    · cases h.1
  | some b =>
    cases readPositions .value true wanted (index + 1) fields [] with
    | error p =>
      refine iff_of_false (fun h => ?_) fun h => ?_
      · cases h
      · cases h.2
    | ok read =>
      obtain ⟨values', rest'⟩ := read
      show (Except.ok ((b, values'), rest') : Except Problem ((α × Values types) × List Document)) =
        .ok ((a, values), rest) ↔ _
      simp only [Except.ok.injEq, Option.some.injEq, Prod.mk.injEq, and_assoc]

theorem readPositions_cons_iff {field : Field α} {fields : Fields types} {index : Nat} {a : α}
    {values : Values types} {item : Document} {items rest : List Document} :
    @readPositions .value true wanted index (α :: types) (field, fields) (item :: items) =
        .ok ((a, values), rest) ↔
      field.codec.decode .value item = .ok a ∧
        readPositions .value true wanted (index + 1) fields items = .ok (values, rest) := by
  rw [readPositions]
  cases field.codec.decode .value item with
  | error p =>
    refine iff_of_false (fun h => ?_) fun h => ?_
    · cases h
    · cases h.1
  | ok b =>
    cases readPositions .value true wanted (index + 1) fields items with
    | error p =>
      refine iff_of_false (fun h => ?_) fun h => ?_
      · cases h
      · cases h.2
    | ok read =>
      obtain ⟨values', rest'⟩ := read
      show (Except.ok ((b, values'), rest') : Except Problem ((α × Values types) × List Document)) =
        .ok ((a, values), rest) ↔ _
      simp only [Except.ok.injEq, Prod.mk.injEq, and_assoc]

theorem readPositions_spell_iff {fields : Fields types} {values : Values types} {index : Nat}
    (items : List Json) :
    readPositions .value true wanted index fields (Json.toDocuments items) = .ok (values, []) ↔
      ItemsSpell fields values items := by
  induction types generalizing index items with
  | nil =>
    cases items with
    | nil => exact iff_of_true rfl rfl
    | cons item items =>
      refine iff_of_false (fun h => ?_) fun h => ?_
      · cases h
      · cases h
  | cons β types ih =>
    obtain ⟨field, fields⟩ := fields
    obtain ⟨a, values⟩ := values
    cases items with
    | nil => exact readPositions_nil_iff.trans (and_congr_right fun _ => ih [])
    | cons item items => exact readPositions_cons_iff.trans (and_congr_right fun _ => ih items)

end Lists

/-! ## Reading records -/

section Records

variable {α : Type} {types : List Type} {name : String} {fields : Fields types}
  {toValues : α → Values types} {ofValues : Values types → α} {a : α}

theorem record_decodeValue_object_iff (hnames : (fieldNames fields).Nodup)
    (members : List (String × Json)) :
    (record name types fields toValues ofValues).decodeValue (.object members) = .ok a ↔
      ∃ values, MembersSpell fields values members ∧ ofValues values = a := by
  have hread : (record name types fields toValues ofValues).decodeValue (.object members) =
      (readAllMembers .value fields (Slots.free types) (Json.toMembers members) >>= fun slots =>
        (fillMissing fields slots).map ofValues) := by
    rw [decodeValue, Json.toDocument]
    show readAllMembers .value fields (Slots.free types) (Json.toMembers members) >>= _ = _
    cases readAllMembers .value fields (Slots.free types) (Json.toMembers members) with
    | error p => rfl
    | ok slots =>
      show fillMissing fields slots >>= _ = (fillMissing fields slots).map ofValues
      cases fillMissing fields slots <;> rfl
  simp only [hread, bind_eq_ok_iff, map_eq_ok_iff, ← readAllMembers_spell_iff hnames]
  constructor
  · rintro ⟨slots, hslots, values, hvalues, ha⟩
    exact ⟨values, ⟨slots, hslots, hvalues⟩, ha⟩
  · rintro ⟨values, ⟨slots, hslots, hvalues⟩, ha⟩
    exact ⟨slots, hslots, values, hvalues, ha⟩

theorem record_decodeValue_array_iff (items : List Json) :
    (record name types fields toValues ofValues).decodeValue (.array items) = .ok a ↔
      ∃ values, ItemsSpell fields values items ∧ ofValues values = a := by
  rw [decodeValue, Json.toDocument]
  show readPositions .value true _ 0 fields (Json.toDocuments items) >>= _ = _ ↔ _
  rw [bind_eq_ok_iff]
  constructor
  · rintro ⟨⟨values, rest⟩, hread, hrest⟩
    cases rest with
    | nil => exact ⟨values, (readPositions_spell_iff items).1 hread, Except.ok.inj hrest⟩
    | cons item rest => cases hrest
  · rintro ⟨values, hspell, rfl⟩
    exact ⟨(values, []), (readPositions_spell_iff items).2 hspell, rfl⟩

theorem record_decodeValue_iff (hnames : (fieldNames fields).Nodup) (j : Json) :
    (record name types fields toValues ofValues).decodeValue j = .ok a ↔
      ∃ values, Spells fields values j ∧ ofValues values = a := by
  cases j with
  | object members => exact record_decodeValue_object_iff hnames members
  | array items => exact record_decodeValue_array_iff items
  | null | bool _ | number _ | string _ =>
    simp [decodeValue, record, Json.toDocument, Spells]

end Records

end Codec

end TableAtlas
