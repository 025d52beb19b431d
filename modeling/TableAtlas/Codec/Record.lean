import TableAtlas.Codec.Basic

/-!
# Codecs of records

A record is written as an object of its fields in order. It is read from an object, in which unknown
members are passed over, or from the list of its fields. The first fault from left to right counts;
fields that are missing are reported in their order after all that is present.
-/

namespace TableAtlas.Codec

/-- A field of a record. -/
structure Field (α : Type) where
  name : String
  codec : Codec α
  /-- Values that are not written. -/
  omits : α → Bool := fun _ => false
  /-- The value when an object lacks the field. -/
  whenMissing : Option α := none
  /-- The value when a list ends before the field. -/
  whenCut : Option α := none

namespace Field

variable {α : Type}

/-- A field that has to be there. -/
def required (name : String) (codec : Codec α) : Field α :=
  { name, codec }

/-- A field with a value to fall back on. -/
def defaulted (name : String) (codec : Codec α) (fallback : α) : Field α :=
  { name, codec, whenMissing := some fallback, whenCut := some fallback }

/-- A field that is left out, when written, if it has no value. -/
def optional (name : String) (codec : Codec α) : Field (Option α) :=
  { defaulted name codec.option none with omits := Option.isNone }

/-- A field that may lack a value; in a list it must have its place all the same. -/
def nullable (name : String) (codec : Codec α) : Field (Option α) :=
  { name, codec := codec.option, whenMissing := some none }

/-- A field like that, which is left out, when written, if it has no value. -/
def sparse (name : String) (codec : Codec α) : Field (Option α) :=
  { nullable name codec with omits := Option.isNone }

end Field

/-! ## Rows of types -/

/-- A field for each type. -/
def Fields : List Type → Type
  | [] => Unit
  | α :: rest => Field α × Fields rest

/-- A value for each type. -/
def Values : List Type → Type
  | [] => Unit
  | α :: rest => α × Values rest

/-- A place for a value of each type. -/
def Slots : List Type → Type
  | [] => Unit
  | α :: rest => Option α × Slots rest

def Slots.free : (types : List Type) → Slots types
  | [] => ()
  | _ :: rest => (none, free rest)

/-! ## Writing -/

def encodeFields : {types : List Type} → Fields types → Values types → List (String × Json)
  | [], _, _ => []
  | _ :: _, (field, fields), (a, values) =>
    let rest := encodeFields fields values
    if field.omits a then rest else (field.name, field.codec.encode a) :: rest

/-! ## Reading an object -/

/-- Reads a member into the place of its field, `none` if no field has the name. -/
def readMember (origin : Origin) (name : String) (value : Document) :
    {types : List Type} → Fields types → Slots types → Option (Except Problem (Slots types))
  | [], _, _ => none
  | _ :: _, (field, fields), (slot, slots) =>
    if field.name = name then
      some <| match slot with
        | some _ => .error (Reason.duplicateField name).here
        | none => (within (.member name) (field.codec.decode origin value)).map fun a => (some a, slots)
    else (readMember origin name value fields slots).map (Except.map fun slots => (slot, slots))

/-- Reads members from left to right. -/
def readAllMembers (origin : Origin) {types : List Type} (fields : Fields types)
    (slots : Slots types) : List (Option String × Document) → Except Problem (Slots types)
  | [] => .ok slots
  | (none, _) :: _ => .error Reason.malformed.here
  | (some name, value) :: rest =>
    match readMember origin name value fields slots with
    | some (.ok slots) => readAllMembers origin fields slots rest
    | some (.error p) => .error p
    | none =>
      if value.isWhole then readAllMembers origin fields slots rest
      else .error Reason.malformed.here

/-- Fills the places that no member filled. -/
def fillMissing : {types : List Type} → Fields types → Slots types → Except Problem (Values types)
  | [], _, _ => .ok ()
  | _ :: _, (field, fields), (slot, slots) => do
    let a ← match slot <|> field.whenMissing with
      | some a => Except.ok a
      | none => .error (Reason.missingField field.name).here
    return (a, ← fillMissing fields slots)

/-! ## Reading a list -/

/-- Reads fields from the items of a list; the outcome has the items that are left. -/
def readPositions (origin : Origin) (closed : Bool) (wanted : String) (index : Nat) :
    {types : List Type} → Fields types → List Document →
      Except Problem (Values types × List Document)
  | [], _, items => .ok ((), items)
  | _ :: _, (field, fields), [] => do
    unless closed do throw Reason.malformed.here
    let a ← match field.whenCut with
      | some a => Except.ok a
      | none => .error (Reason.invalidLength index wanted).here
    let (values, rest) ← readPositions origin closed wanted (index + 1) fields []
    return ((a, values), rest)
  | _ :: _, (field, fields), item :: items => do
    let a ← within (.item index) (field.codec.decode origin item)
    let (values, rest) ← readPositions origin closed wanted (index + 1) fields items
    return ((a, values), rest)

/-! ## Records -/

variable {α : Type}

def record (name : String) (types : List Type) (fields : Fields types)
    (toValues : α → Values types) (ofValues : Values types → α) : Codec α where
  encode a := .object (encodeFields fields (toValues a))
  decode origin
    | .object members closed => do
      let slots ← readAllMembers origin fields (Slots.free types) members
      unless closed do throw Reason.malformed.here
      return ofValues (← fillMissing fields slots)
    | .array items closed => do
      let wanted := s!"struct {name} with {types.length} elements"
      let (values, rest) ← readPositions origin closed wanted 0 fields items
      match origin, rest with
      | _, [] => ending closed (ofValues values)
      | .value, _ =>
        throw (Reason.invalidLength items.length "fewer elements in array").here
      | .text, _ => throw Reason.malformed.here
    | document => .error (wrongType ("struct " ++ name) document)

end TableAtlas.Codec
