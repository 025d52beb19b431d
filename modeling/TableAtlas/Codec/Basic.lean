import TableAtlas.Codec.Problem
import TableAtlas.SortedMap

/-!
# Codecs

A codec writes values of a type as JSON and reads them from a document. Its law is that what was
written reads back as the same value.
-/

namespace TableAtlas

/-- Whether a document is a value at hand, or a text that is being read. -/
inductive Codec.Origin
  | value
  | text
  deriving DecidableEq

structure Codec (α : Type) where
  encode : α → Json
  decode : Codec.Origin → Document → Except Codec.Problem α

namespace Codec

variable {α β : Type}

/-- Reads a value at hand. -/
def decodeValue (c : Codec α) (j : Json) : Except Problem α :=
  c.decode .value j.toDocument

/-- Reads the document of a text that ends after it. -/
def decodeText (c : Codec α) (document : Document) (ended : Bool) : Except Problem α := do
  let a ← c.decode .text document
  if ended then return a else throw Reason.malformed.here

/-- What was written reads back as the same value. -/
def Lawful (c : Codec α) : Prop :=
  ∀ a, c.decodeValue (c.encode a) = .ok a

/-! ## Faults of kind -/

/-- The kind of a document, `none` where its text is broken. -/
def found? : Document → Option Found
  | .null => some .null
  | .bool b => some (.bool b)
  | .number n => n.map .number
  | .string s => s.map .string
  | .array .. => some .sequence
  | .object .. => some .map
  | .broken => none

/-- The problem of a document that is not of the wanted kind. -/
def wrongType (wanted : String) (document : Document) : Problem :=
  match found? document with
  | some found => (Reason.invalidType found wanted).here
  | none => Reason.malformed.here

/-- The outcome of a list or object: its value if its end was found. -/
def ending (closed : Bool) (a : α) : Except Problem α :=
  if closed then .ok a else .error Reason.malformed.here

/-- Adds a step to the path of a problem. -/
def within (step : Step) (result : Except Problem α) : Except Problem α :=
  result.mapError (Problem.within step)

/-! ## Scalars -/

def string : Codec String where
  encode := .string
  decode _
    | .string (some s) => .ok s
    | document => .error (wrongType "a string" document)

def bool : Codec Bool where
  encode := .bool
  decode _
    | .bool b => .ok b
    | document => .error (wrongType "a boolean" document)

/-- A number from zero up to below a limit. -/
def decodeNatural (wanted : String) (limit : Nat) (document : Document) : Except Problem Nat :=
  match document with
  | .number (some (.natural n)) =>
    if n.toNat < limit then .ok n.toNat
    else .error (Reason.invalidValue (.number (.natural n)) wanted).here
  | .number (some (.negative i)) => .error (Reason.invalidValue (.number (.negative i)) wanted).here
  | document => .error (wrongType wanted document)

def uint16 : Codec UInt16 where
  encode n := .ofNat n.toNat
  decode _ document := (decodeNatural "u16" UInt16.size document).map Nat.toUInt16

def uint32 : Codec UInt32 where
  encode n := .ofNat n.toNat
  decode _ document := (decodeNatural "u32" UInt32.size document).map Nat.toUInt32

def uint64 : Codec UInt64 where
  encode n := .ofNat n.toNat
  decode _ document := (decodeNatural "u64" UInt64.size document).map Nat.toUInt64

/-! ## Options, lists and maps -/

/-- Null for an absent value. -/
def option (c : Codec α) : Codec (Option α) where
  encode := Json.ofOption c.encode
  decode origin
    | .null => .ok none
    | document => (c.decode origin document).map some

/-- Reads the items of a list, the first at the given position. -/
def decodeItems (read : Document → Except Problem α) (index : Nat) :
    List Document → Except Problem (List α)
  | [] => .ok []
  | item :: rest => do
    let a ← within (.item index) (read item)
    let others ← decodeItems read (index + 1) rest
    return a :: others

def list (c : Codec α) : Codec (List α) where
  encode items := .array (items.map c.encode)
  decode origin
    | .array items closed => do ending closed (← decodeItems (c.decode origin) 0 items)
    | document => .error (wrongType "a sequence" document)

/-- Reads the entries of a map; a name that comes twice keeps its last value. -/
def decodeEntries (read : Document → Except Problem α) (m : SortedMap α) :
    List (Option String × Document) → Except Problem (SortedMap α)
  | [] => .ok m
  | (none, _) :: _ => .error Reason.malformed.here
  | (some name, value) :: rest => do
    let a ← within (.member name) (read value)
    decodeEntries read (m.insert name a) rest

def sortedMap (c : Codec α) : Codec (SortedMap α) where
  encode m := .object (m.entries.map fun (name, a) => (name, c.encode a))
  decode origin
    | .object members closed => do ending closed (← decodeEntries (c.decode origin) ∅ members)
    | document => .error (wrongType "a map" document)

/-! ## Choices among names -/

/-- The value that a choice gives to a name. -/
def choose (choices : List (String × α)) (name : String) : Except Problem α :=
  match choices.find? (·.1 = name) with
  | some (_, a) => .ok a
  | none => .error (Reason.unknownVariant name (choices.map Prod.fst)).here

/-- Nothing but null may accompany a chosen name. -/
def decodeUnit : Document → Except Problem Unit
  | .null => .ok ()
  | document => .error (wrongType "unit" document)

/-- A choice among names, written as the name, and also read from an object with the name as its only
member and null as the value. -/
def choice (choices : List (String × α)) (nameOf : α → String) : Codec α where
  encode a := .string (nameOf a)
  decode origin
    | .string (some name) => choose choices name
    | .object members closed => do
      if origin = .value ∧ members.length ≠ 1 then
        throw (Reason.invalidValue .map "map with a single key").here
      match members with
      | (some name, value) :: rest =>
        let a ← choose choices name
        within (.member name) (decodeUnit value)
        ending (closed && rest.isEmpty) a
      | _ => throw Reason.malformed.here
    | document =>
      match origin with
      | .value => .error (wrongType "string or map" document)
      | .text => .error Reason.malformed.here

end Codec

end TableAtlas
