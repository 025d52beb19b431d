/-!
# JSON values

Values as they are exchanged: whole numbers that fit 64 bits are exact, all other numbers are
floats. The members of an object keep their order.
-/

namespace TableAtlas

/-- A JSON number. -/
inductive Number
  /-- A whole number from zero up. -/
  | natural (n : UInt64)
  /-- A whole number below zero. -/
  | negative (i : Int64)
  /-- A number with a fraction or an exponent, or one that fits no whole number. -/
  | real (x : Float)
  deriving Inhabited

namespace Number

/-- The number of a signed whole number. -/
def ofInt64 (i : Int64) : Number :=
  if i < 0 then negative i else natural i.toUInt64

def toInt64? : Number → Option Int64
  | natural n => if n.toNat ≤ Int64.maxValue.toInt.toNat then some n.toInt64 else none
  | negative i => some i
  | real _ => none

end Number

inductive Json
  | null
  | bool (b : Bool)
  | number (n : Number)
  | string (s : String)
  | array (items : List Json)
  | object (members : List (String × Json))
  deriving Inhabited

namespace Json

/-- The number of a natural number below `2 ^ 64`. -/
def ofNat (n : Nat) : Json :=
  number (.natural n.toUInt64)

/-- Null for an absent value. -/
def ofOption {α : Type} (encode : α → Json) : Option α → Json
  | some a => encode a
  | none => null

/-- Sets a member: a new one goes to the end, a known one keeps its place. -/
def setMember (name : String) (value : Json) : List (String × Json) → List (String × Json)
  | [] => [(name, value)]
  | member :: rest =>
    if member.1 = name then (name, value) :: rest else member :: setMember name value rest

/-- The members that pairs describe; of two pairs of one name the later gives the value. -/
def membersOf (pairs : List (String × Json)) : List (String × Json) :=
  pairs.foldl (fun members pair => setMember pair.1 pair.2 members) []

end Json

end TableAtlas
