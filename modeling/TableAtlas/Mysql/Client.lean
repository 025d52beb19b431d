import TableAtlas.Database.Basic
import TableAtlas.Text.Percent

/-!
# Results of a client library

A client library gives a result as rows of values with their columns. It names the type of a column, and
reads a value as a type if that type goes with the column. From this the rows become JSON: the name of the
type says what a value is read as first, and where the client does not read it so, further types are tried
in a fixed order. Whole numbers stay exact, decimals keep their text, and bytes that are no text are told
by their number.
-/

namespace TableAtlas.Mysql

/-! ## Clients -/

/-- The types of dates and times. -/
inductive Temporal
  | datetime
  | timestamp
  | date
  | time
  deriving DecidableEq, Repr

/-- The types that a value can be read as. -/
inductive Target
  | bool
  | signed
  | unsigned
  | float
  | text
  | bytes
  | json
  | temporal (kind : Temporal)
  deriving DecidableEq, Repr

/-- What is read. Dates and times are given by their text. -/
@[reducible] def Target.Value : Target → Type
  | bool => Bool
  | signed => Int64
  | unsigned => UInt64
  | float => Float
  | bytes => List UInt8
  | json => Json
  | text | temporal _ => String

/-- A client library with its columns and its values. -/
structure Client (κ ν : Type) where
  name : κ → String
  typeName : κ → String
  isNull : κ → ν → Bool
  /-- The value as a type, if the client reads it so. -/
  read? : (t : Target) → κ → ν → Option t.Value
  /-- The text of a value, whatever type its column has. -/
  readText? : κ → ν → Option String

/-! ## Stored values -/

/-- What is stored in a place of a result. -/
inductive Stored
  | null
  | whole (i : Int)
  | real (x : Float)
  | bytes (bs : List UInt8)
  | document (j : Json)
  /-- A date or a time, by its text as each type that it can be read as. -/
  | moment (text : Temporal → Option String)

namespace Stored

def isNull : Stored → Bool
  | null => true
  | _ => false

def toInt? : Stored → Option Int
  | whole i => some i
  | _ => none

def toFloat? : Stored → Option Float
  | real x => some x
  | _ => none

def toBytes? : Stored → Option (List UInt8)
  | bytes bs => some bs
  | _ => none

def toDocument? : Stored → Option Json
  | document j => some j
  | _ => none

/-- The text of a date or a time. -/
def toMoment? (kind : Temporal) : Stored → Option String
  | moment text => text kind
  | _ => none

/-- The word of a whole number, if it fits. -/
def toInt64? (i : Int) : Option Int64 :=
  if (Int64.ofInt i).toInt = i then some (Int64.ofInt i) else none

/-- The word without a sign of a whole number, if it fits. -/
def toUInt64? (i : Int) : Option UInt64 :=
  if (i.toNat.toUInt64.toNat : Int) = i then some i.toNat.toUInt64 else none

/-- The stored value as a type, if it is one of the type. -/
def as? (st : Stored) : (t : Target) → Option t.Value
  | .bool => st.toInt?.map fun i => decide (i ≠ 0)
  | .signed => st.toInt?.bind toInt64?
  | .unsigned => st.toInt?.bind toUInt64?
  | .float => st.toFloat?
  | .text => st.toBytes?.bind Text.ofBytes?
  | .bytes => st.toBytes?
  | .json => st.toDocument?
  | .temporal kind => st.toMoment? kind

end Stored

/-! ## Readings -/

/-- Bytes as their text, or as their number if they are no text. -/
def bytesJson (bs : List UInt8) : Json :=
  match Text.ofBytes? bs with
  | some s => .string s
  | none => .string s!"[BLOB: {bs.length} bytes]"

/-- The JSON of what is read; a float that is not finite has none. -/
def Target.json? : (t : Target) → t.Value → Option Json
  | bool, b => some (.bool b)
  | signed, i => some (.number (.ofInt64 i))
  | unsigned, n => some (.number (.natural n))
  | float, x => if Float.isFinite x then some (.number (.real x)) else none
  | bytes, bs => some (bytesJson bs)
  | json, j => some j
  | text, s | temporal _, s => some (.string s)

/-- A way to read a value. -/
inductive Reading
  | typed (t : Target)
  | untypedText
  deriving DecidableEq, Repr

/-- The reading that goes with the name of a type. -/
def Reading.preferred : String → Reading
  | "BOOLEAN" => typed .bool
  | "TINYINT" | "SMALLINT" | "MEDIUMINT" | "INT" | "BIGINT" | "YEAR" => typed .signed
  | "TINYINT UNSIGNED" | "SMALLINT UNSIGNED" | "MEDIUMINT UNSIGNED" | "INT UNSIGNED"
  | "BIGINT UNSIGNED" => typed .unsigned
  | "FLOAT" | "DOUBLE" => typed .float
  | "DECIMAL" => untypedText
  | "JSON" => typed .json
  | "DATETIME" => typed (.temporal .datetime)
  | "TIMESTAMP" => typed (.temporal .timestamp)
  | "DATE" => typed (.temporal .date)
  | "TIME" => typed (.temporal .time)
  | _ => typed .text

/-- The readings that are tried when the preferred one gives nothing. -/
def Reading.fallbacks : List Reading :=
  [typed .signed, typed .unsigned, typed .float, typed .text, typed .bytes]

namespace Client

variable {κ ν : Type}

/-- The JSON that a reading gives. -/
def apply (client : Client κ ν) (c : κ) (v : ν) : Reading → Option Json
  | .typed t => (client.read? t c v).bind t.json?
  | .untypedText => (client.readText? c v).map .string

/-- The JSON of a value. -/
def toJson (client : Client κ ν) (c : κ) (v : ν) : Except DatabaseError Json :=
  if client.isNull c v then .ok .null
  else
    match (.preferred (client.typeName c) :: Reading.fallbacks).findSome? (client.apply c v) with
    | some value => .ok value
    | none => .error (.serialization (.unsupported (client.name c) (client.typeName c)))

/-- The row of values with their columns. -/
def rowToJson (client : Client κ ν) (places : List (κ × ν)) : Except DatabaseError Row := do
  let pairs ← places.mapM fun (c, v) => do
    return (client.name c, ← client.toJson c v)
  return .ofPairs pairs

/-- All rows of a result, unless one of their values has no JSON form. -/
def toRows (client : Client κ ν) (rows : List (List (κ × ν))) : Except DatabaseError (List Row) :=
  rows.mapM client.rowToJson

end Client

end TableAtlas.Mysql
