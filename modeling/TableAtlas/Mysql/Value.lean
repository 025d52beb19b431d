import TableAtlas.Json.Reader
import TableAtlas.Mysql.Client
import TableAtlas.Mysql.Moment

/-!
# Values of the binary protocol

The columns and values that a MySQL server sends, and a client that reads them: how it names the types
of columns, which types go with a column, and what a value is. It is one client of many.
-/

namespace TableAtlas.Mysql

/-! ## Columns -/

inductive Kind
  | tiny
  | short
  | medium
  | long
  | longLong
  | float
  | double
  | decimal
  | null
  | timestamp
  | date
  | time
  | datetime
  | year
  | bit
  | json
  | varChar
  | varString
  | string
  | enumeration
  | set
  | tinyBlob
  | mediumBlob
  | longBlob
  | blob
  | geometry
  deriving DecidableEq, Repr

structure Column where
  name : String
  kind : Kind
  /-- The width for display. -/
  length : Option Nat := none
  isUnsigned : Bool := false
  isBinary : Bool := false
  isEnum : Bool := false
  deriving DecidableEq, Repr

/-- The kinds of whole numbers. -/
def Kind.isInteger : Kind → Bool
  | tiny | short | medium | long | longLong => true
  | _ => false

/-- The kinds that hold text or bytes. -/
def Kind.isText : Kind → Bool
  | varChar | varString | string | enumeration | tinyBlob | mediumBlob | longBlob | blob => true
  | _ => false

namespace Column

/-- A column of truth values: a whole number of one digit. -/
def isBoolean (c : Column) : Bool :=
  c.kind = .tiny && c.length = some 1

/-- The name of the type of a column. -/
def typeName (c : Column) : String :=
  match c.kind with
  | .tiny => if c.isBoolean then "BOOLEAN" else signed "TINYINT"
  | .short => signed "SMALLINT"
  | .medium => signed "MEDIUMINT"
  | .long => signed "INT"
  | .longLong => signed "BIGINT"
  | .float => "FLOAT"
  | .double => "DOUBLE"
  | .decimal => "DECIMAL"
  | .null => "NULL"
  | .timestamp => "TIMESTAMP"
  | .date => "DATE"
  | .time => "TIME"
  | .datetime => "DATETIME"
  | .year => "YEAR"
  | .bit => "BIT"
  | .json => "JSON"
  | .varChar | .varString => if c.isBinary then "VARBINARY" else "VARCHAR"
  | .string => if c.isBinary then "BINARY" else if c.isEnum then "ENUM" else "CHAR"
  | .enumeration => "ENUM"
  | .set => "SET"
  | .tinyBlob => large "TINY"
  | .mediumBlob => large "MEDIUM"
  | .longBlob => large "LONG"
  | .blob => large ""
  | .geometry => "GEOMETRY"
where
  signed (name : String) : String := if c.isUnsigned then name ++ " UNSIGNED" else name
  large (size : String) : String := size ++ if c.isBinary then "BLOB" else "TEXT"

/-- The types that values of a column are read as. -/
def accepts (c : Column) : Target → Bool
  | .bool => c.kind.isInteger
  | .signed => c.kind.isInteger && !c.isUnsigned
  | .unsigned => c.isUnsigned && (c.kind.isInteger || c.kind = .year || c.kind = .bit)
  | .float => c.kind = .float || c.kind = .double
  | .text => c.kind.isText && !c.isBinary
  | .bytes => c.kind.isText
  | .json => c.kind = .json
  | .temporal .datetime | .temporal .timestamp => c.kind = .datetime || c.kind = .timestamp
  | .temporal .date => c.kind = .date
  | .temporal .time => c.kind = .time

end Column

/-! ## Values -/

inductive Cell
  | null
  /-- A whole number of a column that may hold negative ones. -/
  | signed (i : Int64)
  /-- A whole number of a column that is flagged to hold none below zero. -/
  | unsigned (n : UInt64)
  | single (x : Float32)
  | double (x : Float)
  /-- A date, with a time or without; absent for the zero date. -/
  | moment (m : Option Moment)
  | clock (c : Clock)
  /-- A time with its days, forward or back. -/
  | duration (negative : Bool) (days : Nat) (c : Clock)
  | bytes (bs : List UInt8)

/-- The number that bytes write, the first byte counting most. -/
def bigEndian (bs : List UInt8) : Nat :=
  bs.foldl (fun n b => n * 256 + b.toNat) 0

/-- The texts of a date and time that exist; of a date any time does. -/
def Moment.texts (m : Moment) : Temporal → Option String
  | .datetime =>
    if m.dateExists && m.clock.exists then some (m.dateText ++ " " ++ m.clock.text) else none
  | .timestamp =>
    if m.dateExists && m.clock.exists then some (m.dateText ++ "T" ++ m.clock.text ++ "+00:00")
    else none
  | .date => if m.dateExists then some m.dateText else none
  | .time => none

/-- The text of a time on one day; its direction is not read. -/
def Clock.texts (t : Clock) (days : Nat) : Temporal → Option String
  | .time => if t.exists && days = 0 then some t.text else none
  | _ => none

/-- What a value of a column is. The zero date counts as null too, and bits are a number. -/
def Cell.stored (c : Column) : Cell → Stored
  | null | moment none => .null
  | signed i => .whole i.toInt
  | unsigned n => .whole n.toNat
  | single x => .real x.toFloat
  | double x => .real x
  | moment (some m) => .moment m.texts
  | clock t => .moment (t.texts 0)
  | duration _ days t => .moment (t.texts days)
  | bytes bs =>
    if c.kind = .bit then .whole (bigEndian bs).toUInt64.toNat
    else if c.kind = .json then ((Json.read? bs).map .document).getD (.bytes bs)
    else .bytes bs

/-- The client of the protocol. -/
def protocol : Client Column Cell where
  name := Column.name
  typeName := Column.typeName
  isNull c v := (v.stored c).isNull
  read? t c v := if c.accepts t then (v.stored c).as? t else none
  readText? c v := (v.stored c).as? .text

/-! ## Results -/

structure ResultSet where
  columns : List Column
  rows : List (List Cell)

/-- The rows with their columns. -/
def ResultSet.places (r : ResultSet) : List (List (Column × Cell)) :=
  r.rows.map (r.columns.zip ·)

end TableAtlas.Mysql
