import TableAtlas.Json.Printer
import TableAtlas.Row
import TableAtlas.Text.Ascii
import TableAtlas.Text.Blank
import TableAtlas.Text.Numeral

/-!
# Cells of the catalog

How the rows of a catalog are read. Headers may come in any case, numbers as text, and truth values in
several forms, since servers and their versions differ in these.
-/

namespace TableAtlas

namespace Row

/-- The cell of a field: under its very name, or else the first one under its name in another case. -/
def field? (r : Row) (name : String) : Option Json :=
  match r.get? name with
  | some value => some value
  | none => (r.cells.find? fun cell => Text.eqIgnoringCase cell.1 name).map Prod.snd

end Row

namespace Json

/-- The text of a cell: a string is its own, any other value is written as JSON; null has none. -/
def cellText? : Json → Option String
  | string s => some s
  | null => none
  | value => some value.text

/-- A number from zero up, rounded down if it has a fraction and cut to 64 bits if it is too large. -/
def cellNatural? : Json → Option UInt64
  | number (.natural n) => some n
  | number (.negative _) => none
  | number (.real x) => if x ≥ 0.0 then some x.toUInt64 else none
  | string s => Text.readUnsigned64 (Text.trim s)
  | _ => none

/-- The meaning of a truth value: `YES` in any case, true, or one. -/
def cellFlag : Json → Bool
  | string s => Text.eqIgnoringCase s "YES"
  | bool b => b
  | number (.natural n) => n = 1
  | _ => false

end Json

namespace Row

def text? (r : Row) (name : String) : Option String :=
  (r.field? name).bind Json.cellText?

def natural? (r : Row) (name : String) : Option UInt64 :=
  (r.field? name).bind Json.cellNatural?

def flag (r : Row) (name : String) : Bool :=
  ((r.field? name).map Json.cellFlag).getD false

end Row

end TableAtlas
