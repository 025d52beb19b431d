import TableAtlas.Catalog.Assembly
import TableAtlas.Catalog.Statements
import TableAtlas.Inquiry

/-!
# Reflection

Learns the schema of a database from its catalog: three listings that are asked together, the schema they
describe, and then exact row counts where the catalog estimates a small table. The first fault ends the
pass.
-/

namespace TableAtlas.Catalog

/-! ## Exact row counts -/

/-- Tables estimated at fewer rows are counted. -/
def exactBelow : UInt64 := 10000

def isSmall (t : Table) : Bool :=
  t.size.rows.getD 0 < exactBelow

def smallTables (s : Schema) : List String :=
  (s.tables.values.filter isSmall).map Table.name

/-- Takes over the count of a table, if the cell holds one. -/
def applyCount (tables : SortedMap Table) (cell : String × Json) : SortedMap Table :=
  match cell.2.cellNatural? with
  | some n => tables.modify cell.1 fun t => { t with size := { t.size with rows := some n } }
  | none => tables

def applyCounts (s : Schema) (row : Row) : Schema :=
  { s with tables := row.cells.foldl applyCount s.tables }

/-- Replaces the estimates of small tables by counts, in one statement if there are any. -/
def countRows (s : Schema) : Inquiry Schema := do
  match smallTables s with
  | [] => return s
  | small =>
    let statement ← Inquiry.lift (statement (rowCounts small) [])
    let rows ← Inquiry.fetchRows statement
    match rows with
    | row :: _ => return applyCounts s row
    | [] => throw (.source (.unexpectedRow .noRowCounts))

/-! ## The pass -/

/-- Learns the schema of the configured database. -/
def reflect (c : Configuration) : Inquiry Schema := do
  let tables ← Inquiry.lift (statement tables [c.database])
  let columns ← Inquiry.lift (statement columns [c.database])
  let references ← Inquiry.lift (statement references [c.database, c.database])
  let (tableRows, columnRows, referenceRows) ← Inquiry.fetchThree tables columns references
  let schema ← Inquiry.lift (buildSchema c tableRows columnRows referenceRows)
  countRows schema

end TableAtlas.Catalog
