import TableAtlas.Catalog.Reflection
import TableAtlas.Configuration.Document
import TableAtlas.Plan.ReferenceCount

/-!
# Explorers

An explorer answers requests about one database: for its schema, for rows and for reference counts.
It learns the schema when the first request comes and keeps it; a pass that fails is forgotten, and
the next request starts another.
-/

namespace TableAtlas

/-- The rows of a query, and the columns of the first of them. -/
structure Selection where
  columns : List String
  rows : List Row

def Selection.ofRows (rows : List Row) : Selection :=
  ⟨(rows.head?.map Row.columns).getD [], rows⟩

def Selection.toJson (s : Selection) : Json :=
  .object [("columns", .array (s.columns.map .string)), ("rows", .array (s.rows.map Row.toJson))]

/-- The number of rows that refer to a row, for each column that refers. -/
abbrev ReferenceCounts := SortedMap Int64

/-! ## Requests with a known schema -/

/-- The rows of a query. -/
def selectRows (s : Schema) (q : Query) : Inquiry Selection := do
  let statement ← Inquiry.lift (Plan.select s q)
  return .ofRows (← Inquiry.fetchRows statement)

/-- The whole number of a count. -/
def countOf? : Json → Option Int64
  | .number n => n.toInt64?
  | .string s => Text.readSigned64 s
  | _ => none

/-- The counts of a row, unless one of them is no number. -/
def readCounts (row : Row) : Except Error ReferenceCounts := do
  let counts ← row.cells.mapM fun (column, value) =>
    match countOf? value with
    | some n => Except.ok (column, n)
    | none => .error (.source (.unexpectedRow (.notANumber column)))
  return .ofList counts

/-- The counts of the rows that refer to a row of a table. -/
def countReferences (s : Schema) (table rowId : String) : Inquiry ReferenceCounts := do
  match ← Inquiry.lift (Plan.referenceCount s table rowId) with
  | none => return ∅
  | some statement =>
    match ← Inquiry.fetchRows statement with
    | row :: _ => Inquiry.lift (readCounts row)
    | [] => throw (.source (.unexpectedRow .noReferenceCounts))

/-! ## Explorers -/

inductive Request
  | schema
  | select (q : Query)
  | countReferences (table rowId : String)

inductive Answer
  | schema (s : Schema)
  | selection (s : Selection)
  | counts (c : ReferenceCounts)

def Answer.toJson : Answer → Json
  | schema s => Schema.codec.encode s
  | selection s => s.toJson
  | counts c => .object (c.entries.map fun (column, n) => (column, .number (.ofInt64 n)))

/-- The answer to a request when the schema is known. -/
def Request.answerWith (s : Schema) : Request → Inquiry Answer
  | schema => return .schema s
  | select q => return .selection (← selectRows s q)
  | countReferences table rowId => return .counts (← TableAtlas.countReferences s table rowId)

structure Explorer where
  configuration : Configuration
  /-- The schema once it has been learned. -/
  schema : Option Schema

namespace Explorer

/-- An explorer that knows nothing yet; its configuration must be valid. -/
def create (c : Configuration) : Except Error Explorer :=
  return ⟨← c.validate, none⟩

/-- The schema, learned now if it is not known, and the explorer afterwards. -/
def learn (e : Explorer) : Program (Except Error Schema × Explorer) :=
  match e.schema with
  | some s => .done (.ok s, e)
  | none =>
    (Catalog.reflect e.configuration).run.map fun
      | .ok s => (.ok s, { e with schema := some s })
      | .error fault => (.error fault, e)

/-- Answers a request. -/
def handle (e : Explorer) (request : Request) : Program (Except Error Answer × Explorer) :=
  e.learn.bind fun
    | (.ok s, e) => (request.answerWith s).run.map fun answer => (answer, e)
    | (.error fault, e) => .done (.error fault, e)

end Explorer

end TableAtlas
