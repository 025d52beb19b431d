import TableAtlas.Database.Basic
import TableAtlas.Plan.Vocabulary
import TableAtlas.Schema.Basic

/-!
# Planning queries

Turns a query into one statement. Values become parameters, operators and functions words of the
vocabulary, and names quoted names, so nothing that a query holds reaches the statement outside of
quotes. For each selected column that refers to a table with a label, the statement also looks up the
label of the row that is referred to.
-/

namespace TableAtlas.Plan

open Sql (Select Entry Condition Fragment)

/-- The count of rows if a query sets none. -/
def defaultLimit : UInt64 := 300

/-! ## Names -/

/-- The column names of a query in the order in which they are checked. -/
def namesOf (q : Query) : List String :=
  q.columns.getD [] ++ q.allFilters.map Filter.field ++ q.allSortKeys.map Sql.SortKey.field
    ++ (match q.aggregate with
      | some a => a.target.toList ++ a.groupBy
      | none => [])

/-- No column may be named like an added label. -/
def checkNames (q : Query) : Except Error Unit :=
  match (namesOf q).find? isReservedName with
  | some name => .error (.compilation (.reservedName name))
  | none => .ok ()

/-- The columns a statement is about: those to group by if there is an aggregate, or else those the
query names, or else all. -/
def baseNames (t : Table) (q : Query) : List String :=
  match q.aggregate, q.columns with
  | some a, _ => a.groupBy
  | none, some (name :: rest) => name :: rest
  | none, _ => t.columnsByOrdinal.map Column.name

/-! ## Aggregates -/

/-- The entry of an aggregate, named after the function and its column. -/
def aggregateEntry (a : Aggregate) : Except Error Entry := do
  match AggregateFunction.ofText? a.function with
  | none => throw (.compilation (.unsupportedFunction a.function))
  | some function =>
    let (target, asName) ← match a.target with
      | some column => do
        let name ← liftName (Sql.member column)
        pure (name, function.word ++ "_" ++ column)
      | none => pure (Fragment.plain "*", function.word)
    let text := Fragment.plain (function.word ++ "(") ++ target ++ Fragment.plain ")"
    return .expression text (some asName)

/-- The entry of the aggregate, if the query has one. -/
def aggregateEntries (q : Query) : Except Error (List Entry) :=
  match q.aggregate with
  | some a => return [← aggregateEntry a]
  | none => .ok []

/-! ## Labels -/

/-- The reference of a column whose target has a label, with the label's column. -/
def labelled? (s : Schema) (t : Table) (name : String) : Option (Reference × String) := do
  let column ← t.columns.get? name
  let reference ← column.refersTo
  let target ← s.table? reference.targetTable
  let label ← target.labelColumn
  return (reference, label)

/-- The name that the table of a look-up goes by, after its number. -/
def lookupAlias (number : Nat) : String :=
  "t" ++ toString number

/-- Looks up the label of the row that a row of the table refers to. -/
def labelLookup (t : Table) (number : Nat) (reference : Reference) (label : String) : Entry :=
  let asName := lookupAlias number
  let outer : Fragment :=
    .name t.name :: Fragment.plain "." ++ [.name reference.column]
  .subselect
    { source := some (.aliased reference.targetTable asName)
      entries := [.column (asName ++ "." ++ label)]
      conditions := [⟨asName ++ "." ++ reference.targetColumn, "=", some outer⟩] }
    (labelMarker ++ reference.column)

/-- A look-up for each of the names that has a label, numbered from one. -/
def labelLookups (s : Schema) (t : Table) (names : List String) : List Entry :=
  (names.filterMap (labelled? s t)).mapIdx fun i (reference, label) =>
    labelLookup t (i + 1) reference label

/-! ## Filters -/

/-- The pattern of a partial match: a value without a wildcard may stand anywhere in the text. -/
def likePattern (value : String) : String :=
  if value.toList.contains '%' then value else "%" ++ value ++ "%"

/-- The value that is bound for an operator. -/
def boundValue (operator : Operator) (value : String) : String :=
  if operator = .like then likePattern value else value

/-- The condition of a filter and the parameter it binds. -/
def readFilter (f : Filter) : Except Error (Condition × Option String) :=
  match Operator.ofText? f.operator with
  | none => .error (.compilation (.unsupportedOperator f.operator))
  | some operator =>
    if operator.takesValue then
      match f.value with
      | some value =>
        .ok (⟨f.field, operator.word, some Sql.placeholder⟩, some (boundValue operator value))
      | none => .error (.compilation (.valueMissing f.operator f.field))
    else .ok (⟨f.field, operator.word, none⟩, none)

/-! ## Statements -/

/-- The clauses of a query over one of the tables, and the parameters in their order. -/
def selectFrom (s : Schema) (t : Table) (q : Query) : Except Error (Select × List String) := do
  checkNames q
  let names := baseNames t q
  let aggregate ← aggregateEntries q
  let filters ← q.allFilters.mapM readFilter
  let select : Select :=
    { source := some (.table t.name)
      entries := names.map .column ++ aggregate ++ labelLookups s t names
      conditions := filters.map Prod.fst
      groupBy := (q.aggregate.map Aggregate.groupBy).getD []
      orderBy := q.allSortKeys
      limit := some (q.limit.getD defaultLimit)
      offset := q.offset }
  return (select, filters.filterMap Prod.snd)

/-- The statement of a query. -/
def select (s : Schema) (q : Query) : Except Error Statement := do
  match s.table? q.table with
  | none => throw (.unknownTable q.table)
  | some t =>
    let (select, params) ← selectFrom s t q
    return ⟨← liftName (select.text .multiLine), params⟩

end TableAtlas.Plan
