import TableAtlas.Plan.Select

/-!
# Planning reference counts

Counts, for one row of a table, the rows that refer to it: one value for each foreign key that points
at the table, under the name of the column that refers.
-/

namespace TableAtlas.Plan

open Sql (Select Entry Fragment)

/-- The name of the count of a reference. -/
def countAlias (r : Reference) : String :=
  r.targetTable ++ "." ++ r.targetColumn

/-- Counts the rows that refer by one foreign key. -/
def countEntry (r : Reference) : Entry :=
  .subselect
    { source := some (.table r.targetTable)
      entries := [.countAll]
      conditions := [⟨r.targetColumn, "=", some Sql.placeholder⟩] }
    (countAlias r)

/-- The statement of the counts, `none` if nothing refers to the table. -/
def referenceCount (s : Schema) (table rowId : String) : Except Error (Option Statement) := do
  match s.table? table with
  | none => throw (.unknownTable table)
  | some t =>
    match t.referencedBy with
    | [] => return none
    | references =>
      let select : Select := { entries := references.map countEntry }
      let sql ← liftName (select.text .multiLine)
      return some ⟨sql, references.map fun _ => rowId⟩

end TableAtlas.Plan
