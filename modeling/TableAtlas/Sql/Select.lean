import TableAtlas.Sql.Fragment

/-!
# Select statements

The clauses of a `SELECT` as data. Names are given as they are meant and are quoted when the
statement is rendered; expressions and the values of conditions are fragments that are taken over as
they are.
-/

namespace TableAtlas.Sql

inductive Direction
  | ascending
  | descending
  deriving DecidableEq, Repr, Inhabited

/-- The table that rows are taken from. -/
inductive Source
  | table (name : String)
  | aliased (name asName : String)
  deriving DecidableEq, Repr

/-- A condition on a field; some operators take no value. -/
structure Condition where
  field : String
  operator : String
  value : Option Fragment := none
  deriving DecidableEq, Repr

structure SortKey where
  field : String
  direction : Direction
  deriving DecidableEq, Repr

mutual

/-- An entry of the select list. -/
inductive Entry where
  | column (name : String)
  | expression (text : Fragment) (asName : Option String)
  /-- A statement in brackets that gives one value. -/
  | subselect (select : Select) (asName : String)

/-- A statement; an empty select list stands for all columns. -/
structure Select where
  source : Option Source := none
  entries : List Entry := []
  conditions : List Condition := []
  groupBy : List String := []
  orderBy : List SortKey := []
  limit : Option UInt64 := none
  offset : Option UInt64 := none

end

/-- Stands for the next parameter. -/
def placeholder : Fragment := Fragment.plain "?"

/-- The count of the rows. -/
def Entry.countAll : Entry :=
  .expression (Fragment.plain "count(*)") none

end TableAtlas.Sql
