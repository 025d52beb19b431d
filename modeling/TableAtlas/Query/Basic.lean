import TableAtlas.Sql.Select

/-!
# Queries

A query asks for rows of one table without writing SQL: which columns, which rows, grouped and
ordered how, and how many. The texts in it come from outside and are trusted in nothing.
-/

namespace TableAtlas

/-- A condition on the rows; all conditions of a query must hold. -/
structure Filter where
  field : String
  operator : String
  value : Option String := none
  deriving DecidableEq, Repr, Inhabited

/-- An aggregate function over the rows, or over each group of them. -/
structure Aggregate where
  function : String
  /-- The column it is taken of; all of the row if absent. -/
  target : Option String := none
  groupBy : List String := []
  deriving DecidableEq, Repr, Inhabited

structure Query where
  table : String
  columns : Option (List String) := none
  filters : Option (List Filter) := none
  aggregate : Option Aggregate := none
  orderBy : Option (List Sql.SortKey) := none
  limit : Option UInt64 := none
  offset : Option UInt64 := none
  deriving DecidableEq, Repr

namespace Query

/-- All columns of a table. -/
def ofTable (table : String) : Query := { table }

/-- The conditions; an absent list has none. -/
def allFilters (q : Query) : List Filter :=
  q.filters.getD []

def allSortKeys (q : Query) : List Sql.SortKey :=
  q.orderBy.getD []

end Query

end TableAtlas
