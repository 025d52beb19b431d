import TableAtlas.Error
import TableAtlas.Sql.Render

/-!
# Statements to the catalog

The three listings that a schema is built from, and the statement that counts the rows of small
tables.
-/

namespace TableAtlas.Catalog

open Sql (Select Condition Fragment)

/-- A condition on the value of a field. -/
def equals (field : String) (value : Fragment) : Condition :=
  ⟨field, "=", some value⟩

/-- Selects columns of a table of the catalog. -/
def listing (table : String) (columns : List String) (conditions : List Condition) : Select where
  source := some (.table ("information_schema." ++ table))
  entries := columns.map .column
  conditions := conditions

def tables : Select :=
  listing "tables" ["table_name", "table_rows", "data_length", "index_length"]
    [equals "table_schema" Sql.placeholder, equals "table_type" (Fragment.plain "'BASE TABLE'")]

def columns : Select :=
  listing "columns"
    ["table_name", "column_name", "ordinal_position", "column_type", "column_key",
      "column_default", "is_nullable", "extra"]
    [equals "table_schema" Sql.placeholder]

/-- Both ends of a foreign key must lie in the database. -/
def references : Select :=
  listing "key_column_usage"
    ["table_name", "column_name", "referenced_table_name", "referenced_column_name"]
    [equals "table_schema" Sql.placeholder, equals "referenced_table_schema" Sql.placeholder]

/-- One value for each table, the exact count of its rows under its name. -/
def rowCounts (tables : List String) : Select where
  entries := tables.map fun table =>
    .subselect { source := some (.table table), entries := [.countAll] } table

/-- A statement of several lines with its parameters. -/
def statement (s : Select) (params : List String) : Except Error Statement := do
  return ⟨← liftName (s.text .multiLine), params⟩

end TableAtlas.Catalog
