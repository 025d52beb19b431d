import TableAtlas.Row

/-!
# Statements and replies

What passes between this library and a database: a statement is SQL text with values for its
placeholders, and the reply is a list of rows or the reason why there are none.
-/

namespace TableAtlas

/-- SQL text, and the values of its placeholders in the order of the text. -/
structure Statement where
  sql : String
  params : List String
  deriving DecidableEq, Repr, Inhabited

/-- How a row can lack what it was asked for. -/
inductive RowFault
  /-- A row of the catalog lacks the text of a field. -/
  | noText (field : String)
  /-- No row came with the row counts. -/
  | noRowCounts
  /-- No row came with the reference counts. -/
  | noReferenceCounts
  /-- A reference count is no whole number. -/
  | notANumber (column : String)
  /-- A fault that the database layer reported. -/
  | reported (text : String)
  deriving DecidableEq, Repr

def RowFault.message : RowFault → String
  | noText field => "catalog row without " ++ field
  | noRowCounts => "row count statement returned no row"
  | noReferenceCounts => "reference count returned no row"
  | notANumber column => s!"count '{column}' is not a number"
  | reported text => text

/-- Why a stored value has no JSON form. -/
inductive ConversionFault
  | unsupported (column type : String)
  /-- A fault that the database layer reported. -/
  | reported (text : String)
  deriving DecidableEq, Repr

def ConversionFault.message : ConversionFault → String
  | unsupported column type => s!"unsupported value in column '{column}' of type {type}"
  | reported text => text

/-- Why a database gave no rows. -/
inductive DatabaseError
  | query (text : String)
  | unexpectedRow (fault : RowFault)
  | serialization (fault : ConversionFault)
  deriving DecidableEq, Repr

def DatabaseError.message : DatabaseError → String
  | query text => "Database error: " ++ text
  | unexpectedRow fault => "Unexpected row shape: " ++ fault.message
  | serialization fault => "Serialization error: " ++ fault.message

/-- Faults that a client library reports without a word from the server. -/
inductive ClientFault
  | rowNotFound
  | protocol (text : String)
  | columnNotFound (name : String)
  deriving DecidableEq, Repr

def ClientFault.message : ClientFault → String
  | rowNotFound => "no rows returned by a query that expected to return at least one row"
  | protocol text => "encountered unexpected or invalid data: " ++ text
  | columnNotFound name => "no column found for name: " ++ name

def DatabaseError.ofClientFault (fault : ClientFault) : DatabaseError :=
  .query fault.message

abbrev Reply := Except DatabaseError (List Row)

end TableAtlas
