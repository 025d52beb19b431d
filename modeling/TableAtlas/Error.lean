import TableAtlas.Codec.Problem
import TableAtlas.Configuration.Basic
import TableAtlas.Database.Basic
import TableAtlas.Files
import TableAtlas.Sql.Member

/-!
# Errors

Everything that can go wrong, by its cause, with the wording of each.
-/

namespace TableAtlas

/-- An error that a database server sent. -/
structure ServerError where
  code : Nat
  /-- The class of the error in five characters, if the server gave one. -/
  state : Option String
  message : String
  deriving DecidableEq, Repr

def ServerError.text (e : ServerError) : String :=
  "error returned from database: " ++ toString e.code
    ++ (match e.state with
      | some state => s!" ({state})"
      | none => "")
    ++ ": " ++ e.message

/-- Why no connection to a server came about. -/
inductive ConnectFault
  /-- No way leads to the server. -/
  | unreachable
  | refused (e : ServerError)
  deriving DecidableEq, Repr

def ConnectFault.message : ConnectFault → String
  | unreachable =>
    "error communicating with database: Network is unreachable (os error 101)"
  | refused e => e.text

/-- The name of a server kind in messages. -/
def Flavor.title : Flavor → String
  | mysql => "Mysql"
  | postgresql => "Postgresql"

inductive ConfigurationFault
  | blank (part : Blank)
  | invalidDocument (problem : Codec.Problem)
  | unreadable (path : String) (fault : FileFault)
  | unsupportedFlavor (flavor : Flavor)
  | notConnected (fault : ConnectFault)

def ConfigurationFault.message : ConfigurationFault → String
  | blank part => part.message
  | invalidDocument problem => "invalid configuration: " ++ problem.reason.text
  | unreadable path fault => s!"cannot read {path}: " ++ fault.message
  | unsupportedFlavor flavor =>
    s!"driver flavor {flavor.title} is not supported by the MySQL data source"
  | notConnected fault => "cannot open connection pool: " ++ fault.message

/-- Why a query cannot become a statement. -/
inductive CompileFault
  | badName (e : Sql.NameError)
  /-- A query names a column that is kept for labels. -/
  | reservedName (name : String)
  /-- A table has a column of a name that is kept for labels. -/
  | reservedColumn (table column : String)
  | unsupportedFunction (function : String)
  | unsupportedOperator (operator : String)
  | valueMissing (operator field : String)
  deriving DecidableEq, Repr

def CompileFault.message : CompileFault → String
  | badName e => e.message
  | reservedName name => s!"'{name}' uses the reserved prefix '{labelMarker}'"
  | reservedColumn table column =>
    s!"column '{table}.{column}' uses the reserved prefix '{labelMarker}'"
  | unsupportedFunction function => s!"unsupported aggregate function '{function}'"
  | unsupportedOperator operator => s!"unsupported operator '{operator}'"
  | valueMissing operator field => s!"operator '{operator}' on '{field}' needs a value"

inductive Error
  | configuration (fault : ConfigurationFault)
  | source (e : DatabaseError)
  /-- No table of the schema has the name. -/
  | unknownTable (name : String)
  | compilation (fault : CompileFault)

namespace Error

def message : Error → String
  | configuration fault => "Configuration error: " ++ fault.message
  | source e => e.message
  | unknownTable name => s!"Invalid tableName: '{name}'"
  | compilation fault => "Compilation error: " ++ fault.message

/-- The HTTP status of an answer that reports the error. -/
def status : Error → Nat
  | configuration _ | source _ => 500
  | unknownTable _ => 404
  | compilation _ => 400

end Error

/-- A name that cannot be written is an error of compilation. -/
def liftName {α : Type} (result : Except Sql.NameError α) : Except Error α :=
  result.mapError fun e => .compilation (.badName e)

end TableAtlas
