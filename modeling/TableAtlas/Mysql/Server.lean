import TableAtlas.Configuration.Document
import TableAtlas.Inquiry
import TableAtlas.Mysql.Value

/-!
# MySQL servers

A server as a database: whether it can be reached, what it answers to statements, and how its answers
become rows. Whatever keeps a connection from coming about is a fault of the configuration.
-/

namespace TableAtlas.Mysql

/-- What is found where a configuration points. -/
inductive Server
  | unreachable
  | refusing (e : ServerError)
  | serving (answer : Statement → Except ServerError ResultSet)

/-- A connection through a client library: what it answers to a statement, a result or the text of what
went wrong. -/
structure Connection (κ ν : Type) where
  client : Client κ ν
  answer : Statement → Except String (List (List (κ × ν)))

/-- Connects to the server of a valid configuration for MySQL. -/
def connect (c : Configuration) (server : Server) : Except Error (Connection Column Cell) := do
  discard c.validate
  if c.flavor ≠ .mysql then throw (.configuration (.unsupportedFlavor c.flavor))
  match server with
  | .unreachable => throw (.configuration (.notConnected .unreachable))
  | .refusing e => throw (.configuration (.notConnected (.refused e)))
  | .serving answer => return {
      client := protocol
      answer := fun st => ((answer st).map ResultSet.places).mapError ServerError.text }

namespace Connection

variable {κ ν : Type}

/-- The rows of a statement. -/
def fetch (c : Connection κ ν) (statement : Statement) : Reply :=
  match c.answer statement with
  | .ok rows => c.client.toRows rows
  | .error text => .error (.query text)

/-- A connected server as a database, whose state is the list of the statements it has received. -/
def source (c : Connection κ ν) : Program.Source (List Statement) where
  answer received statement := (c.fetch statement, received ++ [statement])

end Connection

end TableAtlas.Mysql
