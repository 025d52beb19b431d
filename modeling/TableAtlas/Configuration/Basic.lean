import TableAtlas.Schema.Basic
import TableAtlas.Text.Blank

/-!
# Configurations

How to reach a database, and which columns of it label rows. A configuration is valid when database,
user and host are not blank.
-/

namespace TableAtlas

structure Configuration where
  flavor : Flavor
  host : String
  /-- The usual port of the server if absent. -/
  port : Option UInt16
  user : String
  password : String
  database : String
  /-- For a table, the column that labels its rows. -/
  labelColumns : SortedMap String
  deriving DecidableEq, Inhabited

/-- A part of a configuration that must not be blank. -/
inductive Blank
  | database
  | user
  | host
  deriving DecidableEq, Repr

def Blank.message : Blank → String
  | database => "database name must not be empty"
  | user => "user must not be empty"
  | host => "host must not be empty"

namespace Configuration

/-- The host if none is given. -/
def defaultHost : String := "localhost"

/-- A database of the server on this host. -/
def mysql (user password database : String) : Configuration :=
  ⟨.mysql, defaultHost, none, user, password, database, ∅⟩

def withLabelColumn (c : Configuration) (table column : String) : Configuration :=
  { c with labelColumns := c.labelColumns.insert table column }

/-- The first part that is blank. -/
def blank? (c : Configuration) : Option Blank :=
  if Text.isAllBlank c.database then some .database
  else if Text.isAllBlank c.user then some .user
  else if Text.isAllBlank c.host then some .host
  else none

/-- The configured label of a table, unless it is blank. -/
def labelColumn? (c : Configuration) (table : String) : Option String :=
  (c.labelColumns.get? table).filter fun label => !Text.isAllBlank label

end Configuration

/-- The address a server listens on. -/
structure Listen where
  hostname : String
  port : UInt16
  deriving DecidableEq, Repr, Inhabited

structure ServerConfiguration where
  listen : Listen
  database : Configuration
  deriving DecidableEq, Inhabited

end TableAtlas
