import TableAtlas.Database.Run
import TableAtlas.Error

/-!
# Inquiries

Programs that ask a database and may fail. The first failure ends an inquiry, and nothing is sent
after it.
-/

namespace TableAtlas

/-- A program that ends with a value or an error. -/
abbrev Inquiry (α : Type) := ExceptT Error Program α

namespace Inquiry

/-- Rows of a statement; a failure of the database is a failure of the inquiry. -/
def fetchRows (statement : Statement) : Inquiry (List Row) :=
  ExceptT.mk ((Program.fetch statement).map fun reply => reply.mapError .source)

/-- Rows of three statements that are asked together. -/
def fetchThree (first second third : Statement) : Inquiry (List Row × List Row × List Row) :=
  ExceptT.mk ((Program.fetchAll [first, second, third]).map fun replies =>
    (replies.mapError .source).map fun rows => (rows.getD 0 [], rows.getD 1 [], rows.getD 2 []))

/-- A result that needs no database. -/
def lift {α : Type} (result : Except Error α) : Inquiry α :=
  ExceptT.mk (.done result)

end Inquiry

end TableAtlas
