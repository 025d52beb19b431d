import TableAtlas.Sql.Fragment

/-!
# Qualified names

A name with points is a path of names: `x.y` is the column `y` of `x`, and each part is quoted on its
own. A path has at least one part, and no part is empty.
-/

namespace TableAtlas.Sql

/-- Why a name cannot be written. -/
inductive NameError
  | empty
  /-- A name with an empty part. -/
  | malformed (name : String)
  deriving DecidableEq, Repr

def NameError.message : NameError → String
  | empty => "empty identifier"
  | malformed name => s!"malformed identifier '{name}'"

/-- The parts of a name between its points. -/
def nameParts (name : String) : List String :=
  (name.toList.splitOn '.').map String.ofList

/-- The quoted parts of a name with points between them. -/
def memberLexemes (parts : List String) : Fragment :=
  Fragment.join "." (parts.map fun part => [.name part])

/-- The qualified name that a text gives. -/
def member (name : String) : Except NameError Fragment :=
  if name = "" then .error .empty
  else if "" ∈ nameParts name then .error (.malformed name)
  else .ok (memberLexemes (nameParts name))

end TableAtlas.Sql
