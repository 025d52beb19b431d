import TableAtlas.Http.BasePath
import TableAtlas.Text.Percent

/-!
# Endpoints

The three paths of the service. Fixed parts of a path are compared as they were sent; the table and
the row that a path names are decoded. The row may not be empty, the table may.
-/

namespace TableAtlas.Http

inductive Endpoint
  | schema
  | select
  /-- The encoded names of a table and of a row. -/
  | referenceCount (table row : String)
  deriving DecidableEq

namespace Endpoint

def ofSegments? : List String → Option Endpoint
  | ["_dbSchema"] => some schema
  | ["select"] => some select
  | ["refCount", table, row] => if row = "" then none else some (referenceCount table row)
  | _ => none

/-- The parameters in the path of an endpoint. -/
def parameters : Endpoint → List Parameter
  | schema | select => []
  | referenceCount table row => [("table_name", table), ("row_id", row)]

/-- The only methods the endpoint knows, as they are listed to a client. -/
def allowed : Endpoint → String
  | select => "POST"
  | schema | referenceCount .. => "GET,HEAD"

def allows (e : Endpoint) (method : String) : Bool :=
  match e with
  | select => method = "POST"
  | schema | referenceCount .. => method = "GET" || method = "HEAD"

end Endpoint

/-- The decoded values of parameters, or the name of the first one whose value is no text. -/
def decodeParameters : List Parameter → Except String (List String)
  | [] => .ok []
  | (name, value) :: rest =>
    match Text.percentDecode? value with
    | some text => (decodeParameters rest).map (text :: ·)
    | none => .error name

end TableAtlas.Http
