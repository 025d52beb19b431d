import TableAtlas.Json.Printer
import TableAtlas.Text.Ascii

/-!
# HTTP messages

Requests as far as the service looks at them, and responses. Names of headers are compared without
regard to case; responses write them in lower case.
-/

namespace TableAtlas.Http

structure Request where
  method : String
  /-- Path and query as they were sent. -/
  target : String
  headers : List (String × String)
  body : List UInt8

structure Response where
  status : Nat
  headers : List (String × String) := []
  body : String := ""
  deriving DecidableEq

namespace Request

/-- The first header of a name. -/
def header? (r : Request) (name : String) : Option String :=
  (r.headers.find? fun header => Text.eqIgnoringCase header.1 name).map Prod.snd

/-- What follows scheme and host, if the target names a host. -/
def dropHost : List Char → List Char
  | ':' :: '/' :: '/' :: rest => rest.dropWhile fun c => c != '/'
  | _ :: rest => dropHost rest
  | [] => []

/-- The target without host, query and fragment. -/
def path (r : Request) : String :=
  let target := r.target.toList.takeWhile fun c => c != '?' && c != '#'
  let path := if target.head? = some '/' then target else dropHost target
  if path.isEmpty then "/" else String.ofList path

end Request

namespace Response

def text (status : Nat) (body : String) : Response :=
  ⟨status, [("content-type", "text/plain; charset=utf-8")], body⟩

def json (status : Nat) (body : Json) : Response :=
  ⟨status, [("content-type", "application/json")], body.text⟩

/-- The answer to a path that leads nowhere. -/
def notFound : Response := { status := 404 }

def methodNotAllowed (allowed : String) : Response :=
  { status := 405, headers := [("allow", allowed)] }

def withHeaders (r : Response) (headers : List (String × String)) : Response :=
  { r with headers := r.headers ++ headers }

def withoutBody (r : Response) : Response :=
  { r with body := "" }

end Response

end TableAtlas.Http
