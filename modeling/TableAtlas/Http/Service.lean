import TableAtlas.Explorer
import TableAtlas.Http.Endpoint
import TableAtlas.Http.MediaType
import TableAtlas.Http.Message
import TableAtlas.Json.Reader
import TableAtlas.Query.Codec

/-!
# The HTTP service

Answers HTTP requests with an explorer. Answers come in an envelope that tells success from failure. A
request that names no endpoint, uses a wrong method or carries no query is answered without asking the
explorer. Mounted under a base path, the service lets pages of any origin call it.
-/

namespace TableAtlas.Http

open Codec (Problem)

/-! ## Envelopes -/

def success (answer : Answer) : Response :=
  .json 200 (.object [("status", .string "ok"), ("data", answer.toJson)])

def failure (e : Error) : Response :=
  .json e.status (.object [("status", .string "error"), ("message", .string e.message)])

def envelope : Except Error Answer → Response
  | .ok answer => success answer
  | .error e => failure e

/-! ## Bodies -/

def wrongContentType : Response :=
  .text 415 "Expected request with \x60Content-Type: application/json\x60"

/-- The answer to a body that is no query; the place in the body goes before the reason. -/
def badBody (p : Problem) : Response :=
  match p.reason with
  | .malformed => .text 400 "Failed to parse the request body as JSON: "
  | reason =>
    let place := if p.path.isEmpty then "" else Codec.pathText p.path ++ ": "
    .text 422 ("Failed to deserialize the JSON body into the target type: " ++ place ++ reason.text)

/-- The most bytes of a body that are read. -/
def bodyLimit : Nat := 2097152

def bodyTooLong : Response :=
  .text 413 "Failed to buffer the request body: length limit exceeded"

/-- The value of a header as far as it is visible ASCII. -/
def isVisible (s : String) : Bool :=
  s.toList.all fun c => 0x20 ≤ c.toNat && c.toNat < 0x7F || c = '\t'

def hasJsonBody (r : Request) : Bool :=
  match r.header? "content-type" with
  | some value => isVisible value && isJsonMediaType value
  | none => false

def readQuery (r : Request) : Except Response Query :=
  if !hasJsonBody r then .error wrongContentType
  else if bodyLimit < r.body.length then .error bodyTooLong
  else
    let (document, ended) := Json.readDocument r.body
    (Codec.decodeText Query.codec document ended).mapError badBody

/-! ## Endpoints -/

def badParameter (name : String) : Response :=
  .text 400 ("Invalid URL: Invalid UTF-8 in " ++ Codec.ticked name)

/-- The answer when a path holds other parameters beside the table and the row. -/
def wrongParameterCount (count : Nat) : Response :=
  .text 500 s!"Wrong number of path arguments for \x60Path\x60. Expected 2 but got {count}"

/-- The table and the row among the parameters of a whole path; there may be no others. -/
def tableAndRow (parameters : List Parameter) : Except Response (String × String) :=
  match decodeParameters parameters with
  | .ok [table, row] => .ok (table, row)
  | .ok values => .error (wrongParameterCount values.length)
  | .error name => .error (badParameter name)

/-- What the explorer is asked at an endpoint, or the answer if it is not asked. The given parameters
stand in the path before the endpoint. -/
def Endpoint.request (e : Endpoint) (before : List Parameter) (r : Request) :
    Except Response TableAtlas.Request :=
  match e with
  | schema => .ok .schema
  | select => (readQuery r).map .select
  | referenceCount .. =>
    (tableAndRow (before ++ e.parameters)).map fun (table, row) => .countReferences table row

/-- Answers a request at an endpoint that knows its method. -/
def Endpoint.answer (e : Endpoint) (before : List Parameter) (explorer : Explorer) (r : Request) :
    Program (Response × Explorer) :=
  match e.request before r with
  | .ok request => (explorer.handle request).map fun (answer, explorer) => (envelope answer, explorer)
  | .error response => .done (response, explorer)

/-- Answers a request for the segments of a path below the place of the service; the parameters stand
in the path before them. -/
def serve (explorer : Explorer) (r : Request) (before : List Parameter) (segments : List String) :
    Program (Response × Explorer) :=
  match Endpoint.ofSegments? segments with
  | none => .done (.notFound, explorer)
  | some e =>
    if !e.allows r.method then .done (.methodNotAllowed e.allowed, explorer)
    else
      (e.answer before explorer r).map fun (response, explorer) =>
        (if r.method = "HEAD" then response.withoutBody else response, explorer)

/-! ## Mounting -/

def vary : String × String :=
  ("vary", "origin, access-control-request-method, access-control-request-headers")

/-- What lets pages of any origin read a response. -/
def sharedHeaders : List (String × String) :=
  [("access-control-allow-origin", "*"), ("access-control-expose-headers", "*"), vary]

/-- The answer to a question which requests pages of other origins may send. -/
def preflight (e : Option Endpoint) : Response where
  status := 200
  headers :=
    [("access-control-allow-origin", "*"), ("access-control-allow-methods", "*"),
      ("access-control-allow-headers", "*"), vary]
    ++ (match e with
      | some e => [("allow", e.allowed)]
      | none => [])

/-- A service stands at the root, or under a base path and open to pages of other origins. -/
inductive Service
  | root
  | mounted (base : BasePath)

def Service.handle (explorer : Explorer) (r : Request) : Service → Program (Response × Explorer)
  | root => serve explorer r [] (pathSegments r.path)
  | mounted base =>
    let below := base.below? r.path
    if r.method = "OPTIONS" then
      .done (preflight (below.bind fun (_, segments) => Endpoint.ofSegments? segments), explorer)
    else
      match below with
      | none => .done (Response.notFound.withHeaders sharedHeaders, explorer)
      | some (before, segments) =>
        (serve explorer r before segments).map fun (response, explorer) =>
          (response.withHeaders sharedHeaders, explorer)

end TableAtlas.Http
