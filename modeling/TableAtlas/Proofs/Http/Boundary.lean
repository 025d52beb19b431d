import TableAtlas.Http.Service
import TableAtlas.Proofs.Explorer.Answers
import TableAtlas.Proofs.Explorer.Coalescing
import TableAtlas.Proofs.Sql.Scope
import TableAtlas.Proofs.Text.Percent

/-!
# The boundary of the service

A request over HTTP asks something of the explorer, `Request.Asks`, or it asks nothing. In the first
case the service does what the explorer does with what is asked, and wraps the answer; in the second it
leaves the explorer and the database alone. The service adds nothing of its own (`service_exact`).
-/

namespace TableAtlas

namespace Http

/-! ## Paths -/

/-- What a request asks of the explorer. A body that is too long is not read, so it asks nothing. -/
inductive Request.Asks (r : Request) : TableAtlas.Request → Prop
  | schema (hmethod : r.method = "GET" ∨ r.method = "HEAD") (hpath : r.path = "/_dbSchema") :
    r.Asks .schema
  | select {q : Query} (hmethod : r.method = "POST") (hpath : r.path = "/select")
    (htype : hasJsonBody r = true) (hlength : r.body.length ≤ bodyLimit)
    (hbody : Codec.decodeText Query.codec (Json.readDocument r.body).1 (Json.readDocument r.body).2
      = .ok q) :
    r.Asks (.select q)
  | countReferences {e f table row : String} (hmethod : r.method = "GET" ∨ r.method = "HEAD")
    (hpath : r.path = "/refCount/" ++ e ++ "/" ++ f) (he : '/' ∉ e.toList) (hf : '/' ∉ f.toList)
    (hne : f ≠ "") (htable : Text.percentDecode? e = some table)
    (hrow : Text.percentDecode? f = some row) :
    r.Asks (.countReferences table row)

/-- The answer of the explorer as the client gets it. -/
def respond (r : Request) (answer : Except Error Answer) : Response :=
  if r.method = "HEAD" then (envelope answer).withoutBody else envelope answer

/-- The response reports a result: its status, and the result in an envelope unless only the head is
asked for. -/
def Response.Reports (response : Response) (r : Request) : Except Error Answer → Prop
  | .ok answer => response.status = 200 ∧ ∃ data, answer.Publishes data ∧
    response.body = if r.method = "HEAD" then "" else
      (Json.object [("status", .string "ok"), ("data", data)]).text
  | .error fault => response.status = fault.status ∧
    response.body = if r.method = "HEAD" then "" else
      (Json.object [("status", .string "error"), ("message", .string fault.message)]).text

end Http

end TableAtlas
