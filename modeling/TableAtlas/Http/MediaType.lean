/-!
# Media types

Tells from the type of a body whether it is sent as JSON: `application/json`, or a type of
`application` with the suffix `+json`, in any case and with any parameters. A type that breaks the
grammar of media types is not JSON.
-/

namespace TableAtlas.Http

/-- The signs that a token may hold beside letters and digits. -/
def tokenSigns : List Char :=
  ['!', '#', '$', '%', '&', '\x27', '*', '+', '-', '.', '^', '_', '\x60', '|', '~']

def isTokenChar (c : Char) : Bool :=
  c.isAlphanum || tokenSigns.contains c

/-- The characters that a quoted value may hold; a quote ends it unless it is the first of them. -/
def isQuotedChar (c : Char) : Bool :=
  31 < c.toNat && c.toNat != 127

/-- The parts of a parameter list: what may come next. -/
inductive ParameterState
  /-- A parameter may begin; blanks are passed over. -/
  | start
  /-- Inside a name that has begun. -/
  | name
  /-- A value has to begin. -/
  | value
  /-- Inside a value without quotes. -/
  | bare
  /-- Inside quotes; the flag tells whether they hold anything yet. -/
  | quoted (filled : Bool)
  /-- Behind closing quotes. -/
  | closed

/-- The parameters behind the semicolon of a media type are well formed. -/
def parametersValid : ParameterState → List Char → Bool
  | .start, [] => true
  | .start, c :: rest =>
    if c = ' ' then parametersValid .start rest
    else isTokenChar c && parametersValid .name rest
  | .name, [] => false
  | .name, c :: rest =>
    if c = '=' then parametersValid .value rest else isTokenChar c && parametersValid .name rest
  | .value, [] => true
  | .value, c :: rest =>
    if c = '"' then parametersValid (.quoted false) rest
    else isTokenChar c && parametersValid .bare rest
  | .bare, [] => true
  | .bare, c :: rest =>
    if c = ';' then parametersValid .start rest else isTokenChar c && parametersValid .bare rest
  | .quoted _, [] => false
  | .quoted filled, c :: rest =>
    if filled && c = '"' then parametersValid .closed rest
    else isQuotedChar c && parametersValid (.quoted true) rest
  | .closed, [] => true
  | .closed, c :: rest =>
    if c = ';' then parametersValid .start rest else c = ' ' && parametersValid .closed rest

/-- What stands before and behind the last plus sign that is not the first character. -/
def splitSuffix (subtype : List Char) : List Char × Option (List Char) :=
  let suffix := (subtype.reverse.takeWhile (· != '+')).reverse
  let stem := subtype.take (subtype.length - suffix.length - 1)
  if suffix.length < subtype.length ∧ stem ≠ [] then (stem, some suffix) else (subtype, none)

def isJsonMediaType (s : String) : Bool :=
  let cs := s.toList.map Char.toLower
  let type := cs.takeWhile (· != '/')
  match cs.dropWhile (· != '/') with
  | _ :: rest =>
    let subtype := rest.takeWhile (· != ';')
    let valid := match rest.dropWhile (· != ';') with
      | _ :: parameters => subtype ≠ [] && parametersValid .start parameters
      | [] => true
    let (stem, suffix) := splitSuffix subtype
    let json := ['j', 's', 'o', 'n']
    type = "application".toList && subtype.all isTokenChar && valid
      && (stem = json || suffix = some json)
  | [] => false

end TableAtlas.Http
