/-!
# Base paths

The path under which a service is mounted. A segment may end in a parameter, a name in braces, which
stands for any text: `/shops/{shop}` leads to `/shops/1` and to `/shops/2`. A brace that stands for
itself is written twice.
-/

namespace TableAtlas.Http

/-- A name and what a path has in its place, still encoded. -/
abbrev Parameter := String × String

/-- The segments of a path, one behind each slash. -/
def pathSegments (path : String) : List String :=
  ((path.toList.splitOn '/').drop 1).map String.ofList

/-! ## Patterns of segments -/

inductive SegmentPattern
  | fixed (text : String)
  /-- A parameter behind a fixed text. -/
  | parameter (stem name : String)
  deriving DecidableEq, Repr

/-- The parameters that a segment gives if it fits a pattern. -/
def SegmentPattern.capture? (segment : String) : SegmentPattern → Option (List Parameter)
  | fixed text => if segment = text then some [] else none
  | parameter stem name =>
    if stem.toList.isPrefixOf segment.toList then
      some [(name, String.ofList (segment.toList.drop stem.length))]
    else none

/-- The parameters in the segments that fit patterns from the first on, and the segments left over. -/
def captureFront? : List SegmentPattern → List String → Option (List Parameter × List String)
  | [], segments => some ([], segments)
  | _ :: _, [] => none
  | pattern :: patterns, segment :: segments => do
    let parameters ← pattern.capture? segment
    let (others, rest) ← captureFront? patterns segments
    return (parameters ++ others, rest)

structure BasePath where
  patterns : List SegmentPattern

namespace BasePath

/-! ## Reading -/

/-- A character of a base path, or one of the braces around a name. -/
inductive Sign
  | char (c : Char)
  | opening
  | closing
  deriving DecidableEq, Repr

def openingBrace : Char := '\x7b'

def closingBrace : Char := '\x7d'

def Sign.ofChar (c : Char) : Sign :=
  if c = openingBrace then opening else if c = closingBrace then closing else char c

def Sign.toChar : Sign → Char
  | char c => c
  | opening => openingBrace
  | closing => closingBrace

/-- The signs of a text; two equal braces in a row are one that stands for itself. -/
def signs : List Char → List Sign
  | [] => []
  | [c] => [.ofChar c]
  | c :: d :: rest =>
    if c = d ∧ (c = openingBrace ∨ c = closingBrace) then .char c :: signs rest
    else .ofChar c :: signs (d :: rest)

/-- A piece of a pattern. -/
inductive Piece
  | char (c : Char)
  | parameter (name : String)
  deriving DecidableEq, Repr

/-- A name is not empty. It begins with neither a closing brace nor a star, and no star or slash comes
after its first character. -/
def isName : List Char → Bool
  | [] => false
  | first :: rest => first ≠ closingBrace && first ≠ '*' && rest.all fun c => c ≠ '*' && c ≠ '/'

/-- A segment ends before these signs. -/
def endsSegment : List Sign → Bool
  | [] => true
  | sign :: _ => sign = .char '/'

/-- Reads signs from left to right, inside braces with what has been read of the name. A parameter has
to end its segment. -/
def readPieces : Option (List Char) → List Sign → Option (List Piece)
  | none, [] => some []
  | none, .char c :: rest => (readPieces none rest).map (.char c :: ·)
  | none, .opening :: rest => readPieces (some []) rest
  | none, .closing :: _ => none
  | some _, [] => none
  | some name, .closing :: rest =>
    if isName name && endsSegment rest then
      (readPieces none rest).map (.parameter (String.ofList name) :: ·)
    else none
  | some name, sign :: rest => readPieces (some (name ++ [sign.toChar])) rest

/-- The pattern of the pieces of a segment, of which only the last may be a parameter. -/
def patternOf (pieces : List Piece) : SegmentPattern :=
  let stem := String.ofList <| pieces.filterMap fun
    | .char c => some c
    | .parameter _ => none
  match pieces.getLast? with
  | some (.parameter name) => .parameter stem name
  | _ => .fixed stem

/-- Colons and stars at the front of a segment are kept for other kinds of patterns. -/
def isReserved (segment : String) : Bool :=
  segment.toList.head? = some ':' || segment.toList.head? = some '*'

/-- A base path is empty or has a slash in front. -/
def ofText? (text : String) : Option BasePath := do
  guard (text = "" ∨ text.toList.head? = some '/')
  guard !(pathSegments text).any isReserved
  let pieces ← readPieces none (signs text.toList)
  return ⟨((pieces.splitOn (.char '/')).drop 1).map patternOf⟩

/-! ## Leading to the service -/

/-- The parameters in a path and its segments below the service, if it leads there. -/
def below? (base : BasePath) (path : String) : Option (List Parameter × List String) :=
  captureFront? (base.patterns ++ [.fixed "api"]) (pathSegments path)

end BasePath

end TableAtlas.Http
