import TableAtlas.Json.Value

/-!
# JSON documents

What can be known of a text that should be JSON before it is asked for: its values up to the place
where it breaks off or stops being JSON, with repeated names kept. A reader of a typed value goes
through a document from left to right and so meets the first fault, be it in the text or in the type.
-/

namespace TableAtlas

inductive Document
  | null
  | bool (b : Bool)
  /-- A number; `none` when it is too large to have a value. -/
  | number (n : Option Number)
  /-- A string; `none` when its bytes or escapes name no text. -/
  | string (s : Option String)
  /-- A list, and whether its end was found. -/
  | array (items : List Document) (closed : Bool)
  /-- An object, and whether its end was found. -/
  | object (members : List (Option String × Document)) (closed : Bool)
  /-- No value can be read here. -/
  | broken
  deriving Inhabited

namespace Document

mutual

/-- The document is JSON to its end, whatever its numbers and strings are worth. -/
def isWhole : Document → Bool
  | null | bool _ | number _ | string _ => true
  | array items closed => closed && areWhole items
  | object members closed => closed && membersAreWhole members
  | broken => false

def areWhole : List Document → Bool
  | [] => true
  | item :: rest => item.isWhole && areWhole rest

def membersAreWhole : List (Option String × Document) → Bool
  | [] => true
  | (_, value) :: rest => value.isWhole && membersAreWhole rest

end

/-- How many lists and objects of a text may stand inside one another. -/
def deepest : Nat := 127

mutual

/-- The value of a whole document whose numbers and strings are readable, nested at most so deep. -/
def value? (depth : Nat) : Document → Option Json
  | null => some .null
  | bool b => some (.bool b)
  | number n => n.map .number
  | string s => s.map .string
  | array items closed =>
    if closed && depth != 0 then (values? (depth - 1) items).map .array else none
  | object members closed =>
    if closed && depth != 0 then
      (memberValues? (depth - 1) members).map fun pairs => .object (Json.membersOf pairs)
    else none
  | broken => none

def values? (depth : Nat) : List Document → Option (List Json)
  | [] => some []
  | item :: rest => do return (← item.value? depth) :: (← values? depth rest)

def memberValues? (depth : Nat) : List (Option String × Document) → Option (List (String × Json))
  | [] => some []
  | (name, value) :: rest => do
    return (← name, ← value.value? depth) :: (← memberValues? depth rest)

end

end Document

namespace Json

mutual

/-- A value seen as a document without faults. -/
def toDocument : Json → Document
  | null => .null
  | bool b => .bool b
  | number n => .number (some n)
  | string s => .string (some s)
  | array items => .array (toDocuments items) true
  | object members => .object (toMembers members) true

def toDocuments : List Json → List Document
  | [] => []
  | item :: rest => item.toDocument :: toDocuments rest

def toMembers : List (String × Json) → List (Option String × Document)
  | [] => []
  | (name, value) :: rest => (some name, value.toDocument) :: toMembers rest

end

end Json

end TableAtlas
