import TableAtlas.Json.Document
import TableAtlas.Json.Printer
import TableAtlas.Text.Printable

/-!
# Why a document is refused

The faults of a document that is read as a typed value, where in the document they are, and their
wording.
-/

namespace TableAtlas.Codec

/-- What stands in the place of the wanted value. -/
inductive Found
  | null
  | bool (b : Bool)
  | number (n : Number)
  | string (s : String)
  | sequence
  | map

inductive Reason
  /-- The text is not JSON, or breaks off. -/
  | malformed
  | missingField (name : String)
  | duplicateField (name : String)
  /-- A choice among names got another name. -/
  | unknownVariant (given : String) (known : List String)
  /-- A value of another kind. -/
  | invalidType (found : Found) (wanted : String)
  /-- A value of the right kind that is out of range. -/
  | invalidValue (found : Found) (wanted : String)
  | invalidLength (length : Nat) (wanted : String)
  /-- A value that is none of the shapes of a type. -/
  | noShape (type : String)

/-- One step from a value to a part of it. -/
inductive Step
  | member (name : String)
  | item (index : Nat)
  deriving DecidableEq

structure Problem where
  path : List Step
  reason : Reason

def Problem.within (step : Step) (p : Problem) : Problem :=
  { p with path := step :: p.path }

/-- A problem of the value at hand. -/
def Reason.here (r : Reason) : Problem :=
  ⟨[], r⟩

/-! ## Wording -/

/-- A name between backticks. -/
def ticked (s : String) : String :=
  "\x60" ++ s ++ "\x60"

def Found.text : Found → String
  | null => "null"
  | bool b => "boolean " ++ ticked (if b then "true" else "false")
  | number (.real x) => "floating point " ++ ticked (Decimal.floatText x)
  | number n => "integer " ++ ticked (Json.numberText n)
  | string s => "string " ++ Text.quoteText s
  | sequence => "sequence"
  | map => "map"

/-- `a`, `a or b`, or `one of a, b, c`. -/
def alternatives : List String → String
  | [] => ""
  | [a] => ticked a
  | [a, b] => ticked a ++ " or " ++ ticked b
  | names => "one of " ++ String.intercalate ", " (names.map ticked)

def Reason.text : Reason → String
  | malformed => "<malformed JSON>"
  | missingField name => "missing field " ++ ticked name
  | duplicateField name => "duplicate field " ++ ticked name
  | unknownVariant given known =>
    "unknown variant " ++ ticked given ++ ", expected " ++ alternatives known
  | invalidType found wanted => "invalid type: " ++ found.text ++ ", expected " ++ wanted
  | invalidValue found wanted => "invalid value: " ++ found.text ++ ", expected " ++ wanted
  | invalidLength length wanted => s!"invalid length {length}, expected " ++ wanted
  | noShape type => "data did not match any variant of untagged enum " ++ type

/-- The path as it is written: names behind points, positions in brackets. -/
def pathText : List Step → String
  | [] => ""
  | .member name :: rest => name ++ tail rest
  | .item index :: rest => s!"[{index}]" ++ tail rest
where
  tail : List Step → String
    | [] => ""
    | .member name :: rest => "." ++ name ++ tail rest
    | .item index :: rest => s!"[{index}]" ++ tail rest

end TableAtlas.Codec
