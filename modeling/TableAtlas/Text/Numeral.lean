/-!
# Decimal numerals

Whole numbers written in ASCII digits. An optional `+` may stand in front, and for signed numbers a
`-`; blanks, separators and numbers out of range are refused.
-/

namespace TableAtlas.Text

/-- The number that digits write, most significant first. -/
def digitsValue (cs : List Char) : Nat :=
  cs.foldl (fun n c => n * 10 + (c.toNat - '0'.toNat)) 0

/-- Reads one or more ASCII digits. -/
def readDigits (cs : List Char) : Option Nat :=
  if cs.isEmpty || !cs.all Char.isDigit then none else some (digitsValue cs)

def readUnsigned64 (s : String) : Option UInt64 :=
  let digits := match s.toList with
    | '+' :: rest => rest
    | cs => cs
  match readDigits digits with
  | some n => if n < UInt64.size then some (UInt64.ofNat n) else none
  | none => none

def readSigned64 (s : String) : Option Int64 :=
  let (magnitude, value) : Option Nat × (Nat → Int) := match s.toList with
    | '-' :: rest => (readDigits rest, fun n => -n)
    | '+' :: rest => (readDigits rest, fun n => n)
    | cs => (readDigits cs, fun n => n)
  match magnitude with
  | some n =>
    let i := value n
    if Int64.minValue.toInt ≤ i ∧ i ≤ Int64.maxValue.toInt then some (Int64.ofInt i) else none
  | none => none

end TableAtlas.Text
