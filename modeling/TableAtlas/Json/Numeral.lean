import TableAtlas.Json.Value

/-!
# Numbers in JSON text

Splits a number off a text and gives its value. The digits are gathered in one word of 64 bits: whole
digits that no longer fit raise the exponent, digits of a fraction that no longer fit are dropped.
The word is then scaled by powers of ten, so the last bit of a long decimal can be off.
-/

namespace TableAtlas.Json

/-- A number as it is written. -/
structure Literal where
  minus : Bool
  whole : List Nat
  fraction : Option (List Nat)
  /-- The sign of the exponent, true for minus, and its digits. -/
  exponent : Option (Bool × List Nat)

def isDigitByte (b : UInt8) : Bool :=
  '0'.toUInt8 ≤ b && b ≤ '9'.toUInt8

/-- The leading digits and the rest. -/
def spanDigits (bs : List UInt8) : List Nat × List UInt8 :=
  ((bs.takeWhile isDigitByte).map fun b => b.toNat - 48, bs.dropWhile isDigitByte)

/-- The whole digits: one zero alone, or digits that do not begin with zero. -/
def scanWhole (bs : List UInt8) : Option (List Nat × List UInt8) :=
  match spanDigits bs with
  | ([], _) => none
  | (0 :: _ :: _, _) => none
  | (digits, rest) => some (digits, rest)

def scanFraction : List UInt8 → Option (Option (List Nat) × List UInt8)
  | b :: rest =>
    if b = '.'.toUInt8 then
      match spanDigits rest with
      | ([], _) => none
      | (digits, rest) => some (some digits, rest)
    else some (none, b :: rest)
  | [] => some (none, [])

def scanExponent : List UInt8 → Option (Option (Bool × List Nat) × List UInt8)
  | b :: rest =>
    if b = 'e'.toUInt8 ∨ b = 'E'.toUInt8 then
      let (minus, rest) := match rest with
        | s :: after =>
          if s = '-'.toUInt8 then (true, after)
          else if s = '+'.toUInt8 then (false, after)
          else (false, s :: after)
        | [] => (false, [])
      match spanDigits rest with
      | ([], _) => none
      | (digits, rest) => some (some (minus, digits), rest)
    else some (none, b :: rest)
  | [] => some (none, [])

def scanMinus : List UInt8 → Bool × List UInt8
  | b :: rest => if b = '-'.toUInt8 then (true, rest) else (false, b :: rest)
  | [] => (false, [])

def scanLiteral (bs : List UInt8) : Option (Literal × List UInt8) := do
  let (minus, bs) := scanMinus bs
  let (whole, bs) ← scanWhole bs
  let (fraction, bs) ← scanFraction bs
  let (exponent, bs) ← scanExponent bs
  return (⟨minus, whole, fraction, exponent⟩, bs)

/-! ## The value -/

/-- The least number that a word no longer holds. -/
def wordLimit : Nat := Nat.pow 2 64

/-- Gathers whole digits: the word, and the count of the digits that no longer fit. -/
def gatherWhole (word : Nat) : List Nat → Nat × Nat
  | [] => (word, 0)
  | d :: rest =>
    if word * 10 + d < wordLimit then gatherWhole (word * 10 + d) rest
    else (word, (d :: rest).length)

/-- Gathers digits of a fraction: the word, and the count of the digits taken. -/
def gatherFraction (word : Nat) : List Nat → Nat × Nat
  | [] => (word, 0)
  | d :: rest =>
    if word * 10 + d < wordLimit then
      let (word', taken) := gatherFraction (word * 10 + d) rest
      (word', taken + 1)
    else (word, 0)

/-- The largest power of ten that one scaling step applies. -/
def largestPower : Nat := 308

def powerOfTen (n : Nat) : Float :=
  Float.ofScientific 1 false n

/-- Scales a float by a power of ten, `none` when the result is too large for a float. -/
def scaleByTen (x : Float) (exponent : Int) : Option Float :=
  if exponent ≥ 0 then
    if exponent.toNat ≤ largestPower then
      let y := x * powerOfTen exponent.toNat
      if y.isInf then none else some y
    else if x == 0.0 then some x else none
  else down x (-exponent).toNat
where
  /-- Divides by a power of ten, in steps of the largest power. -/
  down (x : Float) (n : Nat) : Option Float :=
    if n ≤ largestPower then some (x / powerOfTen n)
    else if x == 0.0 then some x
    else down (x / powerOfTen largestPower) (n - largestPower)
  termination_by n
  decreasing_by simp only [largestPower] at *; omega

/-- The largest exponent that is read. -/
def exponentLimit : Nat := Nat.pow 2 31

/-- The value of a literal, `none` when it is too large for a float. -/
def Literal.value? (l : Literal) : Option Number :=
  let (word, dropped) := gatherWhole 0 l.whole
  match l.fraction, l.exponent, dropped with
  | none, none, 0 =>
    if !l.minus then some (.natural word.toUInt64)
    else if word = 0 ∨ Nat.pow 2 63 < word then some (.real (-word.toUInt64.toFloat))
    else some (.negative (Int64.ofInt (-(word : Int))))
  | fraction, exponent, dropped =>
    let (word, taken) := gatherFraction word (fraction.getD [])
    let start : Int := (dropped : Int) - (taken : Int)
    let magnitude : Option Float := match exponent with
      | none => scaleByTen word.toUInt64.toFloat start
      | some (minus, digits) =>
        let e := digits.foldl (fun n d => n * 10 + d) 0
        if e < exponentLimit then
          scaleByTen word.toUInt64.toFloat (if minus then start - (e : Int) else start + (e : Int))
        else if word = 0 ∨ minus then some 0.0
        else none
    magnitude.map fun x => .real (if l.minus then -x else x)

/-- Splits a number off; its value is `none` when no float is large enough. -/
def scanNumber (bs : List UInt8) : Option (Option Number × List UInt8) :=
  (scanLiteral bs).map fun (literal, rest) => (literal.value?, rest)

end TableAtlas.Json
