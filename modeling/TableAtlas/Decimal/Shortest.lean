/-!
# The shortest decimal of a binary fraction

A 64 bit float stands for every real number that rounds to it. Among the decimals that do, the
shortest has the fewest digits; of several of that length the nearest to the float counts, and of
two equally near ones the even one. All arithmetic is exact, on natural numbers.
-/

namespace TableAtlas.Decimal

/-- The positive number `digits · 10 ^ exponent`. -/
structure Numeral where
  digits : Nat
  exponent : Int
  deriving DecidableEq, Repr, Inhabited

/-- The positive binary number `mantissa · 2 ^ exponent`, `lowest` when no smaller exponent exists
and the next smaller float is as far away as the next larger one. -/
structure Binary where
  mantissa : Nat
  exponent : Int
  lowest : Bool
  deriving DecidableEq, Repr, Inhabited

/-- Decodes the 63 bits below the sign of a finite float that is not zero. -/
def Binary.ofBits (bits : UInt64) : Binary :=
  let fraction : Nat := bits.toNat % Nat.pow 2 52
  let field : Nat := bits.toNat / Nat.pow 2 52 % Nat.pow 2 11
  if field = 0 then ⟨fraction, -1074, true⟩
  else ⟨fraction + Nat.pow 2 52, (field : Int) - 1075, field = 1⟩

/-- The numerator and the denominator of `2 ^ two · 10 ^ ten`. -/
def scale (two ten : Int) : Nat × Nat :=
  (Nat.pow 2 two.toNat * Nat.pow 10 ten.toNat, Nat.pow 2 (-two).toNat * Nat.pow 10 (-ten).toNat)

/-- The count of decimal digits of a number; zero has one. -/
def digitCount (n : Nat) : Nat :=
  (Nat.toDigits 10 n).length

/-- The place of the leading digit: the `k` with `10 ^ k ≤ n / d < 10 ^ (k + 1)`. -/
def leadingPlace (n d : Nat) : Int :=
  if d ≤ n then (digitCount (n / d) : Int) - 1
  else -(digitCount ((d - 1) / n) : Int)

/--
The best decimal on the grid of the multiples of `10 ^ place`, if one of the two grid points next to
the number rounds to it. Bounds and number are counted in quarters of the last binary place.
-/
def onGrid (b : Binary) (place : Int) : Option Numeral :=
  let (n, d) := scale (b.exponent - 2) (-place)
  let value := 4 * b.mantissa * n
  let low := (4 * b.mantissa - if b.mantissa = Nat.pow 2 52 && !b.lowest then 1 else 2) * n
  let high := (4 * b.mantissa + 2) * n
  let fits (c : Nat) : Bool :=
    if b.mantissa % 2 = 0 then low ≤ c * d && c * d ≤ high else low < c * d && c * d < high
  let below := value / d
  let above := below + 1
  let nearer : Nat :=
    if 2 * value < (below + above) * d then below
    else if (below + above) * d < 2 * value then above
    else if below % 2 = 0 then below else above
  let other := if nearer = below then above else below
  if 0 < nearer && fits nearer then some ⟨nearer, place⟩
  else if 0 < other && fits other then some ⟨other, place⟩
  else none

/-- Moves trailing zeros of the digits into the exponent. -/
def stripZeros : Nat → Numeral → Numeral
  | 0, x => x
  | fuel + 1, x =>
    if x.digits % 10 = 0 && x.digits != 0 then stripZeros fuel ⟨x.digits / 10, x.exponent + 1⟩ else x

/-- The shortest decimal that rounds to the number; seventeen digits always suffice. -/
def shortest (b : Binary) : Numeral :=
  let (n, d) := scale b.exponent 0
  let top := leadingPlace (b.mantissa * n) d
  let found := (List.range 17).findSome? fun (count : Nat) => onGrid b (top - (count : Int))
  stripZeros 20 (found.getD ⟨0, 0⟩)

end TableAtlas.Decimal
