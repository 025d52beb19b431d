import TableAtlas.Decimal.Shortest

/-!
# Writing floats

The text of a finite float: its shortest decimal, always with a fraction or an exponent, so that it
is told from a whole number. Powers of ten from `1e-5` up to below `1e16` are written without an
exponent; an exponent has a sign when it is positive too.
-/

namespace TableAtlas.Decimal

/-- The least power of ten that is written without an exponent. -/
def leastPositional : Int := -5

/-- The least power of ten above that is written with an exponent again. -/
def firstScientific : Int := 16

/-- The digits without an exponent: `0.001`, `12.5`, `100.0`. -/
def positional (digits : List Char) (exponent : Int) : List Char :=
  if 0 ≤ exponent then digits ++ List.replicate exponent.toNat '0' ++ ['.', '0']
  else
    let places := (-exponent).toNat
    if digits.length ≤ places then
      ['0', '.'] ++ List.replicate (places - digits.length) '0' ++ digits
    else digits.take (digits.length - places) ++ ['.'] ++ digits.drop (digits.length - places)

/-- The digits with one digit before the point and an exponent: `1e-7`, `1.5e+30`. -/
def scientific (digits : List Char) (leading : Int) : List Char :=
  let mantissa := match digits with
    | [] => []
    | [d] => [d]
    | d :: rest => d :: '.' :: rest
  let sign := if leading < 0 then '-' else '+'
  mantissa ++ ['e', sign] ++ Nat.toDigits 10 leading.natAbs

def Numeral.text (x : Numeral) : List Char :=
  let digits := Nat.toDigits 10 x.digits
  let leading := x.exponent + digits.length - 1
  if leastPositional ≤ leading ∧ leading < firstScientific then positional digits x.exponent
  else scientific digits leading

/-- The text of a finite float; the sign of zero is kept. -/
def floatText (x : Float) : String :=
  let bits := x.toBits
  let magnitude := bits.toNat % Nat.pow 2 63
  let text := if magnitude = 0 then ['0', '.', '0'] else (shortest (Binary.ofBits bits)).text
  String.ofList (if bits.toNat < Nat.pow 2 63 then text else '-' :: text)

end TableAtlas.Decimal
