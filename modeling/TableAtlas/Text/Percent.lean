/-!
# Percent encoding

Decoding of a path segment of a URI: `%41` stands for the byte `0x41`. A `%` that two hexadecimal
digits do not follow stands for itself, and so does `+`.
-/

namespace TableAtlas.Text

/-- The value of a hexadecimal digit in either case. -/
def hexDigit? (b : UInt8) : Option UInt8 :=
  if '0'.toUInt8 ≤ b ∧ b ≤ '9'.toUInt8 then some (b - '0'.toUInt8)
  else if 'a'.toUInt8 ≤ b ∧ b ≤ 'f'.toUInt8 then some (b - 'a'.toUInt8 + 10)
  else if 'A'.toUInt8 ≤ b ∧ b ≤ 'F'.toUInt8 then some (b - 'A'.toUInt8 + 10)
  else none

def percentDecodeBytes : List UInt8 → List UInt8
  | [] => []
  | b :: high :: low :: rest =>
    if b = '%'.toUInt8 then
      match hexDigit? high, hexDigit? low with
      | some h, some l => (h * 16 + l) :: percentDecodeBytes rest
      | _, _ => b :: percentDecodeBytes (high :: low :: rest)
    else b :: percentDecodeBytes (high :: low :: rest)
  | b :: rest => b :: percentDecodeBytes rest

/-- The text that bytes hold in UTF-8. -/
def ofBytes? (bs : List UInt8) : Option String :=
  String.fromUTF8? ⟨bs.toArray⟩

/-- The UTF-8 bytes of a text. -/
def toBytes (s : String) : List UInt8 :=
  s.toUTF8.toList

/-- The text of an encoded segment, unless its bytes are no UTF-8. -/
def percentDecode? (s : String) : Option String :=
  ofBytes? (percentDecodeBytes (toBytes s))

end TableAtlas.Text
