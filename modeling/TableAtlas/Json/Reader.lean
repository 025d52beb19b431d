import TableAtlas.Json.Document
import TableAtlas.Json.Numeral
import TableAtlas.Text.Percent

/-!
# Reading JSON text

Reads the bytes of a text into a document. Each step hands on the bytes that are left, or `none` when
nothing can be read behind a fault.
-/

namespace TableAtlas.Json

open TableAtlas.Text (hexDigit? ofBytes?)

def isSpaceByte (b : UInt8) : Bool :=
  b = 0x20 || b = 0x09 || b = 0x0A || b = 0x0D

def skipSpace (bs : List UInt8) : List UInt8 :=
  bs.dropWhile isSpaceByte

/-! ## Strings -/

/-- A part of a string: a byte as it stands, or a code unit of 16 bits from an escape. -/
inductive Part
  | byte (b : UInt8)
  | codeUnit (n : Nat)

/-- The character behind a backslash, for the escapes of one character. -/
def shortEscape? (b : UInt8) : Option UInt8 :=
  if b = '"'.toUInt8 ∨ b = '\\'.toUInt8 ∨ b = '/'.toUInt8 then some b
  else if b = 'b'.toUInt8 then some 0x08
  else if b = 'f'.toUInt8 then some 0x0C
  else if b = 'n'.toUInt8 then some 0x0A
  else if b = 'r'.toUInt8 then some 0x0D
  else if b = 't'.toUInt8 then some 0x09
  else none

/-- Splits a string off behind its opening quote. -/
def scanString : List UInt8 → Option (List Part × List UInt8)
  | [] => none
  | b :: rest =>
    if b = '"'.toUInt8 then some ([], rest)
    else if b < 0x20 then none
    else if b = '\\'.toUInt8 then
      match rest with
      | [] => none
      | e :: rest =>
        if e = 'u'.toUInt8 then
          match rest with
          | h₃ :: h₂ :: h₁ :: h₀ :: rest =>
            match hexDigit? h₃, hexDigit? h₂, hexDigit? h₁, hexDigit? h₀ with
            | some d₃, some d₂, some d₁, some d₀ =>
              let n := ((d₃.toNat * 16 + d₂.toNat) * 16 + d₁.toNat) * 16 + d₀.toNat
              (scanString rest).map fun (parts, rest) => (.codeUnit n :: parts, rest)
            | _, _, _, _ => none
          | _ => none
        else
          match shortEscape? e with
          | some c => (scanString rest).map fun (parts, rest) => (.byte c :: parts, rest)
          | none => none
    else (scanString rest).map fun (parts, rest) => (.byte b :: parts, rest)

/-- The bytes of the parts; a code unit of a pair without its partner has none. -/
def partBytes : List Part → Option (List UInt8)
  | [] => some []
  | .byte b :: rest => (partBytes rest).map (b :: ·)
  | .codeUnit n :: rest =>
    if 0xD800 ≤ n ∧ n < 0xDC00 then
      match rest with
      | .codeUnit m :: rest =>
        if 0xDC00 ≤ m ∧ m < 0xE000 then
          let c := Char.ofNat (0x10000 + (n - 0xD800) * 0x400 + (m - 0xDC00))
          (partBytes rest).map (String.utf8EncodeChar c ++ ·)
        else none
      | _ => none
    else if 0xDC00 ≤ n ∧ n < 0xE000 then none
    else (partBytes rest).map (String.utf8EncodeChar (Char.ofNat n) ++ ·)

def stringOf? (parts : List Part) : Option String :=
  (partBytes parts).bind ofBytes?

/-! ## Values -/

/-- Removes a word from the front. -/
def dropWord (word : List Char) (bs : List UInt8) : Option (List UInt8) :=
  if (word.map Char.toUInt8).isPrefixOf bs then some (bs.drop word.length) else none

/-- The document of a word and what follows it. -/
def readWord (word : List Char) (document : Document) (bs : List UInt8) :
    Document × Option (List UInt8) :=
  match dropWord word bs with
  | some rest => (document, some rest)
  | none => (.broken, none)

mutual

/-- Reads one value. -/
def readValue : Nat → List UInt8 → Document × Option (List UInt8)
  | 0, _ => (.broken, none)
  | fuel + 1, bs =>
    match skipSpace bs with
    | [] => (.broken, none)
    | b :: rest =>
      if b = 'n'.toUInt8 then readWord ['u', 'l', 'l'] .null rest
      else if b = 't'.toUInt8 then readWord ['r', 'u', 'e'] (.bool true) rest
      else if b = 'f'.toUInt8 then readWord ['a', 'l', 's', 'e'] (.bool false) rest
      else if b = '"'.toUInt8 then
        match scanString rest with
        | some (parts, rest) => (.string (stringOf? parts), some rest)
        | none => (.broken, none)
      else if b = '['.toUInt8 then
        let (items, rest) := readItems fuel true rest
        (.array items rest.isSome, rest)
      else if b = '\x7b'.toUInt8 then
        let (members, rest) := readMembers fuel true rest
        (.object members rest.isSome, rest)
      else
        match scanNumber (b :: rest) with
        | some (n, rest) => (.number n, some rest)
        | none => (.broken, none)

/-- Reads the items of a list up to its end; a comma stands before each but the first. -/
def readItems : Nat → Bool → List UInt8 → List Document × Option (List UInt8)
  | 0, _, _ => ([], none)
  | fuel + 1, first, bs =>
    match skipSpace bs with
    | [] => ([], none)
    | b :: rest =>
      if b = ']'.toUInt8 then ([], some rest)
      else
        let next : Option (List UInt8) :=
          if first then some (b :: rest)
          else if b = ','.toUInt8 then
            match skipSpace rest with
            | [] => none
            | c :: rest => if c = ']'.toUInt8 then none else some (c :: rest)
          else none
        match next with
        | none => ([], none)
        | some bs =>
          match readValue fuel bs with
          | (item, none) => ([item], none)
          | (item, some rest) =>
            let (items, rest) := readItems fuel false rest
            (item :: items, rest)

/-- Reads the members of an object up to its end. -/
def readMembers : Nat → Bool → List UInt8 → List (Option String × Document) × Option (List UInt8)
  | 0, _, _ => ([], none)
  | fuel + 1, first, bs =>
    match skipSpace bs with
    | [] => ([], none)
    | b :: rest =>
      if b = '\x7d'.toUInt8 then ([], some rest)
      else
        let next : List UInt8 :=
          if first then b :: rest
          else if b = ','.toUInt8 then skipSpace rest
          else []
        match next with
        | [] => ([], none)
        | q :: rest =>
          if q = '"'.toUInt8 then
            match scanString rest with
            | none => ([], none)
            | some (parts, rest) =>
              let name := stringOf? parts
              match skipSpace rest with
              | [] => ([(name, .broken)], none)
              | colon :: rest =>
                if colon = ':'.toUInt8 then
                  match readValue fuel rest with
                  | (value, none) => ([(name, value)], none)
                  | (value, some rest) =>
                    let (members, rest) := readMembers fuel false rest
                    ((name, value) :: members, rest)
                else ([(name, .broken)], none)
          else ([], none)

end

/-- The document of a whole text, and whether only blanks follow it. -/
def readDocument (bs : List UInt8) : Document × Bool :=
  match readValue (2 * bs.length + 2) bs with
  | (document, some rest) => (document, (skipSpace rest).isEmpty)
  | (document, none) => (document, false)

/-- The value of a text that is JSON from its first byte to its last. -/
def read? (bs : List UInt8) : Option Json :=
  match readDocument bs with
  | (document, true) => document.value? Document.deepest
  | (_, false) => none

end TableAtlas.Json
