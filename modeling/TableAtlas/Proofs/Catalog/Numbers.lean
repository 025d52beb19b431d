import Mathlib.Algebra.Order.Floor.Semifield
import Mathlib.Data.Rat.Floor
import TableAtlas.Catalog.Cell

/-!
# Numbers in cells

What number a cell gives. A whole number from zero up is given as it is, another number from zero up is
rounded down and cut to 64 bits, and a text gives the number that it writes between blanks
(`Json.cellNatural?_eq_some_iff`). A finite float is read as a number `m · 2ᵉ`.
-/

namespace TableAtlas

/-! ## Numerals -/

namespace Text

/-- Digits that write a number, with or without a plus in front. -/
def Numeral (cs : List Char) (n : Nat) : Prop :=
  ∃ digits, digits ≠ [] ∧ (∀ c ∈ digits, c.isDigit) ∧ (cs = digits ∨ cs = '+' :: digits) ∧
    digitsValue digits = n

theorem readDigits_eq_some_iff {cs : List Char} {n : Nat} :
    readDigits cs = some n ↔ cs ≠ [] ∧ (∀ c ∈ cs, c.isDigit) ∧ digitsValue cs = n := by
  simp [readDigits, and_assoc]

theorem numeral_iff {cs : List Char} {n : Nat} :
    Numeral cs n ↔ readDigits (match cs with | '+' :: rest => rest | cs => cs) = some n := by
  rw [readDigits_eq_some_iff]
  constructor
  · rintro ⟨digits, hne, hdigits, rfl | rfl, hvalue⟩
    · split
      · exact absurd (hdigits '+' List.mem_cons_self) (by decide)
      · exact ⟨hne, hdigits, hvalue⟩
    · exact ⟨hne, hdigits, hvalue⟩
  · rintro ⟨hne, hdigits, hvalue⟩
    refine ⟨_, hne, hdigits, ?_, hvalue⟩
    split
    · exact .inr rfl
    · exact .inl rfl

theorem readUnsigned64_eq_some_iff {s : String} {n : UInt64} :
    readUnsigned64 s = some n ↔ Numeral s.toList n.toNat := by
  have hread : readUnsigned64 s = some n ↔
      ∃ value, readDigits (match s.toList with | '+' :: rest => rest | cs => cs) = some value ∧
        value < UInt64.size ∧ UInt64.ofNat value = n := by
    rw [readUnsigned64]
    split
    · next value hvalue =>
      rw [Option.ite_none_right_eq_some, Option.some.injEq]
      constructor
      · exact fun h => ⟨value, hvalue, h⟩
      · rintro ⟨value', hvalue', h⟩
        obtain rfl := Option.some.inj (hvalue.symm.trans hvalue')
        exact h
    · next hnone =>
      refine iff_of_false nofun ?_
      rintro ⟨value, hvalue, -⟩
      cases hnone.symm.trans hvalue
  rw [hread, numeral_iff]
  constructor
  · rintro ⟨value, hvalue, hlt, rfl⟩
    rw [UInt64.toNat_ofNat_of_lt' hlt]
    exact hvalue
  · exact fun hvalue => ⟨n.toNat, hvalue, n.toNat_lt, UInt64.ofNat_toNat⟩

end Text

/-! ## Floats -/

section Floats

open Float.Model (UnpackedFloat)
open Float.Model.UnpackedFloat (ExtendedMantissa Sign roundToInt)

/-- The number that a float stands for; an infinite one stands for none. -/
def floatValue? (x : Float) : Option ℚ :=
  match x.toModel.unpack with
  | .zero _ => some 0
  | .finite sign mantissa exponent _ => some (sign.apply mantissa * 2 ^ exponent)
  | .infinity _ => none
  | .notANumber => none

theorem mantissa_shiftRight (m : ExtendedMantissa) (k : Nat) :
    (m >>> k).mantissa = m.mantissa / 2 ^ k := by
  induction k with
  | zero => exact (Nat.div_one _).symm
  | succ k ih =>
    show (m >>> k).mantissa / 2 = _
    rw [ih, Nat.div_div_eq_div_mul, Nat.pow_succ]

theorem roundToInt_eq (sign : Sign) (mantissa : Nat) (exponent : Int) :
    roundToInt sign mantissa exponent = sign.apply ⌊(mantissa : ℚ) * 2 ^ exponent⌋₊ := by
  show sign.apply (ExtendedMantissa.mantissa (_ >>> _)) = _
  rw [mantissa_shiftRight]
  -- To the left by the exponent, and then to the right by what it is below zero.
  show sign.apply ((mantissa <<< (exponent - 0).toNat /
    2 ^ (0 - (exponent - (exponent - 0).toNat)).toNat : Nat) : Int) = _
  congr 2
  obtain ⟨k, rfl | rfl⟩ := exponent.eq_nat_or_neg
  · have hleft : ((k : Int) - 0).toNat = k := by omega
    have hright : (0 - ((k : Int) - k)).toNat = 0 := by omega
    rw [hleft, hright, Nat.shiftLeft_eq, Nat.pow_zero, Nat.div_one, zpow_natCast]
    exact_mod_cast (Nat.floor_natCast (R := ℚ) (mantissa * 2 ^ k)).symm
  · have hleft : (-(k : Int) - 0).toNat = 0 := by omega
    have hright : (0 - (-(k : Int) - (0 : Nat))).toNat = k := by omega
    rw [hleft, hright, Nat.shiftLeft_zero, zpow_neg, zpow_natCast, ← div_eq_mul_inv]
    exact_mod_cast (Nat.floor_div_eq_div (K := ℚ) mantissa (2 ^ k)).symm

theorem pos_of_positive {mantissa : Nat} (h : 0 < mantissa) (exponent : Int) :
    (0 : ℚ) < (Sign.positive.apply mantissa : Int) * 2 ^ exponent :=
  mul_pos (Int.cast_pos.2 (Int.natCast_pos.2 h)) (zpow_pos two_pos _)

theorem neg_of_negative {mantissa : Nat} (h : 0 < mantissa) (exponent : Int) :
    (Sign.negative.apply mantissa : Int) * 2 ^ exponent < (0 : ℚ) :=
  mul_neg_of_neg_of_pos (Int.cast_lt_zero.2 (Int.neg_neg_of_pos (Int.natCast_pos.2 h)))
    (zpow_pos two_pos _)

theorem toNat_ofNatClamp (n : Nat) : (UInt64.ofNatClamp n).toNat = min n (UInt64.size - 1) := by
  unfold UInt64.ofNatClamp
  split
  · next hlt =>
    rw [UInt64.toNat_ofNatLT]
    omega
  · next hge =>
    rw [UInt64.toNat_ofNatLT]
    omega

/-- A float that stands for a number from zero up is rounded down, and cut to 64 bits. -/
theorem toNat_toUInt64 {x : Float} {q : ℚ} (h : floatValue? x = some q) (hq : 0 ≤ q) :
    x.toUInt64.toNat = min ⌊q⌋₊ (UInt64.size - 1) := by
  show (UInt64.ofNatClamp (UnpackedFloat.toInt 0 (UInt64.size - 1) x.toModel.unpack).toNat).toNat = _
  rw [toNat_ofNatClamp]
  congr 1
  unfold floatValue? at h
  cases hx : x.toModel.unpack with
  | zero sign =>
    rw [hx] at h
    obtain rfl := Option.some.inj h
    rw [Nat.floor_zero]
    rfl
  | finite sign mantissa exponent hpos =>
    rw [hx] at h
    obtain rfl := Option.some.inj h
    show (roundToInt sign mantissa exponent).toNat = _
    rw [roundToInt_eq]
    cases sign with
    | positive => simp [Sign.apply]
    | negative => exact absurd hq (not_le.2 (neg_of_negative hpos exponent))
  | infinity sign =>
    rw [hx] at h
    cases h
  | notANumber =>
    rw [hx] at h
    cases h

theorem toNat_toUInt64_of_infinite {x : Float} (h : x.toModel.unpack = .infinity .positive) :
    x.toUInt64.toNat = UInt64.size - 1 := by
  show (UnpackedFloat.toUInt64 x.toModel.unpack).toNat = _
  rw [h]
  rfl

theorem unpack_zero : (0.0 : Float).toModel.unpack = .zero .positive := by rfl

theorem zero_le_iff {x : Float} :
    x ≥ 0.0 ↔ (∃ q, floatValue? x = some q ∧ 0 ≤ q) ∨ x.toModel.unpack = .infinity .positive := by
  have hle : x ≥ 0.0 ↔ UnpackedFloat.le (.zero .positive) x.toModel.unpack = true := by
    rw [← unpack_zero]
    exact decide_eq_true_iff
  rw [hle, floatValue?]
  cases x.toModel.unpack with
  | zero sign => exact iff_of_true rfl (.inl ⟨0, rfl, le_refl 0⟩)
  | finite sign mantissa exponent hpos =>
    cases sign with
    | positive => exact iff_of_true rfl (.inl ⟨_, rfl, (pos_of_positive hpos exponent).le⟩)
    | negative =>
      refine iff_of_false nofun ?_
      rintro (⟨q, hvalue, hq⟩ | hinfinite)
      · obtain rfl := Option.some.inj hvalue
        exact absurd hq (not_le.2 (neg_of_negative hpos exponent))
      · cases hinfinite
  | infinity sign =>
    cases sign with
    | positive => exact iff_of_true rfl (.inr rfl)
    | negative =>
      refine iff_of_false nofun ?_
      rintro (⟨q, hvalue, -⟩ | hinfinite)
      · cases hvalue
      · cases hinfinite
  | notANumber =>
    refine iff_of_false nofun ?_
    rintro (⟨q, hvalue, -⟩ | hinfinite)
    · cases hvalue
    · cases hinfinite

end Floats

/-! ## Cells -/

namespace Json

/-- The number that a cell gives, of 64 bits. -/
inductive Gives : Json → UInt64 → Prop
  | natural (n : UInt64) : Gives (.number (.natural n)) n
  /-- A number from zero up is rounded down, and cut to 64 bits. -/
  | real {x : Float} {q : ℚ} {n : UInt64} (hvalue : floatValue? x = some q) (hq : 0 ≤ q)
    (hn : n.toNat = min ⌊q⌋₊ (UInt64.size - 1)) : Gives (.number (.real x)) n
  | infinite {x : Float} {n : UInt64} (hx : x.toModel.unpack = .infinity .positive)
    (hn : n.toNat = UInt64.size - 1) : Gives (.number (.real x)) n
  | numeral {s : String} {n : UInt64} (h : Text.Numeral (Text.trim s).toList n.toNat) :
    Gives (.string s) n

theorem cellNatural?_real_eq_some_iff {x : Float} {n : UInt64} :
    cellNatural? (.number (.real x)) = some n ↔ Gives (.number (.real x)) n := by
  rw [cellNatural?, Option.ite_none_right_eq_some, zero_le_iff, Option.some.injEq]
  constructor
  · rintro ⟨⟨q, hvalue, hq⟩ | hx, rfl⟩
    · exact .real hvalue hq (toNat_toUInt64 hvalue hq)
    · exact .infinite hx (toNat_toUInt64_of_infinite hx)
  · rintro (_ | ⟨hvalue, hq, hn⟩ | ⟨hx, hn⟩)
    · refine ⟨.inl ⟨_, hvalue, hq⟩, UInt64.toNat_inj.1 ?_⟩
      rw [hn, toNat_toUInt64 hvalue hq]
    · refine ⟨.inr hx, UInt64.toNat_inj.1 ?_⟩
      rw [hn, toNat_toUInt64_of_infinite hx]

theorem cellNatural?_eq_some_iff {value : Json} {n : UInt64} :
    value.cellNatural? = some n ↔ value.Gives n := by
  match value with
  | .number (.natural m) =>
    rw [cellNatural?, Option.some.injEq]
    constructor
    · rintro rfl
      exact .natural m
    · intro h
      cases h
      rfl
  | .number (.negative i) => exact iff_of_false nofun nofun
  | .number (.real x) => exact cellNatural?_real_eq_some_iff
  | .string s =>
    rw [cellNatural?, Text.readUnsigned64_eq_some_iff]
    constructor
    · exact .numeral
    · intro h
      cases h with
      | numeral h => exact h
  | .null => exact iff_of_false nofun nofun
  | .bool _ => exact iff_of_false nofun nofun
  | .array _ => exact iff_of_false nofun nofun
  | .object _ => exact iff_of_false nofun nofun

example : (number (.real 7.9)).Gives 7 := cellNatural?_eq_some_iff.1 (by decide +kernel)

example : (string " +07 ").Gives 7 := cellNatural?_eq_some_iff.1 (by decide +kernel)

end Json

end TableAtlas
