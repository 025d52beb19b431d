import TableAtlas.Json.Value

/-!
# Whole numbers in JSON

The whole number that a JSON number stands for, whatever word it is held in.
-/

namespace TableAtlas.Number

/-- The whole number that a number is, if it is not a float. -/
def toInt? : Number → Option Int
  | natural n => some n.toNat
  | negative i => some i.toInt
  | real _ => none

theorem ofInt64_eq_natural {i : Int64} {n : UInt64} (h : i.toInt = n.toNat) :
    ofInt64 i = natural n := by
  have hnonneg : 0 ≤ i := by
    rw [Int64.le_iff_toInt_le, h]
    exact Int.natCast_nonneg n.toNat
  have hword : i.toUInt64 = n := by
    rw [← UInt64.toNat_inj, Int64.toNat_toUInt64_of_le hnonneg, Int64.toNatClampNeg, h]
    exact Int.toNat_natCast n.toNat
  rw [ofInt64, if_neg (Int64.not_lt.2 hnonneg), hword]

end TableAtlas.Number
