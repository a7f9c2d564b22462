/-
The number that a decimal stands for, and that decimals are put in the order
of these numbers whatever scales they have (`compare_eq_cmp`).
-/
import RecordSchema.Proofs.Number.Decimal
import Mathlib.Algebra.Order.Field.Power
import Mathlib.Data.Rat.Cast.Order
import Mathlib.Order.Compare
import Mathlib.Tactic.Positivity

namespace RecordSchema

namespace Decimal

/-- The exact value. -/
def value (d : Decimal) : ℚ := d.unscaled * (10 : ℚ) ^ (-d.scale)

variable {d x y : Decimal} {s : Int}

/-- The integer over a power of ten is the value times that power. -/
theorem atScale_eq (h : d.scale ≤ s) : (d.atScale s : ℚ) = d.value * (10 : ℚ) ^ s := by
  have hpow : ((10 : Int) ^ (s - d.scale).toNat : ℚ) = (10 : ℚ) ^ (-d.scale) * (10 : ℚ) ^ s := by
    rw [← zpow_add₀ (by decide), Int.cast_ofNat, ← zpow_natCast]
    congr 1
    omega
  rw [atScale, value, Int.cast_mul, Int.cast_pow, hpow, mul_assoc]

/-- The order of decimals is that of their values. -/
theorem compare_eq_cmp (x y : Decimal) : x.compare y = cmp x.value y.value := by
  have hpow : (0 : ℚ) < (10 : ℚ) ^ max x.scale y.scale := by positivity
  calc x.compare y
      = cmp (x.atScale (max x.scale y.scale)) (y.atScale (max x.scale y.scale)) := (cmp_eq_compare ..).symm
    _ = cmp (x.atScale (max x.scale y.scale) : ℚ) (y.atScale (max x.scale y.scale)) :=
        (Int.cast_strictMono.cmp_map_eq ..).symm
    _ = cmp (x.value * (10 : ℚ) ^ max x.scale y.scale) (y.value * (10 : ℚ) ^ max x.scale y.scale) := by
        rw [atScale_eq (Int.le_max_left ..), atScale_eq (Int.le_max_right ..)]
    _ = cmp x.value y.value := cmp_mul_pos_right hpow ..

/-- Decimals of one value compare alike. -/
theorem compare_congr (h : x.value = y.value) (z : Decimal) :
    z.compare x = z.compare y ∧ x.compare z = y.compare z := by
  rw [compare_eq_cmp, compare_eq_cmp, compare_eq_cmp, compare_eq_cmp, h]
  exact ⟨rfl, rfl⟩

theorem compare_ne_gt_iff : x.compare y ≠ .gt ↔ x.value ≤ y.value := by
  rw [compare_eq_cmp, ne_eq, cmp_eq_gt_iff, not_lt]

theorem compare_ne_lt_iff : x.compare y ≠ .lt ↔ y.value ≤ x.value := by
  rw [compare_eq_cmp, ne_eq, cmp_eq_lt_iff, not_lt]

/-- Two decimals are the same if they have one value. -/
theorem same_iff : x.same y = true ↔ x.value = y.value := by
  rw [same, beq_iff_eq, compare_eq_cmp, cmp_eq_eq_iff]

/-- Rounding to a scale that leaves all places keeps the value. -/
theorem value_round (h : d.scale ≤ s) : (d.round s).value = d.value := by
  rw [round_eq h, value, atScale_eq h, mul_assoc, ← zpow_add₀ (by decide), add_neg_cancel, zpow_zero, mul_one]

end Decimal

end RecordSchema
