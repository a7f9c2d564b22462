/-
How far rounding moves a magnitude: by less than the magnitude and one unit
more, so that no integer of JSON rounds to an infinity (`Extended.ofInt_finite`).
And what is left of a magnitude once its fraction is cut off.
-/
import RecordSchema.Json.Value

namespace RecordSchema

namespace Binary64

theorem spacing_le (u : Nat) : spacing u ≤ u + 1 := by
  by_cases h0 : u = 0
  · subst h0; decide
  · have hlog : 2 ^ u.log2 ≤ u := Nat.log2_self_le h0
    have hpow : 2 ^ (u.log2 - 52) ≤ 2 ^ u.log2 := Nat.pow_le_pow_right (by decide) (Nat.sub_le ..)
    exact Nat.le_succ_of_le (Nat.le_trans hpow hlog)

theorem roundUnits_le (num den : Nat) : roundUnits num den ≤ 2 * (num / den) + 1 := by
  rw [roundUnits_eq]
  generalize hu : num / den = u
  have hround := Number.roundEven_le num (den * spacing u)
  rw [← Nat.div_div_eq_div_mul, hu] at hround
  have hdiv : u / spacing u * spacing u ≤ u := Nat.div_mul_le_self ..
  calc Number.roundEven num (den * spacing u) * spacing u
      ≤ (u / spacing u + 1) * spacing u := Nat.mul_le_mul_right _ hround
    _ = u / spacing u * spacing u + spacing u := by rw [Nat.add_mul, Nat.one_mul]
    _ ≤ 2 * u + 1 := by have := spacing_le u; omega

theorem one_pos : 0 < one := by
  -- As a literal, the exponent would be evaluated.
  obtain ⟨k, hk⟩ : ∃ k, one = 2 ^ k := ⟨1074, rfl⟩
  rw [hk]
  exact Nat.two_pow_pos k

theorem mul_pow_lt {a b c : Nat} (h : a + b < c) : 2 ^ a * 2 ^ b < 2 ^ c := by
  rw [← Nat.pow_add]
  exact Nat.pow_lt_pow_right (by decide) h

theorem natAbs_truncate (x : Binary64) : x.truncate.natAbs = x.units / one := by
  unfold truncate
  split
  · rw [Int.natAbs_neg, Int.natAbs_natCast]
  · rw [Int.natAbs_natCast]

end Binary64

/-- The integers of JSON are far from the end of the format. -/
theorem Extended.ofInt_finite {n : Int} (h : -(Number.int64Bound : Int) ≤ n ∧ n < Number.uint64Bound) :
    ∃ x, Extended.ofInt n = .finite x := by
  have hn : n.natAbs ≤ 2 ^ 64 := by
    simp only [Number.int64Bound, Number.uint64Bound] at h
    omega
  have hover : 2 ^ 66 * Binary64.one < Binary64.overflow := by
    unfold Binary64.one Binary64.overflow
    exact Binary64.mul_pow_lt (a := 66) (b := 1074) (c := 2098) (by decide)
  have hu : Binary64.roundUnits (n.natAbs * Binary64.one) 1 < Binary64.overflow := by
    have hround := Binary64.roundUnits_le (n.natAbs * Binary64.one) 1
    rw [Nat.div_one] at hround
    have hmul : n.natAbs * Binary64.one ≤ 2 ^ 64 * Binary64.one := Nat.mul_le_mul_right Binary64.one hn
    have hone := Binary64.one_pos
    omega
  simp only [Extended.ofInt, Extended.ofRatio]
  split
  · exact ⟨_, rfl⟩
  · next h => exact absurd hu h

end RecordSchema
