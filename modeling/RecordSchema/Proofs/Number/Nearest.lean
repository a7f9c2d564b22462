/-
Rounding to the multiples of a unit, as a relation: to the nearest one and, of
two that are equally near, to the one further from zero.

The relation is enough to order what it relates (`Nearest.mono`), so no more than
one number is the nearest. Rounding a decimal to a scale gives the nearest
multiple of that scale's last place (`Decimal.nearest_round`).
-/
import RecordSchema.Proofs.Number.Overflow
import RecordSchema.Proofs.Number.Value
import Mathlib.Algebra.Order.Archimedean.Basic
import Mathlib.Tactic.FieldSimp
import Mathlib.Tactic.Linarith
import Mathlib.Tactic.Ring

namespace RecordSchema

/-- A multiple of the unit is nearest to `q`, and no other is as near and further from zero. -/
structure Nearest (unit q p : ℚ) : Prop where
  multiple : ∃ n : Int, p = n * unit
  nearest : ∀ n : Int, |q - p| < |q - n * unit| ∨ |q - p| = |q - n * unit| ∧ |n * unit| ≤ |p|

namespace Nearest

variable {unit q q' p p' : ℚ}

/-- A point that is as near to `p` as to a smaller number is not below the middle. -/
theorem mid_le (hlt : p' < p) (h : |q - p| ≤ |q - p'|) : (p' + p) / 2 ≤ q := by
  by_contra hq
  rw [not_le] at hq
  rcases abs_cases (q - p) with ⟨hp, _⟩ | ⟨hp, _⟩ <;> rcases abs_cases (q - p') with ⟨hp', _⟩ | ⟨hp', _⟩ <;>
    rw [hp, hp'] at h <;> linarith

/-- A point that is as near to `p'` as to a greater number is not above the middle. -/
theorem le_mid (hlt : p' < p) (h : |q - p'| ≤ |q - p|) : q ≤ (p' + p) / 2 := by
  by_contra hq
  rw [not_le] at hq
  rcases abs_cases (q - p) with ⟨hp, _⟩ | ⟨hp, _⟩ <;> rcases abs_cases (q - p') with ⟨hp', _⟩ | ⟨hp', _⟩ <;>
    rw [hp, hp'] at h <;> linarith

theorem abs_sub_le (h : Nearest unit q p) (n : Int) : |q - p| ≤ |q - n * unit| :=
  (h.nearest n).elim le_of_lt fun h => le_of_eq h.1

/-- Of two multiples in the same distance the nearest is not nearer to zero. -/
theorem abs_le_of_eq (h : Nearest unit q p) {n : Int} (heq : |q - p| = |q - n * unit|) : |n * unit| ≤ |p| :=
  (h.nearest n).elim (fun hlt => absurd heq (ne_of_lt hlt)) fun h => h.2

/-- **Rounding keeps the order.** If a smaller number had the greater result, both would be in the middle of the two
results, which would be opposite numbers since neither is nearer to zero; but then zero is nearer than both. -/
theorem mono (h : Nearest unit q p) (h' : Nearest unit q' p') (hle : q ≤ q') : p ≤ p' := by
  by_contra hlt
  rw [not_le] at hlt
  obtain ⟨n, hn⟩ := h.multiple
  obtain ⟨n', hn'⟩ := h'.multiple
  have hlow := mid_le hlt (hn' ▸ h.abs_sub_le n')
  have hhigh := le_mid hlt (hn ▸ h'.abs_sub_le n)
  have hq : q = (p' + p) / 2 := by linarith
  have hq' : q' = (p' + p) / 2 := by linarith
  have hdist : |q - p| = |q - p'| := by
    rw [hq, show (p' + p) / 2 - p = -((p' + p) / 2 - p') by ring, abs_neg]
  have habs : |p| = |p'| := by
    refine le_antisymm ?_ ?_
    · have hdist' : |q' - p'| = |q' - n * unit| := by rw [hq', ← hq, ← hn, hdist]
      exact hn ▸ h'.abs_le_of_eq hdist'
    · exact hn' ▸ h.abs_le_of_eq (hn' ▸ hdist)
  have hneg : p = -p' := (abs_eq_abs.1 habs).resolve_left (ne_of_gt hlt)
  have hzero := h.abs_sub_le 0
  have hq0 : q = 0 := by rw [hq, hneg]; ring
  rw [hq0, Int.cast_zero, zero_mul, sub_self, abs_zero, zero_sub, abs_neg] at hzero
  have hp0 : p = 0 := abs_eq_zero.1 (le_antisymm hzero (abs_nonneg p))
  rw [hp0] at hneg hlt
  linarith

theorem unique (h : Nearest unit q p) (h' : Nearest unit q p') : p = p' :=
  le_antisymm (h.mono h' le_rfl) (h'.mono h le_rfl)

/-- A multiple is the nearest to itself. -/
theorem self (unit : ℚ) (n : Int) : Nearest unit (n * unit) (n * unit) := by
  refine ⟨⟨n, rfl⟩, fun m => ?_⟩
  rw [sub_self, abs_zero]
  rcases eq_or_ne ((n : ℚ) * unit) (m * unit) with h | h
  · exact .inr ⟨by rw [h, sub_self, abs_zero], by rw [h]⟩
  · exact .inl (abs_pos.2 (sub_ne_zero.2 h))

theorem neg (h : Nearest unit q p) : Nearest unit (-q) (-p) := by
  obtain ⟨n, rfl⟩ := h.multiple
  refine ⟨⟨-n, by push_cast; ring⟩, fun m => ?_⟩
  have hflip : |q - (-m : Int) * unit| = |-q - m * unit| := by
    rw [← abs_neg]
    congr 1
    push_cast
    ring
  have hsize : |((-m : Int) : ℚ) * unit| = |m * unit| := by
    push_cast
    rw [neg_mul, abs_neg]
  have hdist : |-q - -(n * unit)| = |q - n * unit| := by
    rw [← abs_neg]
    congr 1
    ring
  have hm := h.nearest (-m)
  rwa [hflip, hsize, ← hdist, ← abs_neg (n * unit)] at hm

/-- The rule of halves, for a number that is not negative. -/
theorem of_half {x : ℚ} {n : Nat} (hunit : 0 < unit) (hx : 0 ≤ x) (hlo : (n : ℚ) - 1 / 2 ≤ x) (hhi : x < n + 1 / 2) :
    Nearest unit (x * unit) (n * unit) := by
  refine ⟨⟨n, by push_cast; rfl⟩, fun m => ?_⟩
  have hfactor : ∀ y : ℚ, |x * unit - y * unit| = |x - y| * unit := by
    intro y
    rw [← sub_mul, abs_mul, abs_of_pos hunit]
  have hnear : |x - n| ≤ 1 / 2 := abs_le.2 ⟨by linarith, by linarith⟩
  rw [hfactor, hfactor]
  rcases lt_trichotomy m n with hm | rfl | hm
  · -- Below the result a multiple is as near only at a half, and is then the one nearer to zero.
    have hbelow : (m : ℚ) + 1 ≤ n := by exact_mod_cast hm
    have hfar : 1 / 2 ≤ |x - m| := le_abs.2 (.inl (by linarith))
    rcases lt_or_eq_of_le (hnear.trans hfar) with hlt | heq
    · exact .inl (mul_lt_mul_of_pos_right hlt hunit)
    · have hnonneg : 0 ≤ m := by
        by_contra hneg
        have hneg : (m : ℚ) + 1 ≤ 0 := by exact_mod_cast not_le.1 hneg
        have hfar : 1 / 2 < |x - m| := lt_abs.2 (.inl (by linarith))
        exact absurd heq (ne_of_lt (lt_of_le_of_lt hnear hfar))
      have hsize : |(m : ℚ)| ≤ |(n : ℚ)| := by
        rw [abs_of_nonneg (by exact_mod_cast hnonneg), abs_of_nonneg (Nat.cast_nonneg n)]
        exact_mod_cast le_of_lt hm
      refine .inr ⟨by rw [heq], ?_⟩
      rw [abs_mul, abs_mul]
      exact mul_le_mul_of_nonneg_right hsize (abs_nonneg unit)
  · exact .inr ⟨rfl, le_rfl⟩
  · have habove : (n : ℚ) + 1 ≤ m := by exact_mod_cast hm
    have hfar : 1 / 2 < |x - m| := lt_abs.2 (.inr (by linarith))
    exact .inl (mul_lt_mul_of_pos_right (lt_of_le_of_lt hnear hfar) hunit)

end Nearest

namespace Decimal

variable {d : Decimal} {s : Int}

/-- Rounding a magnitude is adding a half and leaving the fraction out, also where nothing is left of it. -/
theorem roundAway_eq (n places : Nat) : roundAway n places = (2 * n + 10 ^ places) / (2 * 10 ^ places) := by
  unfold roundAway
  split
  · next hlt =>
    have hpow : 10 ^ (Text.decimalLength n + 1) ≤ 10 ^ places := Nat.pow_le_pow_right (by decide) hlt
    have hlength := Text.lt_pow_decimalLength n
    rw [Nat.pow_succ] at hpow
    exact (Nat.div_eq_of_lt (by omega)).symm
  · rfl

/-- What rounding away makes of a magnitude is at most a half below it, and less than a half above. -/
theorem roundAway_bounds (n places : Nat) :
    (roundAway n places : ℚ) - 1 / 2 ≤ n / 10 ^ places ∧ (n : ℚ) / 10 ^ places < roundAway n places + 1 / 2 := by
  have hpos : (0 : ℚ) < 10 ^ places := by positivity
  have hlow := Nat.div_mul_le_self (2 * n + 10 ^ places) (2 * 10 ^ places)
  have hhigh := Nat.lt_div_mul_add (a := 2 * n + 10 ^ places) (b := 2 * 10 ^ places) (by positivity)
  rw [← roundAway_eq] at hlow hhigh
  have hlow : (roundAway n places : ℚ) * (2 * 10 ^ places) ≤ 2 * n + 10 ^ places := by exact_mod_cast hlow
  have hhigh : 2 * (n : ℚ) + 10 ^ places < roundAway n places * (2 * 10 ^ places) + 2 * 10 ^ places := by
    exact_mod_cast hhigh
  rw [le_div_iff₀ hpos, div_lt_iff₀ hpos]
  constructor <;> linarith

/-- **Rounding a decimal gives the nearest multiple of the last place that it keeps**, a half going away from zero. -/
theorem nearest_round (d : Decimal) (s : Int) : Nearest ((10 : ℚ) ^ (-s)) d.value (d.round s).value := by
  have hexact : ∀ n : Int, d.value = n * (10 : ℚ) ^ (-s) → (d.round s).value = d.value →
      Nearest ((10 : ℚ) ^ (-s)) d.value (d.round s).value := by
    intro n hn hround
    rw [hround, hn]
    exact .self _ n
  rcases le_or_gt d.scale s with hscale | hscale
  · have hmultiple : d.value = d.atScale s * (10 : ℚ) ^ (-s) := by
      rw [atScale_eq hscale, mul_assoc, ← zpow_add₀ (by decide), add_neg_cancel, zpow_zero, mul_one]
    exact hexact _ hmultiple (value_round hscale)
  · by_cases hzero : d.unscaled = 0
    · refine hexact 0 (by simp [value, hzero]) ?_
      simp [round, value, hzero]
    · generalize hplaces : (d.scale - s).toNat = places
      have hnearest : Nearest ((10 : ℚ) ^ (-s)) (d.unscaled.natAbs / 10 ^ places * (10 : ℚ) ^ (-s))
          (roundAway d.unscaled.natAbs places * (10 : ℚ) ^ (-s)) := by
        obtain ⟨hlo, hhi⟩ := roundAway_bounds d.unscaled.natAbs places
        exact .of_half (by positivity) (by positivity) hlo hhi
      have hunit : (10 : ℚ) ^ (-d.scale) = (10 : ℚ) ^ (-s) / 10 ^ places := by
        rw [← zpow_natCast, ← zpow_sub₀ (by decide)]
        congr 1
        omega
      have hround : (d.round s).value =
          (if d.unscaled < 0 then -(roundAway d.unscaled.natAbs places : ℚ) else roundAway d.unscaled.natAbs places) *
            (10 : ℚ) ^ (-s) := by
        rw [round, if_neg hzero, if_neg (not_le.2 hscale), hplaces, value]
        push_cast
        rfl
      have hvalue : d.value = d.unscaled / 10 ^ places * (10 : ℚ) ^ (-s) := by
        rw [value, hunit]
        ring
      rw [hround, hvalue]
      split
      · next hneg =>
        have hint : (d.unscaled : ℚ) = -(d.unscaled.natAbs : ℚ) := by
          rw [Nat.cast_natAbs, abs_of_neg hneg, Int.cast_neg, neg_neg]
        rw [hint, neg_div, neg_mul, neg_mul]
        exact hnearest.neg
      · next hpos =>
        have hint : (d.unscaled : ℚ) = d.unscaled.natAbs := by
          rw [Nat.cast_natAbs, abs_of_nonneg (not_lt.1 hpos)]
        rw [hint]
        exact hnearest

end Decimal

end RecordSchema
