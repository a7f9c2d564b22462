/-
Which magnitudes are beyond the floating-point format: exactly those from
`2^1024 - 2^970` up (`Extended.ofRatio_finite_iff`), half a gap above the
greatest finite number. At the midpoint itself the tie goes to `2^1024`, whose
significand is the even one.

For a decimal the answer does not depend on how many digits it is written with
(`Extended.ofDecimal_finite_iff`): the two shortcuts of reading, for magnitudes
that are zero or infinite whatever their digits are, agree with the rounding
that they spare.
-/
import RecordSchema.Proofs.Number.Binary64
import RecordSchema.Proofs.Number.Numeral

namespace RecordSchema

namespace Number

/-- To at most an odd number, exactly below the midpoint that follows it: from there a tie goes up. -/
theorem roundEven_le_odd_iff {num den j : Nat} (hd : 0 < den) (hj : j % 2 = 1) :
    roundEven num den ≤ j ↔ 2 * num < (2 * j + 1) * den := by
  have hdiv : num / den * den + num % den = num := by rw [Nat.mul_comm]; exact Nat.div_add_mod num den
  have hmod := Nat.mod_lt num hd
  have hle := le_roundEven num den
  have hge := roundEven_le num den
  have hmid : (2 * j + 1) * den = 2 * (j * den) + den := by rw [Nat.add_mul, Nat.one_mul, Nat.mul_assoc]
  rcases Nat.lt_trichotomy (num / den) j with hlt | heq | hgt
  · have hmul : (num / den + 1) * den ≤ j * den := Nat.mul_le_mul_right den hlt
    rw [Nat.succ_mul] at hmul
    exact iff_of_true (by omega) (by omega)
  · have hround : roundEven num den ≤ j ↔ 2 * (num % den) < den := by
      simp only [roundEven]
      split
      · omega
      · split
        · omega
        · rw [if_neg (by omega)]
          omega
    rw [heq] at hdiv
    rw [hround, hmid]
    omega
  · have hmul : (j + 1) * den ≤ num / den * den := Nat.mul_le_mul_right den hgt
    rw [Nat.succ_mul] at hmul
    exact iff_of_false (by omega) (by omega)

end Number

namespace Binary64

/-- The least magnitude that is rounded beyond the format. -/
def limit : Nat := 2 ^ 1024 - 2 ^ 970

theorem limit_pos : 0 < limit := by decide +kernel

theorem exists_limit_le : ∃ k, k ≤ 310 ∧ limit ≤ 10 ^ k := ⟨310, by decide +kernel⟩

/-- The quotient has a given number of bits exactly between two powers of two. -/
theorem log2_eq_of_bounds {q k : Nat} (hlo : 2 ^ k ≤ q) (hhi : q < 2 ^ (k + 1)) : q.log2 = k := by
  have hpos : 0 < 2 ^ k := Nat.two_pow_pos k
  have hne : q ≠ 0 := by omega
  have hlt := (Nat.log2_lt hne).2 hhi
  have hle := (Nat.le_log2 hne).2 hlo
  omega

theorem spacing_le_pow {q e : Nat} (h : q < 2 ^ (e + 53)) : spacing q ≤ 2 ^ e := by
  refine Nat.pow_le_pow_right (by decide) ?_
  by_cases hne : q = 0
  · subst hne
    simp
  · have hlog := (Nat.log2_lt hne).2 h
    omega

/-- No magnitude is rounded to below the greatest power of two in it. -/
theorem pow_le_div_spacing {q e : Nat} (h : 2 ^ (e + 52) ≤ q) : 2 ^ (e + 52) ≤ q / spacing q * spacing q := by
  have hpos : 0 < 2 ^ (e + 52) := Nat.two_pow_pos _
  have hne : q ≠ 0 := by omega
  have hlog := (Nat.le_log2 hne).2 h
  have hgap : 2 ^ 52 * spacing q = 2 ^ q.log2 := by
    rw [spacing, ← Nat.pow_add, show 52 + (q.log2 - 52) = q.log2 by omega]
  have hself : 2 ^ q.log2 ≤ q := Nat.log2_self_le hne
  have hdiv : 2 ^ 52 ≤ q / spacing q := (Nat.le_div_iff_mul_le (Nat.two_pow_pos _)).2 (hgap ▸ hself)
  calc 2 ^ (e + 52) ≤ 2 ^ q.log2 := Nat.pow_le_pow_right (by decide) hlog
    _ = 2 ^ 52 * spacing q := hgap.symm
    _ ≤ q / spacing q * spacing q := Nat.mul_le_mul_right _ hdiv

theorem pow_le_roundUnits {num den e : Nat} (h : 2 ^ (e + 52) ≤ num / den) :
    2 ^ (e + 52) ≤ roundUnits num den := by
  have hround := Number.le_roundEven num (den * spacing (num / den))
  rw [← Nat.div_div_eq_div_mul] at hround
  rw [roundUnits_eq]
  exact Nat.le_trans (pow_le_div_spacing h) (Nat.mul_le_mul_right _ hround)

/-- A magnitude is rounded to below a power of two exactly below the midpoint under the power. -/
theorem roundUnits_lt_pow_iff {num den : Nat} (hd : 0 < den) (e : Nat) :
    roundUnits num den < 2 ^ (e + 54) ↔ num < (2 ^ 54 - 1) * (2 ^ e * den) := by
  have hpos : 0 < 2 ^ e := Nat.two_pow_pos e
  have hpow : 2 ^ (e + 54) = 2 ^ 54 * 2 ^ e := by rw [Nat.pow_add, Nat.mul_comm]
  have hhalf : 2 ^ (e + 53) = 2 ^ 53 * 2 ^ e := by rw [Nat.pow_add, Nat.mul_comm]
  rcases Nat.lt_or_ge (num / den) (2 ^ (e + 53)) with hsmall | hlarge
  · -- Below the last power of two before it a magnitude is nowhere near.
    have hgap := spacing_le_pow hsmall
    have hself : num / den / spacing (num / den) * spacing (num / den) ≤ num / den := Nat.div_mul_le_self ..
    have hround := Number.roundEven_le num (den * spacing (num / den))
    rw [← Nat.div_div_eq_div_mul] at hround
    replace hround := Nat.mul_le_mul_right (spacing (num / den)) hround
    rw [Nat.succ_mul, ← roundUnits_eq] at hround
    have hnum := (Nat.div_lt_iff_lt_mul hd).1 hsmall
    rw [hhalf, Nat.mul_assoc] at hnum
    exact iff_of_true (by omega) (by omega)
  rcases Nat.lt_or_ge (num / den) (2 ^ (e + 54)) with hmiddle | hhuge
  · -- Between the two powers the gap is known, and the multiple of it below the power is odd.
    have hgap : spacing (num / den) = 2 * 2 ^ e := by
      rw [spacing, log2_eq_of_bounds hlarge hmiddle, show e + 53 - 52 = e + 1 by omega, Nat.pow_succ,
        Nat.mul_comm]
    have hden : den * (2 * 2 ^ e) = 2 * (2 ^ e * den) := by rw [Nat.mul_comm, Nat.mul_assoc]
    have hround : Number.roundEven num (den * (2 * 2 ^ e)) ≤ 2 ^ 53 - 1 ↔
        2 * num < (2 * (2 ^ 53 - 1) + 1) * (den * (2 * 2 ^ e)) :=
      Number.roundEven_le_odd_iff (Nat.mul_pos hd (by omega)) (by decide)
    have hscale : 2 ^ (e + 54) = 2 ^ 53 * (2 * 2 ^ e) := by omega
    rw [roundUnits_eq, hgap, hscale, Nat.mul_lt_mul_right (by omega)]
    rw [hden] at hround ⊢
    omega
  · have hround : 2 ^ (e + 54) ≤ roundUnits num den := pow_le_roundUnits (e := e + 2) hhuge
    have hnum := (Nat.le_div_iff_mul_le hd).1 hhuge
    rw [hpow, Nat.mul_assoc] at hnum
    exact iff_of_false (by omega) (by omega)

theorem roundUnits_lt_overflow_iff {num den : Nat} (hd : 0 < den) :
    roundUnits (num * one) den < overflow ↔ num < limit * den := by
  -- As a literal, the exponent would be evaluated.
  obtain ⟨e, hoverflow, hlimit⟩ : ∃ e, overflow = 2 ^ (e + 54) ∧ (2 ^ 54 - 1) * 2 ^ e = limit * one :=
    ⟨2044, by decide +kernel⟩
  have hunits : (2 ^ 54 - 1) * (2 ^ e * den) = limit * den * one := by
    rw [← Nat.mul_assoc, hlimit, Nat.mul_right_comm]
  rw [hoverflow, roundUnits_lt_pow_iff hd, hunits]
  exact Nat.mul_lt_mul_right one_pos

end Binary64

namespace Extended

/-- **Which magnitudes the format holds**: those below the limit, whatever quotient they are given as. -/
theorem ofRatio_finite_iff {negative : Bool} {num den : Nat} (hd : 0 < den) :
    (ofRatio negative num den).finite?.isSome = true ↔ num < Binary64.limit * den := by
  rw [← Binary64.roundUnits_lt_overflow_iff hd]
  simp only [ofRatio]
  split
  · next h => exact iff_of_true rfl h
  · next h => exact iff_of_false (by simp [finite?]) h

end Extended

namespace Text

theorem decimalLength_eq (n : Nat) : decimalLength n = if n < 10 then 1 else decimalLength (n / 10) + 1 := by
  rw [decimalLength, decimal, Nat.toDigits_eq_if (by decide)]
  split
  · rfl
  · rw [List.length_append, List.length_singleton]
    rfl

theorem lt_pow_decimalLength (n : Nat) : n < 10 ^ decimalLength n := by
  induction n using Nat.strongRecOn with
  | ind n ih =>
    rw [decimalLength_eq]
    split
    · next h => exact h
    · next h =>
      have hquot := ih (n / 10) (by omega)
      rw [Nat.pow_succ]
      omega

theorem pow_decimalLength_le {n : Nat} (h : n ≠ 0) : 10 ^ (decimalLength n - 1) ≤ n := by
  induction n using Nat.strongRecOn with
  | ind n ih =>
    rw [decimalLength_eq]
    split
    · next hlt =>
      rw [Nat.sub_self, Nat.pow_zero]
      exact Nat.pos_of_ne_zero h
    · next hge =>
      have hquot := ih (n / 10) (by omega) (by omega)
      have hlength : 0 < decimalLength (n / 10) := List.length_pos_iff.2 (decimal_ne_nil _)
      have hsucc : decimalLength (n / 10) + 1 - 1 = decimalLength (n / 10) - 1 + 1 := by omega
      rw [hsucc, Nat.pow_succ]
      omega

end Text

namespace Extended

/-- **Which decimals the format holds**, digits over a power of ten, however many digits they have. -/
theorem ofDecimal_finite_iff {negative : Bool} {digits places : Nat} :
    (ofDecimal negative digits (-places)).finite?.isSome = true ↔ digits < Binary64.limit * 10 ^ places := by
  have hpos : 0 < 10 ^ places := Nat.pow_pos (by decide)
  have hlimit := Binary64.limit_pos
  have hlength := Text.lt_pow_decimalLength digits
  simp only [ofDecimal]
  split
  · next hzero =>
    have hbelow : digits < 10 ^ places := by
      simp only [Bool.or_eq_true, decide_eq_true_eq] at hzero
      rcases hzero with rfl | hsize
      · exact hpos
      · exact Nat.lt_of_lt_of_le hlength (Nat.pow_le_pow_right (by decide) (by omega))
    have hle : 10 ^ places ≤ Binary64.limit * 10 ^ places := Nat.le_mul_of_pos_left _ hlimit
    exact iff_of_true ((ofRatio_finite_iff (by decide)).2 (by omega)) (by omega)
  · next hzero =>
    simp only [Bool.or_eq_true, decide_eq_true_eq, not_or] at hzero
    split
    · next hsize =>
      obtain ⟨k, hk, hle⟩ := Binary64.exists_limit_le
      have hge : 10 ^ k * 10 ^ places ≤ digits := by
        rw [← Nat.pow_add]
        exact Nat.le_trans (Nat.pow_le_pow_right (by decide) (by omega)) (Text.pow_decimalLength_le hzero.1)
      have hmul := Nat.mul_le_mul_right (10 ^ places) hle
      exact iff_of_false nofun (by omega)
    · split
      · rw [ofRatio_finite_iff (Nat.pow_pos (by decide))]
        simp
      · next hsign =>
        have hplaces : places = 0 := by omega
        subst hplaces
        rw [ofRatio_finite_iff (by decide)]
        simp

end Extended

end RecordSchema
