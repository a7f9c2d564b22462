/-
The size of the shortest decimal of a magnitude.

A grid that is searched has the power of ten at or below the magnitude on it, and
the one above, so the points next to the magnitude are between these two, and
a hit is the upper one only if that reads back as the magnitude. Neither
`0.00001` nor `10^16` reads back as any smaller number of the format. So plain
notation is for exactly the magnitudes from the one up to below the other
(`Binary64.plain_lead_iff`).
-/
import RecordSchema.Number.Shortest
import RecordSchema.Proofs.Number.Overflow
import Mathlib.Algebra.Order.Field.Power
import Mathlib.Data.Rat.Cast.Order
import Mathlib.Tactic.FieldSimp
import Mathlib.Tactic.Linarith
import Mathlib.Tactic.Positivity
import Mathlib.Tactic.Ring

namespace RecordSchema

theorem Text.decimalLength_pos (n : Nat) : 0 < Text.decimalLength n := List.length_pos_iff.2 (Text.decimal_ne_nil n)

namespace Number

namespace Scientific

variable {d : Scientific} {k : Int}

/-- The number itself. -/
def value (d : Scientific) : ℚ := d.digits * (10 : ℚ) ^ d.exponent

/-- The exponent of the first digit. -/
def lead (d : Scientific) : Int := d.exponent + Text.decimalLength d.digits - 1

theorem pow_lead_le (h : d.digits ≠ 0) : (10 : ℚ) ^ d.lead ≤ d.value := by
  have hlength := Text.decimalLength_pos d.digits
  have hdigits : ((10 ^ (Text.decimalLength d.digits - 1) : Nat) : ℚ) ≤ d.digits := by
    exact_mod_cast Text.pow_decimalLength_le h
  calc (10 : ℚ) ^ d.lead = (10 ^ (Text.decimalLength d.digits - 1) : Nat) * (10 : ℚ) ^ d.exponent := by
        push_cast
        rw [← zpow_natCast, ← zpow_add₀ (by decide), lead]
        congr 1
        omega
    _ ≤ d.value := mul_le_mul_of_nonneg_right hdigits (by positivity)

theorem lt_pow_lead (d : Scientific) : d.value < (10 : ℚ) ^ (d.lead + 1) := by
  have hdigits : (d.digits : ℚ) < (10 ^ Text.decimalLength d.digits : Nat) := by
    exact_mod_cast Text.lt_pow_decimalLength d.digits
  calc d.value < (10 ^ Text.decimalLength d.digits : Nat) * (10 : ℚ) ^ d.exponent :=
        mul_lt_mul_of_pos_right hdigits (by positivity)
    _ = (10 : ℚ) ^ (d.lead + 1) := by
        push_cast
        rw [← zpow_natCast, ← zpow_add₀ (by decide), lead]
        congr 1
        omega

/-- Where the first digit stands says which powers of ten the number reaches. -/
theorem le_lead_iff (h : d.digits ≠ 0) : k ≤ d.lead ↔ (10 : ℚ) ^ k ≤ d.value := by
  constructor
  · exact fun hk => (zpow_le_zpow_right₀ (by norm_num) hk).trans (pow_lead_le h)
  · intro hk
    have hlt := (zpow_lt_zpow_iff_right₀ (by norm_num)).1 (hk.trans_lt (lt_pow_lead d))
    omega

/-- Without the zeros at its end it is the same number. -/
theorem stripZeros_spec (fuel : Nat) (h : d.digits ≠ 0) : (d.stripZeros fuel).value = d.value ∧
    (d.stripZeros fuel).digits ≠ 0 ∧ d.exponent ≤ (d.stripZeros fuel).exponent := by
  induction fuel generalizing d with
  | zero => exact ⟨rfl, h, Int.le_refl _⟩
  | succ fuel ih =>
    rw [stripZeros]
    split
    · next hzero =>
      simp only [Bool.and_eq_true, decide_eq_true_eq] at hzero
      obtain ⟨hvalue, hne, hle⟩ := ih (d := ⟨d.digits / 10, d.exponent + 1⟩) (show d.digits / 10 ≠ 0 by omega)
      have hdigits : (d.digits : ℚ) = (d.digits / 10 : Nat) * 10 := by
        exact_mod_cast (Nat.div_mul_cancel (Nat.dvd_of_mod_eq_zero hzero.1)).symm
      refine ⟨?_, hne, (Int.le_add_one (Int.le_refl _)).trans hle⟩
      rw [hvalue, value, value, zpow_add_one₀ (by decide), hdigits]
      ring
    · exact ⟨rfl, h, Int.le_refl _⟩

/-- The fraction that a decimal is compared as. -/
theorem quarters_spec (d : Scientific) :
    0 < d.quarters.2 ∧ (d.quarters.1 : ℚ) = 4 * Binary64.one * d.value * d.quarters.2 := by
  unfold quarters value
  split
  · next hneg =>
    refine ⟨Nat.pow_pos (by decide), ?_⟩
    have hpow : (10 : ℚ) ^ d.exponent * (10 : ℚ) ^ d.exponent.natAbs = 1 := by
      rw [← zpow_natCast, ← zpow_add₀ (by decide), show d.exponent + d.exponent.natAbs = 0 by omega, zpow_zero]
    push_cast
    rw [mul_assoc (4 * (Binary64.one : ℚ)), mul_assoc (d.digits : ℚ), hpow, mul_one]
  · next hpos =>
    refine ⟨Nat.one_pos, ?_⟩
    have hpow : (10 : ℚ) ^ d.exponent = (10 : ℚ) ^ d.exponent.natAbs := by
      rw [← zpow_natCast, show (d.exponent.natAbs : Int) = d.exponent by omega]
    push_cast
    rw [hpow, mul_one, mul_assoc]

end Scientific

end Number

namespace Binary64

open Number

variable {u v : Nat} {d : Scientific} {e k : Int}

-- Or else the elaborator would try to evaluate the power of two.
attribute [local irreducible] one

/-- The magnitude of so many units. -/
def magnitude (u : Nat) : ℚ := u / one

theorem one_pos_rat : (0 : ℚ) < one := by exact_mod_cast one_pos

/-! ## Neighbours -/

/-- What reads back is not above the middle of the gap that follows. -/
theorem le_of_readsBack (h : readsBack u d = true) : 2 * one * d.value ≤ 2 * u + spacing u := by
  obtain ⟨hden, hnum⟩ := d.quarters_spec
  have hle : d.quarters.1 ≤ (4 * u + 2 * spacing u) * d.quarters.2 := by
    simp only [readsBack, window] at h
    split at h
    · exact of_decide_eq_true ((Bool.and_eq_true_iff.1 h).2)
    · exact Nat.le_of_lt (of_decide_eq_true (Bool.and_eq_true_iff.1 h).2)
  have hle : (d.quarters.1 : ℚ) ≤ (4 * u + 2 * spacing u) * d.quarters.2 := by exact_mod_cast hle
  rw [hnum] at hle
  have hunits := le_of_mul_le_mul_right hle (by exact_mod_cast hden)
  linarith

theorem gridBelow_spec (u : Nat) (e : Int) : (gridBelow u e).1.exponent = e ∧ (gridBelow u e).1.value ≤ magnitude u ∧
    magnitude u < ((gridBelow u e).1.digits + 1 : Nat) * (10 : ℚ) ^ e := by
  have hfloor : ∀ num step : Nat, 0 < step → (num : ℚ) / step = magnitude u * (10 : ℚ) ^ (-e) →
      (num / step : Nat) * (10 : ℚ) ^ e ≤ magnitude u ∧ magnitude u < (num / step + 1 : Nat) * (10 : ℚ) ^ e := by
    intro num step hstep hratio
    have hpos : (0 : ℚ) < (10 : ℚ) ^ e := by positivity
    have hstep' : (0 : ℚ) < step := by exact_mod_cast hstep
    have hmagnitude : magnitude u = num / step * (10 : ℚ) ^ e := by
      rw [hratio, mul_assoc, ← zpow_add₀ (by decide), neg_add_cancel, zpow_zero, mul_one]
    have hlow : ((num / step : Nat) : ℚ) ≤ num / step := by
      rw [le_div_iff₀ hstep']
      exact_mod_cast Nat.div_mul_le_self num step
    have hhigh : (num : ℚ) / step < (num / step + 1 : Nat) := by
      rw [div_lt_iff₀ hstep', ← Nat.cast_mul, Nat.succ_mul]
      exact_mod_cast Nat.lt_div_mul_add hstep
    rw [hmagnitude]
    exact ⟨mul_le_mul_of_nonneg_right hlow hpos.le, mul_lt_mul_of_pos_right hhigh hpos⟩
  refine ⟨rfl, ?_⟩
  simp only [gridBelow, Scientific.value]
  by_cases he : e < 0
  · rw [if_pos he, if_pos he]
    refine hfloor _ _ one_pos ?_
    rw [magnitude, show -e = (e.natAbs : Int) by omega, zpow_natCast]
    push_cast
    ring
  · rw [if_neg he, if_neg he]
    refine hfloor _ _ (Nat.mul_pos one_pos (Nat.pow_pos (by decide))) ?_
    obtain ⟨n, rfl⟩ := Int.eq_ofNat_of_zero_le (not_lt.1 he)
    rw [magnitude, zpow_neg, zpow_natCast, Int.natAbs_natCast]
    push_cast
    rw [← div_div, div_eq_mul_inv]

/-- A hit on a grid is the point below the magnitude, or it is the one above and reads back. -/
theorem onGrid?_cases (h : onGrid? u e = some d) : d = (gridBelow u e).1 ∨
    d = ⟨(gridBelow u e).1.digits + 1, e⟩ ∧ readsBack u d = true := by
  simp only [onGrid?] at h
  split at h
  · cases h
  · cases h
    exact .inl rfl
  · next habove =>
    cases h
    exact .inr ⟨rfl, habove⟩
  · next habove =>
    split at h
    · cases h
      exact .inl rfl
    · split at h
      · cases h
        exact .inr ⟨rfl, habove⟩
      · split at h
        · cases h
          exact .inl rfl
        · cases h
          exact .inr ⟨rfl, habove⟩

/-! ## Powers of ten -/

/-- From one on it is the whole part that is measured. -/
theorem decimalLength_whole_spec (h : one ≤ u) : 10 ^ (Text.decimalLength (u / one) - 1) * one ≤ u ∧
    u < 10 ^ Text.decimalLength (u / one) * one := by
  have hwhole : u / one ≠ 0 := Nat.ne_of_gt (Nat.div_pos h one_pos)
  constructor
  · exact (Nat.mul_le_mul_right _ (Text.pow_decimalLength_le hwhole)).trans (Nat.div_mul_le_self ..)
  · exact (Nat.div_lt_iff_lt_mul one_pos).1 (Text.lt_pow_decimalLength _)

/-- Below one it is the reciprocal, rounded up, less one. -/
theorem decimalLength_reciprocal_spec {m : Nat} (h0 : u ≠ 0) (h : u < one) (hm : (one + u - 1) / u - 1 = m) :
    one ≤ 10 ^ Text.decimalLength m * u ∧ 10 ^ (Text.decimalLength m - 1) * u < one := by
  have hpos := Nat.pos_of_ne_zero h0
  have hdiv := Nat.div_mul_le_self (one + u - 1) u
  have hmod := Nat.lt_div_mul_add (a := one + u - 1) hpos
  have hquot : (one + u - 1) / u = m + 1 := by
    have hone : 1 ≤ (one + u - 1) / u := (Nat.le_div_iff_mul_le hpos).2 (by omega)
    omega
  rw [hquot, Nat.succ_mul] at hdiv hmod
  have hne : m ≠ 0 := by
    rintro rfl
    omega
  constructor
  · have hlength := Nat.mul_le_mul_right u (Text.lt_pow_decimalLength m)
    rw [Nat.succ_mul] at hlength
    omega
  · have hlength := Nat.mul_le_mul_right u (Text.pow_decimalLength_le hne)
    omega

/-- The lead exponent of a magnitude is that of the greatest power of ten in it. -/
theorem leadExponent_spec (h : u ≠ 0) :
    (10 : ℚ) ^ leadExponent u ≤ magnitude u ∧ magnitude u < (10 : ℚ) ^ (leadExponent u + 1) := by
  have hone := one_pos_rat
  have hu : (0 : ℚ) < u := by exact_mod_cast Nat.pos_of_ne_zero h
  unfold leadExponent magnitude
  split
  · next hle =>
    obtain ⟨hlow, hhigh⟩ := decimalLength_whole_spec hle
    have hpred : (Text.decimalLength (u / one) : Int) - 1 = (Text.decimalLength (u / one) - 1 : Nat) := by
      have hlength := Text.decimalLength_pos (u / one)
      omega
    rw [le_div_iff₀ hone, div_lt_iff₀ hone, sub_add_cancel, zpow_natCast, hpred, zpow_natCast]
    exact ⟨by exact_mod_cast hlow, by exact_mod_cast hhigh⟩
  · next hlt =>
    generalize hm : (one + u - 1) / u - 1 = m
    obtain ⟨hlow, hhigh⟩ := decimalLength_reciprocal_spec h (not_le.1 hlt) hm
    have hpred : -(Text.decimalLength m : Int) + 1 = -((Text.decimalLength m - 1 : Nat) : Int) := by
      have hlength := Text.decimalLength_pos m
      omega
    constructor
    · rw [zpow_neg, zpow_natCast, le_div_iff₀ hone, inv_mul_le_iff₀ (by positivity)]
      exact_mod_cast hlow
    · rw [hpred, zpow_neg, zpow_natCast, div_lt_iff₀ hone, lt_inv_mul_iff₀ (by positivity)]
      exact_mod_cast hhigh

/-- A decimal is between the powers of ten around a magnitude. It is the upper one only if that is not above the middle
of the gap behind the magnitude. -/
structure Leads (u : Nat) (d : Scientific) : Prop where
  digits : d.digits ≠ 0
  exponent : leadExponent u - 16 ≤ d.exponent
  least : (10 : ℚ) ^ leadExponent u ≤ d.value
  greatest : d.value < (10 : ℚ) ^ (leadExponent u + 1) ∨
    d.value = (10 : ℚ) ^ (leadExponent u + 1) ∧ 2 * one * d.value ≤ 2 * u + spacing u

theorem Leads.stripZeros (h : Leads u d) (fuel : Nat) : Leads u (d.stripZeros fuel) := by
  obtain ⟨hvalue, hdigits, hexponent⟩ := Scientific.stripZeros_spec fuel h.digits
  refine ⟨hdigits, h.exponent.trans hexponent, ?_, ?_⟩ <;> rw [hvalue]
  · exact h.least
  · exact h.greatest

/-- A power of ten is on every finer grid. -/
theorem exists_pow_eq (he : e ≤ k) : ∃ n : Nat, (10 : ℚ) ^ k = n * (10 : ℚ) ^ e := by
  refine ⟨10 ^ (k - e).toNat, ?_⟩
  push_cast
  rw [← zpow_natCast, ← zpow_add₀ (by decide)]
  congr 1
  omega

theorem leads_below (h : u ≠ 0) (he : leadExponent u - 16 ≤ e) (he' : e ≤ leadExponent u) :
    Leads u (gridBelow u e).1 := by
  obtain ⟨hexponent, hlow, hhigh⟩ := gridBelow_spec u e
  obtain ⟨hleast, hgreatest⟩ := leadExponent_spec h
  have hpos : (0 : ℚ) < (10 : ℚ) ^ e := by positivity
  have hpow : (10 : ℚ) ^ leadExponent u ≤ (gridBelow u e).1.value := by
    obtain ⟨n, hn⟩ := exists_pow_eq he'
    rw [hn] at hleast
    have hlt : n < (gridBelow u e).1.digits + 1 := by
      exact_mod_cast lt_of_mul_lt_mul_right (hleast.trans_lt hhigh) hpos.le
    rw [hn, Scientific.value, hexponent]
    exact mul_le_mul_of_nonneg_right (by exact_mod_cast Nat.le_of_lt_succ hlt) hpos.le
  refine ⟨fun hzero => ?_, hexponent ▸ he, hpow, .inl (hlow.trans_lt hgreatest)⟩
  rw [Scientific.value, hzero, Nat.cast_zero, zero_mul] at hpow
  exact absurd hpow (not_le.2 (by positivity))

theorem leads_of_onGrid? (h : u ≠ 0) (he : leadExponent u - 16 ≤ e) (he' : e ≤ leadExponent u)
    (hd : onGrid? u e = some d) : Leads u d := by
  have hbelow := leads_below h he he'
  rcases onGrid?_cases hd with rfl | ⟨rfl, hreads⟩
  · exact hbelow
  · obtain ⟨hexponent, hlow, hhigh⟩ := gridBelow_spec u e
    obtain ⟨n, hn⟩ := exists_pow_eq (show e ≤ leadExponent u + 1 by omega)
    have hpos : (0 : ℚ) < (10 : ℚ) ^ e := by positivity
    have hvalue : Scientific.value ⟨(gridBelow u e).1.digits + 1, e⟩ =
        ((gridBelow u e).1.digits + 1 : Nat) * (10 : ℚ) ^ e := rfl
    -- The upper power of ten is on the grid and above the point below, so not below the next one.
    have hlt : (gridBelow u e).1.digits < n := by
      have hvalue := hlow.trans_lt (leadExponent_spec h).2
      rw [hn, Scientific.value, hexponent] at hvalue
      exact_mod_cast lt_of_mul_lt_mul_right hvalue hpos.le
    have hle : Scientific.value ⟨(gridBelow u e).1.digits + 1, e⟩ ≤ (10 : ℚ) ^ (leadExponent u + 1) := by
      rw [hn, hvalue]
      exact mul_le_mul_of_nonneg_right (by exact_mod_cast hlt) hpos.le
    refine ⟨Nat.succ_ne_zero _, he, ?_, ?_⟩
    · exact (leadExponent_spec h).1.trans (hvalue ▸ hhigh.le)
    · exact hle.lt_or_eq.imp_right fun heq => ⟨heq, le_of_readsBack hreads⟩

theorem searchGrids_succ (u fuel n : Nat) : searchGrids u (fuel + 1) n =
    match onGrid? u (leadExponent u - (n : Int) + 1) with
    | some d => some d
    | none => searchGrids u fuel (n + 1) := by rfl

theorem leads_of_searchGrids (h : u ≠ 0) {fuel n : Nat} (hn : 1 ≤ n) (hfuel : fuel + n ≤ 18)
    (hd : searchGrids u fuel n = some d) : Leads u d := by
  induction fuel generalizing n with
  | zero => cases hd
  | succ fuel ih =>
    rw [searchGrids_succ] at hd
    split at hd
    · next hgrid =>
      cases hd
      exact leads_of_onGrid? h (by omega) (by omega) hgrid
    · exact ih (by omega) (by omega) hd

theorem leads_shortest (h : u ≠ 0) : Leads u (shortest u) := by
  rw [shortest, if_neg h]
  split
  · next hd => exact (leads_of_searchGrids h (by decide) (by decide) hd).stripZeros 17
  · exact leads_below h (Int.le_refl _) (by omega)

/-- A power of ten that is not below the middle of a gap reads back as nothing smaller. -/
theorem Leads.pow_le_iff (h : Leads u d) (h0 : u ≠ 0)
    (hk : magnitude u < (10 : ℚ) ^ k → (2 * u + spacing u : ℚ) < 2 * one * (10 : ℚ) ^ k) :
    (10 : ℚ) ^ k ≤ d.value ↔ (10 : ℚ) ^ k ≤ magnitude u := by
  obtain ⟨hleast, hgreatest⟩ := leadExponent_spec h0
  constructor
  · intro hle
    by_contra hlt
    rw [not_le] at hlt
    have hlead := (zpow_lt_zpow_iff_right₀ (by norm_num)).1 (hleast.trans_lt hlt)
    have hnext : (10 : ℚ) ^ (leadExponent u + 1) ≤ (10 : ℚ) ^ k := zpow_le_zpow_right₀ (by norm_num) (by omega)
    rcases h.greatest with hd | ⟨hd, hmiddle⟩
    · exact absurd (hle.trans_lt hd) (not_lt.2 hnext)
    · have hvalue : d.value = (10 : ℚ) ^ k := le_antisymm (hd.trans_le hnext) hle
      rw [hvalue] at hmiddle
      exact absurd (hk hlt) (not_lt.2 hmiddle)
  · intro hle
    have hlead := (zpow_lt_zpow_iff_right₀ (by norm_num)).1 (hle.trans_lt hgreatest)
    exact (zpow_le_zpow_right₀ (by norm_num) (by omega)).trans h.least

/-! ## Where plain notation ends -/

theorem log2_le_of_le (h : u ≤ v) : u.log2 ≤ v.log2 := by
  by_cases hu : u = 0
  · rw [hu]
    exact Nat.zero_le _
  · exact (Nat.le_log2 (by omega)).2 ((Nat.log2_self_le hu).trans h)

/-- A greater number of the format is at least a gap away. -/
theorem add_spacing_le (hu : Representable u) (hv : Representable v) (h : u < v) : u + spacing u ≤ v := by
  have hspacing : spacing u ∣ spacing v := Nat.pow_dvd_pow 2 (Nat.sub_le_sub_right (log2_le_of_le h.le) 52)
  have hdvd : spacing u ∣ v - u := Nat.dvd_sub (hspacing.trans hv.2) hu.2
  have hle := Nat.le_of_dvd (by omega) hdvd
  omega

/-- A point above the middle of the gap that it is in is above the middle of the gap behind every number below it. -/
theorem below_middle {p num den : Nat} {x : ℚ} (hden : 0 < den) (hx : one * x = num / den) (hp : Representable p)
    (hmiddle : (2 * p + spacing p) * den < 2 * num) (hnext : num ≤ (p + spacing p) * den) (hu : Representable u)
    (h : magnitude u < x) : (2 * u + spacing u : ℚ) < 2 * one * x := by
  have hden' : (0 : ℚ) < den := by exact_mod_cast hden
  have hlt : u * den < num := by
    rw [magnitude, div_lt_iff₀ one_pos_rat, mul_comm, hx, lt_div_iff₀ hden'] at h
    exact_mod_cast h
  have hle : 2 * u + spacing u ≤ 2 * p + spacing p := by
    have hbelow : u < p + spacing p := Nat.lt_of_mul_lt_mul_right (hlt.trans_le hnext)
    rcases Nat.lt_trichotomy u p with hup | rfl | hpu
    · have hgap := add_spacing_le hu hp hup
      omega
    · exact Nat.le_refl _
    · have hgap := add_spacing_le hp hu hpu
      omega
  have hunits : (2 * u + spacing u) * den < 2 * num := (Nat.mul_le_mul_right den hle).trans_lt hmiddle
  rw [mul_assoc, hx, ← mul_div_assoc, lt_div_iff₀ hden']
  exact_mod_cast hunits

/-- The nearest number to `0.00001` is not below it. -/
theorem below_pow_neg_five (hu : Representable u) (h : magnitude u < (10 : ℚ) ^ (-5 : Int)) :
    (2 * u + spacing u : ℚ) < 2 * one * (10 : ℚ) ^ (-5 : Int) := by
  obtain ⟨p, hp, hmiddle, hnext⟩ : ∃ p, Representable p ∧ (2 * p + spacing p) * 10 ^ 5 < 2 * one ∧
      one ≤ (p + spacing p) * 10 ^ 5 := ⟨one / 10 ^ 5 / 2 ^ 1005 * 2 ^ 1005, by decide +kernel⟩
  have hx : (one : ℚ) * (10 : ℚ) ^ (-5 : Int) = one / (10 ^ 5 : Nat) := by
    rw [zpow_neg, ← div_eq_mul_inv]
    norm_num
  exact below_middle (by decide) hx hp hmiddle hnext hu h

/-- The format has `10^16`. -/
theorem below_pow_sixteen (hu : Representable u) (h : magnitude u < (10 : ℚ) ^ (16 : Int)) :
    (2 * u + spacing u : ℚ) < 2 * one * (10 : ℚ) ^ (16 : Int) := by
  obtain ⟨p, hp, hmiddle, hnext⟩ : ∃ p, Representable p ∧ (2 * p + spacing p) * 1 < 2 * (10 ^ 16 * one) ∧
      10 ^ 16 * one ≤ (p + spacing p) * 1 := ⟨(10 ^ 16 - 2) * one, by decide +kernel⟩
  have hx : (one : ℚ) * (10 : ℚ) ^ (16 : Int) = (10 ^ 16 * one : Nat) / (1 : Nat) := by
    push_cast
    rw [div_one, mul_comm]
  exact below_middle (by decide) hx hp hmiddle hnext hu h

/-- **The shortest digits start at a place from the fifth behind the point to the sixteenth in front of it exactly if
the magnitude is from `0.00001` up to below `10^16`.** -/
theorem plain_lead_iff (hu : Representable u) (h0 : u ≠ 0) :
    (-5 ≤ (shortest u).lead ∧ (shortest u).lead ≤ 15) ↔ one ≤ u * 10 ^ 5 ∧ u < 10 ^ 16 * one := by
  have hleads := leads_shortest h0
  have hlow : -5 ≤ (shortest u).lead ↔ one ≤ u * 10 ^ 5 := by
    rw [Scientific.le_lead_iff hleads.digits, hleads.pow_le_iff h0 (below_pow_neg_five hu), magnitude,
      show (10 : ℚ) ^ (-5 : Int) = 1 / 10 ^ 5 by norm_num, div_le_div_iff₀ (by norm_num) one_pos_rat, one_mul]
    exact_mod_cast Iff.rfl
  have hhigh : 16 ≤ (shortest u).lead ↔ 10 ^ 16 * one ≤ u := by
    rw [Scientific.le_lead_iff hleads.digits, hleads.pow_le_iff h0 (below_pow_sixteen hu), magnitude,
      show (10 : ℚ) ^ (16 : Int) = 10 ^ 16 by norm_num, le_div_iff₀ one_pos_rat]
    exact_mod_cast Iff.rfl
  rw [hlow, ← Nat.not_le, ← hhigh]
  exact and_congr_right fun _ => by omega

theorem decimalLength_shortest_le (h0 : u ≠ 0) : Text.decimalLength (shortest u).digits ≤ 18 := by
  have hleads := leads_shortest h0
  have hle : (shortest u).value ≤ (10 : ℚ) ^ (leadExponent u + 1) := hleads.greatest.elim le_of_lt fun h => h.1.le
  have hlead := (zpow_le_zpow_iff_right₀ (by norm_num)).1 ((Scientific.pow_lead_le hleads.digits).trans hle)
  have hexponent := hleads.exponent
  rw [Scientific.lead] at hlead
  omega

end Binary64

end RecordSchema
