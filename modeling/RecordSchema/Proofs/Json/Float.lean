/-
What the quick reading of number literals keeps. The digits that are read fit
in 64 bits, and they are all the digits if these do (`takeWord_of_lt`).

A significand up to `2^53` and a power up to `10^22` are numbers of the format,
so that scaling one by the other rounds only once: such a literal is read as
the nearest number (`toFloat?_eq_ofDecimal`, `numberOf_eq_ofDecimal`).
And only what is scaled up can be too large (`exists_toFloat?_of_neg`): each
quotient is by a number of at least eight.
-/
import RecordSchema.Json.Parser
import RecordSchema.Proofs.Number.Overflow

namespace RecordSchema

/-! ## Exact rounding -/

theorem Number.roundEven_mul_left {c : Nat} (hc : 0 < c) (num den : Nat) :
    roundEven (c * num) (c * den) = roundEven num den := by
  have htwice : 2 * (c * num % (c * den)) = c * (2 * (num % den)) := by
    rw [Nat.mul_mod_mul_left, Nat.mul_left_comm]
  simp only [roundEven, htwice, Nat.mul_div_mul_left _ _ hc, Nat.mul_lt_mul_left hc]

namespace Binary64

theorem roundUnits_mul_left {c : Nat} (hc : 0 < c) (num den : Nat) :
    roundUnits (c * num) (c * den) = roundUnits num den := by
  rw [roundUnits_eq, roundUnits_eq, Nat.mul_div_mul_left _ _ hc, Nat.mul_assoc, Number.roundEven_mul_left hc]

/-- A magnitude of the format is rounded to itself. -/
theorem roundUnits_one_of_dvd {u : Nat} (h : spacing u ∣ u) : roundUnits u 1 = u := by
  have hpos : 0 < spacing u := Nat.two_pow_pos _
  have hround : Number.roundEven u (spacing u) = u / spacing u := by
    simp only [Number.roundEven, Nat.mod_eq_zero_of_dvd h, Nat.mul_zero, hpos, if_true]
  rw [roundUnits_eq, Nat.div_one, Nat.one_mul, hround, Nat.div_mul_cancel h]

theorem roundUnits_mul_one {m : Nat} (h : m ≤ 2 ^ 53) (k : Nat) :
    roundUnits (m * 2 ^ k * one) 1 = m * 2 ^ k * one := by
  obtain ⟨s, hs⟩ : ∃ s, one = 2 ^ s := ⟨1074, rfl⟩
  rw [hs, Nat.mul_assoc, ← Nat.pow_add]
  exact roundUnits_one_of_dvd (spacing_dvd_mul h)

end Binary64

theorem Extended.ofRatio_mul_left {c : Nat} (hc : 0 < c) (negative : Bool) (num den : Nat) :
    ofRatio negative (c * num) (c * den) = ofRatio negative num den := by
  have hround : Binary64.roundUnits (c * num * Binary64.one) (c * den) =
      Binary64.roundUnits (num * Binary64.one) den := by
    rw [Nat.mul_assoc, Binary64.roundUnits_mul_left hc]
  simp only [ofRatio, hround]

/-- A shortcut of reading decimals is for magnitudes that a short one is far from. -/
theorem Extended.ofDecimal_of_short {negative : Bool} {n : Nat} {e : Int} (hn : n ≤ 2 ^ 53) (he : e.natAbs ≤ 22) :
    ofDecimal negative n e =
      if e < 0 then ofRatio negative n (10 ^ e.natAbs) else ofRatio negative (n * 10 ^ e.natAbs) 1 := by
  have hpow : 0 < 10 ^ e.natAbs := Nat.pow_pos (by decide)
  by_cases h0 : n = 0
  · subst h0
    have hzero := ofRatio_mul_left hpow negative 0 1
    rw [Nat.mul_zero, Nat.mul_one] at hzero
    simp [ofDecimal, hzero]
  · have hlength : Text.decimalLength n ≤ 16 := by
      have hle := Nat.le_trans (Text.pow_decimalLength_le h0) hn
      have hlt : 10 ^ (Text.decimalLength n - 1) < 10 ^ 16 := Nat.lt_of_le_of_lt hle (by decide)
      have := (Nat.pow_lt_pow_iff_right (by decide)).1 hlt
      omega
    have hlow : ¬ (Text.decimalLength n : Int) + e < -330 := by omega
    have hhigh : ¬ 310 < (Text.decimalLength n : Int) + e := by omega
    simp [ofDecimal, h0, hlow, hhigh]

namespace Json

open Binary64 (one)

/-! ## Digits -/

theorem takeWord_lt {n : Nat} (h : n < Number.uint64Bound) (ds : List Nat) :
    (takeWord n ds).1 < Number.uint64Bound := by
  induction ds generalizing n with
  | nil => exact h
  | cons d ds ih =>
    rw [takeWord]
    split
    · next hd => exact ih hd
    · exact h

/-- No digit is left over of a number that fits. -/
theorem takeWord_of_lt {n : Nat} {ds : List Nat} (h : Text.ofDigits 10 n ds < Number.uint64Bound) :
    takeWord n ds = (Text.ofDigits 10 n ds, 0) := by
  induction ds generalizing n with
  | nil => rfl
  | cons d ds ih =>
    have hd : n * 10 + d < Number.uint64Bound :=
      Nat.lt_of_le_of_lt (Text.le_ofDigits (by decide) (n * 10 + d) ds) h
    rw [takeWord, if_pos hd]
    exact ih h

/-! ## Scaling -/

theorem powerUnits_eq {k : Nat} (h : k ≤ 22) : powerUnits k = 10 ^ k * one := by
  have hfive : 5 ^ k ≤ 2 ^ 53 := Nat.le_trans (Nat.pow_le_pow_right (by decide) h) (by decide)
  have hten : 10 ^ k = 5 ^ k * 2 ^ k := by rw [← Nat.mul_pow]
  rw [powerUnits, hten]
  exact Binary64.roundUnits_mul_one hfive k

/-- **A short significand scaled by a small power of ten is the nearest number to the decimal.** -/
theorem toFloat?_eq_ofDecimal {negative : Bool} {n : Nat} {e : Int} (hn : n ≤ 2 ^ 53) (he : e.natAbs ≤ 22) :
    toFloat? negative n e = (Extended.ofDecimal negative n e).finite? := by
  have hu := Binary64.roundUnits_mul_one hn 0
  rw [Nat.pow_zero, Nat.mul_one] at hu
  have hmax : e.natAbs ≤ maxPower := Nat.le_trans he (by decide)
  rw [Extended.ofDecimal_of_short hn he, toFloat?, hu]
  by_cases hneg : e < 0
  · have hone : (e.natAbs - 1) / maxPower = 0 := Nat.div_eq_of_lt (by omega)
    have hall : (e.natAbs - 1) % maxPower + 1 = e.natAbs := by
      rw [Nat.mod_eq_of_lt (by omega)]
      omega
    have hratio := Extended.ofRatio_mul_left Binary64.one_pos negative n (10 ^ e.natAbs)
    rw [Nat.mul_comm one, Nat.mul_comm one] at hratio
    simp only [hneg, if_true, hone, hall, shrink, powerUnits_eq he, hratio]
  · have hone : 0 < one * one := Nat.mul_pos Binary64.one_pos Binary64.one_pos
    have hratio := Extended.ofRatio_mul_left hone negative (n * 10 ^ e.natAbs) 1
    have hproduct : n * one * (10 ^ e.natAbs * one) = one * one * (n * 10 ^ e.natAbs) := by
      rw [Nat.mul_mul_mul_comm, Nat.mul_comm]
    rw [Nat.mul_one, ← hproduct] at hratio
    simp only [hneg, if_false, hmax, if_true, powerUnits_eq he, hratio]

/-- With more digits than that, the two roundings of `9007199254740993.0` lead past the nearest number. -/
example : toFloat? false 90071992547409930 (-1) ≠ (Extended.ofDecimal false 90071992547409930 (-1)).finite? := by
  decide +kernel

/-- With a greater power, `1.7976931348623158e308` is refused, though the greatest number is nearest to it. -/
example : toFloat? false 17976931348623158 292 = none ∧
    (Extended.ofDecimal false 17976931348623158 292).finite?.isSome = true := by
  decide +kernel

/-! ## Range -/

theorem le_powerUnits {k : Nat} (hk : 0 < k) : 8 * one ≤ powerUnits k := by
  -- As a literal, the exponent would be evaluated.
  obtain ⟨e, he⟩ : ∃ e, 8 * one = 2 ^ (e + 52) := ⟨1025, by decide +kernel⟩
  have hten : 10 ^ 1 ≤ 10 ^ k := Nat.pow_le_pow_right (by decide) hk
  have hle : 8 * one ≤ 10 ^ k * one := Nat.mul_le_mul_right one (by omega)
  rw [he] at hle ⊢
  exact Binary64.pow_le_roundUnits (by rwa [Nat.div_one])

theorem shrink_le (times u : Nat) : shrink times u ≤ u := by
  induction times generalizing u with
  | zero => exact Nat.le_refl u
  | succ times ih =>
    rw [shrink]
    split
    · exact Nat.zero_le u
    · have hone := Binary64.one_pos
      have hround := Binary64.roundUnits_le (u * one) (powerUnits maxPower)
      have hquotient : u * one / powerUnits maxPower ≤ u / 8 :=
        calc u * one / powerUnits maxPower
            ≤ u * one / (8 * one) := Nat.div_le_div_left (le_powerUnits (by decide)) (by omega)
          _ = u / 8 := Nat.mul_div_mul_right u 8 hone
      exact Nat.le_trans (ih _) (by omega)

/-- **No magnitude is refused that a negative exponent scales down**: however small, it is some number. -/
theorem exists_toFloat?_of_neg {negative : Bool} {n : Nat} {e : Int} (hn : n < Number.uint64Bound) (he : e < 0) :
    ∃ x, toFloat? negative n e = some x := by
  have hone := Binary64.one_pos
  -- Rounding at most doubles the significand, which leaves it far below the end of the format.
  have hunits : Binary64.roundUnits (n * one) 1 < Binary64.limit * one := by
    have hround := Binary64.roundUnits_le (n * one) 1
    rw [Nat.div_one] at hround
    have hword : n * one < Number.uint64Bound * one := Nat.mul_lt_mul_of_pos_right hn hone
    have hlimit := Nat.mul_le_mul_right one (show 2 * Number.uint64Bound ≤ Binary64.limit by decide +kernel)
    rw [Nat.mul_assoc] at hlimit
    omega
  rw [toFloat?, if_pos he]
  refine Option.isSome_iff_exists.1 ((Extended.ofRatio_finite_iff ?_).2 ?_)
  · exact Nat.lt_of_lt_of_le (by omega) (le_powerUnits (Nat.succ_pos _))
  · calc shrink ((e.natAbs - 1) / maxPower) (Binary64.roundUnits (n * one) 1)
        ≤ Binary64.roundUnits (n * one) 1 := shrink_le _ _
      _ < Binary64.limit * one := hunits
      _ ≤ Binary64.limit * powerUnits _ :=
        Nat.mul_le_mul_left _ (Nat.le_trans (by omega) (le_powerUnits (Nat.succ_pos _)))

/-! ## Literals -/

/-- An integer literal in the range of its sign is that integer. -/
theorem numberOf_integer {negative : Bool} {whole : List Char} {n : Nat}
    (hn : Text.ofDigits 10 0 (digitValues whole) = n)
    (hrange : if negative then n ≠ 0 ∧ n ≤ Number.int64Bound else n < Number.uint64Bound) :
    numberOf negative whole none none = some (.int (if negative then -(n : Int) else n)) := by
  have hlt : Text.ofDigits 10 0 (digitValues whole) < Number.uint64Bound := by
    have hbounds : Number.int64Bound < Number.uint64Bound := by decide
    cases negative <;> simp at hrange <;> omega
  rw [numberOf, takeWord_of_lt hlt, hn]
  cases negative <;> simp at hrange ⊢
  exact hrange

/-- **A short decimal literal is the number nearest to it.** -/
theorem numberOf_eq_ofDecimal {negative : Bool} {whole : List Char} {fraction : Option (List Char)}
    {exponent : Option Int} {n : Nat} {e : Int}
    (hn : Text.ofDigits 10 0 (digitValues (whole ++ fraction.getD [])) = n)
    (he : exponent.getD 0 - (fraction.getD []).length = e) (hshort : n ≤ 2 ^ 53) (hsmall : e.natAbs ≤ 22)
    (hfloat : fraction.isSome = true ∨ exponent.isSome = true) :
    numberOf negative whole fraction exponent = (Extended.ofDecimal negative n e).finite?.map .float := by
  have hbound : 2 ^ 53 < Number.uint64Bound := by decide
  generalize hfrac : fraction.getD [] = digits at hn he
  generalize hm : Text.ofDigits 10 0 (digitValues whole) = m
  have happend : Text.ofDigits 10 m (digitValues digits) = n := by
    rw [← hn, ← hm]
    simp [digitValues, Text.ofDigits, List.foldl_append]
  have hwhole : takeWord 0 (digitValues whole) = (m, 0) := by
    have hle : m ≤ Text.ofDigits 10 m (digitValues digits) := Text.le_ofDigits (by decide) m _
    rw [takeWord_of_lt (by omega), hm]
  have hall : takeWord m (digitValues digits) = (n, 0) := by rw [takeWord_of_lt (by omega), happend]
  have hscale : ((0 : Nat) : Int) - ((digitValues digits).length - 0 : Nat) + exponent.getD 0 = e := by
    rw [← he, digitValues, List.length_map]
    omega
  rw [← toFloat?_eq_ofDecimal hshort hsmall, numberOf, hwhole]
  cases fraction with
  | some fraction => simp only [hfrac, hall, hscale]
  | none =>
    cases exponent with
    | some exponent => simp only [hfrac, hall, hscale]
    | none => simp at hfloat

end Json

end RecordSchema
