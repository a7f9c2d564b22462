/-
Finite floating-point numbers of the binary64 format, as exact values.

Every such number is a whole number of units of `2^-1074`, so a sign and a
count of units hold it exactly, zero with either sign included. Arithmetic
is exact on the count; the one rounding step is `ofRatio`, to the nearest
number that 53 significant bits can hold, an exact tie going to the even
neighbour (`spacing_dvd_roundUnits`: what comes out is such a number).
-/
import RecordSchema.Text.Numeral

namespace RecordSchema

namespace Number

/-- `num / den` to the nearest whole number, a tie to the even one. -/
def roundEven (num den : Nat) : Nat :=
  let q := num / den
  let twice := 2 * (num % den)
  if twice < den then q
  else if den < twice then q + 1
  else if q % 2 = 0 then q else q + 1

theorem le_roundEven (num den : Nat) : num / den ≤ roundEven num den := by
  simp only [roundEven]; split <;> try split <;> try split
  all_goals omega

theorem roundEven_le (num den : Nat) : roundEven num den ≤ num / den + 1 := by
  simp only [roundEven]; split <;> try split <;> try split
  all_goals omega

end Number

open Number

namespace Binary64

/-- The gap between numbers of the format about the size of `u` units. -/
def spacing (u : Nat) : Nat := 2 ^ (u.log2 - 52)

/-- The first power of two, counted in units, that is beyond the format. -/
def overflow : Nat := 2 ^ 2098

/-- `u` units are a magnitude of the format: at most 53 significant bits, below `2^1024`. -/
def Representable (u : Nat) : Prop := u < overflow ∧ spacing u ∣ u

instance (u : Nat) : Decidable (Representable u) := inferInstanceAs (Decidable (_ ∧ _))

end Binary64

/-- A finite number of the format: a sign and a magnitude in units of `2^-1074`. -/
structure Binary64 where
  negative : Bool
  units : Nat
  representable : Binary64.Representable units
  deriving DecidableEq

namespace Binary64

/-- How many units make one. -/
def one : Nat := 2 ^ 1074

/-- The value in units, with its sign; both zeros give `0`. -/
def signedUnits (x : Binary64) : Int := if x.negative then -(x.units : Int) else x.units

/-- Equal as numbers: the two zeros are. -/
def same (x y : Binary64) : Bool := x.signedUnits == y.signedUnits

def isZero (x : Binary64) : Bool := x.units == 0

/-- The integer part, without rounding away from zero. -/
def truncate (x : Binary64) : Int :=
  if x.negative then -((x.units / one : Nat) : Int) else ((x.units / one : Nat) : Int)

/-- The magnitude `num / den` units, rounded to 53 significant bits. -/
def roundUnits (num den : Nat) : Nat :=
  let gap := spacing (num / den)
  roundEven num (den * gap) * gap

theorem roundUnits_eq (num den : Nat) :
    roundUnits num den = roundEven num (den * spacing (num / den)) * spacing (num / den) := rfl

theorem lt_pow_log2_sub (t : Nat) : t < 2 ^ 53 * 2 ^ (t.log2 - 52) := by
  by_cases h0 : t = 0
  · subst h0; simp
  have h : t < 2 ^ (t.log2 + 1) := Nat.lt_log2_self
  refine Nat.lt_of_lt_of_le h ?_
  rw [← Nat.pow_add]
  exact Nat.pow_le_pow_right (by omega) (by omega)

theorem spacing_dvd_mul {m s : Nat} (hm : m ≤ 2 ^ 53) : spacing (m * 2 ^ s) ∣ m * 2 ^ s := by
  by_cases h0 : m = 0
  · subst h0; simp
  have hpos : m * 2 ^ s ≠ 0 := Nat.mul_ne_zero h0 (Nat.ne_of_gt (Nat.two_pow_pos s))
  unfold spacing
  by_cases hmax : m = 2 ^ 53
  · subst hmax
    rw [← Nat.pow_add, Nat.log2_two_pow]
    exact Nat.pow_dvd_pow 2 (by omega)
  · have hlt : m * 2 ^ s < 2 ^ (53 + s) := by
      rw [Nat.pow_add]
      exact Nat.mul_lt_mul_of_pos_right (by omega) (Nat.two_pow_pos s)
    have hlog : (m * 2 ^ s).log2 < 53 + s := (Nat.log2_lt hpos).2 hlt
    exact Nat.dvd_trans (Nat.pow_dvd_pow 2 (by omega)) (Nat.dvd_mul_left _ _)

theorem spacing_dvd_roundUnits (num den : Nat) : spacing (roundUnits num den) ∣ roundUnits num den := by
  rw [roundUnits_eq]
  refine spacing_dvd_mul ?_
  have hlt : num / (den * spacing (num / den)) < 2 ^ 53 := by
    rw [← Nat.div_div_eq_div_mul]
    exact Nat.div_lt_of_lt_mul (by rw [Nat.mul_comm]; exact lt_pow_log2_sub _)
  have := roundEven_le num (den * spacing (num / den))
  omega

end Binary64

/-- A number of the format, the infinities included; there is no further value. -/
inductive Extended where
  | finite (x : Binary64)
  | infinite (negative : Bool)
  deriving DecidableEq

namespace Extended

/-- A place on the number line in units, an infinity beyond every finite number. -/
def rank : Extended → Int
  | .finite x => x.signedUnits
  | .infinite true => -(Binary64.overflow : Int)
  | .infinite false => Binary64.overflow

def compare (x y : Extended) : Ordering := Ord.compare x.rank y.rank

/-- Equal as numbers: the two zeros are. -/
def same (x y : Extended) : Bool := x.rank == y.rank

def finite? : Extended → Option Binary64
  | .finite x => some x
  | .infinite _ => none

/-- The magnitude `num / den`, rounded to the format, with a sign. -/
def ofRatio (negative : Bool) (num den : Nat) : Extended :=
  let u := Binary64.roundUnits (num * Binary64.one) den
  if h : u < Binary64.overflow then .finite ⟨negative, u, h, Binary64.spacing_dvd_roundUnits _ _⟩
  else .infinite negative

def ofInt (n : Int) : Extended := ofRatio (n < 0) n.natAbs 1

/-- The magnitude `digits * 10^exponent`, rounded to the format, with a sign.

A magnitude from `10^310` up is infinite and one below `10^-330` is zero whatever its digits are. -/
def ofDecimal (negative : Bool) (digits : Nat) (exponent : Int) : Extended :=
  let size : Int := Text.decimalLength digits + exponent
  if digits = 0 || size < -330 then ofRatio negative 0 1
  else if 310 < size then .infinite negative
  else if exponent < 0 then ofRatio negative digits (10 ^ exponent.natAbs)
  else ofRatio negative (digits * 10 ^ exponent.natAbs) 1

end Extended

end RecordSchema
