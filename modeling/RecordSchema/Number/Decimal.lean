/-
Decimal numbers of any length, kept as an integer and a scale: `unscaled`
over ten to the power `scale`. Two of them may have the same value with
different scales, as `2` and `2.00` do; `compare` and `same` go by the value.
-/
import RecordSchema.Number.FloatText

namespace RecordSchema

/-- The number `unscaled / 10^scale`. -/
structure Decimal where
  unscaled : Int
  scale : Int
  deriving DecidableEq

namespace Decimal

open Number

/-- The integer that stands for the number over `10^scale`, for a scale not below its own. -/
def atScale (d : Decimal) (scale : Int) : Int := d.unscaled * 10 ^ (scale - d.scale).toNat

/-- Order by value. -/
def compare (x y : Decimal) : Ordering :=
  let scale := max x.scale y.scale
  Ord.compare (x.atScale scale) (y.atScale scale)

/-- Equal in value. -/
def same (x y : Decimal) : Bool := x.compare y == .eq

/-! ## Reading -/

/-- Splits at the first character that satisfies `p`, which belongs to neither part. -/
def splitAtFirst (p : Char → Bool) (cs : List Char) : List Char × Option (List Char) :=
  match cs.dropWhile (!p ·) with
  | [] => (cs, none)
  | _ :: rest => (cs.takeWhile (!p ·), some rest)

/-- Digits, the first of them in front, any of the rest replaceable by underscores that count for nothing. -/
def groupedNumeral? (cs : List Char) : Option Nat :=
  if cs.head? = some '_' then none else Text.numeral? 10 (cs.filter (· != '_'))

/-- Grouped digits behind a minus, a plus or no sign. -/
def groupedInt? : List Char → Option Int
  | '-' :: cs => (groupedNumeral? cs).map fun n => -(n : Int)
  | '+' :: cs => (groupedNumeral? cs).map Int.ofNat
  | cs => (groupedNumeral? cs).map Int.ofNat

/-- Whether `n` is a signed integer of `bits` bits. -/
def fits (bits : Nat) (n : Int) : Bool := -(2 ^ (bits - 1) : Int) ≤ n && n < 2 ^ (bits - 1)

/-- Reads a decimal: a mantissa with at most one point, then perhaps an exponent of at most 128 bits.

The sign belongs to the digits once the point is taken out, so it counts as a fraction place when it
stands behind the point. The scale has at most 64 bits. -/
def ofText? (s : String) : Option Decimal :=
  let (mantissa, exponentText) := splitAtFirst (fun c => c = 'e' || c = 'E') s.toList
  let exponent := match exponentText with
    | none => some 0
    | some cs => (signedNumeral? cs).filter (fits 128)
  let (whole, fractionText) := splitAtFirst (· = '.') mantissa
  let fraction := fractionText.getD []
  match groupedInt? (whole ++ fraction), exponent with
  | some n, some e =>
    let scale := ((fraction.filter (· != '_')).length : Int) - e
    if fits 64 scale then some ⟨n, scale⟩ else none
  | _, _ => none

/-! ## Rounding -/

/-- `n / 10^places` to the nearest integer, a half going away from zero.

Where more than all digits fall away the answer is zero, without the power of ten being formed. -/
def roundAway (n : Nat) (places : Nat) : Nat :=
  if Text.decimalLength n < places then 0 else (2 * n + 10 ^ places) / (2 * 10 ^ places)

/-- The number with a given scale, rounded half away from zero where places fall away. -/
def round (d : Decimal) (scale : Int) : Decimal :=
  if d.unscaled = 0 then ⟨0, scale⟩
  else if d.scale ≤ scale then ⟨d.atScale scale, scale⟩
  else
    let magnitude := roundAway d.unscaled.natAbs (d.scale - scale).toNat
    ⟨if d.unscaled < 0 then -(magnitude : Int) else magnitude, scale⟩

/-! ## Printing -/

/-- Digits with a point so that `places` of them follow it, padded by zeros in front. -/
def placePoint (digits : List Char) (places : Nat) : List Char :=
  let padded := List.replicate (places + 1 - digits.length) '0' ++ digits
  let whole := padded.length - places
  padded.take whole ++ '.' :: padded.drop whole

/-- The number without an exponent; a scale below one gives no point, and zero has no sign. -/
def text (d : Decimal) : String :=
  let digits := Text.decimal d.unscaled.natAbs
  let body :=
    if 0 < d.scale then placePoint digits d.scale.toNat
    else if d.unscaled = 0 then digits
    else digits ++ List.replicate d.scale.natAbs '0'
  String.ofList (if d.unscaled < 0 then '-' :: body else body)

end Decimal

end RecordSchema
