/-
The fewest decimal digits that read back as a given binary64 number.

Around the value are two points of each decimal grid, the one below
(`gridBelow`) and the next, and `readsBack` tells whether a decimal rounds to
the value. The first grid, from one digit up, with a neighbour that reads back
gives the digits (`searchGrids`); of two such neighbours the nearer is taken,
and of two equally near the even one (`onGrid?`).

`Binary64.text` is how JSON writes those digits: plain notation where the
decimal exponent is from -5 to 15, an exponent with its sign elsewhere.
-/
import RecordSchema.Number.Binary64

namespace RecordSchema

namespace Number

/-- The decimal `digits * 10^exponent`. -/
structure Scientific where
  digits : Nat
  exponent : Int
  deriving DecidableEq

namespace Scientific

/-- The value as a fraction, counted in quarters of a unit of the format. -/
def quarters (d : Scientific) : Nat × Nat :=
  if d.exponent < 0 then (4 * Binary64.one * d.digits, 10 ^ d.exponent.natAbs)
  else (4 * Binary64.one * d.digits * 10 ^ d.exponent.natAbs, 1)

/-- Without the zeros at the end of the digits, given how many digits there are at most. -/
def stripZeros : Nat → Scientific → Scientific
  | 0, d => d
  | fuel + 1, d =>
    if d.digits % 10 = 0 && d.digits != 0 then stripZeros fuel ⟨d.digits / 10, d.exponent + 1⟩ else d

end Scientific

end Number

namespace Binary64

open Number

/-- The least and the greatest magnitude that round to `units`, in quarters of a unit.

Below a power of two the gap is half of the one above it. -/
def window (units : Nat) : Nat × Nat :=
  let gap := spacing units
  let below := if units = 2 ^ units.log2 && 1 < gap then gap else 2 * gap
  (4 * units - below, 4 * units + 2 * gap)

/-- Whether the decimal rounds to the magnitude `units`, itself one of the format. -/
def readsBack (units : Nat) (d : Scientific) : Bool :=
  let (lo, hi) := window units
  let (num, den) := d.quarters
  if units / spacing units % 2 = 0 then lo * den ≤ num && num ≤ hi * den
  else lo * den < num && num < hi * den

/-- The decimal exponent of the first digit of a magnitude other than zero. -/
def leadExponent (units : Nat) : Int :=
  if one ≤ units then Text.decimalLength (units / one) - 1
  else -(Text.decimalLength ((one + units - 1) / units - 1) : Int)

/-- The point at or below the magnitude on the grid of multiples of `10^exponent`, and the remainder
against the grid's step, both in the same measure. -/
def gridBelow (units : Nat) (exponent : Int) : Scientific × Nat × Nat :=
  let num := if exponent < 0 then units * 10 ^ exponent.natAbs else units
  let step := if exponent < 0 then one else one * 10 ^ exponent.natAbs
  (⟨num / step, exponent⟩, num % step, step)

/-- The neighbour on a grid that reads back, the nearer if both do. -/
def onGrid? (units : Nat) (exponent : Int) : Option Scientific :=
  let (below, rest, step) := gridBelow units exponent
  let above : Scientific := ⟨below.digits + 1, exponent⟩
  match readsBack units below, readsBack units above with
  | false, false => none
  | true, false => some below
  | false, true => some above
  | true, true =>
    if 2 * rest < step then some below
    else if step < 2 * rest then some above
    else if below.digits % 2 = 0 then some below else some above

/-- The first hit on the grids of `n`, `n + 1`, … digits, `fuel` grids at most. -/
def searchGrids (units : Nat) : Nat → Nat → Option Scientific
  | 0, _ => none
  | fuel + 1, n =>
    match onGrid? units (leadExponent units - (n : Int) + 1) with
    | some d => some d
    | none => searchGrids units fuel (n + 1)

/-- The shortest decimal of a magnitude; seventeen digits always suffice. -/
def shortest (units : Nat) : Scientific :=
  if units = 0 then ⟨0, 0⟩
  else match searchGrids units 17 1 with
    | some d => d.stripZeros 17
    | none => (gridBelow units (leadExponent units - 16)).1

/-- Digits with a decimal point behind the first of them, where there are more. -/
def pointAfterFirst : List Char → List Char
  | [] => []
  | [c] => [c]
  | c :: cs => c :: '.' :: cs

/-- A decimal whose first digit has a given exponent, in plain notation with a fraction. -/
def plainNotation (digits : List Char) (lead : Int) : List Char :=
  if lead < 0 then '0' :: '.' :: (List.replicate (lead.natAbs - 1) '0' ++ digits)
  else
    let whole := lead.toNat + 1
    if digits.length ≤ whole then digits ++ List.replicate (whole - digits.length) '0' ++ ['.', '0']
    else digits.take whole ++ '.' :: digits.drop whole

/-- A decimal whose first digit has a given exponent, with the exponent written out. -/
def exponentNotation (digits : List Char) (lead : Int) : List Char :=
  pointAfterFirst digits ++ 'e' :: (if lead < 0 then '-' else '+') :: Text.decimal lead.natAbs

/-- The text of a number: the shortest digits, plain from `0.00001` up to below `1e+16`. -/
def text (x : Binary64) : String :=
  let d := shortest x.units
  let digits := Text.decimal d.digits
  let lead := d.exponent + digits.length - 1
  let body := if -5 ≤ lead ∧ lead ≤ 15 then plainNotation digits lead else exponentNotation digits lead
  String.ofList (if x.negative then '-' :: body else body)

end Binary64

end RecordSchema
