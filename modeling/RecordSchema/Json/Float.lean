/-
Floating-point literals of JSON, read in a few steps of machine arithmetic: as
many digits as a word of 64 bits holds, then a product or quotients with powers
of ten, each of them rounded to the format.

So a literal may be read as a neighbour of the number nearest to it, and a
magnitude close to the end of the format may be refused. `Extended.ofDecimal`
takes all the digits and rounds once; on short literals the two agree
(`toFloat?_eq_ofDecimal`).
-/
import RecordSchema.Number.IntLiteral

namespace RecordSchema

namespace Json

/-- Reads digits after a number read so far, up to the first that would take it out of 64 bits: the number,
and how many digits are left. -/
def takeWord : Nat → List Nat → Nat × Nat
  | n, [] => (n, 0)
  | n, d :: ds => if n * 10 + d < Number.uint64Bound then takeWord (n * 10 + d) ds else (n, ds.length + 1)

/-- The greatest power of ten that is scaled with at once. -/
def maxPower : Nat := 308

/-- A power of ten in units, rounded to the format. -/
def powerUnits (k : Nat) : Nat := Binary64.roundUnits (10 ^ k * Binary64.one) 1

/-- `u` units divided so many times by the greatest power, until nothing is left of them. -/
def shrink : Nat → Nat → Nat
  | 0, u => u
  | times + 1, u =>
    if u = 0 then 0 else shrink times (Binary64.roundUnits (u * Binary64.one) (powerUnits maxPower))

/-- A number of at most 64 bits times a power of ten, unless it is beyond the format. A negative exponent is
used up in steps of the greatest power, the last of which may be a smaller one. -/
def toFloat? (negative : Bool) (significand : Nat) (exponent : Int) : Option Binary64 :=
  let u := Binary64.roundUnits (significand * Binary64.one) 1
  let k := exponent.natAbs
  if exponent < 0 then
    let u := shrink ((k - 1) / maxPower) u
    (Extended.ofRatio negative u (powerUnits ((k - 1) % maxPower + 1))).finite?
  else if k ≤ maxPower then
    (Extended.ofRatio negative (u * powerUnits k) (Binary64.one * Binary64.one)).finite?
  else if u = 0 then (Extended.ofRatio negative 0 1).finite?
  else none

end Json

end RecordSchema
