/-
Integer literals: a sign in front of hexadecimal digits after `0x` or `0X`,
of octal digits after a `0`, or of decimal digits.
-/
import RecordSchema.Number.FloatText

namespace RecordSchema

namespace Number

/-- The bound of the signed integers of 64 bits. -/
def int64Bound : Nat := 2 ^ 63

/-- The bound of the unsigned integers of 64 bits. -/
def uint64Bound : Nat := 2 ^ 64

/-- The base of a literal without its sign, and the digits that are read in it. -/
def splitBase : List Char → Nat × List Char
  | '0' :: 'x' :: cs => (16, cs)
  | '0' :: 'X' :: cs => (16, cs)
  | '0' :: c :: cs => (8, c :: cs)
  | cs => (10, cs)

/-- The integer a literal denotes, if its magnitude is below `2^63`. -/
def intLiteral? (s : String) : Option Int :=
  let (negative, cs) := splitSign s.toList
  let (base, digits) := splitBase cs
  match Text.numeral? base digits with
  | some n => if n < int64Bound then some (if negative then -(n : Int) else n) else none
  | none => none

end Number

end RecordSchema
