/-
Numerals: runs of ASCII digits in a base up to sixteen, read and written.

`numeral?` refuses the empty run and any character that is no digit of the
base, so a sign or a digit of another script is refused as well.

Powers of numbers come with numerals: here and in every module above, `b ^ n`
is the power of the core library, also where that of a monoid is in sight.
-/
namespace RecordSchema

attribute [instance (20000), default_instance (20000)] instPowNat

namespace Text

/-- What a hexadecimal digit stands for, with letters of either case. -/
def hexDigit? (c : Char) : Option Nat :=
  if '0' ≤ c ∧ c ≤ '9' then some (c.toNat - '0'.toNat)
  else if 'a' ≤ c ∧ c ≤ 'f' then some (c.toNat - 'a'.toNat + 10)
  else if 'A' ≤ c ∧ c ≤ 'F' then some (c.toNat - 'A'.toNat + 10)
  else none

/-- What a character stands for as a digit of a base up to sixteen. -/
def digit? (base : Nat) (c : Char) : Option Nat := (hexDigit? c).filter (· < base)

/-- The number whose digits are `ds`, the most significant first, after a number `n` read so far. -/
def ofDigits (base : Nat) (n : Nat) (ds : List Nat) : Nat := ds.foldl (fun n d => n * base + d) n

/-- The number written by `cs` in a base up to sixteen: at least one digit and nothing else. -/
def numeral? (base : Nat) (cs : List Char) : Option Nat :=
  if cs.isEmpty then none else (cs.mapM (digit? base)).map (ofDigits base 0)

/-- The decimal digits of a number, the most significant first. -/
def decimal (n : Nat) : List Char := Nat.toDigits 10 n

/-- How many decimal digits a number is written with. -/
def decimalLength (n : Nat) : Nat := (decimal n).length

/-- An integer in decimal, with a sign only if it is negative. -/
def ofInt : Int → String
  | .ofNat n => String.ofList (decimal n)
  | .negSucc n => String.ofList ('-' :: decimal (n + 1))

end Text

end RecordSchema
