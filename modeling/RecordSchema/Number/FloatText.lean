/-
Reading a floating-point number from a text.

A sign may come first; then a word for infinity or for no number at all, in
letters of either case, or a decimal: digits with at most one point and at
least one digit, then perhaps an exponent of at least one digit.
-/
import RecordSchema.Number.Binary64

namespace RecordSchema

namespace Number

/-- Splits a sign off: whether it is a minus, and what follows. -/
def splitSign : List Char → Bool × List Char
  | '-' :: cs => (true, cs)
  | '+' :: cs => (false, cs)
  | cs => (false, cs)

/-- An integer in decimal digits, with or without a sign of either kind. -/
def signedNumeral? (cs : List Char) : Option Int :=
  let (negative, digits) := splitSign cs
  (Text.numeral? 10 digits).map fun n => if negative then -(n : Int) else n

/-- A decimal as written: its sign, all its digits as one number, its exponent of ten. -/
structure DecimalText where
  negative : Bool
  digits : Nat
  exponent : Int
  deriving DecidableEq

/-- Reads the exponent mark and what follows it; nothing at all is the exponent zero. -/
def exponentPart? : List Char → Option Int
  | [] => some 0
  | c :: cs => if c = 'e' || c = 'E' then signedNumeral? cs else none

/-- A decimal without a sign: digits around at most one point, then an exponent. -/
def unsignedDecimal? (negative : Bool) (cs : List Char) : Option DecimalText :=
  let whole := cs.takeWhile Char.isDigit
  let rest := cs.dropWhile Char.isDigit
  let (fraction, rest) := match rest with
    | '.' :: r => (r.takeWhile Char.isDigit, r.dropWhile Char.isDigit)
    | r => ([], r)
  match Text.numeral? 10 (whole ++ fraction), exponentPart? rest with
  | some digits, some e => some ⟨negative, digits, e - fraction.length⟩
  | _, _ => none

def DecimalText.toExtended (d : DecimalText) : Extended := .ofDecimal d.negative d.digits d.exponent

end Number

open Number

/-- The number a text writes; `none` also for the text of no number. -/
def Extended.ofText? (s : String) : Option Extended :=
  let (negative, cs) := splitSign s.toList
  let word := String.ofList (cs.map Char.toLower)
  if word = "inf" || word = "infinity" then some (.infinite negative)
  else (unsignedDecimal? negative cs).map DecimalText.toExtended

end RecordSchema
