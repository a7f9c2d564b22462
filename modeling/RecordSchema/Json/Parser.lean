/-
Reading JSON text, by the letter of the standard.

Blanks are space, tab, line feed and carriage return; a control character or
half a surrogate pair in a string is refused, and so is a number too large
for its format and a nesting of more than 127 lists and objects. A repeated
key of an object keeps its first place and takes its last value. Integers of
64 bits are exact; how other numbers are rounded is the matter of `toFloat?`.

Each reader takes the characters that are left and returns, with what it
read, those after it.
-/
import RecordSchema.Json.Float
import RecordSchema.Json.Value

namespace RecordSchema

namespace Json

def isSpace (c : Char) : Bool := c = ' ' || c = '\t' || c = '\n' || c = '\r'

def skipSpace (cs : List Char) : List Char := cs.dropWhile isSpace

/-! ## Numbers -/

/-- The whole digits of a number: a zero alone, or digits that start with no zero. -/
def wholeDigits? : List Char → Option (List Char × List Char)
  | '0' :: cs => some (['0'], cs)
  | cs =>
    match cs.takeWhile Char.isDigit with
    | [] => none
    | ds => some (ds, cs.dropWhile Char.isDigit)

/-- The digits behind a point, if one comes next; at least one digit must follow it. -/
def fractionDigits? : List Char → Option (Option (List Char) × List Char)
  | '.' :: cs =>
    match cs.takeWhile Char.isDigit with
    | [] => none
    | ds => some (some ds, cs.dropWhile Char.isDigit)
  | cs => some (none, cs)

/-- The exponent, if its mark comes next; at least one digit must follow mark and sign. -/
def exponentDigits? : List Char → Option (Option Int × List Char)
  | [] => some (none, [])
  | c :: cs =>
    if c = 'e' || c = 'E' then
      let (negative, rest) := Number.splitSign cs
      match Text.numeral? 10 (rest.takeWhile Char.isDigit) with
      | none => none
      | some n => some (some (if negative then -(n : Int) else n), rest.dropWhile Char.isDigit)
    else some (none, c :: cs)

def digitValues (cs : List Char) : List Nat := cs.map fun c => c.toNat - '0'.toNat

/-- An integer literal in one of the 64-bit ranges is an integer, except that minus zero is a
floating-point number, as is every other literal that the format can hold.

Each whole digit that is left over counts as one more of the exponent, and each digit read behind the point as
one less. Digits behind the point are read also after whole ones that are left over. -/
def numberOf (negative : Bool) (whole : List Char) (fraction : Option (List Char)) (exponent : Option Int) :
    Option Number :=
  let (n, left) := takeWord 0 (digitValues whole)
  match fraction, exponent, left with
  | none, none, 0 =>
    if !negative then some (.int n)
    else if n ≠ 0 ∧ n ≤ Number.int64Bound then some (.int (-(n : Int)))
    else (toFloat? negative n 0).map .float
  | _, _, _ =>
    let digits := digitValues (fraction.getD [])
    let (n, dropped) := takeWord n digits
    let scale : Int := left - (digits.length - dropped : Nat)
    (toFloat? negative n (scale + exponent.getD 0)).map .float

def number? (cs : List Char) : Option (Number × List Char) :=
  let (negative, cs) := match cs with
    | '-' :: r => (true, r)
    | r => (false, r)
  match wholeDigits? cs with
  | none => none
  | some (whole, cs) =>
    match fractionDigits? cs with
    | none => none
    | some (fraction, cs) =>
      match exponentDigits? cs with
      | none => none
      | some (exponent, cs) => (numberOf negative whole fraction exponent).map (·, cs)

/-! ## Strings -/

/-- Four hexadecimal digits. -/
def hex4? : List Char → Option (Nat × List Char)
  | a :: b :: c :: d :: cs => (Text.numeral? 16 [a, b, c, d]).map (·, cs)
  | _ => none

/-- The character of an escape `u`, after that letter: one code, or the two halves of a pair. -/
def unicodeEscape? (cs : List Char) : Option (Char × List Char) :=
  match hex4? cs with
  | none => none
  | some (high, cs) =>
    if 0xDC00 ≤ high && high < 0xE000 then none
    else if 0xD800 ≤ high && high < 0xDC00 then
      match cs with
      | '\\' :: 'u' :: cs =>
        match hex4? cs with
        | some (low, cs) =>
          if 0xDC00 ≤ low && low < 0xE000 then
            some (Char.ofNat (0x10000 + (high - 0xD800) * 0x400 + (low - 0xDC00)), cs)
          else none
        | none => none
      | _ => none
    else some (Char.ofNat high, cs)

/-- The character that an escape stands for, after its backslash. -/
def escape? : List Char → Option (Char × List Char)
  | '"' :: cs => some ('"', cs)
  | '\\' :: cs => some ('\\', cs)
  | '/' :: cs => some ('/', cs)
  | 'b' :: cs => some ('\x08', cs)
  | 'f' :: cs => some ('\x0c', cs)
  | 'n' :: cs => some ('\n', cs)
  | 'r' :: cs => some ('\r', cs)
  | 't' :: cs => some ('\t', cs)
  | 'u' :: cs => unicodeEscape? cs
  | _ => none

/-- The rest of a string after its opening quote, in front of the characters read so far in
reverse; `fuel` characters are looked at. -/
def stringBody? : Nat → List Char → List Char → Option (String × List Char)
  | 0, _, _ => none
  | _ + 1, _, [] => none
  | fuel + 1, done, c :: cs =>
    if c = '"' then some (String.ofList done.reverse, cs)
    else if c = '\\' then
      match escape? cs with
      | some (d, cs) => stringBody? fuel (d :: done) cs
      | none => none
    else if c.toNat < 0x20 then none
    else stringBody? fuel (c :: done) cs

/-- A string after its opening quote. -/
def string? (cs : List Char) : Option (String × List Char) := stringBody? (cs.length + 1) [] cs

/-! ## Values -/

/-- The items of a list, after its opening bracket or a comma, read by `item`; each takes a
character, so the count of characters bounds them. -/
def items? (item : List Char → Option (Json × List Char)) :
    Nat → List Json → List Char → Option (List Json × List Char)
  | 0, _, _ => none
  | fuel + 1, done, cs =>
    match item (skipSpace cs) with
    | none => none
    | some (v, cs) =>
      match skipSpace cs with
      | ',' :: cs => items? item fuel (v :: done) cs
      | ']' :: cs => some ((v :: done).reverse, cs)
      | _ => none

/-- The members of an object, after its opening brace or a comma, their values read by `value`. -/
def members? (value : List Char → Option (Json × List Char)) :
    Nat → List (String × Json) → List Char → Option (List (String × Json) × List Char)
  | 0, _, _ => none
  | fuel + 1, done, cs =>
    match skipSpace cs with
    | '"' :: cs =>
      match string? cs with
      | none => none
      | some (key, cs) =>
        match skipSpace cs with
        | ':' :: cs =>
          match value (skipSpace cs) with
          | none => none
          | some (v, cs) =>
            match skipSpace cs with
            | ',' :: cs => members? value fuel ((key, v) :: done) cs
            | '\x7d' :: cs => some (((key, v) :: done).reverse, cs)
            | _ => none
        | _ => none
    | _ => none

/-- A value that neither is a list nor an object. -/
def scalar? : List Char → Option (Json × List Char)
  | 'n' :: 'u' :: 'l' :: 'l' :: cs => some (.null, cs)
  | 't' :: 'r' :: 'u' :: 'e' :: cs => some (.bool true, cs)
  | 'f' :: 'a' :: 'l' :: 's' :: 'e' :: cs => some (.bool false, cs)
  | '"' :: cs => (string? cs).map fun (s, cs) => (.string s, cs)
  | cs => (number? cs).map fun (n, cs) => (.number n, cs)

/-- A value in which lists and objects nest at most `depth` deep. -/
def value? : Nat → List Char → Option (Json × List Char)
  | 0, cs => scalar? cs
  | depth + 1, cs =>
    match cs with
    | '[' :: cs =>
      match skipSpace cs with
      | ']' :: cs => some (.array [], cs)
      | cs => (items? (value? depth) (cs.length + 1) [] cs).map fun (vs, cs) => (.array vs, cs)
    | '\x7b' :: cs =>
      match skipSpace cs with
      | '\x7d' :: cs => some (.object [], cs)
      | cs => (members? (value? depth) (cs.length + 1) [] cs).map fun (ms, cs) => (ofMembers ms, cs)
    | cs => scalar? cs

/-- How deep lists and objects may nest. -/
def maxDepth : Nat := 127

/-- The value that a text writes, blanks around it aside. -/
def parse? (s : String) : Option Json :=
  match value? maxDepth (skipSpace s.toList) with
  | some (v, cs) => if (skipSpace cs).isEmpty then some v else none
  | none => none

end Json

end RecordSchema
