/-
The forms of the textual kinds, as regular expressions that the whole text
has to match.

`\d` of the usual notation is a decimal digit of any script; where only the
ASCII digits are meant, a range says so.
-/
import RecordSchema.Kind
import RecordSchema.Regex.Search

namespace RecordSchema

open Regex

namespace KindPattern

/-- A letter of the base64 alphabet. -/
def base64Char : Regex := .one (.ofList [.between 'A' 'Z', .between 'a' 'z', .asciiDigit, .ofChars ['+', '/']])

/-- Groups of four, at least one, and then perhaps a group that is padded. -/
def base64 : Regex :=
  ofSeq [many1 (times 4 base64Char),
    optional (ofAlt [ofSeq [times 2 base64Char, literal "=="], ofSeq [times 3 base64Char, literal "="]])]

/-- From `01` to `12`. -/
def month : Regex := ofAlt [ofSeq [literal "0", between '1' '9'], ofSeq [literal "1", between '0' '2']]

/-- From `01` to `31`. -/
def day : Regex :=
  ofAlt [ofSeq [literal "0", between '1' '9'], ofSeq [oneOf "12", digit], ofSeq [literal "3", oneOf "01"]]

/-- From `00` to `23`. -/
def hour : Regex := ofAlt [ofSeq [oneOf "01", digit], ofSeq [literal "2", between '0' '3']]

/-- A colon and two digits from `00` to `59`. -/
def sixtieth : Regex := ofSeq [literal ":", between '0' '5', digit]

def date : Regex := ofSeq [times 4 digit, literal "-", month, literal "-", day]

def time : Regex := ofSeq [hour, times 2 sixtieth]

def datetime : Regex :=
  ofSeq [times 4 digit, literal "-", month, literal "-", day, literal " ", hour, times 2 sixtieth]

/-- A whole number without a zero in front of another digit. -/
def wholePart : Regex :=
  ofSeq [optional (literal "-"), ofAlt [ofSeq [between '1' '9', many1 digit], digit]]

def decimal : Regex := ofSeq [wholePart, optional (ofSeq [literal ".", many1 digit])]

/-- A decimal with at most two places. -/
def price : Regex :=
  ofSeq [wholePart, optional (ofSeq [literal ".", .repeat digit ⟨1, some 2, by simp⟩])]

/-- An integer in one of three bases; only decimal digits may follow a sign. -/
def int : Regex :=
  ofAlt
    [literal "0",
     ofSeq [optional (oneOf "+-"), between '1' '9', many digit],
     ofSeq [literal "0", oneOf "xX", many1 (.one .hexDigit)],
     ofSeq [literal "0", many1 (between '0' '7')]]

/-- From `100` to `255`. -/
def hundreds : List Regex :=
  [ofSeq [literal "25", between '0' '5'],
   ofSeq [literal "2", between '0' '4', between '0' '9'],
   ofSeq [literal "1", between '0' '9', between '0' '9']]

/-- An octet other than zero. -/
def outerOctet : Regex := ofAlt (hundreds ++ [ofSeq [between '1' '9', between '0' '9'], between '1' '9'])

/-- Any octet. -/
def innerOctet : Regex := ofAlt (hundreds ++ [ofSeq [optional (between '1' '9'), between '0' '9']])

/-- Four octets, the first and the last of them not zero. -/
def ip : Regex :=
  ofSeq [outerOctet, times 2 (ofSeq [literal ".", innerOctet]), literal ".", outerOctet]

def md5 : Regex := times 32 (.one .hexDigit)

/-- A hexadecimal digit with its letter in lower case. -/
def lowerHex : Regex := .one (.union (.between 'a' 'f') .asciiDigit)

/-- A random identifier: version four, and the variant that belongs to it. -/
def uuid : Regex :=
  ofSeq [times 8 lowerHex, literal "-", times 4 lowerHex, literal "-4", times 3 lowerHex, literal "-",
    oneOf "89aAbB", times 3 lowerHex, literal "-", times 12 lowerHex]

end KindPattern

namespace Kind

/-- The form of a text of the kind, for the kinds that have one. -/
def pattern? : Kind → Option Regex
  | base64 => some KindPattern.base64
  | date => some KindPattern.date
  | datetime => some KindPattern.datetime
  | decimal => some KindPattern.decimal
  | int | timestamp | uint => some KindPattern.int
  | ip => some KindPattern.ip
  | md5 => some KindPattern.md5
  | price => some KindPattern.price
  | time => some KindPattern.time
  | uuid => some KindPattern.uuid
  | any | bool | float | json | string => none

/-- Whether a text has the form of the kind; a kind without a form matches nothing. -/
def fits (k : Kind) (text : String) : Bool :=
  match k.pattern? with
  | some r => r.fits text
  | none => false

end Kind

end RecordSchema
