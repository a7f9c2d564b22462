/-
What a leaf accepts.

`accept` checks a value against the kind and gives the scalar that options
and bounds are compared with; there is none for kinds that have neither, nor
for a string that has matched a pattern, to which bounds do not apply.
-/
import RecordSchema.DateTime
import RecordSchema.Failure
import RecordSchema.Json.Parser
import RecordSchema.Leaf.Basic

namespace RecordSchema

namespace Kind

/-- The texts for true. -/
def trueTexts : List String :=
  ["true", "True", "TRUE", "t", "T", "yes", "Yes", "YES", "y", "Y", "x", "1"]

/-- The texts for false. -/
def falseTexts : List String :=
  ["false", "False", "FALSE", "f", "F", "no", "No", "NO", "n", "N", "0"]

/-- Whether a value is a bool, one of the integers 0 and 1, or a text for one of the two. -/
def isBoolLike : Json → Bool
  | .bool _ => true
  | .number (.int n) => n == 0 || n == 1
  | .string s => trueTexts.contains s || falseTexts.contains s
  | _ => false

end Kind

namespace Leaf

/-- A text of the kind's form. -/
def acceptText (kind : Kind) : Json → Except Reason (Option Scalar)
  | .string s => if kind.fits s then .ok (some (.text s)) else .error .failedKindPattern
  | _ => .error .notAString

def acceptInteger (kind : Kind) (v : Json) : Except Reason (Option Scalar) :=
  match v with
  | .bool _ => .error .isABool
  | v =>
    match kind.integer? v with
    | none => .error .notAnInteger
    | some n => if kind.isUnsigned && n < 0 then .error .signed else .ok (some (.int n))

/-- A decimal that a text writes in the form of the kind. -/
def acceptDecimalText (kind : Kind) (text : String) : Except Reason (Option Scalar) :=
  if kind.fits text then
    match Decimal.ofText? text with
    | some d => .ok (some (.decimal d))
    | none => .error .notADecimal
  else .error .failedKindPattern

def acceptDecimal (kind : Kind) : Json → Except Reason (Option Scalar)
  | .bool _ => .error .isABool
  | .number n => acceptDecimalText kind n.text
  | .string s => acceptDecimalText kind s
  | _ => .error (if kind = .decimal then .notADecimal else .notAString)

def acceptFloat : Json → Except Reason (Option Scalar)
  | .bool _ => .error .isABool
  | v =>
    match Kind.floatOf? v with
    | some x => .ok (some (.float x))
    | none => .error .notAFloat

/-- Any value but a string that is no JSON text. -/
def acceptJson : Json → Except Reason (Option Scalar)
  | .string s => if (Json.parse? s).isSome then .ok none else .error .notJson
  | _ => .ok none

def acceptString (pattern : Option Pattern) : Json → Except Reason (Option Scalar)
  | .string s =>
    match pattern with
    | some p => if p.occursIn s then .ok none else .error .failedCustomPattern
    | none => .ok (some (.text s))
  | _ => .error .notAString

/-- Checks a value against the kind and the pattern. -/
def accept (l : Leaf) (v : Json) : Except Reason (Option Scalar) :=
  match l.kind with
  | .any => .ok none
  | .base64 | .date | .datetime | .ip | .md5 | .time | .uuid => acceptText l.kind v
  | .bool => if Kind.isBoolLike v then .ok none else .error .notABool
  | .int | .timestamp | .uint => acceptInteger l.kind v
  | .decimal | .price => acceptDecimal l.kind v
  | .float => acceptFloat v
  | .json => acceptJson v
  | .string => acceptString l.pattern v

/-- Whether a count is below a bound, which an absent bound never is. -/
def countBelow (n : Int) : Option Scalar → Bool
  | some (.int lo) => n < lo
  | _ => false

/-- Whether a count is above a bound, which an absent bound never is. -/
def countAbove (n : Int) : Option Scalar → Bool
  | some (.int hi) => hi < n
  | _ => false

/-- Whether a scalar is on a given side of a bound; an absent bound has no sides. -/
def beyond (kind : Kind) (side : Ordering) (s : Scalar) : Option Scalar → Bool
  | some bound => s.compare? kind bound == some side
  | none => false

/-- Checks a scalar against the bounds; those of a string are counts of characters. -/
def checkBounds (l : Leaf) (s : Scalar) : Except Reason Unit :=
  if l.kind = .string then
    match s with
    | .text t =>
      if countBelow t.length l.minimum then .error .tooShort
      else if countAbove t.length l.maximum then .error .tooLong
      else .ok ()
    | _ => .ok ()
  else if beyond l.kind .lt s l.minimum then .error .belowMinimum
  else if beyond l.kind .gt s l.maximum then .error .aboveMaximum
  else .ok ()

/-- Checks a scalar against the allowed values or, where there are none, against the bounds. -/
def checkScalar (l : Leaf) (s : Scalar) : Except Reason Unit :=
  match l.options with
  | some options => if options.any (·.same s) then .ok () else .error .notInOptions
  | none => l.checkBounds s

/-- Checks a value against all the leaf says, null as an absent value aside. -/
def check (l : Leaf) (v : Json) : Except Reason Unit :=
  match l.accept v with
  | .error reason => .error reason
  | .ok none => .ok ()
  | .ok (some s) => l.checkScalar s

/-- What is wrong with a value, at most one thing; an optional leaf takes null for an absent value. -/
def failures (l : Leaf) (v : Json) (path : Path) : Failures :=
  if v.isNull && l.annotations.optional then []
  else match l.check v with
    | .ok () => []
    | .error reason => [⟨path, reason, some v.text⟩]

def accepts (l : Leaf) (v : Json) : Bool := (l.failures v .root).isEmpty

/-- What is wrong with a moment, in the text that the kind shows of it. -/
def failuresOfDateTime (l : Leaf) (t : DateTime) (path : Path) : Failures :=
  l.failures (.string (t.textFor l.kind)) path

end Leaf

end RecordSchema
