/-
The canonical form of a leaf's values. Cleaning is more lenient than checking:
it trims texts of numbers, cuts fractions off integers, rounds prices, and
does not look at options, bounds and patterns.
-/
import RecordSchema.CleanError
import RecordSchema.Leaf.Check

namespace RecordSchema

namespace Json

/-- Whether a value counts as true: neither null, false, zero nor empty. -/
def truthy : Json → Bool
  | .null => false
  | .bool b => b
  | .number n => !n.isZero
  | .string s => !s.isEmpty
  | .array items => !items.isEmpty
  | .object members => !members.isEmpty

end Json

namespace Kind

/-- A bool as one of the texts for true, or by the truth of the value. -/
def cleanBool : Json → Bool
  | .string s => trueTexts.contains s
  | v => v.truthy

def cleanFloat? : Json → Option Json
  | .number n => n.toExtended.finite?.map fun x => .number (.float x)
  | .string s => ((Extended.ofText? (Text.trim s)).bind Extended.finite?).map fun x => .number (.float x)
  | _ => none

/-- The integer part of a number whose magnitude is below `2^63`. -/
def integerPart? (x : Binary64) : Option Int :=
  if x.units < Number.int64Bound * Binary64.one then some x.truncate else none

def cleanInteger? : Json → Option Json
  | .number (.int n) => some (.ofInt n)
  | .number (.float x) => (integerPart? x).map .ofInt
  | .string s => (Number.intLiteral? (Text.trim s)).map .ofInt
  | _ => none

/-- A decimal text rounded to two places. -/
def cleanPriceText? (text : String) : Option Json :=
  (Decimal.ofText? text).map fun d => .string (d.round 2).text

def cleanPrice? : Json → Option Json
  | .number n => cleanPriceText? n.text
  | .string s => cleanPriceText? (Text.trim s)
  | _ => none

/-- A string as it is, any other value as its JSON text. -/
def cleanJson : Json → Json
  | .string s => .string s
  | v => .string v.text

/-- The canonical form of a value of the kind, if it has one. -/
def clean? (kind : Kind) (v : Json) : Option Json :=
  match kind with
  | .any => some v
  | .base64 | .ip | .md5 | .string | .uuid | .date | .datetime | .time | .decimal =>
    v.scalarText?.map .string
  | .bool => some (.bool (cleanBool v))
  | .float => cleanFloat? v
  | .int | .timestamp | .uint => cleanInteger? v
  | .json => some (cleanJson v)
  | .price => cleanPrice? v

end Kind

namespace Leaf

/-- The canonical form of a value; an optional leaf keeps null. -/
def clean (l : Leaf) (v : Json) (path : Path) : Except CleanError Json :=
  if v.isNull && l.annotations.optional then .ok .null
  else match l.kind.clean? v with
    | some w => .ok w
    | none => .error ⟨path, .unconvertible l.kind v.text⟩

/-- The canonical form of a moment. -/
def cleanDateTime (l : Leaf) (t : DateTime) : Except CleanError Json :=
  l.clean (.string (t.textFor l.kind)) .root

end Leaf

end RecordSchema
