/-
The values that options and bounds are made of, in the form in which a kind
compares them: exact integers, floating-point numbers, exact decimals, texts.
-/
import RecordSchema.Address
import RecordSchema.Json.Value
import RecordSchema.Kind
import RecordSchema.Number.Decimal

namespace RecordSchema

inductive Scalar where
  | int (value : Int)
  | float (value : Extended)
  | decimal (value : Decimal)
  | text (value : String)
  deriving DecidableEq

namespace Scalar

/-- Equal in value: `2` and `2.00` are the same decimal, and the two zeros the same number. -/
def same : Scalar → Scalar → Bool
  | int a, int b => a == b
  | float a, float b => a.same b
  | decimal a, decimal b => a.same b
  | text a, text b => a == b
  | _, _ => false

/-- The order that a kind puts its values in: addresses go by their octets, other texts by their
characters. -/
def compare? (kind : Kind) : Scalar → Scalar → Option Ordering
  | int a, int b => some (Ord.compare a b)
  | float a, float b => some (a.compare b)
  | decimal a, decimal b => some (a.compare b)
  | text a, text b => some (if kind = .ip then Address.compare a b else Ord.compare a b)
  | _, _ => none

/-- The scalar as it stands in a fragment; an infinite number has no JSON, and null stands for it. -/
def toJson : Scalar → Json
  | int n => .ofInt n
  | float (.finite x) => .number (.float x)
  | float (.infinite _) => .null
  | decimal d => .string d.text
  | text s => .string s

/-- The name of the form. -/
def tag : Scalar → String
  | int _ => "int"
  | float _ => "float"
  | decimal _ => "decimal"
  | text _ => "text"

end Scalar

end RecordSchema
