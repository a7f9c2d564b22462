/-
JSON values. Objects keep the order of their members; an integer and a
floating-point number are different even where they have one value.

`same` is equality up to the order of object members and the sign of a
floating zero, which is when two list items count as repeats.
-/
import RecordSchema.Members
import RecordSchema.Number.Binary64
import RecordSchema.Number.IntLiteral

namespace RecordSchema

namespace Json

inductive Number where
  | int (value : Int)
  | float (value : Binary64)
  deriving DecidableEq

namespace Number

/-- Equal numbers of one sort; an integer is never the same as a floating-point number. -/
def same : Number → Number → Bool
  | .int a, .int b => a == b
  | .float a, .float b => a.same b
  | _, _ => false

/-- The nearest floating-point number. -/
def toExtended : Number → Extended
  | .int n => .ofInt n
  | .float x => .finite x

def isZero : Number → Bool
  | .int n => n == 0
  | .float x => x.isZero

end Number

end Json

inductive Json where
  | null
  | bool (value : Bool)
  | number (value : Json.Number)
  | string (value : String)
  | array (items : List Json)
  | object (members : List (String × Json))

namespace Json

/-- An integer as a JSON number; beyond the 64-bit ranges there is none, and null stands for it. -/
def ofInt (n : Int) : Json :=
  if -(Number.int64Bound : Int) ≤ n ∧ n < Number.uint64Bound then .number (.int n) else .null

/-- An object; a repeated key keeps its first place and takes its last value. -/
def ofMembers (es : List (String × Json)) : Json := .object (Members.ofPairs es)

def isNull : Json → Bool
  | .null => true
  | _ => false

def isString : Json → Bool
  | .string _ => true
  | _ => false

/-- The name of a value's type. -/
def typeName : Json → String
  | .null => "null"
  | .bool _ => "bool"
  | .number _ => "number"
  | .string _ => "string"
  | .array _ => "array"
  | .object _ => "object"

mutual

/-- Equality up to the order of members and the sign of zero. -/
def same : Json → Json → Bool
  | .null, w => w.isNull
  | .bool a, w => match w with
    | .bool b => a == b
    | _ => false
  | .number a, w => match w with
    | .number b => a.same b
    | _ => false
  | .string a, w => match w with
    | .string b => a == b
    | _ => false
  | .array as, w => match w with
    | .array bs => sameItems as bs
    | _ => false
  | .object as, w => match w with
    | .object bs => as.length == bs.length && sameMembers as bs
    | _ => false

/-- The same items in the same order. -/
def sameItems : List Json → List Json → Bool
  | [], bs => bs.isEmpty
  | a :: as, bs => match bs with
    | b :: bs => same a b && sameItems as bs
    | [] => false

/-- Whether each member of the first list has a counterpart under its key in the second. -/
def sameMembers : List (String × Json) → List (String × Json) → Bool
  | [], _ => true
  | (k, a) :: as, bs =>
    (match Members.get? bs k with
      | some b => same a b
      | none => false) && sameMembers as bs

end

end Json

end RecordSchema
