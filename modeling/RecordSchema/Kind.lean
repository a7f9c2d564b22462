/-
The kinds of scalar values, and what each kind allows a schema to say.
-/
namespace RecordSchema

/-- A kind of scalar value. -/
inductive Kind where
  | any
  | base64
  | bool
  | date
  | datetime
  | decimal
  | float
  | int
  | ip
  | json
  | md5
  | price
  | string
  | time
  | timestamp
  | uint
  | uuid
  deriving DecidableEq, Repr

namespace Kind

/-- Every kind, in the order of the names. -/
def all : List Kind :=
  [any, base64, bool, date, datetime, decimal, float, int, ip, json, md5, price, string, time, timestamp,
   uint, uuid]

/-- The name of a kind in schemas. -/
def name : Kind → String
  | any => "any"
  | base64 => "base64"
  | bool => "bool"
  | date => "date"
  | datetime => "datetime"
  | decimal => "decimal"
  | float => "float"
  | int => "int"
  | ip => "ip"
  | json => "json"
  | md5 => "md5"
  | price => "price"
  | string => "string"
  | time => "time"
  | timestamp => "timestamp"
  | uint => "uint"
  | uuid => "uuid"

def ofName? (s : String) : Option Kind := all.find? (·.name == s)

theorem ofName?_name (k : Kind) : ofName? k.name = some k := by cases k <;> decide

def isInteger : Kind → Bool
  | int | timestamp | uint => true
  | _ => false

/-- The integer kinds without negative values. -/
def isUnsigned : Kind → Bool
  | timestamp | uint => true
  | _ => false

/-- The kinds of dates and times. -/
def isTemporal : Kind → Bool
  | date | datetime | time => true
  | _ => false

/-- The kinds that compare as exact decimals. -/
def isDecimal : Kind → Bool
  | decimal | price => true
  | _ => false

/-- Whether a list of allowed values may be given. -/
def supportsOptions : Kind → Bool
  | any | bool | json => false
  | _ => true

/-- Whether a minimum and a maximum may be given. -/
def supportsBounds : Kind → Bool
  | date | datetime | decimal | float | int | ip | price | string | time | timestamp | uint => true
  | _ => false

/-- How a date or time of the kind is laid out, in conversion letters. -/
def temporalFormat? : Kind → Option String
  | date => some "%Y-%m-%d"
  | datetime => some "%Y-%m-%d %H:%M:%S"
  | time => some "%H:%M:%S"
  | _ => none

end Kind

end RecordSchema
