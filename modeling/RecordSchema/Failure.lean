/-
What a value is refused for: each failure with its place, its reason and, as
far as it helps, a text of the value found there.

A check gives the list of its failures in the order of their discovery; the
empty list is acceptance. Lists of failures are joined by appending them.
-/
import RecordSchema.Path

namespace RecordSchema

/-- Why a value is refused. -/
inductive Reason where
  | notAString
  | failedKindPattern
  | failedCustomPattern
  | notABool
  | isABool
  | notAnInteger
  | signed
  | notADecimal
  | notAFloat
  | notJson
  | notInOptions
  | tooShort
  | tooLong
  | belowMinimum
  | aboveMaximum
  | notAList
  | notAHash
  | notAnObject
  /-- Repeats the item at a path. -/
  | duplicateOf (first : Path)
  | invalidKey (key : String)
  | noValidOption
  | missing
  /-- Is set without a field that it needs. -/
  | requires (field : String)
  | undeclared
  /-- A reason in words of the caller's own. -/
  | stated (words : String)
  deriving DecidableEq

/-- The words for a reason, by which callers tell reasons apart. -/
def Reason.text : Reason → String
  | .notAString => "not a string"
  | .failedKindPattern => "failed regex (internal)"
  | .failedCustomPattern => "failed regex (custom)"
  | .notABool => "not a valid bool"
  | .isABool => "is a bool"
  | .notAnInteger => "not an integer"
  | .signed => "signed"
  | .notADecimal => "can not be converted to decimal"
  | .notAFloat => "can not be converted to float"
  | .notJson => "can not be decoded from JSON"
  | .notInOptions => "not in options"
  | .tooShort => "not long enough"
  | .tooLong => "too long"
  | .belowMinimum => "did not meet minimum"
  | .aboveMaximum => "exceeds maximum"
  | .notAList => "not a list"
  | .notAHash => "not a hash"
  | .notAnObject => "not an object"
  | .duplicateOf first => "duplicate of " ++ first.text
  | .invalidKey key => "invalid key: " ++ key
  | .noValidOption => "no valid option"
  | .missing => "missing"
  | .requires field => "requires \"" ++ field ++ "\" to also be set"
  | .undeclared => "not a valid node"
  | .stated words => words

/-- One thing wrong with a value. -/
structure Failure where
  path : Path
  reason : Reason
  /-- The value at the path as JSON text, or the name of its type. -/
  got : Option String
  deriving DecidableEq

namespace Failure

/-- The place and the reason as texts. -/
def pair (f : Failure) : String × String := (f.path.text, f.reason.text)

/-- The failure in one line. -/
def text (f : Failure) : String :=
  f.path.describe ++ ": " ++ f.reason.text ++
    match f.got with
    | some got => " (got: " ++ got ++ ")"
    | none => ""

end Failure

/-- What was found wrong, in the order of discovery. -/
abbrev Failures := List Failure

namespace Failures

/-- The failures at exactly one path. -/
def atPath (fs : Failures) (path : Path) : Failures := fs.filter (·.path = path)

/-- The failures for a reason with given words. -/
def withReason (fs : Failures) (words : String) : Failures := fs.filter (·.reason.text = words)

/-- The failures as numbered lines, counted from `n`. -/
def lines (n : Nat) : Failures → String
  | [] => ""
  | f :: fs => "  " ++ String.ofList (Text.decimal n) ++ ". " ++ f.text ++ "\n" ++ lines (n + 1) fs

/-- A heading with the count of failures, and a numbered line for each. -/
def text (fs : Failures) : String :=
  "validation failed with " ++ String.ofList (Text.decimal fs.length) ++ " problem(s):\n" ++ lines 1 fs

end Failures

end RecordSchema
