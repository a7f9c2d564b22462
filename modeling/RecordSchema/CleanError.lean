/-
Why a value can not be brought into canonical form, and where.
-/
import RecordSchema.Kind
import RecordSchema.Path

namespace RecordSchema

/-- What is wrong with the value at a place. -/
inductive CleanError.Cause where
  /-- A value, given as JSON text, has no counterpart of the kind. -/
  | unconvertible (kind : Kind) (got : String)
  /-- A value of another type stands where a container has to. -/
  | wrongShape (expected got : String)
  | unknownField (field : String)
  | noValidOption
  deriving DecidableEq

structure CleanError where
  path : Path
  cause : CleanError.Cause
  deriving DecidableEq

namespace CleanError

def Cause.text : Cause → String
  | .unconvertible kind got => "can not convert " ++ got ++ " to " ++ kind.name
  | .wrongShape expected got => "expected " ++ expected ++ ", got " ++ got
  | .unknownField field => "unknown field " ++ field
  | .noValidOption => "no valid option"

def message (e : CleanError) : String := e.path.describe ++ ": " ++ e.cause.text

end CleanError

end RecordSchema
