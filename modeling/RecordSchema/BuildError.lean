/-
Why a schema fragment can not be compiled.

An error inside a field or an option is wrapped in `inField` once for each
level, so that the names lead to the fragment at fault.
-/
namespace RecordSchema

inductive BuildError where
  | unrecognizedFragment (got : String)
  | unknownKind (name : String)
  | invalidDirective (directive reason : String)
  | unsupportedDirective (directive kind : String)
  | conflictingDirectives (first second : String)
  | missingDirective (what : String)
  | unexpectedKey (key : String)
  | unexpectedDirective (key : String)
  | invalidFieldName (name : String)
  | unknownRequiredField (name : String)
  | invalidSpecialName (name : String)
  | malformedJson
  | inField (field : String) (error : BuildError)
  deriving DecidableEq

namespace BuildError

def message : BuildError → String
  | unrecognizedFragment got => "unrecognized schema fragment: " ++ got
  | unknownKind name => "unknown type: " ++ name
  | invalidDirective directive reason => "invalid " ++ directive ++ ": " ++ reason
  | unsupportedDirective directive kind => directive ++ " is not supported for type " ++ kind
  | conflictingDirectives first second => first ++ " can not be combined with " ++ second
  | missingDirective what => "missing " ++ what
  | unexpectedKey key => "unexpected key: " ++ key
  | unexpectedDirective key => "unexpected directive: " ++ key
  | invalidFieldName name => "invalid field name: " ++ name
  | unknownRequiredField name => "__require__ refers to unknown field: " ++ name
  | invalidSpecialName name => "invalid special name: " ++ name
  | malformedJson => "malformed JSON: <json error>"
  | inField field error => "in field " ++ field ++ ": " ++ message error

/-- The error without the fields it is wrapped in. -/
def rootCause : BuildError → BuildError
  | inField _ error => rootCause error
  | error => error

/-- The fields an error is wrapped in, from the outside in. -/
def fields : BuildError → List String
  | inField field error => field :: fields error
  | _ => []

end BuildError

end RecordSchema
