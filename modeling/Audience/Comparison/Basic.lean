import Audience.Error

/-!
# Comparisons

A `Comparison` answers the tests of conditions: given a subject, the normalised name of a test and
the values to compare with, it says whether the subject passes, or why that cannot be told.
`Json.typeName` names the kinds of values in such reasons.
-/

namespace Audience

/-- Answers tests by their normalised names. -/
abbrev Comparison := (subject : Json) → (test : String) → (operands : List Json) → Except Error Bool

/-- The kind of a value. -/
def Json.typeName : Json → String
  | .null => "null"
  | .boolean _ => "boolean"
  | .number _ => "number"
  | .string _ => "string"
  | .array _ => "array"
  | .object _ => "object"

/-- Refuses a value of the wrong kind. -/
def Error.unexpected (expected : String) (actual : Json) : Error :=
  .typeMismatch expected actual.typeName

end Audience
