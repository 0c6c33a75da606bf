import Audience.Comparison.Basic
import Audience.Comparison.Numeric
import Audience.Operator
import Audience.Pattern.Reader
import Audience.Pattern.Size
import Audience.Time.Instant

/-!
# The standard comparison

Two values that both have a numeric reading are compared as numbers. Otherwise values are equal as
JSON, and only texts have an order: in time if both write an instant, else by code points.

`Operator.apply` says what each test answers for the values it compares with, and
`Comparison.standard` finds the test by its name.
-/

namespace Audience

namespace Comparison

/-- Equality: of the numeric readings if there are two, else of the values. -/
def equal (a b : Json) : Bool :=
  match Numeric.ofJson? a, Numeric.ofJson? b with
  | some m, some n => m.order n == .eq
  | _, _ => a.same b

/-- The order of texts. -/
def textOrder (s t : String) : Ordering :=
  match Instant.ofText? s, Instant.ofText? t with
  | some x, some y => x.order y
  | _, _ => compare s t

/-- The order of two values that are not both numeric. -/
def plainOrder : Json → Json → Except Error Ordering
  | .string s, .string t => .ok (textOrder s t)
  | .number _, b => .error (.unexpected "number" b)
  | a, .number _ => .error (.unexpected "number" a)
  | a, _ => .error (.unexpected "number or string" a)

/-- The order of two values. -/
def order (a b : Json) : Except Error Ordering :=
  match Numeric.ofJson? a, Numeric.ofJson? b with
  | some m, some n => .ok (m.order n)
  | _, _ => plainOrder a b

/-- Whether a value lies between two bounds, which belong to the range themselves. The upper bound
is looked at only if the value is not below the lower one. -/
def within (a low high : Json) : Except Error Bool := do
  if (← order a low).isGE then return (← order a high).isLE else return false

/-- Whether a value equals an item of a list. -/
def isMember (a : Json) : Json → Except Error Bool
  | .array items => .ok (items.any (equal a))
  | list => .error (.unexpected "array" list)

/-- Whether a text contains another, or a list an item equal to a value. -/
def includes : Json → Json → Except Error Bool
  | .string s, .string part => .ok (Text.contains s part)
  | .string _, part => .error (.unexpected "string" part)
  | .array items, b => .ok (items.any fun item => equal item b)
  | a, _ => .error (.unexpected "string or array" a)

/-- Two values that must be texts, the first being looked at first. -/
def texts : Json → Json → Except Error (String × String)
  | .string s, .string t => .ok (s, t)
  | .string _, b => .error (.unexpected "string" b)
  | a, _ => .error (.unexpected "string" a)

/-- The words for a pattern that is too large. -/
def tooLargeText : String :=
  "Compiled regex exceeds size limit of " ++ toString Extent.sizeLimit ++ " bytes."

/-- Whether a part of a text matches a pattern. Why a text is no pattern is not explained. -/
def matchesPattern (text pattern : String) : Except Error Bool :=
  match Pattern.parse? pattern with
  | some p =>
    if p.fits then .ok (p.search text) else .error (.invalidPattern pattern tooLargeText)
  | none => .error (.invalidPattern pattern "<reason>")

/-- The instant that a value writes. -/
def instant (a : Json) : Except Error Instant :=
  match a with
  | .string s =>
    match Instant.ofText? s with
    | some x => .ok x
    | none => .error (.typeMismatch "datetime string" ("'" ++ s ++ "'"))
  | _ => .error (.unexpected "datetime string" a)

/-- The order of two instants. -/
def timeOrder (a b : Json) : Except Error Ordering := do
  let x ← instant a
  return x.order (← instant b)

/-- Whether a value is absent. -/
def isNull : Json → Bool
  | .null => true
  | _ => false

end Comparison

open Comparison in
/-- What a test answers for a subject and the values to compare it with. -/
def Operator.apply (op : Operator) (a : Json) (operands : List Json) : Except Error Bool :=
  match op, operands with
  | .isNull, [] => .ok (Comparison.isNull a)
  | .isNotNull, [] => .ok (!Comparison.isNull a)
  | .range, [low, high] => within a low high
  | .notRange, [low, high] => (within a low high).map not
  | .equal, [b] => .ok (Comparison.equal a b)
  | .notEqual, [b] => .ok (!Comparison.equal a b)
  | .greaterThan, [b] => (order a b).map (·.isGT)
  | .greaterThanOrEqual, [b] => (order a b).map (·.isGE)
  | .lessThan, [b] => (order a b).map (·.isLT)
  | .lessThanOrEqual, [b] => (order a b).map (·.isLE)
  | .isIn, [b] => isMember a b
  | .notIn, [b] => (isMember a b).map not
  | .includes, [b] => Comparison.includes a b
  | .notIncludes, [b] => (Comparison.includes a b).map not
  | .startsWith, [b] => (texts a b).map fun (s, t) => t.toList.isPrefixOf s.toList
  | .endsWith, [b] => (texts a b).map fun (s, t) => t.toList.isSuffixOf s.toList
  | .regex, [b] => do
    let (s, pattern) ← texts a b
    matchesPattern s pattern
  | .before, [b] => (timeOrder a b).map (·.isLT)
  | .after, [b] => (timeOrder a b).map (·.isGT)
  | _, _ => .error (.operandCount op.name op.arity operands.length)

/-- Answers the tests that `Operator` lists. -/
def Comparison.standard : Comparison := fun subject test operands =>
  match Operator.ofName? test with
  | some op => op.apply subject operands
  | none => .error (.unknownOperator test)

end Audience
