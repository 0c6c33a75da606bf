import Audience.Text.Blank
import Audience.Text.Case

/-!
# Names of tests

The name of a test is compared without its white space and letter case: `normalize` takes both away.
A name that contains `range` needs two bounds, and otherwise one that contains `null` needs nothing
to compare with. `Operator` lists the tests that the standard comparison knows, `Operator.ofName?`
finds one by any of its names and `Operator.name` gives its own.
-/

namespace Audience

/-- The name without white space, in lower case. -/
def normalize (name : String) : String :=
  String.ofList ((name.toList.filter fun c => !Text.isBlank c).flatMap Text.lowerChar)

/-- Whether a normalised name tests for a value between two bounds. -/
def isRangeTest (name : String) : Bool :=
  Text.contains name "range"

/-- Whether a normalised name tests for the absence of a value. -/
def isNullTest (name : String) : Bool :=
  Text.contains name "null"

/-- A test of the standard comparison. -/
inductive Operator where
  | equal
  | notEqual
  | greaterThan
  | greaterThanOrEqual
  | lessThan
  | lessThanOrEqual
  | range
  | notRange
  | isIn
  | notIn
  | includes
  | notIncludes
  | startsWith
  | endsWith
  | regex
  | before
  | after
  | isNull
  | isNotNull
deriving DecidableEq, Repr

namespace Operator

/-- All tests. -/
def all : List Operator :=
  [equal, notEqual, greaterThan, greaterThanOrEqual, lessThan, lessThanOrEqual, range, notRange,
    isIn, notIn, includes, notIncludes, startsWith, endsWith, regex, before, after, isNull,
    isNotNull]

/-- The names of a test, its own first. -/
def names : Operator → List String
  | equal => ["equal", "equals", "equalto", "eq"]
  | notEqual => ["notequal", "notequals", "notequalto", "neq"]
  | greaterThan => ["greaterthan", "gt"]
  | greaterThanOrEqual => ["greaterthanorequal", "greaterthanorequalto", "gte"]
  | lessThan => ["lessthan", "lt"]
  | lessThanOrEqual => ["lessthanorequal", "lessthanorequalto", "lte"]
  | range => ["range", "inrange"]
  | notRange => ["notrange", "notinrange"]
  | isIn => ["in"]
  | notIn => ["notin"]
  | includes => ["includes", "contains"]
  | notIncludes => ["notincludes", "notcontains"]
  | startsWith => ["startswith"]
  | endsWith => ["endswith"]
  | regex => ["regex", "matches"]
  | before => ["before"]
  | after => ["after"]
  | isNull => ["isnull", "null"]
  | isNotNull => ["isnotnull", "notnull"]

/-- The name that a test is shown under. -/
def name (op : Operator) : String :=
  op.names.headD ""

/-- How many values a test compares with. -/
def arity : Operator → Nat
  | range | notRange => 2
  | isNull | isNotNull => 0
  | _ => 1

/-- The test with the given name, in any spelling. -/
def ofName? (s : String) : Option Operator :=
  all.find? fun op => op.names.contains (normalize s)

theorem mem_all (op : Operator) : op ∈ all := by
  cases op <;> decide

end Operator

end Audience
