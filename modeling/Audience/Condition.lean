import Audience.Connective
import Audience.Error

/-!
# Conditions

A condition tests one variable of a record. Up to three values may be given for the test, each a
literal or the name of another variable; which of them count depends on the test.

`Condition.read` reads a condition from a list of its fields in their order or from an object, and
`Condition.toJson` writes the object. A value that is given as `null` differs from one that is not
given, save for the group identifier, where both are read as not given.
-/

namespace Audience

/-- What a given value stands for. -/
inductive ValueKind where
  | literal
  | reference
deriving DecidableEq, Repr, Inhabited

namespace ValueKind

/-- The kind's name in documents. -/
def name : ValueKind → String
  | literal => "literal"
  | reference => "variable"

/-- The kind of a name. -/
def ofName? (s : String) : Option ValueKind :=
  if s = "literal" then some literal else if s = "variable" then some reference else none

/-- Reads a kind; `null` is a literal's. -/
def read {m : Type → Type} [Monad m] (src : Json.Source m) : m ValueKind := do
  return (← src.optional (src.variant ["literal", "variable"] ofName?)).getD literal

end ValueKind

/-- A value given for a test, if any, and what it stands for. -/
structure Given where
  value : Option Json
  kind : ValueKind
deriving Repr, Inhabited

namespace Given

/-- No value. -/
def absent : Given := ⟨none, .literal⟩

/-- A value that stands for itself. -/
def literal (value : Json) : Given := ⟨some value, .literal⟩

/-- The value of a variable. -/
def reference (name : String) : Given := ⟨some (.string name), .reference⟩

/-- Equality of given values. -/
def same (a b : Given) : Bool :=
  Json.sameOption a.value b.value && a.kind == b.kind

end Given

/-- One test of one variable. -/
structure Condition where
  subject : String
  test : String
  comparison : Given
  minimum : Given
  maximum : Given
  connective : Connective
  groupName : Option String
  groupId : Option Json
deriving Repr, Inhabited

namespace Condition

/-- A condition that gives no values. -/
def new (subject test : String) : Condition :=
  ⟨subject, test, .absent, .absent, .absent, .and, none, none⟩

/-- Compares with a literal. -/
def literal (c : Condition) (value : Json) : Condition :=
  { c with comparison := .literal value }

/-- Compares with another variable. -/
def against (c : Condition) (name : String) : Condition :=
  { c with comparison := .reference name }

/-- Sets literal bounds. -/
def between (c : Condition) (minimum maximum : Json) : Condition :=
  { c with minimum := .literal minimum, maximum := .literal maximum }

/-- Sets bounds that are variables. -/
def betweenVariables (c : Condition) (minimum maximum : String) : Condition :=
  { c with minimum := .reference minimum, maximum := .reference maximum }

/-- Puts the condition into a named group. -/
def orGroup (c : Condition) (name : String) : Condition :=
  { c with connective := .or, groupName := some name }

/-- The value given for a slot. -/
def given (c : Condition) : Slot → Given
  | .comparison => c.comparison
  | .minimum => c.minimum
  | .maximum => c.maximum

/-- Equality of conditions. -/
def same (a b : Condition) : Bool :=
  a.subject == b.subject && a.test == b.test && a.comparison.same b.comparison &&
    a.minimum.same b.minimum && a.maximum.same b.maximum && a.connective == b.connective &&
    a.groupName == b.groupName && Json.sameOption a.groupId b.groupId

/-- Equality of lists of conditions. -/
def sameAll : List Condition → List Condition → Bool
  | [], [] => true
  | a :: as, b :: bs => a.same b && sameAll as bs
  | _, _ => false

/-! ## Documents -/

/-- A field of a condition's document. -/
inductive Field where
  | subject
  | test
  | comparison
  | comparisonKind
  | minimum
  | minimumKind
  | maximum
  | maximumKind
  | connective
  | groupName
  | groupId
deriving DecidableEq, Repr

namespace Field

/-- All fields, in the order of a list. -/
def all : List Field :=
  [subject, test, comparison, comparisonKind, minimum, minimumKind, maximum, maximumKind,
    connective, groupName, groupId]

/-- The field's key. -/
def key : Field → String
  | subject => "variable_name"
  | test => "condition_test"
  | comparison => "value_comparison"
  | comparisonKind => "value_comparison_type"
  | minimum => "value_minimum"
  | minimumKind => "value_minimum_type"
  | maximum => "value_maximum"
  | maximumKind => "value_maximum_type"
  | connective => "rule_type"
  | groupName => "rule_name"
  | groupId => "condition_group_id"

/-- The field with a key. -/
def ofKey? (k : String) : Option Field :=
  all.find? fun f => f.key == k

end Field

section Reading

variable {m : Type → Type} [Monad m] (src : Json.Source m)

/-- Reads one field. -/
def readField (f : Field) (c : Condition) : m Condition := do
  match f with
  | .subject => return { c with subject := ← src.string }
  | .test => return { c with test := ← src.string }
  | .comparison => return { c with comparison := ⟨some (← src.value), c.comparison.kind⟩ }
  | .comparisonKind => return { c with comparison := ⟨c.comparison.value, ← ValueKind.read src⟩ }
  | .minimum => return { c with minimum := ⟨some (← src.value), c.minimum.kind⟩ }
  | .minimumKind => return { c with minimum := ⟨c.minimum.value, ← ValueKind.read src⟩ }
  | .maximum => return { c with maximum := ⟨some (← src.value), c.maximum.kind⟩ }
  | .maximumKind => return { c with maximum := ⟨c.maximum.value, ← ValueKind.read src⟩ }
  | .connective => return { c with connective := ← Connective.read src }
  | .groupName => return { c with groupName := ← src.optional src.string }
  | .groupId => return { c with groupId := ← src.optional src.value }

/-- A condition read so far, and the fields that were there. -/
structure Draft where
  condition : Condition
  seen : List Field

/-- Reads one field into a draft. -/
def readInto (f : Field) (d : Draft) : m Draft := do
  return ⟨← readField src f d.condition, f :: d.seen⟩

/-- Reads the item at a place of a list. -/
def readItem (i : Nat) (d : Draft) : m Draft :=
  match Field.all[i]? with
  | some f => readInto src f d
  | none => pure d

/-- Reads the value of a key; a known key may not be repeated. -/
def readMember (k : String) (d : Draft) : Except Json.Mismatch (m Draft) :=
  match Field.ofKey? k with
  | none => .ok (do src.ignore; return d)
  | some f => if d.seen.contains f then .error (.duplicateField k) else .ok (readInto src f d)

/-- What a condition is called in messages. -/
def title : String := "struct Condition"

/-- The condition of a list: the variable and the test must be there. -/
def ofItems : m Condition := do
  let (d, count) ← src.items Field.all.length (readItem src) ⟨new "" "", []⟩
  if count < 2 then src.refuse (.invalidLength count (title ++ " with 11 elements"))
  else return d.condition

/-- The condition of an object: the variable and the test must be there. -/
def ofMembers : m Condition := do
  let d ← src.fields (readMember src) ⟨new "" "", []⟩
  if !d.seen.contains .subject then src.refuse (.missingField Field.subject.key)
  else if !d.seen.contains .test then src.refuse (.missingField Field.test.key)
  else return d.condition

/-- Reads a condition. -/
def read : m Condition :=
  src.record title Field.all.length (ofItems src) (ofMembers src)

end Reading

/-- The condition that a value describes. -/
def ofJson (j : Json) : Except Json.Mismatch Condition :=
  read .ofValue j

/-- The condition that a text describes. -/
def ofText (text : String) : Except Json.Error Condition :=
  Json.readText read text

/-- A field that is left out if it has no value. -/
def optionalField (f : Field) (value : Option Json) : List (String × Json) :=
  match value with
  | some j => [(f.key, j)]
  | none => []

/-- A condition's document. -/
def toJson (c : Condition) : Json :=
  .ofFields <|
    [(Field.subject.key, .string c.subject), (Field.test.key, .string c.test)] ++
      optionalField .comparison c.comparison.value ++
      [(Field.comparisonKind.key, .string c.comparison.kind.name)] ++
      optionalField .minimum c.minimum.value ++
      [(Field.minimumKind.key, .string c.minimum.kind.name)] ++
      optionalField .maximum c.maximum.value ++
      [(Field.maximumKind.key, .string c.maximum.kind.name),
        (Field.connective.key, .string c.connective.name)] ++
      optionalField .groupName (c.groupName.map .string) ++
      optionalField .groupId c.groupId

end Condition

end Audience
