import Audience.Comparison.Basic
import Audience.Predicate
import Audience.Record
import Mathlib.Data.List.Infix
import Mathlib.Tactic.SplitIfs

/-!
# The meaning of a segment

What a segment says of a record can be told from its conditions alone, without making them ready.
A condition compares the value of its variable with `Condition.compared`, the values given for its
test, each of which stands for itself or for a variable of the record (`Given.valueIn?`).
`Condition.result?` is the comparison's answer to that, and a segment `Holds` if its `and`
conditions all hold and so does one `or` condition of every name, white space around the name being
dropped.
-/

namespace Audience

/-! ## Names of tests -/

theorem Text.containsChars_iff_infix (part cs : List Char) :
    Text.containsChars part cs = true ↔ part <:+: cs := by
  induction cs with
  | nil => simp [Text.containsChars, List.infix_nil]
  | cons c cs ih =>
    rw [Text.containsChars, Bool.or_eq_true, List.isPrefixOf_iff_prefix, ih, List.infix_cons_iff]

theorem isRangeTest_iff (test : String) :
    isRangeTest test = true ↔ "range".toList <:+: test.toList :=
  Text.containsChars_iff_infix _ _

theorem isNullTest_iff (test : String) :
    isNullTest test = true ↔ "null".toList <:+: test.toList :=
  Text.containsChars_iff_infix _ _

/-! ## Conditions -/

namespace Given

/-- The name of the variable that a given value refers to: a text, or the text of a number. -/
def refersTo? (g : Given) : Option String :=
  match g.kind, g.value with
  | .reference, some (.string s) => some s
  | .reference, some (.number n) => some (Json.numberText n)
  | _, _ => none

/-- The value to compare with: a literal itself, or what the record has for the variable. -/
def valueIn? (r : Record) (g : Given) : Option Json :=
  match g.kind with
  | .literal => g.value
  | .reference => g.refersTo?.bind r.get?

end Given

namespace Condition

/-- The values that a condition compares with: its bounds if the name of the test contains `range`,
otherwise none if that contains `null`, and otherwise the one value given for comparison. -/
def compared (c : Condition) : List Given :=
  if "range".toList <:+: (normalize c.test).toList then [c.minimum, c.maximum]
  else if "null".toList <:+: (normalize c.test).toList then []
  else [c.comparison]

/-- The slots of the values that a condition compares with. -/
def slots (c : Condition) : List Slot :=
  if "range".toList <:+: (normalize c.test).toList then [.minimum, .maximum]
  else if "null".toList <:+: (normalize c.test).toList then []
  else [.comparison]

theorem slots_eq_slotsOf (c : Condition) : c.slots = slotsOf (normalize c.test) := by
  simp only [slots, slotsOf, isRangeTest_iff, isNullTest_iff]

theorem compared_eq_map_given (c : Condition) :
    c.compared = (slotsOf (normalize c.test)).map c.given := by
  rw [← slots_eq_slotsOf]
  unfold compared slots
  split_ifs <;> rfl

/-- The comparison's answer to the test of a condition. There is none if a variable is not defined,
a value is not given, or the comparison fails. -/
def result? (compare : Comparison) (r : Record) (c : Condition) : Option Bool := do
  let subject ← r.get? c.subject
  let operands ← c.compared.mapM (·.valueIn? r)
  (compare subject (normalize c.test) operands).toOption

/-- A condition is one of those of which one must hold under a name. -/
def InGroup (c : Condition) (name : String) : Prop :=
  c.connective = .or ∧ c.groupName.map Text.trim = some name

end Condition

/-- What a segment says of a record. -/
structure Segment.Holds (compare : Comparison) (r : Record) (s : Segment) : Prop where
  every : ∀ c ∈ s.conditions, c.connective = .and → c.result? compare r = some true
  groups : ∀ name, (∃ c ∈ s.conditions, c.InGroup name) →
    ∃ c ∈ s.conditions, c.InGroup name ∧ c.result? compare r = some true

end Audience
