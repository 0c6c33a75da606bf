import Audience.Error
import Audience.Operator
import Audience.Segment

/-!
# Predicates

A predicate is a segment made ready for evaluation: each condition becomes a `Check` with the
normalised name of its test, the operands that this test takes, and the route of its result, which
either counts on its own or within a named group. `Predicate.ofSegment` refuses a segment that is
malformed, and tells the first fault: the name of the segment, then condition by condition the
variable, the test, the operands from left to right, and the group.
-/

namespace Audience

/-- What a test compares with: a value, or that of another variable. -/
inductive Operand where
  | literal (value : Json)
  | reference (name : String)
deriving Repr

/-- The place of an operand, and the name it has in messages. -/
structure OperandSlot where
  operand : Option Operand
  label : String
deriving Repr

/-- How the result of a check counts. -/
inductive Route where
  /-- It must be positive. -/
  | every
  /-- One of its group must be positive. -/
  | group (index : Nat)
deriving DecidableEq, Repr

/-- A condition made ready for evaluation. -/
structure Check where
  index : Nat
  subject : String
  test : String
  operands : List OperandSlot
  route : Route
deriving Repr

/-- The slots that a test takes its operands from. -/
def slotsOf (test : String) : List Slot :=
  if isRangeTest test then [.minimum, .maximum]
  else if isNullTest test then []
  else [.comparison]

/-- The operand that a given value makes; a reference must be a text that is not blank or a number,
and is otherwise handed back. -/
def Given.operand (g : Given) (slot : Slot) : Except Json OperandSlot :=
  match g.value, g.kind with
  | none, _ => .ok ⟨none, slot.name⟩
  | some j, .literal => .ok ⟨some (.literal j), j.string?.getD j.compact⟩
  | some (.string s), .reference =>
    if Text.blank s then .error (.string s) else .ok ⟨some (.reference s), s⟩
  | some (.number n), .reference => .ok ⟨some (.reference (Json.numberText n)), Json.numberText n⟩
  | some j, .reference => .error j

/-- The name of a condition's group, without white space around it; none if nothing is left. -/
def Condition.group? (c : Condition) : Option String :=
  (c.groupName.map Text.trim).filter (· ≠ "")

/-- The operand for a slot. -/
def Condition.operand (c : Condition) (index : Nat) (slot : Slot) :
    Except Malformation OperandSlot :=
  ((c.given slot).operand slot).mapError (.badReference index slot)

/-- The place of a group among the groups met so far, to which a new one is added. -/
def groupIndex (groups : List String) (name : String) : Nat × List String :=
  match groups.idxOf? name with
  | some i => (i, groups)
  | none => (groups.length, groups ++ [name])

/-- The route of a condition, and the groups met by then. -/
def Condition.route (c : Condition) (index : Nat) (groups : List String) :
    Except Malformation (Route × List String) :=
  match c.connective with
  | .and => .ok (.every, groups)
  | .or =>
    match c.group? with
    | none => .error (.unnamedGroup index)
    | some name =>
      let (i, groups) := groupIndex groups name
      .ok (.group i, groups)

namespace Check

/-- Makes a condition ready, given its place and the groups met before it. -/
def ofCondition (index : Nat) (groups : List String) (c : Condition) :
    Except Malformation (Check × List String) := do
  if Text.blank c.subject then throw (.blankVariable index)
  let test := normalize c.test
  if test = "" then throw (.blankTest index)
  let operands ← (slotsOf test).mapM (c.operand index)
  let (route, groups) ← c.route index groups
  return (⟨index, c.subject, test, operands, route⟩, groups)

/-- Makes conditions ready, from a place on. -/
def ofConditions (index : Nat) (groups : List String) :
    List Condition → Except Malformation (List Check × List String)
  | [] => .ok ([], groups)
  | c :: cs => do
    let (check, groups) ← ofCondition index groups c
    let (checks, groups) ← ofConditions (index + 1) groups cs
    return (check :: checks, groups)

/-- The variables that a check looks up. -/
def lookups (c : Check) : List String :=
  c.subject :: c.operands.filterMap fun slot =>
    match slot.operand with
    | some (.reference name) => some name
    | _ => none

end Check

/-- A segment made ready for evaluation: its checks, and the names of its groups in the order in
which they were met. -/
structure Predicate where
  segment : Segment
  checks : List Check
  groups : List String
deriving Repr

namespace Predicate

/-- The name of the segment. -/
def name (p : Predicate) : String :=
  p.segment.name

/-- The variables that evaluation may look up, in order and without repetition. -/
def requiredFields (p : Predicate) : List String :=
  (Fields.ofList ((p.checks.flatMap Check.lookups).map fun name => (name, ()))).keys

/-- Makes a segment ready, or tells what is wrong with it. -/
def ofSegment (s : Segment) : Except Error Predicate :=
  Except.mapError .malformed do
    if Text.blank s.name then throw .blankName
    let (checks, groups) ← Check.ofConditions 0 [] s.conditions
    return ⟨s, checks, groups⟩

/-- Makes segments ready, or tells what is wrong with the first that cannot be. -/
def ofSegments (segments : List Segment) : Except Error (List Predicate) :=
  segments.mapM ofSegment

/-- Makes the segment ready that a value describes. -/
def ofJson (j : Json) : Except Error Predicate := do
  let s ← (Segment.ofJson j).mapError fun fault => .document (.ofMismatch fault)
  ofSegment s

/-- Makes the segment ready that a text describes. -/
def ofText (text : String) : Except Error Predicate := do
  let s ← (Segment.ofText text).mapError .document
  ofSegment s

end Predicate

end Audience
