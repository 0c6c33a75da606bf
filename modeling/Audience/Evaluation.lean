import Audience.Comparison.Basic
import Audience.Failure
import Audience.Predicate
import Audience.Record

/-!
# Evaluation

To evaluate a predicate on a record is to judge its checks in their order, each by one call of a
comparison: its subject is looked up, then its operands from left to right, then the comparison is
asked. A negative answer does not end the evaluation, the first error does.

`Evaluation` keeps what happened: the calls that were made, the checks that were judged with their
results, and the error if there was one. The outcome follows from it (`Evaluation.outcome`): the
predicate holds if every check that counts on its own was positive and so was one check of each
group.
-/

namespace Audience

/-- What a comparison is asked. -/
structure Call where
  subject : Json
  test : String
  operands : List Json
deriving Repr

/-- Asks a comparison. -/
def Call.answer (compare : Comparison) (call : Call) : Except Error Bool :=
  compare call.subject call.test call.operands

/-- The value of an operand in a record. -/
def Operand.resolve? (r : Record) : Operand → Option Json
  | .literal j => some j
  | .reference name => r.get? name

/-- The value for a slot; without one, its label is missing. -/
def OperandSlot.resolve (r : Record) (slot : OperandSlot) : Except Error Json :=
  match slot.operand.bind (·.resolve? r) with
  | some j => .ok j
  | none => .error (.missingVariable slot.label)

namespace Check

/-- What the comparison is asked for a record. -/
def call (c : Check) (r : Record) : Except Error Call := do
  match r.get? c.subject with
  | none => throw (.missingVariable c.subject)
  | some subject => return ⟨subject, c.test, ← c.operands.mapM (·.resolve r)⟩

/-- How an error of the comparison is told: a missing variable and a failed test as they are, any
other error as a failure of this test. -/
def toldAs (c : Check) : Error → Error
  | .missingVariable name => .missingVariable name
  | .operatorFailure operator detail => .operatorFailure operator detail
  | e => .operatorFailure c.test e.message

/-- The comparison's answer to a call. -/
def answer (compare : Comparison) (c : Check) (call : Call) : Except Error Bool :=
  (call.answer compare).mapError c.toldAs

end Check

/-- A check and its result. -/
structure Judgement where
  check : Check
  passed : Bool
deriving Repr

/-- What happened when checks were judged in turn. -/
structure Evaluation where
  calls : List Call
  judgements : List Judgement
  fault : Option Error
deriving Repr

namespace Evaluation

/-- Judges checks up to the first error. -/
def ofChecks (compare : Comparison) (r : Record) : List Check → Evaluation
  | [] => ⟨[], [], none⟩
  | c :: cs =>
    match c.call r with
    | .error e => ⟨[], [], some e⟩
    | .ok call =>
      match c.answer compare call with
      | .error e => ⟨[call], [], some e⟩
      | .ok passed =>
        let rest := ofChecks compare r cs
        ⟨call :: rest.calls, ⟨c, passed⟩ :: rest.judgements, rest.fault⟩

/-- The results that count on a route. -/
def results (e : Evaluation) (route : Route) : List Bool :=
  (e.judgements.filter fun j => j.check.route = route).map (·.passed)

/-- Whether all results that count on their own are positive. -/
def everyPassed (e : Evaluation) : Bool :=
  (e.results .every).all id

/-- Whether one result of a group is positive. -/
def groupPassed (e : Evaluation) (index : Nat) : Bool :=
  (e.results (.group index)).any id

/-- Whether the results make a match, there being so many groups. -/
def verdict (e : Evaluation) (groups : Nat) : Bool :=
  e.everyPassed && (List.range groups).all e.groupPassed

end Evaluation

/-- What comes of evaluating a predicate. -/
inductive Outcome where
  | matched (segment : Segment)
  | notMatched
  | failed (failure : Failure)
deriving Repr

namespace Outcome

/-- The segment that was matched. -/
def segment? : Outcome → Option Segment
  | matched s => some s
  | _ => none

/-- The failure of the evaluation. -/
def failure? : Outcome → Option Failure
  | failed f => some f
  | _ => none

/-- The outcome's document: the segment's, `false`, or the failure's. -/
def toJson : Outcome → Json
  | matched s => s.toJson
  | notMatched => .boolean false
  | failed f => f.toJson

end Outcome

/-- The outcome for the predicate that was evaluated. -/
def Evaluation.outcome (e : Evaluation) (p : Predicate) : Outcome :=
  match e.fault with
  | some fault => .failed (.ofError fault)
  | none => if e.verdict p.groups.length then .matched p.segment else .notMatched

namespace Predicate

/-- Evaluates a predicate on a record. -/
def evaluate (p : Predicate) (compare : Comparison) (r : Record) : Evaluation :=
  .ofChecks compare r p.checks

/-- The outcome of evaluating a predicate on a record. -/
def outcome (p : Predicate) (compare : Comparison) (r : Record) : Outcome :=
  (p.evaluate compare r).outcome p

end Predicate

end Audience
