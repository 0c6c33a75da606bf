import Audience.Evaluation

/-!
# Reports

A report explains an evaluation line by line. It lists the conditions that passed; a trace, where
asked for, has a line for each condition judged and then either one for the conditions that count
on their own and one for each group, or one that tells the error at which the evaluation stopped.
-/

namespace Audience

/-- A report on an evaluation. -/
structure Report where
  segmentName : String
  outcome : Outcome
  matchedConditions : List String
  trace : List String
deriving Repr

namespace Report

/-- The word for a result. -/
def verdictWord (passed : Bool) : String :=
  if passed then "MATCHED" else "NOT_MATCHED"

/-- How a check is described, given the names of the groups. -/
def describe (groups : List String) (c : Check) : String :=
  let group :=
    match c.route with
    | .every => "AND"
    | .group i => "OR '" ++ groups.getD i "" ++ "'"
  conditionPath c.index ++ " [" ++ group ++ "]: " ++ c.subject ++ " " ++ c.test ++ " [" ++
    ", ".intercalate (c.operands.map (·.label)) ++ "]"

/-- The line for a condition. -/
def conditionLine (groups : List String) (j : Judgement) : String :=
  describe groups j.check ++ " => " ++ verdictWord j.passed

/-- The line for the conditions that count on their own. -/
def everyLine (e : Evaluation) : String :=
  "AND 组 (" ++ toString (e.results .every).length ++ " 个条件) => " ++ verdictWord e.everyPassed

/-- The line for a group. -/
def groupLine (e : Evaluation) (name : String) (index : Nat) : String :=
  "OR 组 '" ++ name ++ "' (" ++ toString (e.results (.group index)).length ++ " 个条件) => " ++
    verdictWord (e.groupPassed index)

/-- The lines after those for conditions. -/
def closingLines (p : Predicate) (e : Evaluation) : List String :=
  match e.fault with
  | some fault => ["评估中止: " ++ fault.message]
  | none => everyLine e :: p.groups.mapIdx fun i name => groupLine e name i

/-- The report on an evaluation of a predicate. -/
def ofEvaluation (p : Predicate) (e : Evaluation) (traced : Bool) : Report where
  segmentName := p.name
  outcome := e.outcome p
  matchedConditions := (e.judgements.filter (·.passed)).map fun j => describe p.groups j.check
  trace := if traced then e.judgements.map (conditionLine p.groups) ++ closingLines p e else []

/-- A report's document. The time is not measured and written as zero. -/
def toJson (r : Report) : Json :=
  .ofFields
    [("segment_name", .string r.segmentName), ("outcome", r.outcome.toJson),
      ("matched_conditions", .array (r.matchedConditions.map .string)),
      ("evaluation_trace", .array (r.trace.map .string)), ("evaluation_time_us", .ofInt 0)]

end Report

/-- Evaluates a predicate on a record and reports on it. -/
def Predicate.report (p : Predicate) (compare : Comparison) (traced : Bool) (r : Record) : Report :=
  .ofEvaluation p (p.evaluate compare r) traced

end Audience
