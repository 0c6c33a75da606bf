import Audience.Json.Source
import Audience.Operator

/-!
# How a condition counts

The conditions of a segment marked `and` must all hold; of those marked `or`, at least one of each
named group. The mark is compared like the name of a test, and none at all means `and`.
-/

namespace Audience

/-- How a condition counts. -/
inductive Connective where
  | and
  | or
deriving DecidableEq, Repr, Inhabited

namespace Connective

/-- The mark in messages. -/
def display : Connective → String
  | and => "AND"
  | or => "OR"

/-- The mark in documents. -/
def name : Connective → String
  | and => "and"
  | or => "or"

/-- The connective that a mark stands for, or the mark as it was understood. -/
def ofMark (mark : Option String) : Except String Connective :=
  match mark.map normalize with
  | none => .ok and
  | some s =>
    if s = "" ∨ s = "and" then .ok and
    else if s = "or" then .ok or
    else .error s

/-- The words for a mark that stands for nothing. -/
def unknownMark (mark : String) : Json.Mismatch :=
  .custom ("无效的 rule_type '" ++ mark ++ "'，仅支持 and / or")

/-- Reads a mark. -/
def read {m : Type → Type} [Monad m] (src : Json.Source m) : m Connective := do
  match ofMark (← src.optional src.string) with
  | .ok c => return c
  | .error mark => src.refuse (unknownMark mark)

end Connective

end Audience
