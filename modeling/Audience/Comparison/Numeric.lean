import Audience.Json.Basic
import Audience.Number.Decimal
import Audience.Text.Blank

/-!
# The numeric reading of values

A number is read as itself. A text is read as a number if, without the white space around it, it is
a whole number of at most 128 bits or else a finite number in decimal notation. Other values have no
numeric reading. `Numeric.order` compares two whole numbers exactly; as soon as one side is a
binary64 number, both are taken as such.
-/

namespace Audience

/-- The numeric reading of a value. -/
inductive Numeric where
  | integer (value : Int)
  | float (value : Binary64)
deriving DecidableEq, Repr

namespace Numeric

/-- The whole number that characters write. -/
def integerOfChars? (cs : List Char) : Option Int :=
  (intOfChars? cs).filter (fitsSigned 128)

/-- The reading of a text. -/
def ofText? (s : String) : Option Numeric :=
  let cs := Text.trimChars s.toList
  match integerOfChars? cs with
  | some i => some (integer i)
  | none => ((Decimal.ofChars? cs).bind Decimal.nearest?).map float

/-- The reading of a value. -/
def ofJson? : Json → Option Numeric
  | .number (.integer i) => some (integer i)
  | .number (.float x) => some (float x)
  | .string s => ofText? s
  | _ => none

/-- A reading as a binary64 number. -/
def toBinary64 : Numeric → Binary64
  | integer i => .ofInt i
  | float x => x

/-- The order of readings. -/
def order : Numeric → Numeric → Ordering
  | integer a, integer b => compare a b
  | a, b => a.toBinary64.order b.toBinary64

end Numeric

end Audience
