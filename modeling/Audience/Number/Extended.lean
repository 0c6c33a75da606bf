import Audience.Number.Decimal
import Audience.Number.Shortest
import Audience.Text.Case

/-!
# Binary64 numbers, finite or not

`Extended` adds the infinities and the undefined number to `Binary64`. `Extended.ofChars?` reads
decimal notation, where a number that is too large becomes infinite, and the words for the others.
-/

namespace Audience

/-- A binary64 number, finite or not. -/
inductive Extended where
  | finite (value : Binary64)
  | infinite (negative : Bool)
  | undefined
deriving DecidableEq, Repr, Inhabited

namespace Extended

/-- The number nearest to a decimal. -/
def ofDecimal (d : Decimal) : Extended :=
  match d.nearest? with
  | some x => finite x
  | none => infinite d.negative

/-- The number that a word stands for, after a sign. -/
def ofWord? (negative : Bool) (word : String) : Option Extended :=
  if Text.equalIgnoringAsciiCase word "inf" || Text.equalIgnoringAsciiCase word "infinity" then
    some (infinite negative)
  else if Text.equalIgnoringAsciiCase word "nan" then some undefined
  else none

/-- Reads decimal notation or a word, in any letter case. -/
def ofChars? (cs : List Char) : Option Extended :=
  match Decimal.ofChars? cs with
  | some d => some (ofDecimal d)
  | none =>
    let (negative, cs) := splitSign cs
    ofWord? negative (String.ofList cs)

/-- Whether the number is zero. -/
def isZero : Extended → Bool
  | finite x => x.units == 0
  | _ => false

/-- The number written out in full, a whole number with `.0` if `point` is set. -/
def text (point : Bool) : Extended → String
  | finite x => { NumberLayout.plain with point }.text x
  | infinite true => "-inf"
  | infinite false => "inf"
  | undefined => "NaN"

end Extended

end Audience
