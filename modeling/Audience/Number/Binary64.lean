/-!
# Finite binary64 numbers

Every finite binary64 number is a whole number of units of 2⁻¹⁰⁷⁴, so `Binary64` holds a sign and a
count of units. Order and equality of the numbers are those of the integers `signed`; the sign of
zero shows in the text of a number only.

`nearestUnits` rounds a quotient to the nearest count that binary64 has, a tie to the even
significand. Reading a decimal, converting an integer, multiplying and dividing are that rounding of
an exact quotient; none is the answer when the result is too large.
-/

namespace Audience

/-- A finite binary64 number: `units` times 2⁻¹⁰⁷⁴, below zero if `negative`. -/
structure Binary64 where
  negative : Bool
  units : Nat
deriving DecidableEq, Repr, Inhabited

namespace Binary64

/-- One, in units. -/
def scale : Nat := Nat.pow 2 1074

/-- The first count of units that is too large. -/
def limit : Nat := Nat.pow 2 2098

/-- The count of units with its sign. -/
def signed (x : Binary64) : Int :=
  if x.negative then -(x.units : Int) else x.units

/-- The whole number nearest to `num / den`, the even one of two. -/
def roundHalfEven (num den : Nat) : Nat :=
  let q := num / den
  let twice := 2 * (num % den)
  if twice < den then q
  else if den < twice then q + 1
  else if q % 2 = 0 then q else q + 1

/-- The count of units nearest to `num / den` among those with at most 53 significant bits. -/
def nearestUnits (num den : Nat) : Nat :=
  let q := num / den
  if q < Nat.pow 2 53 then roundHalfEven num den
  else
    let gap := Nat.pow 2 (q.log2 - 52)
    roundHalfEven num (den * gap) * gap

/-- The number nearest to `num / den`, if it is finite. -/
def ofRatio? (negative : Bool) (num den : Nat) : Option Binary64 :=
  let u := nearestUnits (num * scale) den
  if u < limit then some ⟨negative, u⟩ else none

/-- The number nearest to a whole number of absolute value below 2¹⁰²³. -/
def ofInt (i : Int) : Binary64 :=
  ⟨i < 0, nearestUnits (i.natAbs * scale) 1⟩

/-- The product, rounded. -/
def mul? (x y : Binary64) : Option Binary64 :=
  let u := nearestUnits (x.units * y.units) scale
  if u < limit then some ⟨x.negative != y.negative, u⟩ else none

/-- The quotient by a number other than zero, rounded. -/
def div? (x y : Binary64) : Option Binary64 :=
  let u := nearestUnits (x.units * scale) y.units
  if u < limit then some ⟨x.negative != y.negative, u⟩ else none

/-- The number of opposite sign. -/
def neg (x : Binary64) : Binary64 :=
  ⟨!x.negative, x.units⟩

/-- The order of the numbers. -/
def order (x y : Binary64) : Ordering :=
  compare x.signed y.signed

/-- Whether the numbers are equal; the two zeros are. -/
def same (x y : Binary64) : Bool :=
  x.signed == y.signed

end Binary64

end Audience
