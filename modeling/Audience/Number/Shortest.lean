import Audience.Number.Decimal

/-!
# Shortest digits

A binary64 number is written with the fewest digits that are nearer to it than to any other
binary64 number, and with the nearest such digits. `Digits.ofUnits` finds them on the grids of one
to seventeen digits: on each, only the grid points beside the number can be in reach.

A `NumberLayout` says how the digits become text.
-/

namespace Audience

/-- The digits of a positive number, a point standing `point` places after their start. -/
structure Digits where
  digits : Nat
  point : Int
deriving DecidableEq, Repr

namespace Digits

/-- The numbers that round to a positive count of units, in half units, and whether the ends are
among them. -/
structure Reach where
  low : Nat
  high : Nat
  closed : Bool

/-- Half the distance to the neighbours, in half units: `gap` above, and `gap` or half of it below
a power of two. -/
def reach (units : Nat) : Reach :=
  if units < Nat.pow 2 53 then ⟨2 * units - 1, 2 * units + 1, units % 2 = 0⟩
  else
    let gap := Nat.pow 2 (units.log2 - 52)
    let below := if units = Nat.pow 2 units.log2 then gap / 2 else gap
    ⟨2 * units - below, 2 * units + gap, (units / gap) % 2 = 0⟩

/-- Whether `n` times ten to the power `k` is in reach; both sides are multiplied by `2 · scale`. -/
def Reach.holds (r : Reach) (n : Nat) (k : Int) : Bool :=
  let value := n * (2 * Binary64.scale) * Nat.pow 10 k.toNat
  let unit := Nat.pow 10 (-k).toNat
  if r.closed then r.low * unit ≤ value && value ≤ r.high * unit
  else r.low * unit < value && value < r.high * unit

/-- The power of ten just above the number: `10 ^ (p - 1) ≤ units / scale < 10 ^ p`. The number is
at least 10⁻⁴⁰⁰. -/
def leading (units : Nat) : Int :=
  (Decimal.digitCount (units * Nat.pow 10 400 / Binary64.scale) : Int) - 400

/-- The grid point in reach on the grid of multiples of `10 ^ k`, the nearer of two, the even one of
two equally near. -/
def onGrid? (units : Nat) (k : Int) : Option Nat :=
  let num := units * Nat.pow 10 (-k).toNat
  let den := Binary64.scale * Nat.pow 10 k.toNat
  let below := num / den
  let twice := 2 * (num % den)
  let r := reach units
  let upper := den < twice || (twice == den && below % 2 == 1)
  let first := if upper then below + 1 else below
  let second := if upper then below else below + 1
  if r.holds first k then some first
  else if r.holds second k then some second
  else none

/-- The first grid with a point in reach, among those of `count`, `count + 1`, … digits. -/
def search (units : Nat) (p : Int) : (fuel count : Nat) → Digits
  | 0, _ => ⟨units, p⟩
  | fuel + 1, count =>
    match onGrid? units (p - count) with
    | some n =>
      if n = Nat.pow 10 count then ⟨1, p + 1⟩ else ⟨n, p⟩
    | none => search units p fuel (count + 1)

/-- The shortest digits of a positive count of units. -/
def ofUnits (units : Nat) : Digits :=
  search units (leading units) 17 1

/-- The digits as characters, zeros at the end dropped. -/
def chars (d : Digits) : List Char :=
  ((Nat.toDigits 10 d.digits).reverse.dropWhile (· = '0')).reverse

end Digits

/-- How the digits of a number become text. Numbers whose first digit stands for a power of ten
from `lowest` up to `highest` are written out; others get an exponent, which always has a sign.
With `point`, a whole number that is written out ends in `.0`. -/
structure NumberLayout where
  lowest : Int
  highest : Int
  point : Bool

namespace NumberLayout

/-- Digits with the point after `place` of them. -/
def writtenOut (layout : NumberLayout) (cs : List Char) (place : Int) : List Char :=
  if place ≤ 0 then '0' :: '.' :: (List.replicate (-place).toNat '0' ++ cs)
  else if cs.length ≤ place.toNat then
    cs ++ List.replicate (place.toNat - cs.length) '0' ++ (if layout.point then ['.', '0'] else [])
  else cs.take place.toNat ++ '.' :: cs.drop place.toNat

/-- Digits with an exponent. -/
def scientific (cs : List Char) (exponent : Int) : List Char :=
  cs.take 1 ++ (if cs.length ≤ 1 then [] else '.' :: cs.drop 1) ++
    'e' :: (if exponent < 0 then '-' else '+') :: Nat.toDigits 10 exponent.natAbs

/-- The text of a number. -/
def text (layout : NumberLayout) (x : Binary64) : String :=
  let body :=
    if x.units = 0 then '0' :: (if layout.point then ['.', '0'] else [])
    else
      let d := Digits.ofUnits x.units
      if layout.lowest < d.point && d.point ≤ layout.highest + 1 then
        layout.writtenOut d.chars d.point
      else scientific d.chars (d.point - 1)
  String.ofList (if x.negative then '-' :: body else body)

/-- Every number written out in full, whole numbers without a point. -/
def plain : NumberLayout := ⟨-400, 400, false⟩

end NumberLayout

end Audience
