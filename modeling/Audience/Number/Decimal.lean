import Audience.Number.Binary64

/-!
# Decimal notation

A `Decimal` is a sign, a whole number and a power of ten. `Decimal.ofChars?` reads the notation
`[+-] digits [. digits] [e [+-] digits]`, where the digits before or those after the point may be
missing but not both, and `nearest?` gives the binary64 number nearest to it.
`intOfChars?` reads a whole number: an optional sign and digits.
-/

namespace Audience

/-- Whether a character is one of the digits 0 to 9. -/
def isDigit (c : Char) : Bool :=
  '0' ≤ c && c ≤ '9'

/-- The value of a digit. -/
def digitValue (c : Char) : Nat :=
  c.toNat - '0'.toNat

/-- The number written by digits. -/
def natOfDigits (cs : List Char) : Nat :=
  cs.foldl (fun n c => 10 * n + digitValue c) 0

/-- The sign in front of a number, and the rest. -/
def splitSign : List Char → Bool × List Char
  | '-' :: cs => (true, cs)
  | '+' :: cs => (false, cs)
  | cs => (false, cs)

/-- A whole number with an optional sign. -/
def intOfChars? (cs : List Char) : Option Int :=
  let (negative, ds) := splitSign cs
  if ds.isEmpty || !ds.all isDigit then none
  else some (if negative then -(natOfDigits ds : Int) else natOfDigits ds)

/-- Whether a whole number fits in so many bits, of which one is for its sign. -/
def fitsSigned (bits : Nat) (i : Int) : Bool :=
  let bound : Nat := Nat.pow 2 (bits - 1)
  i < bound && -(bound : Int) ≤ i

/-- A number in decimal notation: `digits` times ten to the power `exponent`. -/
structure Decimal where
  negative : Bool
  digits : Nat
  exponent : Int
deriving DecidableEq, Repr

namespace Decimal

/-- The exponent after the digits, which nothing may follow; zero if there is none. -/
def exponentOfChars? : List Char → Option Int
  | [] => some 0
  | c :: cs => if c = 'e' || c = 'E' then intOfChars? cs else none

/-- Reads decimal notation. -/
def ofChars? (cs : List Char) : Option Decimal :=
  let (negative, cs) := splitSign cs
  let whole := cs.takeWhile isDigit
  let rest := cs.dropWhile isDigit
  let (fraction, rest) :=
    match rest with
    | '.' :: more => (more.takeWhile isDigit, more.dropWhile isDigit)
    | _ => ([], rest)
  if whole.isEmpty && fraction.isEmpty then none
  else (exponentOfChars? rest).map fun e =>
    ⟨negative, natOfDigits (whole ++ fraction), e - fraction.length⟩

/-- The number of decimal digits of a positive number. -/
def digitCount (n : Nat) : Nat :=
  (Nat.repr n).length

/-- The nearest binary64 number, if it is finite. Magnitudes from 10³¹⁰ on are too large and those
below 10⁻³³⁰ are zero, whatever their digits. -/
def nearest? (d : Decimal) : Option Binary64 :=
  let magnitude := d.exponent + digitCount d.digits
  if d.digits = 0 || magnitude < -330 then some ⟨d.negative, 0⟩
  else if 310 < magnitude then none
  else if 0 ≤ d.exponent then Binary64.ofRatio? d.negative (d.digits * Nat.pow 10 d.exponent.toNat) 1
  else Binary64.ofRatio? d.negative d.digits (Nat.pow 10 (-d.exponent).toNat)

end Decimal

end Audience
