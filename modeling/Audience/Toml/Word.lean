import Audience.Text.Table
import Audience.Time.Instant
import Audience.Toml.Basic

/-!
# Values written without quotes

A truth value, a number, a date or a time is one word, save that a blank may stand between a date
and a time. `Toml.ofWord?` reads the word. Digits may be grouped by single underscores; numbers may
not begin with further zeros, and whole numbers have 64 bits.
-/

namespace Audience.Toml

/-! ## Numbers -/

/-- Digits without the underscores that group them, each of which must stand between two digits. -/
def ungrouped? (digit : Char → Bool) (cs : List Char) : Option (List Char) :=
  let parts := cs.splitOn '_'
  if parts.all fun part => !part.isEmpty && part.all digit then some parts.flatten else none

/-- The digits of a decimal number before any point, without a zero in front of others. -/
def wholeDigits? (cs : List Char) : Option (List Char) :=
  match ungrouped? isDigit cs with
  | some ('0' :: _ :: _) => none
  | ds => ds

/-- A whole number of 64 bits. -/
def fits? (i : Int) : Option Int :=
  if fitsSigned 64 i then some i else none

/-- Whether a character is a digit in a base up to sixteen. -/
def isDigitIn (base : Nat) (c : Char) : Bool :=
  (Text.Table.hexDigit? c).any (· < base)

/-- The number that digits write in a base up to sixteen. -/
def natOfDigitsIn (base : Nat) (cs : List Char) : Nat :=
  cs.foldl (fun n c => base * n + (Text.Table.hexDigit? c).getD 0) 0

/-- A whole number in a base other than ten. -/
def integerIn? (base : Nat) (cs : List Char) : Option Int := do
  fits? (natOfDigitsIn base (← ungrouped? (isDigitIn base) cs))

/-- A whole number. -/
def integer? (cs : List Char) : Option Int :=
  match cs with
  | '0' :: 'x' :: cs => integerIn? 16 cs
  | '0' :: 'o' :: cs => integerIn? 8 cs
  | '0' :: 'b' :: cs => integerIn? 2 cs
  | _ => do
    let (negative, cs) := splitSign cs
    let n := natOfDigits (← wholeDigits? cs)
    fits? (if negative then -n else n)

/-- The exponent after a number's digits: a mark, a sign and digits. -/
def exponent? : List Char → Option Int
  | [] => some 0
  | c :: cs => do
    let (negative, cs) := splitSign cs
    let n : Nat := natOfDigits (← ungrouped? isDigit cs)
    if c = 'e' ∨ c = 'E' then some (if negative then -n else n) else none

/-- The digits after the point, if there is one, and the characters after them. -/
def fraction? : List Char → Option (List Char × List Char)
  | '.' :: cs => do
    let isExponent c := c = 'e' || c = 'E'
    return (← ungrouped? isDigit (cs.takeWhile (!isExponent ·)), cs.dropWhile (!isExponent ·))
  | cs => some ([], cs)

/-- A number with a point or an exponent; none if the nearest binary64 number is not finite. -/
def decimal? (cs : List Char) : Option Extended := do
  let (negative, cs) := splitSign cs
  let isWhole c := isDigit c || c = '_'
  let whole ← wholeDigits? (cs.takeWhile isWhole)
  let rest := cs.dropWhile isWhole
  if rest.isEmpty then none
  let (fraction, rest) ← fraction? rest
  let e ← exponent? rest
  let d : Decimal := ⟨negative, natOfDigits (whole ++ fraction), e - fraction.length⟩
  d.nearest?.map .finite

/-- A number that is not finite, by its word. -/
def notFinite? (cs : List Char) : Option Extended :=
  let (negative, cs) := splitSign cs
  if cs = ['i', 'n', 'f'] then some (.infinite negative)
  else if cs = ['n', 'a', 'n'] then some .undefined
  else none

/-! ## Dates and times -/

open Instant (after? fixedDigits?)

/-- What follows a date that exists. -/
def afterDate? (cs : List Char) : Option (List Char) := do
  let (year, cs) ← fixedDigits? 4 cs
  let (month, cs) ← fixedDigits? 2 (← after? '-' cs)
  let (day, cs) ← fixedDigits? 2 (← after? '-' cs)
  if Calendar.isDay year month day then some cs else none

/-- Hours and minutes with a colon between them, and what follows. -/
def afterClock? (cs : List Char) : Option (List Char) := do
  let (hour, cs) ← fixedDigits? 2 cs
  let (minute, cs) ← fixedDigits? 2 (← after? ':' cs)
  if hour < 24 ∧ minute < 60 then some cs else none

/-- A fraction of a second as it is kept: at most nine digits, of which zeros at the end are
dropped, but one digit at least. -/
def fractionText (ds : List Char) : List Char :=
  let ds := ((ds.take 9).reverse.dropWhile (· = '0')).reverse
  '.' :: if ds.isEmpty then ['0'] else ds

/-- Seconds and a fraction of them, if they are given, as they are kept, and what follows. -/
def seconds? : List Char → Option (List Char × List Char)
  | ':' :: cs => do
    let (second, rest) ← fixedDigits? 2 cs
    if 60 < second then none
    let whole := ':' :: cs.take 2
    match rest with
    | '.' :: more =>
      let ds := more.takeWhile isDigit
      if ds.isEmpty then none else some (whole ++ fractionText ds, more.dropWhile isDigit)
    | _ => some (whole, rest)
  | cs => some ([], cs)

/-- A time of day as it is kept, and what follows. -/
def time? (cs : List Char) : Option (List Char × List Char) := do
  let (seconds, rest) ← seconds? (← afterClock? cs)
  return (cs.take 5 ++ seconds, rest)

/-- An offset as it is kept, if one is given. -/
def offset? : List Char → Option (List Char)
  | [] => some []
  | ['Z'] | ['z'] => some ['Z']
  | sign :: cs => do
    let rest ← afterClock? cs
    if (sign = '+' ∨ sign = '-') ∧ rest.isEmpty then
      some ((if cs = ['0', '0', ':', '0', '0'] then '+' else sign) :: cs)
    else none

/-- A date, a time, or a date with a time and perhaps an offset, as it is kept. -/
def moment? (cs : List Char) : Option (List Char) :=
  match afterDate? cs with
  | none => do
    let (time, rest) ← time? cs
    if rest.isEmpty then some time else none
  | some [] => some cs
  | some (c :: rest) => do
    let (time, rest) ← time? rest
    if c = 'T' ∨ c = 't' ∨ c = ' ' then return cs.take 10 ++ 'T' :: time ++ (← offset? rest)
    else none

/-- The value that a word writes. -/
def ofWord? (cs : List Char) : Option Toml :=
  if cs = ['t', 'r', 'u', 'e'] then some (.boolean true)
  else if cs = ['f', 'a', 'l', 's', 'e'] then some (.boolean false)
  else
    ((integer? cs).map Toml.integer).or <|
      (((notFinite? cs).or (decimal? cs)).map Toml.float).or <|
        (moment? cs).map fun cs => .moment (String.ofList cs)

end Audience.Toml
