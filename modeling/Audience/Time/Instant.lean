import Audience.Number.Decimal
import Audience.Text.Blank
import Audience.Time.Calendar

/-!
# Instants

An instant is a second, counted from the start of 1970 in UTC, and the nanoseconds into it; a leap
second counts as further nanoseconds of the second before, so that instants are ordered by these
two numbers. `Instant.ofText?` reads a date with time and offset, or a date alone, which stands for
the start of that day in UTC.
-/

namespace Audience

/-- An instant. -/
structure Instant where
  second : Int
  nano : Nat
deriving DecidableEq, Repr

namespace Instant

/-- The order in time. -/
def order (a b : Instant) : Ordering :=
  (compare a.second b.second).then (compare a.nano b.nano)

/-- Exactly so many digits, and what follows them. -/
def fixedDigits? (count : Nat) (cs : List Char) : Option (Nat × List Char) :=
  let ds := cs.take count
  if ds.length = count ∧ ds.all isDigit then some (natOfDigits ds, cs.drop count) else none

/-- What follows a character, which must come first. -/
def after? (c : Char) : List Char → Option (List Char)
  | [] => none
  | d :: cs => if d = c then some cs else none

/-- The nanoseconds of a fraction: its first nine digits. -/
def nanoOfDigits (ds : List Char) : Nat :=
  let ds := ds.take 9
  natOfDigits ds * Nat.pow 10 (9 - ds.length)

/-- A fraction of a second, if one follows. -/
def fraction? : List Char → Option (Nat × List Char)
  | '.' :: cs =>
    let ds := cs.takeWhile isDigit
    if ds.isEmpty then none else some (nanoOfDigits ds, cs.dropWhile isDigit)
  | cs => some (0, cs)

/-- An offset from UTC in seconds, after which nothing follows. -/
def offset? : List Char → Option Int
  | ['Z'] | ['z'] => some 0
  | '+' :: cs => clock? cs
  | '-' :: cs => (clock? cs).map (- ·)
  | '−' :: cs => (clock? cs).map (- ·)
  | _ => none
where
  /-- Hours and minutes below a day. -/
  clock? (cs : List Char) : Option Int := do
    let (hour, cs) ← fixedDigits? 2 cs
    let (minute, cs) ← fixedDigits? 2 (← after? ':' cs)
    if cs.isEmpty ∧ hour < 24 ∧ minute < 60 then some ((hour * 60 + minute) * 60 : Nat) else none

/-- The instant of a day and a time of day in a given offset; second 60 is a leap second. -/
def ofParts? (year : Int) (month day hour minute second nano : Nat) (offset : Int) :
    Option Instant :=
  if Calendar.isDay year month day ∧ hour < 24 ∧ minute < 60 ∧ second ≤ 60 then
    let leap := second = 60
    let time : Nat := (hour * 60 + minute) * 60 + if leap then 59 else second
    some ⟨Calendar.dayNumber year month day * 86400 + time - offset,
      if leap then 1000000000 + nano else nano⟩
  else none

/-- A date, a time of day and an offset, `T` or a blank between date and time. -/
def dateTime? (cs : List Char) : Option Instant := do
  let (year, cs) ← fixedDigits? 4 cs
  let (month, cs) ← fixedDigits? 2 (← after? '-' cs)
  let (day, cs) ← fixedDigits? 2 (← after? '-' cs)
  let cs ← (after? 'T' cs).or ((after? 't' cs).or (after? ' ' cs))
  let (hour, cs) ← fixedDigits? 2 cs
  let (minute, cs) ← fixedDigits? 2 (← after? ':' cs)
  let (second, cs) ← fixedDigits? 2 (← after? ':' cs)
  let (nano, cs) ← fraction? cs
  ofParts? year month day hour minute second nano (← offset? cs)

/-- One to `most` digits, white space before them being passed. -/
def spacedDigits? (most : Nat) (cs : List Char) : Option (Nat × List Char) :=
  let cs := Text.trimStartChars cs
  let ds := (cs.take most).takeWhile isDigit
  if ds.isEmpty then none else some (natOfDigits ds, cs.drop ds.length)

/-- A year: up to four digits, or a sign and any number of them. -/
def year? (cs : List Char) : Option (Int × List Char) :=
  match Text.trimStartChars cs with
  | '-' :: cs => (signed cs).map fun p => (-(p.1 : Int), p.2)
  | '+' :: cs => (signed cs).map fun p => ((p.1 : Int), p.2)
  | cs => (spacedDigits? 4 cs).map fun p => ((p.1 : Int), p.2)
where
  /-- The digits after a sign. -/
  signed (cs : List Char) : Option (Nat × List Char) :=
    let ds := cs.takeWhile isDigit
    if ds.isEmpty then none else some (natOfDigits ds, cs.dropWhile isDigit)

/-- A date alone, in the years from -262143 to 262142. -/
def date? (cs : List Char) : Option Instant := do
  let (year, cs) ← year? cs
  let (month, cs) ← spacedDigits? 2 (← after? '-' cs)
  let (day, cs) ← spacedDigits? 2 (← after? '-' cs)
  if cs.isEmpty ∧ -262143 ≤ year ∧ year ≤ 262142 then ofParts? year month day 0 0 0 0 0 else none

/-- The instant that a text writes. -/
def ofText? (s : String) : Option Instant :=
  (dateTime? s.toList).or (date? s.toList)

end Instant

end Audience
