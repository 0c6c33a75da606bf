import Audience.Pattern.Stretch

/-!
# Characters in bytes

Texts are looked through byte by byte, so a set of characters is spelled out as sequences of ranges
of bytes. The bytes of a character are those of UTF-8, and a stretch is divided so that each part
is one range at every place of the sequence (`byteSequences`).
-/

namespace Audience

/-- A closed range of bytes. -/
abbrev ByteRange := Nat × Nat

/-- The bytes of a code point in UTF-8. -/
def utf8 (n : Nat) : List Nat :=
  if n < 0x80 then [n]
  else if n < 0x800 then [0xC0 + n / 0x40, 0x80 + n % 0x40]
  else if n < 0x10000 then [0xE0 + n / 0x1000, 0x80 + n / 0x40 % 0x40, 0x80 + n % 0x40]
  else
    [0xF0 + n / 0x40000, 0x80 + n / 0x1000 % 0x40, 0x80 + n / 0x40 % 0x40, 0x80 + n % 0x40]

namespace Stretch

/-- Divides a stretch at a multiple of a unit, if it lies across one and does not consist of whole
units: the last code point of the first part and the first one of the second. -/
def unitDivision? (unit : Nat) (i : Stretch) : Option (Nat × Nat) :=
  if i.1 / unit = i.2 / unit then none
  else if i.1 % unit ≠ 0 then
    let start := (i.1 / unit + 1) * unit
    some (start - 1, start)
  else if i.2 % unit ≠ unit - 1 then
    let start := i.2 / unit * unit
    some (start - 1, start)
  else none

/-- Where a stretch has to be divided: beside the surrogates, where characters begin to take more
bytes, and where all but the first of its bytes would not range freely. -/
def division? (i : Stretch) : Option (Nat × Nat) :=
  if i.1 < 0xE000 ∧ 0xD7FF < i.2 then some (0xD7FF, 0xE000)
  else
    match [0x7F, 0x7FF, 0xFFFF].find? fun last => i.1 ≤ last ∧ last < i.2 with
    | some last => some (last, last + 1)
    | none =>
      if i.2 < 0x80 then none
      else [0x40, 0x1000, 0x40000].findSome? (unitDivision? · i)

/-- The parts of a stretch. -/
def parts : (fuel : Nat) → Stretch → List Stretch
  | 0, i => [i]
  | fuel + 1, i =>
    match i.division? with
    | some (last, first) => parts fuel (i.1, last) ++ parts fuel (first, i.2)
    | none => [i]

/-- The sequences of bytes that spell the characters of a stretch. -/
def byteSequences (i : Stretch) : List (List ByteRange) :=
  (i.parts 32).map fun part => (utf8 part.1).zip (utf8 part.2)

end Stretch

end Audience
