import Audience.Number.Decimal

/-!
# Keys of settings

A key leads to a setting through the tables and lists above it: a name, then further names after
dots and places in brackets, counted from the end if negative. `Key.ofText` takes a text that is not
of that form as a single name.
-/

namespace Audience.Settings

/-- A further step of a key. -/
inductive KeyStep where
  | name (name : String)
  | place (index : Int)
deriving DecidableEq, Repr

/-- A key: the name of a setting at the top, and the steps from there. -/
structure Key where
  top : String
  steps : List KeyStep
deriving DecidableEq, Repr

namespace Key

/-- A character of a name. -/
def isNameChar (c : Char) : Bool :=
  c.isAlphanum || c == '_' || c == '-'

/-- A name and the characters after it. -/
def name? (cs : List Char) : Option (String × List Char) :=
  let name := cs.takeWhile isNameChar
  if name.isEmpty then none else some (String.ofList name, cs.dropWhile isNameChar)

/-- A place: digits with a minus sign or without, in 64 bits. -/
def place? (cs : List Char) : Option Int :=
  if cs.head? = some '+' then none
  else (intOfChars? cs).filter (fitsSigned 64)

/-- The steps that characters write. -/
def steps? : (fuel : Nat) → List Char → Option (List KeyStep)
  | _, [] => some []
  | fuel + 1, '.' :: cs => do
    let (name, cs) ← name? cs
    return .name name :: (← steps? fuel cs)
  | fuel + 1, '[' :: cs => do
    let inner := cs.takeWhile (· ≠ ']')
    let i ← place? inner
    match cs.drop inner.length with
    | ']' :: cs => return .place i :: (← steps? fuel cs)
    | _ => none
  | _, _ => none

/-- The key that a text writes. -/
def ofText? (s : String) : Option Key := do
  let (top, cs) ← name? s.toList
  return ⟨top, ← steps? cs.length cs⟩

/-- The key that a text writes, or the key of that name. -/
def ofText (s : String) : Key :=
  (ofText? s).getD ⟨s, []⟩

end Key

end Audience.Settings
