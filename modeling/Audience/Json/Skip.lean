import Audience.Json.Reader

/-!
# Passing over JSON

A field nobody asked for is passed over without being read: `skipValue` checks the grammar of a
value and no more. Nesting has no limit, numbers no range, and escapes by number no pairing.
-/

namespace Audience.Json.Reader

/-- Passes the escape after a backslash. -/
def skipEscape : Reader Unit := do
  let offset := (← get).offset
  match ← next? with
  | none => failHere .endInString
  | some 'u' => let _ ← hex4
  | some c =>
    if ['"', '\\', '/', 'b', 'f', 'n', 'r', 't'].contains c then return
    else failAt .invalidEscape (offset + 1)

/-- Passes the rest of a string. -/
def skipStringFrom : (fuel : Nat) → Reader Unit
  | 0 => failHere .endInString
  | fuel + 1 => do
    let offset := (← get).offset
    match ← next? with
    | none => failHere .endInString
    | some '"' => return
    | some '\\' => skipEscape; skipStringFrom fuel
    | some c => if c.toNat < 0x20 then failAt .controlCharacter offset else skipStringFrom fuel

/-- Passes the rest of a string whose opening quote is taken. -/
def skipString : Reader Unit := do
  skipStringFrom ((← get).rest.length + 1)

/-- Passes a digit, which must follow, and all digits after it. -/
def skipDigits : Reader Unit := do
  let cur ← get
  if (← digits).isEmpty then
    failAt .invalidNumber (if cur.rest.isEmpty then cur.offset else cur.offset + 1)

/-- Passes an exponent, if one stands ahead. -/
def skipExponent : Reader Unit := do
  match ← peek? with
  | some 'e' | some 'E' =>
    skip
    match ← peek? with
    | some '+' | some '-' => skip
    | _ => pure ()
    skipDigits
  | _ => return

/-- Passes a number whose sign is taken. -/
def skipNumber : Reader Unit := do
  match ← peek? with
  | some '0' =>
    skip
    if (← peek?).any isDigit then failAhead .invalidNumber
  | _ => skipDigits
  match ← peek? with
  | some '.' =>
    skip
    if (← digits).isEmpty then failAhead .invalidNumber
    skipExponent
  | _ => skipExponent

mutual

/-- Passes a value. -/
def skipValueFrom : (fuel : Nat) → Reader Unit
  | 0 => failHere .endInValue
  | fuel + 1 => do
    match ← token? with
    | none => failAhead .endInValue
    | some 'n' => skip; word ['u', 'l', 'l']
    | some 't' => skip; word ['r', 'u', 'e']
    | some 'f' => skip; word ['a', 'l', 's', 'e']
    | some '-' => skip; skipNumber
    | some '"' => skip; skipString
    | some '[' => skip; skipItems true fuel
    | some '\x7b' => skip; skipFields true fuel
    | some c => if isDigit c then skipNumber else failAhead .expectedValue

/-- Passes the items of a list and its end. -/
def skipItems (first : Bool) : (fuel : Nat) → Reader Unit
  | 0 => failHere .endInList
  | fuel + 1 => do
    match ← token? with
    | none => failAhead .endInList
    | some ']' => skip
    | some c =>
      if first then skipValueFrom fuel
      else if c = ',' then skip; skipValueFrom fuel
      else failAhead .expectedListCommaOrEnd
      skipItems false fuel

/-- Passes the fields of an object and its end. -/
def skipFields (first : Bool) : (fuel : Nat) → Reader Unit
  | 0 => failHere .endInObject
  | fuel + 1 => do
    match ← token? with
    | none => failAhead .endInObject
    | some '\x7d' => skip
    | some c =>
      if !first then
        if c = ',' then skip else failAhead .expectedObjectCommaOrEnd
      match ← token? with
      | none => failAhead .endInObject
      | some '"' => skip; skipString
      | some _ => failAhead .keyMustBeString
      colon
      skipValueFrom fuel
      skipFields false fuel

end

/-- Passes the value ahead. -/
def skipValue : Reader Unit := do
  skipValueFrom (fuelFor (← get))

end Audience.Json.Reader
