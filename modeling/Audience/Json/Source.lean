import Audience.Json.Skip

/-!
# Reading the parts of a document

A record is read field by field either from a value or straight from a text. A `Source` offers the
steps that both take: read a string, a value, one of several names, the members of an object in
their order. What is read is written once, over an arbitrary source.

`Source.ofValue` steps through a value; its mismatches have no place. `Source.ofText` steps through
a text, and since it goes from front to back, whichever fault comes first in the text is told.
-/

namespace Audience.Json

/-- The steps for reading the parts of a document. -/
structure Source (m : Type → Type) where
  /-- Refuses what was read. -/
  refuse : {α : Type} → Mismatch → m α
  /-- A string. -/
  string : m String
  /-- Any value. -/
  value : m Json
  /-- Passes over a value. -/
  ignore : m Unit
  /-- Nothing if there is `null`, else what the step reads. -/
  optional : {α : Type} → m α → m (Option α)
  /-- One of the known names: a string, or an object with that key and `null`. -/
  variant : {α : Type} → (known : List String) → (String → Option α) → m α
  /-- A record, from the items of a list, at most `size`, or from the fields of an object. -/
  record : {α : Type} → (expected : String) → (size : Nat) → (fromItems fromFields : m α) → m α
  /-- Steps through at most `limit` items of a list; the result and how many there were. -/
  items : {σ : Type} → (limit : Nat) → (Nat → σ → m σ) → σ → m (σ × Nat)
  /-- Steps through the fields of an object; a step may refuse a key before its value is read. -/
  fields : {σ : Type} → (String → σ → Except Mismatch (m σ)) → σ → m σ

/-! ## From a value -/

/-- Reading a part of the value at hand. -/
abbrev Part (α : Type) := Json → Except Mismatch α

namespace Part

variable {α σ : Type}

/-- A string. -/
def string : Part String
  | .string s => .ok s
  | j => .error (.invalidType (found j) "a string")

/-- `null` or nothing else. -/
def unit : Part Unit
  | .null => .ok ()
  | j => .error (.invalidType (found j) "unit")

/-- One of the known names. -/
def variant (known : List String) (choose : String → Option α) : Part α
  | .string s =>
    match choose s with
    | some a => .ok a
    | none => .error (.unknownVariant s known)
  | .object [(k, j)] =>
    match choose k with
    | some a => (unit j).map fun _ => a
    | none => .error (.unknownVariant k known)
  | .object _ => .error (.invalidValue .map "map with a single key")
  | j => .error (.invalidType (found j) "string or map")

/-- Steps through items from the given place on. -/
def itemsFrom (limit : Nat) (step : Nat → σ → Part σ) (i : Nat) (s : σ) :
    List Json → Except Mismatch (σ × Nat)
  | [] => .ok (s, i)
  | j :: rest =>
    if limit ≤ i then .ok (s, i)
    else do itemsFrom limit step (i + 1) (← step i s j) rest

/-- Steps through fields. -/
def fieldsFrom (step : String → σ → Except Mismatch (Part σ)) (s : σ) :
    List (String × Json) → Except Mismatch σ
  | [] => .ok s
  | (k, j) :: rest => do fieldsFrom step (← (← step k s) j) rest

/-- A record; a list may not hold more items than the record takes. -/
def record (expected : String) (size : Nat) (fromItems fromFields : Part α) : Part α
  | .array items => do
    let a ← fromItems (.array items)
    if size < items.length then
      .error (.invalidLength items.length "fewer elements in array")
    else return a
  | .object fields => fromFields (.object fields)
  | j => .error (.invalidType (found j) expected)

end Part

/-- Steps through a value. -/
def Source.ofValue : Source Part where
  refuse fault _ := .error fault
  string := Part.string
  value := .ok
  ignore _ := .ok ()
  optional step
    | .null => .ok none
    | j => (step j).map some
  variant := Part.variant
  record := Part.record
  items limit step s j := Part.itemsFrom limit step 0 s (j.items?.getD [])
  fields step s j := Part.fieldsFrom step s (j.fields?.getD [])

instance : Monad Part where
  pure a _ := .ok a
  bind step next j := do next (← step j) j

/-! ## From a text -/

namespace Reader

variable {α σ : Type}

/-- What stands ahead, read if it is a single value and left if it is a list or an object. -/
def foundAhead : Reader Found := do
  match ← peek? with
  | some 'n' => skip; word ['u', 'l', 'l']; return .null
  | some 't' => skip; word ['r', 'u', 'e']; return .boolean true
  | some 'f' => skip; word ['a', 'l', 's', 'e']; return .boolean false
  | some '-' => skip; return found (.number (← number true))
  | some '"' => skip; return .string (← stringBody)
  | some '[' => return .sequence
  | some '\x7b' => return .map
  | some c => if isDigit c then return found (.number (← number false)) else failAhead .expectedValue
  | none => failAhead .expectedValue

/-- Refuses what stands ahead. -/
def refuseAhead (expected : String) : Reader α := do
  mismatchHere (.invalidType (← foundAhead) expected)

/-- A string. -/
def string : Reader String := do
  match ← token? with
  | none => failAhead .endInValue
  | some '"' => skip; stringBody
  | some _ => refuseAhead "a string"

/-- `null` or nothing else. -/
def unit : Reader Unit := do
  match ← token? with
  | none => failAhead .endInValue
  | some 'n' => skip; word ['u', 'l', 'l']
  | some _ => refuseAhead "unit"

/-- Nothing if there is `null`, else what the step reads. -/
def optional (step : Reader α) : Reader (Option α) := do
  match ← token? with
  | some 'n' => skip; word ['u', 'l', 'l']; return none
  | _ => return some (← step)

/-- The name ahead, one of the known. -/
def name (known : List String) (choose : String → Option α) : Reader α := do
  let s ← string
  match choose s with
  | some a => return a
  | none => mismatchHere (.unknownVariant s known)

/-- One of the known names. -/
def variant (known : List String) (choose : String → Option α) : Reader α := do
  match ← token? with
  | none => failAhead .endInValue
  | some '"' => name known choose
  | some '\x7b' =>
    skip
    let a ← name known choose
    colon
    unit
    match ← token? with
    | some '\x7d' => skip; return a
    | some _ => failHere .expectedValue
    | none => failHere .endInObject
  | some _ => failAhead .expectedValue

/-- Steps through items from the given place on. -/
def itemsFrom (limit : Nat) (step : Nat → σ → Reader σ) (i : Nat) (s : σ) :
    (fuel : Nat) → Reader (σ × Nat)
  | 0 => return (s, i)
  | fuel + 1 => do
    if limit ≤ i then return (s, i)
    else if ← itemFollows (i == 0) then itemsFrom limit step (i + 1) (← step i s) fuel
    else return (s, i)

/-- Steps through fields. -/
def fieldsFrom (step : String → σ → Except Mismatch (Reader σ)) (first : Bool) (s : σ) :
    (fuel : Nat) → Reader σ
  | 0 => return s
  | fuel + 1 => do
    if ← fieldFollows first then
      match step (← key) s with
      | .error fault => mismatch fault
      | .ok read =>
        colon
        fieldsFrom step false (← read) fuel
    else return s

/-- Where a reader stands once it has tried to pass the end of a list or an object. -/
def afterEnd (closing : Char) (cur : Cursor) : Cursor :=
  let cur := afterSpace cur
  match cur.rest with
  | c :: rest =>
    if c = closing then ⟨rest, cur.offset + 1⟩
    else if closing = ']' && c = ',' then afterSpace ⟨rest, cur.offset + 1⟩
    else cur
  | [] => cur

/-- Reads up to the end of a list or an object. A mismatch without a place gets the place where the
end would be passed. -/
def closed (closing : Char) (read : Reader α) (passEnd : Reader Unit) : Reader α := fun cur =>
  match (read cur : Except Fault (α × Cursor)) with
  | .error (.unplaced fault cut) => .error (.placed (.mismatch fault) (afterEnd closing cut).offset)
  | .error fault => .error fault
  | .ok (a, cur) => do
    let (_, cur) ← (passEnd cur : Except Fault (Unit × Cursor))
    return (a, cur)

/-- A record. -/
def record (expected : String) (fromItems fromFields : Reader α) : Reader α := do
  match ← token? with
  | none => failAhead .endInValue
  | some '[' => skip; closed ']' fromItems listEnd
  | some '\x7b' => skip; closed '\x7d' fromFields objectEnd
  | some _ => refuseAhead expected

end Reader

/-- Steps through a text in which a record is the outermost value. -/
def Source.ofText : Source Reader where
  refuse := Reader.mismatch
  string := Reader.string
  value := Reader.nested 1
  ignore := Reader.skipValue
  optional := Reader.optional
  variant := Reader.variant
  record expected _ := Reader.record expected
  items limit step s := Reader.itemsFrom limit step 0 s (limit + 1)
  fields step s := do Reader.fieldsFrom step true s (Reader.fuelFor (← get))

/-- What `read` reads from a whole text. -/
def readText {α : Type} (read : Source Reader → Reader α) (text : String) : Except Error α :=
  Reader.run (do
    let a ← read .ofText
    Reader.theEnd
    return a) text

end Audience.Json
