import Audience.Json.Error
import Audience.Number.Decimal

/-!
# Reading JSON

A `Reader` steps through the characters of a text and counts the bytes before the place where it
stands. A fault is told with that count, either of the place itself (`failHere`) or of the place
after the next byte (`failAhead`), which is where a faulty byte is said to be.

`value` reads one value and `Json.ofText?` a whole text. Nesting is limited to `depthLimit` levels.
A number that is not a whole number of 64 bits is read as the first digits that fit 64 bits, times
or over a power of ten, each step rounded (`scaled?`); the result can differ from the nearest
binary64 number in the last place.
-/

namespace Audience.Json

/-- Where a reader stands: the characters ahead, and the bytes behind. -/
structure Cursor where
  rest : List Char
  offset : Nat

/-- Why reading stopped: a cause with the bytes before its place, or a mismatch that has no place yet,
with the place where the reader stood. -/
inductive Fault where
  | placed (cause : Cause) (offset : Nat)
  | unplaced (fault : Mismatch) (cursor : Cursor)

/-- The fault as an error in a text. -/
def Fault.inText (text : List Char) : Fault → Error
  | .placed cause offset => ⟨cause, some (Position.ofOffset text offset)⟩
  | .unplaced fault _ => .ofMismatch fault

/-- A step through a text. -/
abbrev Reader := StateT Cursor (Except Fault)

namespace Reader

variable {α : Type}

/-- Stops with a fault after so many bytes. -/
def failAt (fault : SyntaxFault) (offset : Nat) : Reader α :=
  throw (.placed (.grammar fault) offset)

/-- Stops with a fault where the reader stands. -/
def failHere (fault : SyntaxFault) : Reader α := do
  failAt fault (← get).offset

/-- Stops with a fault in the byte ahead, or at the end of the text. -/
def failAhead (fault : SyntaxFault) : Reader α := do
  let cur ← get
  failAt fault (if cur.rest.isEmpty then cur.offset else cur.offset + 1)

/-- Stops with a mismatch whose place is not known yet. -/
def mismatch (fault : Mismatch) : Reader α := do
  throw (.unplaced fault (← get))

/-- Stops with a mismatch where the reader stands. -/
def mismatchHere (fault : Mismatch) : Reader α := do
  throw (.placed (.mismatch fault) (← get).offset)

/-- The character ahead. -/
def peek? : Reader (Option Char) := do
  return (← get).rest.head?

/-- Takes the character ahead. -/
def next? : Reader (Option Char) := do
  let cur ← get
  match cur.rest with
  | [] => return none
  | c :: rest =>
    set (Cursor.mk rest (cur.offset + c.utf8Size))
    return some c

/-- Passes the character ahead. -/
def skip : Reader Unit := do
  let _ ← next?

/-- Whether a character is white space between the parts of a text. -/
def isSpace (c : Char) : Bool :=
  c == ' ' || c == '\n' || c == '\t' || c == '\r'

/-- The place after the white space ahead. -/
def afterSpace (cur : Cursor) : Cursor :=
  ⟨cur.rest.dropWhile isSpace, cur.offset + (cur.rest.takeWhile isSpace).length⟩

/-- Passes white space; the character that follows. -/
def token? : Reader (Option Char) := do
  modify afterSpace
  peek?

/-- Takes the digits ahead. -/
def digits : Reader (List Char) := do
  let cur ← get
  let ds := cur.rest.takeWhile isDigit
  set (Cursor.mk (cur.rest.dropWhile isDigit) (cur.offset + ds.length))
  return ds

/-- The rest of a word whose first character is taken. -/
def word : List Char → Reader Unit
  | [] => return
  | c :: cs => do
    let offset := (← get).offset
    match ← next? with
    | none => failHere .endInValue
    | some d => if d = c then word cs else failAt .expectedIdent (offset + 1)

/-! ## Strings -/

/-- The value of a hexadecimal digit. -/
def hexValue? (c : Char) : Option Nat :=
  if isDigit c then some (digitValue c)
  else if 'a' ≤ c ∧ c ≤ 'f' then some (c.toNat - 'a'.toNat + 10)
  else if 'A' ≤ c ∧ c ≤ 'F' then some (c.toNat - 'A'.toNat + 10)
  else none

/-- The number of four hexadecimal digits. -/
def hexValues? : List Char → Option Nat
  | [a, b, c, d] => do
    return (((← hexValue? a) * 16 + (← hexValue? b)) * 16 + (← hexValue? c)) * 16 + (← hexValue? d)
  | _ => none

/-- Four hexadecimal digits; the next four bytes count as these, whatever they are. -/
def hex4 : Reader Nat := do
  let cur ← get
  let ahead := cur.rest.take 4
  let bytes := (ahead.map Char.utf8Size).foldl (· + ·) 0
  if bytes < 4 then failAt .endInString (cur.offset + bytes)
  else
    match hexValues? ahead with
    | some n =>
      set (Cursor.mk (cur.rest.drop 4) (cur.offset + 4))
      return n
    | none => failAt .invalidEscape (cur.offset + 4)

/-- A character that must follow the first half of a pair of surrogates. -/
def surrogateMark (c : Char) : Reader Unit := do
  let cur ← get
  match cur.rest with
  | [] => failHere .endInString
  | d :: rest =>
    if d = c then set (Cursor.mk rest (cur.offset + 1))
    else failAt .unfinishedSurrogates (cur.offset + 1)

/-- The character of an escape by number, after its `u`: one number, or a pair of surrogates. -/
def unicodeEscape : Reader Char := do
  let high ← hex4
  if 0xDC00 ≤ high && high ≤ 0xDFFF then failHere .loneSurrogate
  else if high < 0xD800 || 0xDBFF < high then return Char.ofNat high
  else
    surrogateMark '\\'
    surrogateMark 'u'
    let low ← hex4
    if low < 0xDC00 || 0xDFFF < low then failHere .loneSurrogate
    else return Char.ofNat (0x10000 + (high - 0xD800) * 0x400 + (low - 0xDC00))

/-- The character of an escape, after its backslash. -/
def escape : Reader Char := do
  let offset := (← get).offset
  match ← next? with
  | none => failHere .endInString
  | some '"' => return '"'
  | some '\\' => return '\\'
  | some '/' => return '/'
  | some 'b' => return '\x08'
  | some 'f' => return '\x0c'
  | some 'n' => return '\n'
  | some 'r' => return '\r'
  | some 't' => return '\t'
  | some 'u' => unicodeEscape
  | some _ => failAt .invalidEscape (offset + 1)

/-- The rest of a string whose characters so far are `read`, backwards. -/
def stringFrom (read : List Char) : (fuel : Nat) → Reader String
  | 0 => failHere .endInString
  | fuel + 1 => do
    match ← next? with
    | none => failHere .endInString
    | some '"' => return String.ofList read.reverse
    | some '\\' => stringFrom ((← escape) :: read) fuel
    | some c => if c.toNat < 0x20 then failHere .controlCharacter else stringFrom (c :: read) fuel

/-- A string whose opening quote is taken. -/
def stringBody : Reader String := do
  stringFrom [] ((← get).rest.length + 1)

/-! ## Numbers -/

/-- The largest whole number of 64 bits. -/
def maxWord : Nat := Nat.pow 2 64 - 1

/-- Appends digits to a number while it fits 64 bits; the number and the digits left over. -/
def significand (n : Nat) : List Char → Nat × List Char
  | [] => (n, [])
  | d :: ds =>
    let m := 10 * n + digitValue d
    if m ≤ maxWord then significand m ds else (n, d :: ds)

/-- A power of ten up to 10³⁰⁸. -/
def tenTo (k : Nat) : Binary64 :=
  ((Decimal.mk false 1 k).nearest?).getD ⟨false, 0⟩

/-- Divides by 10³⁰⁸ so many times, or until nothing is left. -/
def shrink (x : Binary64) : (times : Nat) → Binary64
  | 0 => x
  | times + 1 => if x.units = 0 then x else shrink ((x.div? (tenTo 308)).getD x) times

/-- A number times a power of ten: one rounded product or quotient, after as many quotients by
10³⁰⁸ as the exponent takes. -/
def scaled? (x : Binary64) (exponent : Int) : Option Binary64 :=
  if 308 < exponent then if x.units = 0 then some x else none
  else if 0 ≤ exponent then x.mul? (tenTo exponent.toNat)
  else
    let down := (-exponent).toNat
    let times := (down - 1) / 308
    (shrink x times).div? (tenTo (down - 308 * times))

/-- A binary64 number of given sign, significand and exponent. -/
def floatOf (negative : Bool) (n : Nat) (exponent : Int) : Reader Number := do
  match scaled? (Binary64.ofInt n) exponent with
  | some x => return .float (if negative then x.neg else x)
  | none => failHere .numberOutOfRange

/-- The value of an exponent's digits, or how many were taken when it passed 31 bits. -/
def exponentOf (e taken : Nat) : List Char → Except Nat Nat
  | [] => .ok e
  | d :: ds =>
    let f := 10 * e + digitValue d
    if f < Nat.pow 2 31 then exponentOf f (taken + 1) ds else .error (taken + 1)

/-- A number from its exponent on, where `e` stands ahead. -/
def exponentPart (negative : Bool) (n : Nat) (exponent : Int) : Reader Number := do
  skip
  let down ← (do
    match ← peek? with
    | some '+' => skip; return false
    | some '-' => skip; return true
    | _ => return false)
  let start := (← get).offset
  match ← digits with
  | [] =>
    if (← peek?).isSome then failAt .invalidNumber (start + 1) else failHere .endInValue
  | ds =>
    match exponentOf 0 0 ds with
    | .ok e => floatOf negative n (if down then exponent - e else exponent + e)
    | .error taken =>
      if n ≠ 0 && !down then failAt .numberOutOfRange (start + taken)
      else return .float ⟨negative, 0⟩

/-- A number from its point on, which stands ahead. -/
def fractionPart (negative : Bool) (n : Nat) (exponent : Int) : Reader Number := do
  skip
  let ds ← digits
  if ds.isEmpty then
    if (← peek?).isSome then failAhead .invalidNumber else failHere .endInValue
  else
    let (m, left) := significand n ds
    let exponent := exponent - (ds.length - left.length : Nat)
    match ← peek? with
    | some 'e' | some 'E' => exponentPart negative m exponent
    | _ => floatOf negative m exponent

/-- A number, after its whole part `n` times ten to the power `dropped`. -/
def numberAfter (negative : Bool) (n dropped : Nat) : Reader Number := do
  match ← peek? with
  | some '.' => fractionPart negative n dropped
  | some 'e' | some 'E' => exponentPart negative n dropped
  | _ =>
    if dropped ≠ 0 then floatOf negative n dropped
    else if !negative then return .integer n
    else if n = 0 || Nat.pow 2 63 < n then return .float (Binary64.ofInt n).neg
    else return .integer (-n)

/-- A number whose sign is taken. -/
def number (negative : Bool) : Reader Number := do
  let start := (← get).offset
  match ← peek? with
  | none => failHere .endInValue
  | some '0' =>
    skip
    match ← peek? with
    | some c => if isDigit c then failAhead .invalidNumber else numberAfter negative 0 0
    | none => numberAfter negative 0 0
  | some _ =>
    match ← digits with
    | [] => failAt .invalidNumber (start + 1)
    | ds =>
      let (n, left) := significand 0 ds
      numberAfter negative n left.length

/-! ## Lists and objects -/

/-- Whether another item follows in a list: passes the comma before it. -/
def itemFollows (first : Bool) : Reader Bool := do
  match ← token? with
  | none => failAhead .endInList
  | some ']' => return false
  | some c =>
    if first then return true
    else if c = ',' then
      skip
      match ← token? with
      | some ']' => failAhead .trailingComma
      | some _ => return true
      | none => failAhead .endInValue
    else failAhead .expectedListCommaOrEnd

/-- Passes the end of a list. -/
def listEnd : Reader Unit := do
  match ← token? with
  | some ']' => skip
  | some ',' =>
    skip
    match ← token? with
    | some ']' => failAhead .trailingComma
    | _ => failAhead .trailingCharacters
  | some _ => failAhead .trailingCharacters
  | none => failAhead .endInList

/-- Whether another field follows in an object: passes the comma before it. -/
def fieldFollows (first : Bool) : Reader Bool := do
  match ← token? with
  | none => failAhead .endInObject
  | some '\x7d' => return false
  | some c =>
    if first then
      if c = '"' then return true else failAhead .keyMustBeString
    else if c = ',' then
      skip
      match ← token? with
      | some '"' => return true
      | some '\x7d' => failAhead .trailingComma
      | some _ => failAhead .keyMustBeString
      | none => failAhead .endInValue
    else failAhead .expectedObjectCommaOrEnd

/-- Passes the end of an object. -/
def objectEnd : Reader Unit := do
  match ← token? with
  | some '\x7d' => skip
  | some ',' => failAhead .trailingComma
  | some _ => failAhead .trailingCharacters
  | none => failAhead .endInObject

/-- The key ahead, after its opening quote. -/
def key : Reader String := do
  skip
  stringBody

/-- Passes the colon after a key. -/
def colon : Reader Unit := do
  match ← token? with
  | some ':' => skip
  | some _ => failAhead .expectedColon
  | none => failAhead .endInObject

mutual

/-- A value with at most `depth - 1` levels of nesting. -/
def value (depth : Nat) : (fuel : Nat) → Reader Json
  | 0 => failHere .endInValue
  | fuel + 1 => do
    match ← token? with
    | none => failAhead .endInValue
    | some 'n' => skip; word ['u', 'l', 'l']; return .null
    | some 't' => skip; word ['r', 'u', 'e']; return .boolean true
    | some 'f' => skip; word ['a', 'l', 's', 'e']; return .boolean false
    | some '-' => skip; return .number (← number true)
    | some '"' => skip; return .string (← stringBody)
    | some '[' =>
      if depth ≤ 1 then failAhead .recursionLimit
      else skip; return .array (← items (depth - 1) true fuel)
    | some '\x7b' =>
      if depth ≤ 1 then failAhead .recursionLimit
      else skip; return .object (← fields (depth - 1) true [] fuel)
    | some c => if isDigit c then return .number (← number false) else failAhead .expectedValue

/-- The items of a list up to its end. -/
def items (depth : Nat) (first : Bool) : (fuel : Nat) → Reader (List Json)
  | 0 => failHere .endInList
  | fuel + 1 => do
    if ← itemFollows first then
      let j ← value depth fuel
      return j :: (← items depth false fuel)
    else
      listEnd
      return []

/-- The fields of an object up to its end, put over those `read` so far. -/
def fields (depth : Nat) (first : Bool) (read : Fields Json) : (fuel : Nat) → Reader (Fields Json)
  | 0 => failHere .endInObject
  | fuel + 1 => do
    if ← fieldFollows first then
      let k ← key
      colon
      let j ← value depth fuel
      fields depth false (Fields.put k j read) fuel
    else
      objectEnd
      return read

end

/-- Levels of nesting that are one too many. -/
def depthLimit : Nat := 128

/-- Enough fuel for all steps that a text of some length takes. -/
def fuelFor (cur : Cursor) : Nat := 2 * cur.rest.length + 2

/-- The value ahead, inside `level` levels of nesting. -/
def nested (level : Nat) : Reader Json := do
  value (depthLimit - level) (fuelFor (← get))

/-- Nothing but white space up to the end of the text. -/
def theEnd : Reader Unit := do
  if (← token?).isSome then failAhead .trailingCharacters

/-- Reads a text. -/
def run (read : Reader α) (text : String) : Except Error α :=
  match (read ⟨text.toList, 0⟩ : Except Fault (α × Cursor)) with
  | .ok (a, _) => .ok a
  | .error f => .error (f.inText text.toList)

end Reader

/-- The value that a text writes. -/
def ofText? (text : String) : Except Error Json :=
  Reader.run (do
    let j ← Reader.nested 0
    Reader.theEnd
    return j) text

end Audience.Json
