import Audience.Json.Basic
import Audience.Number.Shortest

/-!
# Writing JSON

`Json.compact` writes a value without blanks and `Json.pretty` one item to a line, two blanks deeper
for each level. Within strings only quotes, backslashes and the characters below U+0020 are escaped.
-/

namespace Audience.Json

/-- Numbers from 10⁻⁵ up to 10¹⁶ are written out with a point, others with an exponent. -/
def numberLayout : NumberLayout := ⟨-5, 15, true⟩

/-- The text of a number. -/
def numberText : Number → String
  | .integer i => toString i
  | .float x => numberLayout.text x

/-- The digit of a number below sixteen. -/
def hexDigit (n : Nat) : Char :=
  (Nat.toDigits 16 n).headD '0'

/-- One character of a string. -/
def escapedChar (c : Char) : List Char :=
  if c = '"' then ['\\', '"']
  else if c = '\\' then ['\\', '\\']
  else if c = '\x08' then ['\\', 'b']
  else if c = '\x0c' then ['\\', 'f']
  else if c = '\n' then ['\\', 'n']
  else if c = '\r' then ['\\', 'r']
  else if c = '\t' then ['\\', 't']
  else if c.toNat < 0x20 then
    ['\\', 'u', '0', '0', hexDigit (c.toNat / 16), hexDigit (c.toNat % 16)]
  else [c]

/-- A string between quotes. -/
def stringText (s : String) : String :=
  String.ofList ('"' :: (s.toList.flatMap escapedChar ++ ['"']))

mutual

/-- The text of a value without blanks. -/
def compact : Json → String
  | .null => "null"
  | .boolean true => "true"
  | .boolean false => "false"
  | .number n => numberText n
  | .string s => stringText s
  | .array items => "[" ++ ",".intercalate (compactItems items) ++ "]"
  | .object fields => "\x7b" ++ ",".intercalate (compactFields fields) ++ "\x7d"

/-- The texts of items without blanks. -/
def compactItems : List Json → List String
  | [] => []
  | j :: items => compact j :: compactItems items

/-- The texts of fields without blanks. -/
def compactFields : List (String × Json) → List String
  | [] => []
  | (k, j) :: fields => (stringText k ++ ":" ++ compact j) :: compactFields fields

end

/-- The start of a line at a level. -/
def newLine (level : Nat) : String :=
  String.ofList ('\n' :: List.replicate (2 * level) ' ')

/-- Texts on lines of their own, between brackets; nothing between them if there are none. -/
def block (opening closing : String) (level : Nat) (texts : List String) : String :=
  if texts.isEmpty then opening ++ closing
  else opening ++ newLine (level + 1) ++ ("," ++ newLine (level + 1)).intercalate texts ++
    newLine level ++ closing

mutual

/-- The text of a value at a level, one item to a line. -/
def prettyAt (level : Nat) : Json → String
  | .array items => block "[" "]" level (prettyItems (level + 1) items)
  | .object fields => block "\x7b" "\x7d" level (prettyFields (level + 1) fields)
  | .null => "null"
  | .boolean true => "true"
  | .boolean false => "false"
  | .number n => numberText n
  | .string s => stringText s

/-- The texts of items at a level. -/
def prettyItems (level : Nat) : List Json → List String
  | [] => []
  | j :: items => prettyAt level j :: prettyItems level items

/-- The texts of fields at a level. -/
def prettyFields (level : Nat) : List (String × Json) → List String
  | [] => []
  | (k, j) :: fields => (stringText k ++ ": " ++ prettyAt level j) :: prettyFields level fields

end

/-- The text of a value, one item to a line. -/
def pretty (j : Json) : String :=
  prettyAt 0 j

end Audience.Json
